import Mathlib.Data.List.DropRight
import OrderManagement.Library.BinaryFormat
import OrderManagement.Library.Pattern

/-
  An amount that is typed in yuan and sent in fen. The page
  computes it with numbers of JavaScript, which round.

  Main declarations:
    * `parseYuanToFen`
    * `YuanText` and `YuanFen`
    * `parseYuanToFen_exact`
-/

namespace OrderManagement

open BinaryFormat Pattern RegularExpression

------------------------------------------------------------
-- Strings and Numbers
------------------------------------------------------------

/- A string of JavaScript, as its UTF-16 code units. -/
abbrev JsString := List UInt16

/- A number of JavaScript without a sign or a fraction. -/
abbrev JsNumber := Whole binary64

namespace JsString

/- A string of ASCII characters. -/
def ofASCII
    (text : String) : JsString :=
  text.toList.map fun c => UInt16.ofNat c.toNat

/- White space and line ends. -/
def isWhiteSpace
    (c : UInt16) : Bool :=
  c ∈
    ([0x9, 0xA, 0xB, 0xC, 0xD, 0x20, 0xA0, 0x1680, 0x2000,
      0x2001, 0x2002, 0x2003, 0x2004, 0x2005, 0x2006, 0x2007,
      0x2008, 0x2009, 0x200A, 0x2028, 0x2029, 0x202F, 0x205F,
      0x3000, 0xFEFF] : JsString)

def trim
    (s : JsString) : JsString :=
  (s.dropWhile isWhiteSpace).rdropWhile isWhiteSpace

def padEnd
    (s : JsString)
    (length : Nat)
    (fill : UInt16) : JsString :=
  s ++ List.replicate (length - s.length) fill

/- '.' -/
def dot : UInt16 := 46

/- '0' -/
def digitZero : UInt16 := 48

/- The letters that `\d` stands for. -/
def digits : JsString := ofASCII "0123456789"

/- The number that digits are written for. -/
def digitsValue
    (s : JsString) : Nat :=
  s.foldl (fun n c => 10 * n + (c.toNat - 48)) 0

end JsString

open JsString

namespace JsNumber

/- `Number(s)`, of a string of digits. -/
def ofString
    (s : JsString) : JsNumber :=
  Whole.ofNat (digitsValue s)

def isSafeInteger : JsNumber → Bool
| .finite n _ _ => n ≤ 9007199254740991
| .infinite => false
| .nan => false

/- `x > 0` -/
def isPositive : JsNumber → Bool
| .finite n _ _ => 0 < n
| .infinite => true
| .nan => false

end JsNumber

------------------------------------------------------------
-- parseYuanToFen
------------------------------------------------------------

/- `/^\d+(\.\d{1,2})?$/` -/
def yuanPattern : RegularExpression UInt16 :=
  many (oneOf digits) *
    optional
      (char dot * (oneOf digits * optional (oneOf digits)))

def parseYuanToFen
    (value : JsString) : Option JsNumber :=
  let normalized := trim value
  if yuanPattern.rmatch normalized then
    let parts := normalized.splitOn dot
    let yuan := parts.getD 0 []
    let decimal := parts.getD 1 []
    let fen : JsNumber :=
      ((JsNumber.ofString yuan).mul (Whole.ofNat 100)).add
        (JsNumber.ofString (padEnd decimal 2 digitZero))
    if fen.isSafeInteger && fen.isPositive then
      some fen
    else
      none
  else
    none

------------------------------------------------------------
-- The Grammar
------------------------------------------------------------

/- One digit or more. -/
def Digits
    (s : JsString) : Prop :=
  s ≠ [] ∧ ∀ c ∈ s, c ∈ digits

/- A text with the digits of its yuan and of its decimals. -/
inductive YuanText :
    JsString → JsString → JsString → Prop
| whole
    {yuan : JsString}
    (hYuan : Digits yuan) :
    YuanText yuan yuan []
| decimals
    {yuan decimal : JsString}
    (hYuan : Digits yuan)
    (hDecimal : Digits decimal)
    (hLength : decimal.length ≤ 2) :
    YuanText (yuan ++ dot :: decimal) yuan decimal

/- The decimals that the pattern has after its dot. -/
theorem mem_decimals
    {text : JsString} :
    text ∈
        (oneOf digits * optional (oneOf digits)).matches' ↔
      Digits text ∧ text.length ≤ 2 := by
  rw [matches'_mul, Language.mem_mul]
  constructor
  · rintro ⟨first, hFirst, rest, hRest, rfl⟩
    rcases mem_oneOf.mp hFirst with ⟨a, hA, rfl⟩
    rcases mem_optional.mp hRest with rfl | hMore
    · simp [Digits, hA]
    · rcases mem_oneOf.mp hMore with ⟨b, hB, rfl⟩
      simp [Digits, hA, hB]
  · rintro ⟨⟨hNonempty, hDigits⟩, hLength⟩
    cases text with
    | nil => exact absurd rfl hNonempty
    | cons a rest =>
        rw [List.forall_mem_cons] at hDigits
        refine
          ⟨[a], mem_oneOf.mpr ⟨a, hDigits.1, rfl⟩, rest, ?_,
            rfl⟩
        rw [mem_optional]
        cases rest with
        | nil => exact Or.inl rfl
        | cons b rest =>
            have hEnd : rest = [] := by
              simpa using hLength
            subst hEnd
            exact Or.inr
              (mem_oneOf.mpr ⟨b, hDigits.2 b (by simp), rfl⟩)

/- The pattern accepts the texts of the grammar. -/
theorem rmatch_yuanPattern
    {text : JsString} :
    yuanPattern.rmatch text = true ↔
      ∃ yuan decimal, YuanText text yuan decimal := by
  rw [rmatch_iff_matches', yuanPattern, matches'_mul,
    Language.mem_mul]
  constructor
  · rintro ⟨yuan, hYuan, rest, hRest, rfl⟩
    have hDigits : Digits yuan := mem_many_oneOf.mp hYuan
    rcases mem_optional.mp hRest with rfl | hMore
    · rw [List.append_nil]
      exact ⟨yuan, [], .whole hDigits⟩
    · rw [matches'_mul, Language.mem_mul] at hMore
      rcases hMore with ⟨_, hDot, decimal, hDecimal, rfl⟩
      rw [matches'_char] at hDot
      cases hDot
      rcases mem_decimals.mp hDecimal with ⟨hTail, hLength⟩
      exact ⟨yuan, decimal, .decimals hDigits hTail hLength⟩
  · rintro ⟨yuan, decimal, hText⟩
    cases hText with
    | whole hYuan =>
        exact
          ⟨text, mem_many_oneOf.mpr hYuan, [],
            mem_optional.mpr (Or.inl rfl), List.append_nil _⟩
    | decimals hYuan hDecimal hLength =>
        refine ⟨yuan, mem_many_oneOf.mpr hYuan, _, ?_, rfl⟩
        rw [mem_optional, matches'_mul, Language.mem_mul]
        exact Or.inr
          ⟨[dot], rfl, decimal,
            mem_decimals.mpr ⟨hDecimal, hLength⟩, rfl⟩

theorem dot_not_mem_of_digits
    {s : JsString}
    (hDigits : Digits s) :
    dot ∉ s := by
  intro hMem
  exact absurd (hDigits.2 dot hMem) (by decide +kernel)

/- Splitting finds the two parts again. -/
theorem splitOn_of_yuanText
    {text yuan decimal : JsString}
    (hText : YuanText text yuan decimal) :
    (text.splitOn dot).getD 0 [] = yuan ∧
      (text.splitOn dot).getD 1 [] = decimal := by
  cases hText with
  | whole hYuan =>
      rw [List.splitOn_eq_singleton
        (dot_not_mem_of_digits hYuan)]
      exact ⟨rfl, rfl⟩
  | decimals hYuan hDecimal hLength =>
      rw [List.splitOn_append_cons_self_of_not_mem
          (dot_not_mem_of_digits hYuan),
        List.splitOn_eq_singleton
          (dot_not_mem_of_digits hDecimal)]
      exact ⟨rfl, rfl⟩

------------------------------------------------------------
-- The Amount
------------------------------------------------------------

/-
  A text states an amount of fen that a number can hold. The
  decimal fraction is the value of all its digits, divided
  by ten for each of its decimals.
-/
def YuanFen
    (text : JsString)
    (n : Nat) : Prop :=
  ∃ yuan decimal,
    YuanText text yuan decimal ∧
      n * 10 ^ decimal.length =
          100 * digitsValue (yuan ++ decimal) ∧
        0 < n ∧ n ≤ 2 ^ 53 - 1

/- The sum that is computed, without rounding. -/
def fenOf
    (yuan decimal : JsString) : Nat :=
  digitsValue yuan * 100 +
    digitsValue (padEnd decimal 2 digitZero)

/- The value of the digits so far is shifted by each of the
   digits that follow. -/
theorem digitsValue_append
    (s t : JsString) :
    digitsValue (s ++ t) =
      digitsValue s * 10 ^ t.length + digitsValue t := by
  induction t using List.reverseRecOn with
  | nil => simp [digitsValue]
  | append_singleton t c ih =>
      have hStep :
          ∀ u : JsString,
            digitsValue (u ++ [c]) =
              10 * digitsValue u + (c.toNat - 48) :=
        fun u => List.foldl_concat ..
      rw [← List.append_assoc, hStep, hStep, ih,
        List.length_append, List.length_singleton, pow_succ,
        mul_add, mul_left_comm, mul_comm 10 (10 ^ t.length),
        add_assoc]

theorem digitsValue_zeros
    (k : Nat) :
    digitsValue (List.replicate k digitZero) = 0 := by
  induction k with
  | zero => rfl
  | succ k ih =>
      rw [List.replicate_succ', digitsValue,
        List.foldl_concat]
      change 10 * digitsValue _ + 0 = 0
      rw [ih]

theorem length_le_of_yuanText
    {text yuan decimal : JsString}
    (hText : YuanText text yuan decimal) :
    decimal.length ≤ 2 := by
  cases hText with
  | whole => exact Nat.zero_le 2
  | decimals _ _ hLength => exact hLength

/- Padding with zeros multiplies by the right power. -/
theorem fenOf_eq
    {yuan decimal : JsString}
    (hLength : decimal.length ≤ 2) :
    fenOf yuan decimal * 10 ^ decimal.length =
      100 * digitsValue (yuan ++ decimal) := by
  have hPow :
      10 ^ (2 - decimal.length) * 10 ^ decimal.length = 100 := by
    rw [← pow_add, Nat.sub_add_cancel hLength]
    rfl
  rw [fenOf, padEnd, digitsValue_append, digitsValue_append,
    digitsValue_zeros, List.length_replicate, add_zero,
    add_mul, mul_assoc (digitsValue decimal), hPow, mul_add,
    mul_comm (digitsValue yuan) 100, mul_assoc,
    mul_comm (digitsValue decimal)]

------------------------------------------------------------
-- Exactness
------------------------------------------------------------

/- The number that is computed became of the exact sum. -/
theorem tracks_fenOf
    (yuan decimal : JsString) :
    (((JsNumber.ofString yuan).mul (Whole.ofNat 100)).add
      (JsNumber.ofString
        (padEnd decimal 2 digitZero))).Tracks
        (fenOf yuan decimal) := by
  have hYuan := Whole.tracks_ofNat (F := binary64)
    (digitsValue yuan)
  have hFactor := Whole.tracks_ofNat (F := binary64) 100
  have hDecimal := Whole.tracks_ofNat (F := binary64)
    (digitsValue (padEnd decimal 2 digitZero))
  exact (hYuan.mul hFactor (by decide) (by decide)).add hDecimal

/- A number that passes the two tests is the exact one. -/
theorem accepted_iff
    {fen : JsNumber}
    {m n : Nat}
    (hTracks : fen.Tracks m) :
    (fen.isSafeInteger && fen.isPositive) = true ∧
        fen.value? = some n ↔
      n = m ∧ 0 < n ∧ n ≤ 2 ^ 53 - 1 := by
  have hLimit : 2 ^ binary64.precision = 9007199254740992 :=
    rfl
  constructor
  · rintro ⟨hPass, hValue⟩
    rcases Whole.value?_eq_some_iff.mp hValue with ⟨_, _, rfl⟩
    rw [Bool.and_eq_true, JsNumber.isSafeInteger,
      JsNumber.isPositive, decide_eq_true_eq,
      decide_eq_true_eq] at hPass
    have hExact := (hTracks n (by omega)).mp hValue
    exact ⟨hExact.symm, hPass.2, hPass.1⟩
  · rintro ⟨rfl, hPos, hSafe⟩
    have hValue := hTracks.value_of_lt (by omega)
    rcases Whole.value?_eq_some_iff.mp hValue with ⟨_, _, rfl⟩
    rw [Bool.and_eq_true, JsNumber.isSafeInteger,
      JsNumber.isPositive, decide_eq_true_eq,
      decide_eq_true_eq]
    exact ⟨⟨hSafe, hPos⟩, hValue⟩

/- What is returned has a value and was read from a text of
   the grammar. -/
theorem value_of_parseYuanToFen
    {s : JsString}
    {fen : JsNumber}
    (hResult : parseYuanToFen s = some fen) :
    (∃ n, fen.value? = some n) ∧
      ∃ yuan decimal, YuanText (trim s) yuan decimal := by
  simp only [parseYuanToFen, Option.ite_none_right_eq_some,
    Bool.and_eq_true, Option.some.injEq] at hResult
  rcases hResult with ⟨hMatch, ⟨hSafe, _⟩, hFen⟩
  refine ⟨?_, rmatch_yuanPattern.mp hMatch⟩
  rw [hFen] at hSafe
  cases fen with
  | finite n => exact ⟨n, rfl⟩
  | infinite | nan => cases hSafe

/- What is returned for a text of the grammar. -/
theorem parseYuanToFen_of_yuanText
    {s yuan decimal : JsString}
    {fen : JsNumber}
    (hText : YuanText (trim s) yuan decimal) :
    parseYuanToFen s = some fen ↔
      ((JsNumber.ofString yuan).mul (Whole.ofNat 100)).add
          (JsNumber.ofString
            (padEnd decimal 2 digitZero)) = fen ∧
        (fen.isSafeInteger && fen.isPositive) = true := by
  have hMatch := rmatch_yuanPattern.mpr ⟨_, _, hText⟩
  rcases splitOn_of_yuanText hText with ⟨hYuan, hDecimal⟩
  rw [parseYuanToFen, if_pos hMatch]
  simp only [hYuan, hDecimal, Option.ite_none_right_eq_some,
    Option.some.injEq]
  constructor
  · rintro ⟨hPass, rfl⟩
    exact ⟨rfl, hPass⟩
  · rintro ⟨rfl, hPass⟩
    exact ⟨hPass, rfl⟩

theorem parseYuanToFen_value_iff
    (s : JsString)
    (n : Nat) :
    (∃ fen, parseYuanToFen s = some fen ∧
        fen.value? = some n) ↔
      YuanFen (trim s) n := by
  constructor
  · rintro ⟨fen, hResult, hValue⟩
    rcases (value_of_parseYuanToFen hResult).2 with
      ⟨yuan, decimal, hText⟩
    rcases (parseYuanToFen_of_yuanText hText).mp hResult with
      ⟨rfl, hPass⟩
    rcases (accepted_iff (tracks_fenOf yuan decimal)).mp
      ⟨hPass, hValue⟩ with ⟨rfl, hPos, hSafe⟩
    exact
      ⟨yuan, decimal, hText,
        fenOf_eq (length_le_of_yuanText hText), hPos, hSafe⟩
  · rintro ⟨yuan, decimal, hText, hExact, hPos, hSafe⟩
    have hFen : n = fenOf yuan decimal := by
      rw [← fenOf_eq (length_le_of_yuanText hText)] at hExact
      exact Nat.eq_of_mul_eq_mul_right
        (Nat.pow_pos (by decide)) hExact
    rcases (accepted_iff (tracks_fenOf yuan decimal)).mpr
      ⟨hFen, hPos, hSafe⟩ with ⟨hPass, hValue⟩
    exact
      ⟨_, (parseYuanToFen_of_yuanText hText).mpr
        ⟨rfl, hPass⟩, hValue⟩

/-
  The result is the amount that the text states, if it
  states one that a number of JavaScript can hold exactly,
  and there is no other result.
-/
theorem parseYuanToFen_exact
    (s : JsString) :
    (∀ n,
      (∃ fen, parseYuanToFen s = some fen ∧
          fen.value? = some n) ↔
        YuanFen (trim s) n) ∧
      (parseYuanToFen s = none ↔
        ∀ n, ¬ YuanFen (trim s) n) := by
  refine ⟨parseYuanToFen_value_iff s, ?_⟩
  constructor
  · intro hNone n hFen
    rcases (parseYuanToFen_value_iff s n).mpr hFen with
      ⟨fen, hResult, _⟩
    rw [hNone] at hResult
    cases hResult
  · intro hNever
    rw [Option.eq_none_iff_forall_ne_some]
    intro fen hResult
    rcases (value_of_parseYuanToFen hResult).1 with
      ⟨n, hValue⟩
    exact hNever n
      ((parseYuanToFen_value_iff s n).mp
        ⟨fen, hResult, hValue⟩)

/- A number above the largest safe one is not accepted. -/
example :
    (parseYuanToFen (ofASCII " 19.99 ")).bind Whole.value? =
        some 1999 ∧
      parseYuanToFen (ofASCII "1.999") = none ∧
        parseYuanToFen (ofASCII "90071992547409.93") =
          none := by
  decide +kernel

end OrderManagement
