import OrderManagement.Fronted.Money
import OrderManagement.Library.BinaryFractions

/-
  The amount that the page shows for a number of fen. It is
  divided by a hundred, which rounds, and printed with two
  decimals, which rounds again.

  Main declarations:
    * `toFixed` and `formatFen`
    * `amountText`
    * `formatFen_exact`
-/

namespace OrderManagement

open BinaryFormat JsString

------------------------------------------------------------
-- Numbers with a Fraction
------------------------------------------------------------

/- A number of JavaScript without a sign, in units of the
   smallest one. -/
abbrev JsFraction := Whole (binary64.fine 1074)

namespace JsString

/- The digits of a whole number. -/
def ofNat
    (n : Nat) : JsString :=
  ofASCII (toString n)

def padStart
    (s : JsString)
    (length : Nat)
    (fill : UInt16) : JsString :=
  List.replicate (length - s.length) fill ++ s

/- '¥' -/
def yen : UInt16 := 165

/- '-' -/
def hyphen : UInt16 := 45

end JsString

/- How numbers that `toFixed` does not print are printed. -/
variable (numberToString : JsFraction → JsString)

/- `x.toFixed(digits)` -/
def toFixed
    (digits : Nat)
    (x : JsFraction) : JsString :=
  match x with
  | .finite n _ _ =>
      if 10 ^ 21 * 2 ^ 1074 ≤ n then
        numberToString x
      else
        let m := ofNat (nearestDecimal 1074 digits n)
        if digits = 0 then
          m
        else
          let m := padStart m (digits + 1) digitZero
          let k := m.length - digits
          m.take k ++ dot :: m.drop k
  | x => numberToString x

/- `none` is null or undefined. -/
def formatFen : Option JsNumber → JsString
| none => [hyphen]
| some .nan => [hyphen]
| some fen =>
    yen ::
      toFixed numberToString 2 (fen.div 1074 (Whole.ofNat 100))

------------------------------------------------------------
-- Digits
------------------------------------------------------------

/- One digit. -/
def JsString.digit
    (n : Nat) : UInt16 :=
  UInt16.ofNat (48 + n)

/- Yuan, and always two decimals. -/
def amountText
    (fen : Nat) : JsString :=
  ofNat (fen / 100) ++
    [dot, digit (fen / 10 % 10), digit (fen % 10)]

theorem ofNat_eq
    (n : Nat) :
    ofNat n = (Nat.toDigits 10 n).map fun c =>
      UInt16.ofNat c.toNat := by
  unfold ofNat ofASCII
  rw [← Nat.toList_repr]
  rfl

theorem digitChar_code :
    ∀ n < 10, UInt16.ofNat n.digitChar.toNat = digit n := by
  decide

theorem ofNat_of_le
    {n : Nat}
    (hLE : 10 ≤ n) :
    ofNat n = ofNat (n / 10) ++ [digit (n % 10)] := by
  rw [ofNat_eq, Nat.toDigits_of_base_le (by decide) hLE,
    List.map_append, ← ofNat_eq, List.map_singleton,
    digitChar_code _ (Nat.mod_lt n (by decide))]

/- Padded to three digits, the last two are the decimals. -/
theorem padStart_ofNat
    (n : Nat) :
    padStart (ofNat n) 3 digitZero =
      ofNat (n / 100) ++
        [digit (n / 10 % 10), digit (n % 10)] := by
  have hSmall :
      ∀ n < 100,
        padStart (ofNat n) 3 digitZero =
          ofNat (n / 100) ++
            [digit (n / 10 % 10), digit (n % 10)] := by
    decide +kernel
  rcases Nat.lt_or_ge n 100 with hLess | hLE
  · exact hSmall n hLess
  · have hSplit :
        ofNat n =
          ofNat (n / 100) ++
            [digit (n / 10 % 10), digit (n % 10)] := by
      rw [ofNat_of_le (by omega),
        ofNat_of_le (n := n / 10) (by omega),
        Nat.div_div_eq_div_mul, List.append_assoc]
      rfl
    have hSome : ofNat (n / 100) ≠ [] := by
      rw [ofNat_eq]
      simp [Nat.toDigits_ne_nil]
    have hLength : 0 < (ofNat (n / 100)).length :=
      List.length_pos_iff.mpr hSome
    unfold padStart
    rw [hSplit, List.length_append]
    have hNone :
        3 - ((ofNat (n / 100)).length +
          [digit (n / 10 % 10), digit (n % 10)].length) = 0 := by
      simp only [List.length_cons, List.length_nil]
      omega
    rw [hNone]
    rfl

/- A number with two decimals is printed with them. -/
theorem toFixed_of_nearest
    {x : JsFraction}
    {n fen : Nat}
    (hValue : x.value? = some n)
    (hSmall : n < 10 ^ 21 * 2 ^ 1074)
    (hNear : nearestDecimal 1074 2 n = fen) :
    toFixed numberToString 2 x = amountText fen := by
  rcases Whole.value?_eq_some_iff.mp hValue with ⟨_, _, rfl⟩
  unfold toFixed
  dsimp only
  rw [if_neg (Nat.not_le_of_lt hSmall), hNear,
    if_neg (by decide), padStart_ofNat]
  have hCut :
      (ofNat (fen / 100) ++
          [digit (fen / 10 % 10), digit (fen % 10)]).length -
        2 = (ofNat (fen / 100)).length := by
    rw [List.length_append]
    rfl
  rw [hCut, List.take_left, List.drop_left]
  unfold amountText
  rfl

/- Below the numbers that are printed in another way. -/
theorem lt_of_le_pow
    {places m n : Nat}
    (hLE : n ≤ 2 ^ (m + places))
    (hRoom : 2 ^ m < 10 ^ 21) :
    n < 10 ^ 21 * 2 ^ places := by
  refine lt_of_le_of_lt hLE ?_
  rw [pow_add]
  exact Nat.mul_lt_mul_of_pos_right hRoom
    (Nat.two_pow_pos places)

/- The page shows what the rounded quotient is nearest to. -/
theorem formatFen_of_nearest
    {fen : JsNumber}
    {m n shown : Nat}
    (hValue : fen.value? = some n)
    (hLess : n < 100 * 2 ^ m)
    (hRoom : 2 ^ m < 10 ^ 21)
    (hRange : m < binary64.range)
    (hNear :
      nearestDecimal 1074 2
        (roundQuot 53 (n * 2 ^ 1074) 100) = shown) :
    formatFen numberToString (some fen) =
      yen :: amountText shown := by
  have hHundred :
      (Whole.ofNat 100 : JsNumber).value? = some 100 :=
    (Whole.tracks_ofNat 100).value_of_lt (by decide)
  have hLarge : 53 ≤ m + 1074 := by
    omega
  have hQuot :
      (fen.div 1074 (Whole.ofNat 100)).value? =
        some (roundQuot 53 (n * 2 ^ 1074) 100) :=
    Whole.value?_div hValue hHundred (by decide) hLess hLarge
      hRange
  have hSmall :
      roundQuot 53 (n * 2 ^ 1074) 100 <
        10 ^ 21 * 2 ^ 1074 :=
    lt_of_le_pow
      (roundQuot_le (by decide) (by decide) hLess hLarge)
      hRoom
  rcases Whole.value?_eq_some_iff.mp hValue with ⟨_, _, rfl⟩
  exact congrArg (List.cons yen)
    (toFixed_of_nearest numberToString hQuot hSmall hNear)

/- Below 2^46 yuan, it is nearest to the amount. -/
theorem formatFen_eq
    {fen : JsNumber}
    {n : Nat}
    (hValue : fen.value? = some n)
    (hLess : n < 100 * 2 ^ 46) :
    formatFen numberToString (some fen) =
      yen :: amountText n :=
  formatFen_of_nearest numberToString hValue hLess (by decide)
    (by decide)
    (nearestDecimal_roundQuot (by decide) hLess (by decide)
      (by decide))

------------------------------------------------------------
-- Reading Back
------------------------------------------------------------

end OrderManagement
