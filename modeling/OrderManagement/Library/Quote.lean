import OrderManagement.Library.Encoding
import OrderManagement.Library.Hex

/-
  Texts in quotation marks, as the verb %q of Go writes them.
  Which characters are printable is a parameter.

  Main declarations:
    * `Quote.escape` and `Quote.read`
    * `Quote.quote`
    * `Quote.read_escape`
    * `Quote.selfDelimiting_quote` and
      `Quote.le_toNat_of_mem_quote`
-/

namespace Quote

------------------------------------------------------------
-- Characters
------------------------------------------------------------

/- The characters that have a letter of their own, and these
   letters. -/
def letters : List (Char × Char) :=
  [ (Char.ofNat 7, 'a'), (Char.ofNat 8, 'b'),
    (Char.ofNat 12, 'f'), (Char.ofNat 10, 'n'),
    (Char.ofNat 13, 'r'), (Char.ofNat 9, 't'),
    (Char.ofNat 11, 'v') ]

/- A character between quotation marks. -/
def escape
    (isPrint : Char → Bool)
    (c : Char) : List Char :=
  if c = '"' ∨ c = '\\' then
    ['\\', c]
  else if isPrint c then
    [c]
  else
    match letters.lookup c with
    | some letter => ['\\', letter]
    | none =>
        if c.toNat < 32 ∨ c.toNat = 127 then
          '\\' :: 'x' :: Hex.digits 2 c.toNat
        else if c.toNat < 16 ^ 4 then
          '\\' :: 'u' :: Hex.digits 4 c.toNat
        else
          '\\' :: 'U' :: Hex.digits 8 c.toNat

/- A number of hexadecimal digits that name a character. -/
def readHex
    (width : Nat)
    (text : List Char) : Option (Char × List Char) :=
  (Hex.value? (text.take width)).map fun n =>
    (Char.ofNat n, text.drop width)

/- The first character that was written, and what follows. -/
def read : List Char → Option (Char × List Char)
| '\\' :: 'x' :: text => readHex 2 text
| '\\' :: 'u' :: text => readHex 4 text
| '\\' :: 'U' :: text => readHex 8 text
| '\\' :: letter :: text =>
    match letters.find? fun entry => entry.2 = letter with
    | some entry => some (entry.1, text)
    | none => some (letter, text)
| c :: text => some (c, text)
| [] => none

theorem readHex_digits
    {width : Nat}
    {c : Char}
    (hFits : c.toNat < 16 ^ width)
    (text : List Char) :
    readHex width (Hex.digits width c.toNat ++ text) =
      some (c, text) := by
  have hLength := Hex.length_digits width c.toNat
  unfold readHex
  rw [List.take_left' hLength, List.drop_left' hLength,
    Hex.value?_digits hFits, Option.map_some,
    Char.ofNat_toNat]

theorem mem_letters
    {c letter : Char}
    (hLetter : letters.lookup c = some letter) :
    (c, letter) ∈ letters := by
  rcases List.lookup_eq_some_iff.mp hLetter with
    ⟨before, after, hSplit, _⟩
  rw [hSplit]
  exact List.mem_append_right _ List.mem_cons_self

/- A letter is read back as its character. -/
theorem read_letter
    {c letter : Char}
    (hLetter : letters.lookup c = some letter)
    (text : List Char) :
    read ('\\' :: letter :: text) = some (c, text) := by
  have hMem := mem_letters hLetter
  simp only [letters, List.mem_cons, Prod.mk.injEq,
    List.not_mem_nil, or_false] at hMem
  rcases hMem with ⟨rfl, rfl⟩ | ⟨rfl, rfl⟩ | ⟨rfl, rfl⟩ |
    ⟨rfl, rfl⟩ | ⟨rfl, rfl⟩ | ⟨rfl, rfl⟩ | ⟨rfl, rfl⟩
  all_goals rfl

/- What was escaped is read back, whatever follows. -/
theorem read_escape
    (isPrint : Char → Bool)
    (c : Char)
    (text : List Char) :
    read (escape isPrint c ++ text) = some (c, text) := by
  unfold escape
  split
  case isTrue hMark =>
    rcases hMark with rfl | rfl <;> rfl
  case isFalse hPlain =>
    rw [not_or] at hPlain
    split
    case isTrue =>
      simp [read, hPlain.2]
    case isFalse =>
      split
      case h_1 letter hLetter => exact read_letter hLetter text
      case h_2 =>
        split
        case isTrue hSmall =>
          exact readHex_digits (by omega) text
        case isFalse =>
          split
          case isTrue hFits => exact readHex_digits hFits text
          case isFalse =>
            refine readHex_digits ?_ text
            have hWord : c.toNat < 2 ^ 32 := c.val.toNat_lt
            exact hWord

/- No character starts with a quotation mark. -/
theorem head_escape
    (isPrint : Char → Bool)
    (c : Char) :
    ∃ first text,
      escape isPrint c = first :: text ∧ first ≠ '"' := by
  unfold escape
  split
  case isTrue => exact ⟨'\\', _, rfl, by decide⟩
  case isFalse hPlain =>
    split
    case isTrue => exact ⟨c, [], rfl, (not_or.mp hPlain).1⟩
    case isFalse =>
      split
      case h_1 => exact ⟨'\\', _, rfl, by decide⟩
      case h_2 =>
        split
        case isTrue => exact ⟨'\\', _, rfl, by decide⟩
        case isFalse =>
          split
          · exact ⟨'\\', _, rfl, by decide⟩
          · exact ⟨'\\', _, rfl, by decide⟩

/- Control characters are never written as they are. -/
theorem le_toNat_of_mem_escape
    {isPrint : Char → Bool}
    (hControl : ∀ c : Char, c.toNat < 32 → isPrint c = false)
    {c d : Char}
    (hMem : d ∈ escape isPrint c) :
    32 ≤ d.toNat := by
  have hHex :
      ∀ {mark : Char} {width n : Nat}, 32 ≤ mark.toNat →
        d ∈ '\\' :: mark :: Hex.digits width n →
          32 ≤ d.toNat := by
    intro mark width n hMark hText
    rcases List.mem_cons.mp hText with rfl | hText
    · decide
    rcases List.mem_cons.mp hText with rfl | hDigit
    · exact hMark
    rcases Hex.isLower_of_mem_digits hDigit with hLow | hLow
    · exact Nat.le_trans (by decide) hLow.1
    · exact Nat.le_trans (by decide) hLow.1
  unfold escape at hMem
  split at hMem
  case isTrue hMark =>
    rw [List.mem_cons, List.mem_singleton] at hMem
    rcases hMem with rfl | rfl
    · decide
    · rcases hMark with rfl | rfl <;> decide
  case isFalse =>
    split at hMem
    case isTrue hPrint =>
      rw [List.mem_singleton.mp hMem]
      by_contra hSmall
      rw [hControl c (Nat.not_le.mp hSmall)] at hPrint
      cases hPrint
    case isFalse =>
      split at hMem
      case h_1 letter hLetter =>
        have hLetters :
            ∀ entry ∈ letters, 32 ≤ entry.2.toNat := by
          decide
        rw [List.mem_cons, List.mem_singleton] at hMem
        rcases hMem with rfl | rfl
        · decide
        · exact hLetters _ (mem_letters hLetter)
      case h_2 =>
        split at hMem
        case isTrue => exact hHex (by decide) hMem
        case isFalse =>
          split at hMem
          · exact hHex (by decide) hMem
          · exact hHex (by decide) hMem

------------------------------------------------------------
-- Texts
------------------------------------------------------------

/- `strconv.Quote`. -/
def quote
    (isPrint : Char → Bool)
    (s : String) : String :=
  String.ofList
    ('"' :: (s.toList.flatMap (escape isPrint) ++ ['"']))

theorem toList_quote
    (isPrint : Char → Bool)
    (s : String) :
    (quote isPrint s).toList =
      '"' :: (s.toList.flatMap (escape isPrint) ++ ['"']) :=
  String.toList_ofList

theorem selfDelimiting_escape
    (isPrint : Char → Bool) :
    Encoding.SelfDelimiting (escape isPrint) :=
  Encoding.SelfDelimiting.of_read read (read_escape isPrint)

/- The quotation mark at the end is found, and the text is
   read back. -/
theorem selfDelimiting_quote
    (isPrint : Char → Bool) :
    Encoding.SelfDelimiting
      (fun s => (quote isPrint s).toList) := by
  have hStart :
      ∀ c s t, escape isPrint c ++ s ≠ '"' :: t := by
    intro c s t hEq
    rcases head_escape isPrint c with
      ⟨first, text, hHead, hOther⟩
    rw [hHead, List.cons_append] at hEq
    exact hOther (List.cons.inj hEq).1
  have hRow :=
    ((selfDelimiting_escape isPrint).row hStart).literal ['"']
  simp only [toList_quote]
  exact hRow.comap fun s t hSame => String.toList_inj.mp hSame

theorem quote_injective
    (isPrint : Char → Bool) :
    Function.Injective (quote isPrint) := by
  intro s t hEq
  exact (selfDelimiting_quote isPrint).injective
    (congrArg String.toList hEq)

/- A quoted text stands on one line. -/
theorem le_toNat_of_mem_quote
    {isPrint : Char → Bool}
    (hControl : ∀ c : Char, c.toNat < 32 → isPrint c = false)
    {s : String}
    {d : Char}
    (hMem : d ∈ (quote isPrint s).toList) :
    32 ≤ d.toNat := by
  rw [toList_quote, List.mem_cons, List.mem_append,
    List.mem_singleton, List.mem_flatMap] at hMem
  rcases hMem with rfl | ⟨c, _, hChar⟩ | rfl
  · decide
  · exact le_toNat_of_mem_escape hControl hChar
  · decide

end Quote
