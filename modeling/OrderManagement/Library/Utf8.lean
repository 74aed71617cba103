import Mathlib.Tactic.Common

/-
  UTF-8 texts that are cut after a number of bytes, and the
  columns of a strict database that they are stored in.

  Main declarations:
    * `Utf8.cut` and `Utf8.EndsAt`
    * `Utf8.isValidUTF8_cut_iff`
    * `Utf8.varchar` and `Utf8.Fits`
    * `Utf8.varchar_cut` and `Utf8.fits_cut_iff`
-/

namespace Utf8

------------------------------------------------------------
-- Cutting
------------------------------------------------------------

/- The bytes of a text, but no more than a number of them. -/
def cut
    (n : Nat)
    (s : String) : ByteArray :=
  s.toByteArray.extract 0 n

/- A text has at most so many bytes, or a character of it
   ends after exactly so many. -/
def EndsAt
    (n : Nat)
    (s : String) : Prop :=
  s.utf8ByteSize ≤ n ∨
    ∃ t u : String, s = t ++ u ∧ t.utf8ByteSize = n

theorem cut_of_le
    {n : Nat}
    {s : String}
    (hSize : s.utf8ByteSize ≤ n) :
    cut n s = s.toByteArray := by
  ext1
  rw [cut, ByteArray.data_extract]
  exact Array.extract_eq_self_of_le hSize

/- What is left of a text begins it. -/
theorem cut_append_extract
    (n : Nat)
    (s : String) :
    cut n s ++ s.toByteArray.extract n s.utf8ByteSize =
      s.toByteArray := by
  rcases Nat.le_total s.utf8ByteSize n with hAll | hSome
  · rw [cut_of_le hAll]
    ext1
    simp [hAll]
  · unfold cut
    rw [← ByteArray.extract_eq_extract_append_extract n
      (Nat.zero_le n) hSome]
    exact ByteArray.extract_zero_size

/- `s[:n]`, unless the text has no more bytes than that. -/
def truncate
    (n : Nat)
    (s : String) : ByteArray :=
  if s.utf8ByteSize ≤ n then
    s.toByteArray
  else
    s.toByteArray.extract 0 n

theorem truncate_eq_cut
    (n : Nat)
    (s : String) :
    truncate n s = cut n s := by
  unfold truncate
  split
  case isTrue hSize => exact (cut_of_le hSize).symm
  case isFalse => rfl

theorem size_cut_le
    (n : Nat)
    (s : String) :
    (cut n s).size ≤ n := by
  rw [cut, ByteArray.size_extract]
  omega

/- A cut is a text if and only if it divides no character. -/
theorem isValidUTF8_cut_iff
    {n : Nat}
    {s : String} :
    (cut n s).IsValidUTF8 ↔ EndsAt n s := by
  rcases Nat.lt_or_ge n s.utf8ByteSize with hSome | hAll
  case inr =>
    rw [cut_of_le hAll]
    exact iff_of_true s.isValidUTF8 (Or.inl hAll)
  have hPos :
      (cut n s).IsValidUTF8 ↔
        String.Pos.Raw.IsValid s ⟨n⟩ := by
    rw [String.Pos.Raw.isValid_iff_isValidUTF8_extract_zero]
    exact (and_iff_right (Nat.le_of_lt hSome)).symm
  rw [hPos, String.Pos.Raw.isValid_iff_exists_append]
  constructor
  · rintro ⟨t, u, hSplit, hEnd⟩
    have hSize := congrArg String.Pos.Raw.byteIdx hEnd
    exact Or.inr ⟨t, u, hSplit, hSize.symm⟩
  · rintro (hAll | ⟨t, u, hSplit, rfl⟩)
    · omega
    · exact ⟨t, u, hSplit, rfl⟩

/- A text whose last character is divided. -/
theorem not_endsAt_push
    {n : Nat}
    {t : String}
    {c : Char}
    (hBefore : t.utf8ByteSize < n)
    (hInside : n < t.utf8ByteSize + c.utf8Size) :
    ¬ EndsAt n (t.push c) := by
  rintro (hAll | ⟨u, v, hSplit, hSize⟩)
  · rw [String.utf8ByteSize_push] at hAll
    omega
  -- What follows the cut ends with the last character.
  induction v using String.push_induction with
  | empty =>
      have hWhole := congrArg String.utf8ByteSize hSplit
      rw [String.append_empty, String.utf8ByteSize_push,
        hSize] at hWhole
      omega
  | push v d =>
      rw [String.push_eq_append, String.push_eq_append,
        ← String.append_assoc, ← String.push_eq_append,
        ← String.push_eq_append, String.push_inj] at hSplit
      rw [hSplit.1, String.utf8ByteSize_append] at hBefore
      omega

------------------------------------------------------------
-- Columns
------------------------------------------------------------

/-
  What a column for so many characters stores of some bytes.
  It refuses what is not UTF-8 or too long, except that it
  drops blanks at the end of what is too long.
-/
def varchar
    (n : Nat)
    (bytes : ByteArray) : Option String :=
  (String.fromUTF8? bytes).bind fun s =>
    if (s.toList.drop n).all fun c => c = ' ' then
      some (String.ofList (s.toList.take n))
    else
      none

/- A text needs a byte or more for each character. -/
theorem length_le_utf8ByteSize
    (s : String) :
    s.length ≤ s.utf8ByteSize := by
  induction s using String.push_induction with
  | empty => simp
  | push s c ih =>
      have hChar := c.utf8Size_pos
      rw [String.length_push, String.utf8ByteSize_push]
      omega

/- Decoding is what undoes encoding. -/
theorem fromUTF8?_eq_some_iff
    {bytes : ByteArray}
    {s : String} :
    String.fromUTF8? bytes = some s ↔
      bytes = s.toByteArray := by
  unfold String.fromUTF8?
  constructor
  · intro hText
    split at hText
    · cases hText
      rfl
    · cases hText
  · rintro rfl
    exact dif_pos s.isValidUTF8

theorem varchar_eq_some_iff
    {n : Nat}
    {bytes : ByteArray}
    {stored : String} :
    varchar n bytes = some stored ↔
      ∃ s : String,
        bytes = s.toByteArray ∧
          (∀ c ∈ s.toList.drop n, c = ' ') ∧
            String.ofList (s.toList.take n) = stored := by
  simp only [varchar, Option.bind_eq_some_iff,
    fromUTF8?_eq_some_iff, Option.ite_none_right_eq_some,
    List.all_eq_true, decide_eq_true_eq, Option.some.injEq]

/- What a column for so many characters can hold. -/
def Fits
    (n : Nat)
    (bytes : ByteArray) : Prop :=
  ∃ s : String,
    bytes = s.toByteArray ∧ ∀ c ∈ s.toList.drop n, c = ' '

theorem exists_varchar_iff
    {n : Nat}
    {bytes : ByteArray} :
    (∃ stored, varchar n bytes = some stored) ↔
      Fits n bytes := by
  simp only [varchar_eq_some_iff]
  constructor
  · rintro ⟨_, s, hBytes, hBlank, _⟩
    exact ⟨s, hBytes, hBlank⟩
  · rintro ⟨s, hBytes, hBlank⟩
    exact ⟨_, s, hBytes, hBlank, rfl⟩

theorem fits_of_varchar
    {n : Nat}
    {bytes : ByteArray}
    {stored : String}
    (hStored : varchar n bytes = some stored) :
    Fits n bytes :=
  exists_varchar_iff.mp ⟨stored, hStored⟩

/- A text of the column's length is stored as it is. -/
theorem varchar_toByteArray
    {n : Nat}
    {s : String}
    (hLength : s.length ≤ n) :
    varchar n s.toByteArray = some s := by
  rw [← String.length_toList] at hLength
  rw [varchar_eq_some_iff]
  refine ⟨s, rfl, ?_, ?_⟩
  · simp [List.drop_of_length_le hLength]
  · rw [List.take_of_length_le hLength, String.ofList_toList]

theorem fits_of_length_le
    {n : Nat}
    {s : String}
    (hLength : s.length ≤ n) :
    Fits n s.toByteArray :=
  fits_of_varchar (varchar_toByteArray hLength)

theorem fits_toByteArray_iff
    {n : Nat}
    {s : String} :
    Fits n s.toByteArray ↔ ∀ c ∈ s.toList.drop n, c = ' ' := by
  constructor
  · rintro ⟨t, hBytes, hBlank⟩
    rw [String.toByteArray_inj.mp hBytes]
    exact hBlank
  · intro hBlank
    exact ⟨s, rfl, hBlank⟩

/- Bytes that are no text are refused. -/
theorem varchar_eq_none
    {n : Nat}
    {bytes : ByteArray}
    (hInvalid : ¬ bytes.IsValidUTF8) :
    varchar n bytes = none := by
  rw [Option.eq_none_iff_forall_ne_some]
  intro stored hStored
  rcases varchar_eq_some_iff.mp hStored with ⟨s, rfl, _⟩
  exact hInvalid s.isValidUTF8

/- A cut that divides no character is stored. -/
theorem varchar_cut
    {n : Nat}
    {s : String}
    (hEnds : EndsAt n s) :
    ∃ t : String,
      t.toByteArray = cut n s ∧
        varchar n (cut n s) = some t := by
  have hValid := isValidUTF8_cut_iff.mpr hEnds
  have hLength :
      (String.ofByteArray _ hValid).length ≤ n :=
    Nat.le_trans (length_le_utf8ByteSize _) (size_cut_le n s)
  exact
    ⟨String.ofByteArray _ hValid, rfl,
      varchar_toByteArray hLength⟩

/- A cut fits if and only if it divides no character. -/
theorem fits_cut_iff
    {n : Nat}
    {s : String} :
    Fits n (cut n s) ↔ EndsAt n s := by
  constructor
  · rintro ⟨t, hBytes, _⟩
    rw [← isValidUTF8_cut_iff, hBytes]
    exact t.isValidUTF8
  · intro hEnds
    rcases varchar_cut hEnds with ⟨t, _, hStored⟩
    exact fits_of_varchar hStored

end Utf8
