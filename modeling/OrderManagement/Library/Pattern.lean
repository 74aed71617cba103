import Mathlib.Computability.RegularExpressions

/-
  Patterns as they are written for a text: a class of
  letters, one or more of them, and what may be left out.

  Main declarations:
    * `Pattern.oneOf`, `Pattern.many` and `Pattern.optional`
    * `Pattern.mem_many_oneOf` and `Pattern.mem_optional`
-/

namespace Pattern

open RegularExpression

variable {α : Type}

/- `[abc]` -/
def oneOf : List α → RegularExpression α
| [] => 0
| a :: letters => char a + oneOf letters

/- `r+` -/
def many
    (r : RegularExpression α) : RegularExpression α :=
  r * star r

/- `r?` -/
def optional
    (r : RegularExpression α) : RegularExpression α :=
  1 + r

theorem mem_oneOf
    {letters : List α}
    {text : List α} :
    text ∈ (oneOf letters).matches' ↔
      ∃ a ∈ letters, text = [a] := by
  induction letters with
  | nil => simp [oneOf]
  | cons a letters ih =>
      rw [oneOf, matches'_add, Language.mem_add, matches'_char,
        ih, List.exists_mem_cons_iff]
      exact Iff.rfl

theorem mem_optional
    {r : RegularExpression α}
    {text : List α} :
    text ∈ (optional r).matches' ↔
      text = [] ∨ text ∈ r.matches' := by
  rw [optional, matches'_add, Language.mem_add,
    matches'_epsilon, Language.mem_one]

theorem mem_star_oneOf
    {letters : List α}
    {text : List α} :
    text ∈ (star (oneOf letters)).matches' ↔
      ∀ a ∈ text, a ∈ letters := by
  rw [matches'_star, Language.mem_kstar]
  constructor
  · rintro ⟨pieces, rfl, hPieces⟩ a hMem
    rcases List.mem_flatten.mp hMem with ⟨piece, hPiece, hA⟩
    rcases mem_oneOf.mp (hPieces piece hPiece) with
      ⟨b, hB, rfl⟩
    rw [List.mem_singleton] at hA
    exact hA ▸ hB
  · intro hAll
    refine ⟨text.map fun a => [a], ?_, ?_⟩
    · exact (List.flatMap_singleton' text).symm
    · intro piece hPiece
      rcases List.mem_map.mp hPiece with ⟨a, hMem, rfl⟩
      exact mem_oneOf.mpr ⟨a, hAll a hMem, rfl⟩

/- One letter of a class or more. -/
theorem mem_many_oneOf
    {letters : List α}
    {text : List α} :
    text ∈ (many (oneOf letters)).matches' ↔
      text ≠ [] ∧ ∀ a ∈ text, a ∈ letters := by
  rw [many, matches'_mul, Language.mem_mul]
  constructor
  · rintro ⟨first, hFirst, rest, hRest, rfl⟩
    rcases mem_oneOf.mp hFirst with ⟨a, hA, rfl⟩
    rw [mem_star_oneOf] at hRest
    simpa [hA] using hRest
  · rintro ⟨hNonempty, hAll⟩
    cases text with
    | nil => exact absurd rfl hNonempty
    | cons a rest =>
        rw [List.forall_mem_cons] at hAll
        exact
          ⟨[a], mem_oneOf.mpr ⟨a, hAll.1, rfl⟩, rest,
            mem_star_oneOf.mpr hAll.2, rfl⟩

end Pattern
