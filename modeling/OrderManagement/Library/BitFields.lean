import Mathlib.Data.BitVec
import Mathlib.Order.Basic

/-
  Words that are put together from bit fields. A field below
  the shift and a field above it can be read back.

  Main declarations:
    * `BitFields.toNat_shiftLeft_of_lt`
    * `BitFields.shiftLeft_inj`
    * `BitFields.or_shiftLeft_inj`
    * `BitFields.toNat_or_shiftLeft`
    * `BitFields.sub_shiftLeft_inj`
-/

namespace BitFields

variable {w k : Nat}

/- A field that fits below the shift has no bit above it. -/
theorem getLsbD_of_lt
    {a : BitVec w}
    (hFits : a.toNat < 2 ^ k)
    {i : Nat}
    (hAbove : k ≤ i) :
    a.getLsbD i = false := by
  rw [← BitVec.testBit_toNat]
  apply Nat.testBit_lt_two_pow
  exact lt_of_lt_of_le hFits
    (Nat.pow_le_pow_right (by omega) hAbove)

/- Moved up, the field ends below the sum of the widths. -/
theorem shiftLeft_lt
    {a : BitVec w}
    {m : Nat}
    (hFits : a.toNat < 2 ^ m) :
    (a <<< k).toNat < 2 ^ (m + k) := by
  rw [BitVec.toNat_shiftLeft, Nat.shiftLeft_eq, Nat.pow_add]
  exact lt_of_le_of_lt (Nat.mod_le _ _)
    (Nat.mul_lt_mul_of_pos_right hFits (Nat.two_pow_pos k))

/- A field that stays within the word is not cut off. -/
theorem toNat_shiftLeft_of_lt
    {a : BitVec w}
    {m : Nat}
    (hWidth : m + k ≤ w)
    (hFits : a.toNat < 2 ^ m) :
    (a <<< k).toNat = a.toNat * 2 ^ k := by
  rw [BitVec.toNat_shiftLeft, Nat.shiftLeft_eq]
  apply Nat.mod_eq_of_lt
  calc
    a.toNat * 2 ^ k < 2 ^ m * 2 ^ k :=
      Nat.mul_lt_mul_of_pos_right hFits (Nat.two_pow_pos k)
    _ = 2 ^ (m + k) := (Nat.pow_add 2 m k).symm
    _ ≤ 2 ^ w := Nat.pow_le_pow_right (by omega) hWidth

theorem shiftLeft_inj
    {a a' : BitVec w}
    {m : Nat}
    (hWidth : m + k ≤ w)
    (hFits : a.toNat < 2 ^ m)
    (hFits' : a'.toNat < 2 ^ m) :
    a <<< k = a' <<< k ↔ a = a' := by
  refine ⟨fun hEq => ?_, fun hEq => by rw [hEq]⟩
  apply BitVec.eq_of_toNat_eq
  apply Nat.eq_of_mul_eq_mul_right (Nat.two_pow_pos k)
  rw [← toNat_shiftLeft_of_lt hWidth hFits,
    ← toNat_shiftLeft_of_lt hWidth hFits', hEq]

theorem or_shiftLeft_inj
    {a a' b b' : BitVec w}
    (hFits : b.toNat < 2 ^ k)
    (hFits' : b'.toNat < 2 ^ k) :
    a <<< k ||| b = a' <<< k ||| b' ↔
      a <<< k = a' <<< k ∧ b = b' := by
  constructor
  · intro hEq
    have hBit :
        ∀ i,
          (a <<< k ||| b).getLsbD i =
            (a' <<< k ||| b').getLsbD i := by
      intro i
      rw [hEq]
    constructor
    · apply BitVec.eq_of_getLsbD_eq
      intro i _
      by_cases hBelow : i < k
      · simp [hBelow]
      · simpa only [BitVec.getLsbD_or,
          getLsbD_of_lt hFits (not_lt.mp hBelow),
          getLsbD_of_lt hFits' (not_lt.mp hBelow),
          Bool.or_false] using hBit i
    · apply BitVec.eq_of_getLsbD_eq
      intro i _
      by_cases hBelow : i < k
      · simpa [hBelow] using hBit i
      · rw [getLsbD_of_lt hFits (not_lt.mp hBelow),
          getLsbD_of_lt hFits' (not_lt.mp hBelow)]
  · rintro ⟨hHigh, rfl⟩
    rw [hHigh]

/- The two fields have no bit in common: their word is their
   sum. -/
theorem toNat_or_shiftLeft
    {a b : BitVec w}
    {m : Nat}
    (hWidth : m + k ≤ w)
    (hHigh : a.toNat < 2 ^ m)
    (hLow : b.toNat < 2 ^ k) :
    (a <<< k ||| b).toNat = a.toNat * 2 ^ k + b.toNat := by
  have hShift := toNat_shiftLeft_of_lt hWidth hHigh
  rw [BitVec.toNat_or, hShift, ← Nat.shiftLeft_eq]
  exact (Nat.shiftLeft_add_eq_or_of_lt hLow a.toNat).symm

/- A shift forgets no more of a difference than of its
   terms. -/
theorem sub_shiftLeft_inj
    (a a' b : BitVec w) :
    (a - b) <<< k = (a' - b) <<< k ↔ a <<< k = a' <<< k := by
  simp only [BitVec.shiftLeft_eq_mul_twoPow, sub_mul,
    sub_left_inj]

end BitFields
