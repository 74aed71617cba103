import Mathlib.Tactic.Common
import Mathlib.Tactic.IntervalCases

/-
  Numbers in hexadecimal digits of a fixed width. The digits
  are written in lower case, and are read in either case.

  Main declarations:
    * `Hex.digits` and `Hex.value?`
    * `Hex.value?_digits`
    * `Hex.IsLower`
-/

namespace Hex

------------------------------------------------------------
-- Digits
------------------------------------------------------------

/- The value of a digit. -/
def digit?
    (c : Char) : Option Nat :=
  if '0' ≤ c ∧ c ≤ '9' then some (c.toNat - 48)
  else if 'a' ≤ c ∧ c ≤ 'f' then some (c.toNat - 87)
  else if 'A' ≤ c ∧ c ≤ 'F' then some (c.toNat - 55)
  else none

theorem digit?_digitChar
    {d : Nat}
    (hDigit : d < 16) :
    digit? (Nat.digitChar d) = some d := by
  interval_cases d <;> decide

/- What is written is a digit or one of six letters. -/
def IsLower
    (c : Char) : Prop :=
  ('0' ≤ c ∧ c ≤ '9') ∨ ('a' ≤ c ∧ c ≤ 'f')

instance
    (c : Char) :
    Decidable (IsLower c) :=
  instDecidableOr

theorem isLower_digitChar
    {d : Nat}
    (hDigit : d < 16) :
    IsLower (Nat.digitChar d) := by
  interval_cases d <;> decide

------------------------------------------------------------
-- Numbers
------------------------------------------------------------

/- The last digits of a number, the most significant first. -/
def digits : Nat → Nat → List Char
| 0, _ => []
| width + 1, n =>
    digits width (n / 16) ++ [Nat.digitChar (n % 16)]

def value?
    (text : List Char) : Option Nat :=
  text.foldlM
    (fun n c => (digit? c).map fun d => 16 * n + d) 0

@[simp] theorem length_digits
    (width n : Nat) :
    (digits width n).length = width := by
  induction width generalizing n with
  | zero => rfl
  | succ width ih => simp [digits, ih]

theorem isLower_of_mem_digits
    {width n : Nat}
    {c : Char}
    (hMem : c ∈ digits width n) :
    IsLower c := by
  induction width generalizing n with
  | zero => cases hMem
  | succ width ih =>
      rcases List.mem_append.mp hMem with hFront | hLast
      · exact ih hFront
      · rw [List.mem_singleton.mp hLast]
        exact isLower_digitChar (Nat.mod_lt n (by decide))

theorem value?_append_digit
    {text : List Char}
    {c : Char}
    {n d : Nat}
    (hText : value? text = some n)
    (hDigit : digit? c = some d) :
    value? (text ++ [c]) = some (16 * n + d) := by
  unfold value? at hText ⊢
  rw [List.foldlM_append, hText]
  simp [hDigit]

/- A number that fits is read back from its digits. -/
theorem value?_digits
    {width n : Nat}
    (hFits : n < 16 ^ width) :
    value? (digits width n) = some n := by
  induction width generalizing n with
  | zero =>
      rw [Nat.pow_zero, Nat.lt_one_iff] at hFits
      rw [hFits]
      rfl
  | succ width ih =>
      have hFront : n / 16 < 16 ^ width := by
        rw [Nat.div_lt_iff_lt_mul (by decide)]
        rwa [Nat.pow_succ] at hFits
      have hLast := digit?_digitChar (Nat.mod_lt n (by decide))
      rw [digits, value?_append_digit (ih hFront) hLast,
        Nat.div_add_mod]

end Hex
