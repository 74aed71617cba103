import OrderManagement.Library.Encoding
import Mathlib.Algebra.Order.Ring.Int

/-
  Reading integers in decimal notation: a sign, if there is
  one, and digits. A reader for machine words refuses what
  is out of range. What was written is read back.

  Main declarations:
    * `Decimal.parseDigits` and `Decimal.parse`
    * `Decimal.parseInt` and `Decimal.intError`
    * `Decimal.parseInt_decimal`
-/

namespace Decimal

/- The value of at least one digit. -/
def parseDigits
    (text : List Char) : Option Nat :=
  if text ≠ [] ∧ text.all Char.isDigit = true then
    some (Nat.ofDigitChars 10 text 0)
  else
    none

/- The value of digits after a sign or without one. -/
def parse : List Char → Option Int
| '-' :: digits =>
    (parseDigits digits).map fun n => -(n : Int)
| '+' :: digits => (parseDigits digits).map Int.ofNat
| digits => (parseDigits digits).map Int.ofNat

/- A value that a signed word of some bits can hold. -/
def InWord
    (bits : Nat)
    (n : Int) : Prop :=
  -2 ^ (bits - 1) ≤ n ∧ n < 2 ^ (bits - 1)

instance
    (bits : Nat) :
    DecidablePred (InWord bits) :=
  fun _ => inferInstanceAs (Decidable (_ ∧ _))

def parseInt
    (bits : Nat)
    (text : List Char) : Option Int :=
  (parse text).filter fun n => InWord bits n

/- What a reader says of a text that it refuses. -/
def numError
    (function text reason : String) : String :=
  "strconv." ++ function ++ ": parsing " ++ text.quote ++
    ": " ++ reason

/- A reader of integers tells what is out of range from what
   is no number. -/
def intError
    (function text : String) : String :=
  numError function text
    (if (parse text.toList).isSome then
      "value out of range"
    else
      "invalid syntax")

------------------------------------------------------------
-- Reading Back
------------------------------------------------------------

theorem toDigits_ne_nil
    (n : Nat) :
    Nat.toDigits 10 n ≠ [] := by
  intro hNil
  have hLength := congrArg List.length hNil
  simp at hLength

theorem parseDigits_toDigits
    (n : Nat) :
    parseDigits (Nat.toDigits 10 n) = some n := by
  have hDigits :
      (Nat.toDigits 10 n).all Char.isDigit = true :=
    List.all_eq_true.mpr fun c hMem =>
      Encoding.isDigit_of_mem_digits hMem
  rw [parseDigits, if_pos ⟨toDigits_ne_nil n, hDigits⟩,
    Nat.ofDigitChars_ten_toDigits]

/- Digits are not taken for a sign. -/
theorem parse_toDigits
    (n : Nat) :
    parse (Nat.toDigits 10 n) = some (n : Int) := by
  unfold parse
  split
  case h_1 digits hText =>
    exact absurd hText (Encoding.digits_ne_sign n digits)
  case h_2 digits hText =>
    have hPlus : '+' ∈ Nat.toDigits 10 n := by
      rw [hText]
      apply List.mem_cons_self
    exact absurd (Encoding.isDigit_of_mem_digits hPlus)
      (by decide)
  case h_3 =>
    rw [parseDigits_toDigits]
    rfl

theorem parse_decimal
    (n : Int) :
    parse (Encoding.decimal n) = some n := by
  cases n with
  | ofNat n =>
      rw [Encoding.decimal_ofNat, parse_toDigits]
      rfl
  | negSucc n =>
      rw [Encoding.decimal_negSucc, parse, parseDigits_toDigits]
      rfl

/- What fits into a word is read back from its notation. -/
theorem parseInt_decimal
    {bits : Nat}
    {n : Int}
    (hWord : InWord bits n) :
    parseInt bits (Encoding.decimal n) = some n := by
  rw [parseInt, parse_decimal, Option.filter_some]
  simp [hWord]

end Decimal
