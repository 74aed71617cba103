import Mathlib.Algebra.Order.Ring.Nat
import Mathlib.Data.Nat.Dist
import Mathlib.Tactic.Common

/-
  Whole numbers of a binary floating-point format. What an
  operation yields is the exact result rounded to the
  nearest number of the format, with ties to even, or
  infinity if that is out of range.

  A computation that ends with a small number is exact: an
  operand or a result too large to be exact stays large.

  Main declarations:
    * `Representable`, `round` and `dist_round_le`
    * `BinaryFormat` and `BinaryFormat.Whole`
    * `Whole.Tracks` with `tracks_ofNat`, `Tracks.add` and
      `Tracks.mul`
-/

------------------------------------------------------------
-- Rounding
------------------------------------------------------------

namespace BinaryFormat

/- A number whose binary digits fit the precision, up to a
   power of two. -/
def Representable
    (precision n : Nat) : Prop :=
  ∃ m e, m < 2 ^ precision ∧ n = m * 2 ^ e

/- The multiple of a unit that is nearest to a number. -/
def nearestMultiple
    (unit n : Nat) : Nat :=
  if 2 * (n % unit) < unit ∨
      2 * (n % unit) = unit ∧ n / unit % 2 = 0 then
    n / unit * unit
  else
    (n / unit + 1) * unit

/- The unit in the last place of a number. -/
def ulp
    (precision n : Nat) : Nat :=
  2 ^ (n.log2 + 1 - precision)

def round
    (precision n : Nat) : Nat :=
  nearestMultiple (ulp precision n) n

theorem dist_nearestMultiple_le
    {unit : Nat}
    (n k : Nat)
    (hPos : 0 < unit) :
    Nat.dist n (nearestMultiple unit n) ≤
      Nat.dist n (k * unit) := by
  have hSplit := Nat.div_add_mod' n unit
  have hRest := Nat.mod_lt n hPos
  have hNext : (n / unit + 1) * unit = n / unit * unit + unit :=
    Nat.succ_mul _ _
  unfold nearestMultiple Nat.dist
  rcases Nat.lt_or_ge (n / unit) k with hAbove | hBelow
  · have hLower : (n / unit + 1) * unit ≤ k * unit :=
      Nat.mul_le_mul_right unit hAbove
    split <;> omega
  · have hUpper : k * unit ≤ n / unit * unit :=
      Nat.mul_le_mul_right unit hBelow
    split <;> omega

variable {precision : Nat}

theorem ulp_pos
    (n : Nat) :
    0 < ulp precision n :=
  Nat.two_pow_pos _

/- A representable number is a multiple of the unit of every
   number that is no more than twice as large. -/
theorem Representable.dvd
    {s e : Nat}
    (hRep : Representable precision s)
    (hLarge : 2 ^ (precision + e) ≤ 2 * s) :
    2 ^ e ∣ s := by
  rcases hRep with ⟨m, f, hLess, rfl⟩
  refine Dvd.dvd.mul_left (pow_dvd_pow 2 ?_) m
  by_contra hShort
  have hPow : 2 ^ (f + 1) ≤ 2 ^ e :=
    Nat.pow_le_pow_right (by decide) (by omega)
  have hBound :=
    Nat.mul_le_mul_left (2 ^ precision) hPow
  have hStrict :
      2 * (m * 2 ^ f) < 2 ^ precision * 2 ^ (f + 1) := by
    calc
      2 * (m * 2 ^ f) = m * 2 ^ (f + 1) := by
        rw [mul_left_comm, pow_succ, mul_comm 2]
      _ < 2 ^ precision * 2 ^ (f + 1) :=
        Nat.mul_lt_mul_of_pos_right hLess
          (Nat.two_pow_pos _)
  rw [pow_add] at hLarge
  omega

/- One more than the largest significand fits as well. -/
theorem representable_mul_pow
    {k : Nat}
    (e : Nat)
    (hPos : 0 < precision)
    (hLE : k ≤ 2 ^ precision) :
    Representable precision (k * 2 ^ e) := by
  rcases Nat.lt_or_eq_of_le hLE with hLess | rfl
  · exact ⟨k, e, hLess, rfl⟩
  · refine ⟨1, precision + e, ?_, ?_⟩
    · exact Nat.one_lt_two_pow hPos.ne'
    · rw [pow_add, one_mul]

theorem representable_of_le
    {n : Nat}
    (hPos : 0 < precision)
    (hLE : n ≤ 2 ^ precision) :
    Representable precision n := by
  have hRep := representable_mul_pow 0 hPos hLE
  rwa [pow_zero, mul_one] at hRep

theorem div_ulp_lt
    (n : Nat) :
    n / ulp precision n < 2 ^ precision := by
  rw [Nat.div_lt_iff_lt_mul (ulp_pos n), ulp, ← pow_add]
  refine lt_of_lt_of_le Nat.lt_log2_self ?_
  exact Nat.pow_le_pow_right (by decide) (by omega)

theorem representable_round
    (n : Nat)
    (hPos : 0 < precision) :
    Representable precision (round precision n) := by
  have hDigits : n / ulp precision n < 2 ^ precision :=
    div_ulp_lt n
  unfold round nearestMultiple
  split
  · exact representable_mul_pow _ hPos hDigits.le
  · exact representable_mul_pow _ hPos hDigits

/- No number of the format is nearer than the rounded one. -/
theorem dist_round_le
    {s : Nat}
    (n : Nat)
    (hPos : 0 < precision)
    (hRep : Representable precision s) :
    Nat.dist n (round precision n) ≤ Nat.dist n s := by
  have hMultiple :
      ∀ t, ulp precision n ∣ t →
        Nat.dist n (round precision n) ≤ Nat.dist n t := by
    rintro t ⟨k, rfl⟩
    rw [mul_comm]
    exact dist_nearestMultiple_le n k (ulp_pos n)
  rcases Nat.lt_or_ge n.log2 precision with hExact | hRounded
  · refine hMultiple s ?_
    have hUnit : n.log2 + 1 - precision = 0 := by omega
    rw [ulp, hUnit, pow_zero]
    exact one_dvd s
  have hWidth :
      precision + (n.log2 + 1 - precision) = n.log2 + 1 := by
    omega
  rcases Nat.lt_or_ge (2 * s) (2 ^ (n.log2 + 1)) with
    hSmall | hLarge
  · -- The power of two below the number is between the two.
    refine (hMultiple (2 ^ n.log2) ?_).trans ?_
    · exact pow_dvd_pow 2 (by omega)
    · have hBelow : 2 ^ n.log2 ≤ n :=
        Nat.log2_self_le (by rintro rfl; simp at hRounded; omega)
      rw [pow_succ] at hSmall
      unfold Nat.dist
      omega
  · refine hMultiple s (hRep.dvd ?_)
    rw [hWidth]
    exact hLarge

theorem round_eq_self
    {n : Nat}
    (hPos : 0 < precision)
    (hRep : Representable precision n) :
    round precision n = n := by
  have hNear := dist_round_le n hPos hRep
  rw [Nat.dist_self, Nat.le_zero] at hNear
  exact (Nat.eq_of_dist_eq_zero hNear).symm

/- Rounding does not pass a number of the format. -/
theorem le_round
    {k n : Nat}
    (hPos : 0 < precision)
    (hRep : Representable precision k)
    (hLE : k ≤ n) :
    k ≤ round precision n := by
  have hNear := dist_round_le n hPos hRep
  unfold Nat.dist at hNear
  omega

end BinaryFormat

------------------------------------------------------------
-- Numbers of a Format
------------------------------------------------------------

/- The digits of a significand, and the exponent of the first
   power of two that is out of range. -/
structure BinaryFormat where
  precision : Nat
  range : Nat
  precision_pos : 0 < precision
  precision_le : precision ≤ range

def BinaryFormat.binary64 : BinaryFormat where
  precision := 53
  range := 1024
  precision_pos := by decide
  precision_le := by decide

namespace BinaryFormat

/- The numbers that have no sign and no fraction. -/
inductive Whole
    (F : BinaryFormat)
| finite
    (n : Nat)
    (hRep : Representable F.precision n)
    (hRange : n < 2 ^ F.range)
| infinite
| nan

namespace Whole

variable {F : BinaryFormat}

/- The number of the format that stands for an exact one. -/
def ofNat
    (n : Nat) : Whole F :=
  if hRange : round F.precision n < 2 ^ F.range then
    finite (round F.precision n)
      (representable_round n F.precision_pos) hRange
  else
    infinite

/- The value of a number that is neither infinite nor none. -/
def value? : Whole F → Option Nat
| finite n _ _ => some n
| infinite => none
| nan => none

def add : Whole F → Whole F → Whole F
| finite m _ _, finite n _ _ => ofNat (m + n)
| nan, _ => nan
| _, nan => nan
| _, _ => infinite

def mul : Whole F → Whole F → Whole F
| finite m _ _, finite n _ _ => ofNat (m * n)
| nan, _ => nan
| _, nan => nan
| finite 0 _ _, infinite => nan
| infinite, finite 0 _ _ => nan
| _, _ => infinite

/- No number equals `nan`. -/
def equals : Whole F → Whole F → Bool
| finite m _ _, finite n _ _ => m = n
| infinite, infinite => true
| _, _ => false

------------------------------------------------------------
-- Small Results
------------------------------------------------------------

/-
  A number is what became of an exact one: it is this number
  if that is small, and otherwise it is not small.
-/
def Tracks
    (x : Whole F)
    (n : Nat) : Prop :=
  ∀ k < 2 ^ F.precision, x.value? = some k ↔ n = k

theorem tracks_of_lt
    {x : Whole F}
    {n : Nat}
    (hValue : x.value? = some n) :
    x.Tracks n := by
  intro k _
  rw [hValue, Option.some.injEq]

theorem tracks_of_ge
    {x : Whole F}
    {n : Nat}
    (hLarge : 2 ^ F.precision ≤ n)
    (hValue : ∀ k, x.value? = some k → 2 ^ F.precision ≤ k) :
    x.Tracks n := by
  intro k hSmall
  refine iff_of_false (fun hEq => ?_) (by omega)
  have hAbove := hValue k hEq
  omega

/- Small numbers are exact, and others remain others. -/
theorem tracks_ofNat
    (n : Nat) :
    (ofNat n : Whole F).Tracks n := by
  have hPos := F.precision_pos
  rcases Nat.lt_or_ge n (2 ^ F.precision) with hSmall | hLarge
  · have hExact : round F.precision n = n :=
      round_eq_self hPos (representable_of_le hPos hSmall.le)
    have hRange : round F.precision n < 2 ^ F.range := by
      rw [hExact]
      exact lt_of_lt_of_le hSmall
        (Nat.pow_le_pow_right (by decide) F.precision_le)
    refine tracks_of_lt ?_
    rw [ofNat, dif_pos hRange, value?, hExact]
  · refine tracks_of_ge hLarge fun k hValue => ?_
    unfold ofNat at hValue
    split at hValue
    · cases hValue
      exact le_round hPos
        (representable_of_le hPos le_rfl) hLarge
    · cases hValue

theorem value?_eq_some_iff
    {x : Whole F}
    {n : Nat} :
    x.value? = some n ↔
      ∃ hRep hRange, x = finite n hRep hRange := by
  constructor
  · intro hValue
    cases x with
    | finite m hRep hRange =>
        cases hValue
        exact ⟨hRep, hRange, rfl⟩
    | infinite | nan => cases hValue
  · rintro ⟨hRep, hRange, rfl⟩
    rfl

theorem equals_iff
    {x y : Whole F}
    {n : Nat}
    (hValue : y.value? = some n) :
    x.equals y = true ↔ x.value? = some n := by
  rcases value?_eq_some_iff.mp hValue with ⟨_, _, rfl⟩
  cases x with
  | finite m hRep hRange => simp [equals, value?]
  | infinite | nan => simp [equals, value?]

namespace Tracks

variable
  {x y : Whole F}
  {m n : Nat}

theorem value_of_lt
    (hTracks : x.Tracks n)
    (hSmall : n < 2 ^ F.precision) :
    x.value? = some n :=
  (hTracks n hSmall).mpr rfl

theorem eq_or_large
    {k : Nat}
    (hTracks : x.Tracks n)
    (hValue : x.value? = some k) :
    k = n ∨ 2 ^ F.precision ≤ k ∧ 2 ^ F.precision ≤ n := by
  rcases Nat.lt_or_ge k (2 ^ F.precision) with hSmall | hLarge
  · exact Or.inl ((hTracks k hSmall).mp hValue).symm
  · refine or_iff_not_imp_left.mpr fun hOther => ?_
    refine ⟨hLarge, Nat.le_of_not_lt fun hSmall => ?_⟩
    rw [hTracks.value_of_lt hSmall,
      Option.some.injEq] at hValue
    exact hOther hValue.symm

theorem add
    (hX : x.Tracks m)
    (hY : y.Tracks n) :
    (x.add y).Tracks (m + n) := by
  rcases Nat.lt_or_ge (m + n) (2 ^ F.precision) with
    hSmall | hLarge
  · have hValueX := hX.value_of_lt (n := m) (by omega)
    have hValueY := hY.value_of_lt (n := n) (by omega)
    rcases value?_eq_some_iff.mp hValueX with ⟨_, _, rfl⟩
    rcases value?_eq_some_iff.mp hValueY with ⟨_, _, rfl⟩
    exact tracks_ofNat (m + n)
  · refine tracks_of_ge hLarge fun k hValue => ?_
    cases x with
    | infinite | nan => cases y <;> cases hValue
    | finite a hRepA hRangeA =>
        cases y with
        | infinite | nan => cases hValue
        | finite b hRepB hRangeB =>
            have hSum : 2 ^ F.precision ≤ a + b := by
              have hA := hX.eq_or_large rfl
              have hB := hY.eq_or_large rfl
              omega
            rcases (tracks_ofNat (a + b)).eq_or_large
              hValue with rfl | ⟨hAbove, _⟩
            · exact hSum
            · exact hAbove

/- A factor that is known and not zero. -/
theorem mul_value
    (hX : x.Tracks m)
    (hValueY : y.value? = some n)
    (hPos : 0 < n) :
    (x.mul y).Tracks (m * n) := by
  rcases value?_eq_some_iff.mp hValueY with ⟨_, _, rfl⟩
  have hFactor : ∀ a, a ≤ a * n := fun a =>
    Nat.le_mul_of_pos_right a hPos
  rcases Nat.lt_or_ge (m * n) (2 ^ F.precision) with
    hSmall | hLarge
  · have hValueX :=
      hX.value_of_lt ((hFactor m).trans_lt hSmall)
    rcases value?_eq_some_iff.mp hValueX with ⟨_, _, rfl⟩
    exact tracks_ofNat (m * n)
  · refine tracks_of_ge hLarge fun k hValue => ?_
    cases x with
    | nan => cases hValue
    | infinite =>
        rcases n with _ | n
        · omega
        · cases hValue
    | finite a hRepA hRangeA =>
        have hProduct : 2 ^ F.precision ≤ a * n := by
          rcases hX.eq_or_large rfl with rfl | ⟨hAbove, _⟩
          · exact hLarge
          · exact hAbove.trans (hFactor a)
        rcases (tracks_ofNat (a * n)).eq_or_large
          hValue with rfl | ⟨hAbove, _⟩
        · exact hProduct
        · exact hAbove

/- A factor that is small and not zero. -/
theorem mul
    (hX : x.Tracks m)
    (hY : y.Tracks n)
    (hPos : 0 < n)
    (hLow : n < 2 ^ F.precision) :
    (x.mul y).Tracks (m * n) :=
  hX.mul_value (hY.value_of_lt hLow) hPos

end Tracks

end Whole

end BinaryFormat
