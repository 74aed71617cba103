import OrderManagement.Library.BinaryFormat

/-
  Numbers of a binary format with a fraction: the whole
  numbers of a format that counts in a power of two below
  one. A quotient is the exact one, rounded to the nearest
  number of the format, with ties to even.

  A decimal number of few digits survives a division by its
  power of ten and the rounding back to these digits.

  Main declarations:
    * `roundQuot` and `two_mul_dist_roundQuot_le`
    * `BinaryFormat.fine` and `Whole.div`
    * `nearestDecimal` and `nearestDecimal_roundQuot`
-/

namespace BinaryFormat

------------------------------------------------------------
-- Rounding a Quotient
------------------------------------------------------------

variable {precision : Nat}

/- A quotient has the unit of its whole part. -/
def roundQuot
    (precision p q : Nat) : Nat :=
  nearestMultiple (ulp precision (p / q) * q) p / q

theorem nearestMultiple_eq
    (unit n : Nat) :
    nearestMultiple unit n = n / unit * unit ∨
      nearestMultiple unit n = (n / unit + 1) * unit := by
  unfold nearestMultiple
  split
  · exact Or.inl rfl
  · exact Or.inr rfl

/- The multiple is no further than half a unit. -/
theorem two_mul_dist_nearestMultiple_le
    {unit : Nat}
    (n : Nat)
    (hPos : 0 < unit) :
    2 * Nat.dist n (nearestMultiple unit n) ≤ unit := by
  have hSplit := Nat.div_add_mod' n unit
  have hRest := Nat.mod_lt n hPos
  have hNext : (n / unit + 1) * unit = n / unit * unit + unit :=
    Nat.succ_mul _ _
  unfold nearestMultiple Nat.dist
  split <;> omega

theorem roundQuot_eq
    (precision p : Nat)
    {q : Nat}
    (hPos : 0 < q) :
    ∃ k ≤ 2 ^ precision,
      roundQuot precision p q = k * ulp precision (p / q) ∧
        nearestMultiple (ulp precision (p / q) * q) p =
          roundQuot precision p q * q := by
  have hDigits : p / q / ulp precision (p / q) < 2 ^ precision :=
    div_ulp_lt (p / q)
  rw [Nat.div_div_eq_div_mul, Nat.mul_comm] at hDigits
  have hWhole
      {k : Nat}
      (hNear :
        nearestMultiple (ulp precision (p / q) * q) p =
          k * (ulp precision (p / q) * q)) :
      roundQuot precision p q = k * ulp precision (p / q) ∧
        nearestMultiple (ulp precision (p / q) * q) p =
          roundQuot precision p q * q := by
    have hQuot :
        roundQuot precision p q = k * ulp precision (p / q) := by
      rw [roundQuot, hNear, ← Nat.mul_assoc,
        Nat.mul_div_cancel _ hPos]
    rw [hQuot, hNear, ← Nat.mul_assoc]
    exact ⟨rfl, rfl⟩
  rcases nearestMultiple_eq (ulp precision (p / q) * q) p with
    hDown | hUp
  · exact ⟨_, hDigits.le, hWhole hDown⟩
  · exact ⟨_, hDigits, hWhole hUp⟩

theorem representable_roundQuot
    (p : Nat)
    {q : Nat}
    (hPrecision : 0 < precision)
    (hPos : 0 < q) :
    Representable precision (roundQuot precision p q) := by
  rcases roundQuot_eq precision p hPos with
    ⟨k, hLE, hQuot, _⟩
  rw [hQuot]
  exact representable_mul_pow _ hPrecision hLE

/- It is off by half of that unit at most. -/
theorem two_mul_dist_roundQuot_le
    (precision p : Nat)
    {q : Nat}
    (hPos : 0 < q) :
    2 * Nat.dist p (roundQuot precision p q * q) ≤
      ulp precision (p / q) * q := by
  rcases roundQuot_eq precision p hPos with
    ⟨_, _, _, hNear⟩
  rw [← hNear]
  exact two_mul_dist_nearestMultiple_le p
    (Nat.mul_pos (ulp_pos _) hPos)

/- The unit of a number below a power of two. -/
theorem ulp_le
    {n e : Nat}
    (hPrecision : 0 < precision)
    (hLess : n < 2 ^ e)
    (hWide : precision ≤ e) :
    ulp precision n ≤ 2 ^ (e - precision) := by
  have hLog : n.log2 < e := by
    rcases Nat.eq_zero_or_pos n with rfl | hPos
    · rw [Nat.log2_zero]
      omega
    · exact (Nat.log2_lt hPos.ne').mpr hLess
  exact Nat.pow_le_pow_right (by decide) (by omega)

------------------------------------------------------------
-- Numbers with a Fraction
------------------------------------------------------------

/- The format that counts in two to the minus `places`. -/
def fine
    (F : BinaryFormat)
    (places : Nat) : BinaryFormat where
  precision := F.precision
  range := F.range + places
  precision_pos := F.precision_pos
  precision_le := F.precision_le.trans (Nat.le_add_right _ _)

variable {F : BinaryFormat} {places : Nat}

/- The number that stands for an exact quotient. -/
def Whole.ofQuot
    (p : Nat)
    {q : Nat}
    (hPos : 0 < q) : Whole F :=
  if hRange : roundQuot F.precision p q < 2 ^ F.range then
    finite (roundQuot F.precision p q)
      (representable_roundQuot p F.precision_pos hPos) hRange
  else
    infinite

/- The quotient of two whole numbers. -/
def Whole.div
    (places : Nat) :
    Whole F → Whole F → Whole (F.fine places)
| finite m _ _, finite n _ _ =>
    if hPos : 0 < n then
      ofQuot (m * 2 ^ places) hPos
    else if m = 0 then
      nan
    else
      infinite
| nan, _ => nan
| _, nan => nan
| infinite, infinite => nan
| infinite, finite _ _ _ => infinite
| finite _ _ _, infinite =>
    finite 0 ⟨0, 0, Nat.two_pow_pos _, rfl⟩
      (Nat.two_pow_pos _)

------------------------------------------------------------
-- Decimal Digits
------------------------------------------------------------

/- A fraction in units of the last of so many decimals: the
   nearest number of them, the larger one of two. -/
def nearestDecimal
    (places digits n : Nat) : Nat :=
  (2 * 10 ^ digits * n + 2 ^ places) / 2 ^ (places + 1)

theorem nearestDecimal_eq
    {digits n k : Nat}
    (hNear :
      2 * Nat.dist (k * 2 ^ places) (n * 10 ^ digits) <
        2 ^ places) :
    nearestDecimal places digits n = k := by
  have hScale : 2 ^ (places + 1) = 2 * 2 ^ places := by
    rw [pow_succ, Nat.mul_comm]
  have hNumber :
      2 * 10 ^ digits * n = 2 * (n * 10 ^ digits) := by
    rw [Nat.mul_assoc, Nat.mul_comm n]
  unfold nearestDecimal
  rw [hScale, hNumber]
  unfold Nat.dist at hNear
  apply Nat.div_eq_of_lt_le
  · rw [Nat.mul_left_comm k 2]
    omega
  · have hNext :
        (k + 1) * (2 * 2 ^ places) =
          2 * (k * 2 ^ places) + 2 * 2 ^ places := by
      rw [Nat.succ_mul, Nat.mul_left_comm]
    rw [hNext]
    omega

theorem quot_lt
    {a b m : Nat}
    (hPos : 0 < b)
    (hLess : a < b * 2 ^ m) :
    a * 2 ^ places / b < 2 ^ (m + places) := by
  rw [Nat.div_lt_iff_lt_mul hPos]
  calc
    a * 2 ^ places < b * 2 ^ m * 2 ^ places :=
      Nat.mul_lt_mul_of_pos_right hLess (Nat.two_pow_pos _)
    _ = 2 ^ (m + places) * b := by
      rw [Nat.mul_assoc, ← pow_add, Nat.mul_comm]

/- A number of so many digits after the point, as a quotient,
   is read back from them, if it is below a power of two that
   leaves room for them. -/
theorem nearestDecimal_roundQuot
    {digits a m : Nat}
    (hPrecision : 0 < precision)
    (hLess : a < 10 ^ digits * 2 ^ m)
    (hLarge : precision ≤ m + places)
    (hRoom : 10 ^ digits * 2 ^ m < 2 ^ precision) :
    nearestDecimal places digits
        (roundQuot precision (a * 2 ^ places) (10 ^ digits)) =
      a := by
  have hPos : 0 < 10 ^ digits := Nat.pow_pos (by decide)
  have hQuot :
      a * 2 ^ places / 10 ^ digits < 2 ^ (m + places) :=
    quot_lt hPos hLess
  have hUnit := ulp_le hPrecision hQuot hLarge
  have hHalf :=
    two_mul_dist_roundQuot_le precision (a * 2 ^ places) hPos
  apply nearestDecimal_eq
  refine lt_of_le_of_lt hHalf ?_
  apply Nat.lt_of_mul_lt_mul_right (a := 2 ^ precision)
  calc
    ulp precision (a * 2 ^ places / 10 ^ digits) *
          10 ^ digits * 2 ^ precision ≤
        2 ^ (m + places - precision) * 10 ^ digits *
          2 ^ precision :=
      Nat.mul_le_mul_right _ (Nat.mul_le_mul_right _ hUnit)
    _ = 10 ^ digits * 2 ^ m * 2 ^ places := by
      rw [Nat.mul_right_comm, ← pow_add,
        Nat.sub_add_cancel hLarge, pow_add, Nat.mul_comm,
        Nat.mul_assoc]
    _ < 2 ^ places * 2 ^ precision := by
      rw [Nat.mul_comm (2 ^ places)]
      exact Nat.mul_lt_mul_of_pos_right hRoom
        (Nat.two_pow_pos _)

theorem roundQuot_le
    {a b m : Nat}
    (hPrecision : 0 < precision)
    (hPos : 0 < b)
    (hLess : a < b * 2 ^ m)
    (hLarge : precision ≤ m + places) :
    roundQuot precision (a * 2 ^ places) b ≤
      2 ^ (m + places) := by
  rcases roundQuot_eq precision (a * 2 ^ places) hPos with
    ⟨k, hLE, hQuot, _⟩
  have hUnit := ulp_le hPrecision (quot_lt hPos hLess) hLarge
  calc
    roundQuot precision (a * 2 ^ places) b ≤
        2 ^ precision * 2 ^ (m + places - precision) := by
      rw [hQuot]
      exact Nat.mul_le_mul hLE hUnit
    _ = 2 ^ (m + places) := by
      rw [← pow_add, Nat.add_sub_cancel' hLarge]

/- Such a quotient is in range. -/
theorem Whole.value?_div
    {x y : Whole F}
    {a b m : Nat}
    (hX : x.value? = some a)
    (hY : y.value? = some b)
    (hPos : 0 < b)
    (hLess : a < b * 2 ^ m)
    (hLarge : F.precision ≤ m + places)
    (hRange : m < F.range) :
    (x.div places y).value? =
      some (roundQuot F.precision (a * 2 ^ places) b) := by
  rcases value?_eq_some_iff.mp hX with ⟨_, _, rfl⟩
  rcases value?_eq_some_iff.mp hY with ⟨_, _, rfl⟩
  have hFits :
      roundQuot F.precision (a * 2 ^ places) b <
        2 ^ (F.fine places).range :=
    (roundQuot_le F.precision_pos hPos hLess hLarge).trans_lt
      (Nat.pow_lt_pow_right (by decide)
        (Nat.add_lt_add_right hRange places))
  rw [Whole.div, dif_pos hPos]
  exact congrArg Whole.value? (dif_pos hFits)

end BinaryFormat
