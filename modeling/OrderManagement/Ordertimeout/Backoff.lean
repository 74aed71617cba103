import OrderManagement.Ordertimeout.Worker

/-
  The pause between two attempts in the machine's own
  arithmetic. A Duration is an int64 of nanoseconds; its
  product wraps around, and the code tests by a division
  whether it would. The computed pause is the one that is
  meant, with the doubling done without a bound.

  Main declarations:
    * `calculateExponentialBackoff64`
    * `toInt_calculateExponentialBackoff64`
    * `BackoffLaw` with `backoff_law`
-/

namespace OrderManagement

------------------------------------------------------------
-- The Computation
------------------------------------------------------------

/- Ten minutes. -/
def maxOutboxBackoffDelay64 : Int64 := 600000000000

/- The function of the code, on the types of the code. -/
def calculateExponentialBackoff64
    (baseDelay attempts maxDelay : Int64) : Int64 :=
  if baseDelay ≤ 0 then
    0
  else
    let maxDelay :=
      if maxDelay ≤ 0 then maxOutboxBackoffDelay64
      else maxDelay
    if attempts ≤ 1 then
      if maxDelay < baseDelay then maxDelay else baseDelay
    else
      let shift := attempts - 1
      if 62 ≤ shift then
        maxDelay
      else
        let multiplier : Int64 := 1 <<< shift
        if maxDelay / baseDelay < multiplier then
          maxDelay
        else
          let delay := baseDelay * multiplier
          if maxDelay < delay ∨ delay ≤ 0 then maxDelay
          else delay

------------------------------------------------------------
-- No Overflow
------------------------------------------------------------

/- A shift below 62 is a power of two. -/
theorem toInt_one_shiftLeft
    {shift : Int64}
    (hLow : 0 ≤ shift.toInt)
    (hHigh : shift.toInt < 62) :
    ((1 : Int64) <<< shift).toInt = 2 ^ shift.toInt.toNat := by
  have hTable :
      ∀ k : Fin 62,
        ((1 : Int64) <<< Int64.ofNat k).toInt =
          2 ^ (k : Nat) := by
    decide +kernel
  have hSmall : shift.toInt.toNat < 62 := by omega
  have hShift : Int64.ofNat shift.toInt.toNat = shift := by
    apply Int64.toInt.inj
    rw [Int64.toInt_ofNat_of_lt (by omega)]
    exact Int.toNat_of_nonneg hLow
  have hEntry := hTable ⟨_, hSmall⟩
  rwa [hShift] at hEntry

/- The number of doublings does not wrap around. -/
theorem toInt_sub_one
    {attempts : Int64}
    (hMore : 1 < attempts.toInt) :
    (attempts - 1).toInt = attempts.toInt - 1 := by
  have hBound := attempts.toInt_lt
  rw [Int64.toInt_sub, Int64.toInt_one,
    Int.bmod_eq_of_le] <;> omega

/- A product that passes the test by division fits. -/
theorem toInt_mul_of_le_div
    {baseDelay multiplier maxDelay : Int64}
    (hBase : 0 < baseDelay.toInt)
    (hMultiplier : 0 < multiplier.toInt)
    (hFits :
      multiplier.toInt ≤ maxDelay.toInt / baseDelay.toInt) :
    (baseDelay * multiplier).toInt =
      baseDelay.toInt * multiplier.toInt := by
  have hBound := maxDelay.toInt_lt
  have hProduct :
      multiplier.toInt * baseDelay.toInt ≤ maxDelay.toInt :=
    (Int.le_ediv_iff_mul_le hBase).mp hFits
  have hPositive :
      0 < baseDelay.toInt * multiplier.toInt :=
    mul_pos hBase hMultiplier
  rw [mul_comm] at hProduct
  rw [Int64.toInt_mul, Int.bmod_eq_of_le] <;> omega

/-
  The machine computes what the function without a bound
  does: each branch is taken on the same values, and the one
  product that could wrap around has passed the test.
-/
theorem toInt_calculateExponentialBackoff64
    {baseDelay maxDelay : Int64}
    (attempts : Int64)
    (hBase : 0 < baseDelay)
    (hMax : 0 < maxDelay) :
    (calculateExponentialBackoff64 baseDelay attempts
        maxDelay).toInt =
      calculateExponentialBackoff baseDelay.toInt
        attempts.toInt maxDelay.toInt := by
  have hBase' : 0 < baseDelay.toInt :=
    Int64.lt_iff_toInt_lt.mp hBase
  have hMax' : 0 < maxDelay.toInt :=
    Int64.lt_iff_toInt_lt.mp hMax
  have hOne : (1 : Int64).toInt = 1 := Int64.toInt_one
  unfold calculateExponentialBackoff64
    calculateExponentialBackoff
  rw [if_neg (Int64.not_le.mpr hBase),
    if_neg (Int64.not_le.mpr hMax), if_neg (not_le.mpr hBase'),
    if_neg (not_le.mpr hMax')]
  by_cases hFirst : attempts.toInt ≤ 1
  · have hFirst' : attempts ≤ 1 :=
      Int64.le_iff_toInt_le.mpr hFirst
    simp only [hFirst, hFirst', if_true,
      Int64.lt_iff_toInt_lt]
    split <;> rfl
  · have hFirst' : ¬ attempts ≤ 1 := fun hLe =>
      hFirst (Int64.le_iff_toInt_le.mp hLe)
    have hShift := toInt_sub_one (not_le.mp hFirst)
    have hLimit : (62 : Int64).toInt = 62 := by decide
    simp only [hFirst, hFirst', if_false,
      Int64.le_iff_toInt_le, Int64.lt_iff_toInt_lt, hShift,
      hLimit]
    by_cases hLong : 62 ≤ attempts.toInt - 1
    · simp only [hLong, if_true]
    · have hPower :
          ((1 : Int64) <<< (attempts - 1)).toInt =
            2 ^ (attempts.toInt - 1).toNat := by
        rw [toInt_one_shiftLeft] <;> rw [hShift] <;> omega
      have hQuotient :
          (maxDelay / baseDelay).toInt =
            maxDelay.toInt / baseDelay.toInt := by
        rw [Int64.toInt_div_of_ne_right,
          Int.tdiv_eq_ediv_of_nonneg hMax'.le]
        rintro rfl
        exact absurd hBase (by decide)
      simp only [hLong, if_false, hPower, hQuotient]
      split
      case isTrue => rfl
      case isFalse hFits =>
        have hProduct :=
          toInt_mul_of_le_div hBase'
            (show 0 < ((1 : Int64) <<< (attempts - 1)).toInt by
              rw [hPower]
              positivity)
            (show _ ≤ maxDelay.toInt / baseDelay.toInt by
              rw [hPower]
              exact not_lt.mp hFits)
        rw [hPower] at hProduct
        rw [hProduct, Int64.toInt_zero]
        split
        case isTrue => rfl
        case isFalse => exact hProduct

------------------------------------------------------------
-- The Law of the Pause
------------------------------------------------------------

/- The pause that is meant: doubled with every attempt after
   the first, and cut off at the maximum. -/
def doubledDelay
    (baseDelay attempts maxDelay : Int) : Int :=
  min maxDelay
    (baseDelay * 2 ^ (max attempts 1 - 1).toNat)

/- From 62 doublings on, the maximum is reached. -/
theorem calculateExponentialBackoff_eq_doubledDelay
    {baseDelay maxDelay : Int}
    (attempts : Int)
    (hBase : 0 < baseDelay)
    (hMax : 0 < maxDelay)
    (hBound : maxDelay ≤ 2 ^ 62) :
    calculateExponentialBackoff baseDelay attempts maxDelay =
      doubledDelay baseDelay attempts maxDelay := by
  rw [calculateExponentialBackoff_eq attempts hBase hMax,
    doubledDelay]
  have hShift :
      (max attempts 1 - 1).toNat = (attempts - 1).toNat := by
    omega
  rw [hShift]
  split
  case isFalse => rfl
  case isTrue hLong =>
    refine (min_eq_left ?_).symm
    calc
      maxDelay ≤ 2 ^ 62 := hBound
      _ ≤ 2 ^ (attempts - 1).toNat :=
        pow_le_pow_right₀ (by decide) (by omega)
      _ ≤ baseDelay * 2 ^ (attempts - 1).toNat :=
        le_mul_of_one_le_left (by positivity) hBase

/- What the computed pause is, for one pair of delays. -/
structure BackoffLaw
    (baseDelay maxDelay : Int64) : Prop where
  exact :
    ∀ attempts,
      (calculateExponentialBackoff64 baseDelay attempts
          maxDelay).toInt =
        min maxDelay.toInt
          (baseDelay.toInt *
            2 ^ (max attempts.toInt 1 - 1).toNat)
  positive :
    ∀ attempts,
      0 < calculateExponentialBackoff64 baseDelay attempts
        maxDelay
  bounded :
    ∀ attempts,
      calculateExponentialBackoff64 baseDelay attempts
        maxDelay ≤ maxDelay
  monotone :
    ∀ attempts attempts', attempts ≤ attempts' →
      calculateExponentialBackoff64 baseDelay attempts
          maxDelay ≤
        calculateExponentialBackoff64 baseDelay attempts'
          maxDelay

theorem backoff_law
    {baseDelay maxDelay : Int64}
    (hBase : 0 < baseDelay)
    (hMax : 0 < maxDelay)
    (hBound : maxDelay.toInt ≤ 2 ^ 62) :
    BackoffLaw baseDelay maxDelay := by
  have hBase' : 0 < baseDelay.toInt :=
    Int64.lt_iff_toInt_lt.mp hBase
  have hMax' : 0 < maxDelay.toInt :=
    Int64.lt_iff_toInt_lt.mp hMax
  have hMachine := fun attempts =>
    toInt_calculateExponentialBackoff64 attempts hBase hMax
  have hExact :
      ∀ attempts,
        (calculateExponentialBackoff64 baseDelay attempts
            maxDelay).toInt =
          doubledDelay baseDelay.toInt attempts.toInt
            maxDelay.toInt := by
    intro attempts
    rw [hMachine,
      calculateExponentialBackoff_eq_doubledDelay _ hBase'
        hMax' hBound]
  constructor
  · exact hExact
  · intro attempts
    rw [Int64.lt_iff_toInt_lt, hExact, Int64.toInt_zero]
    exact lt_min hMax' (by positivity)
  · intro attempts
    rw [Int64.le_iff_toInt_le, hExact]
    exact min_le_left _ _
  · intro attempts attempts' hMore
    rw [Int64.le_iff_toInt_le, hMachine, hMachine]
    exact calculateExponentialBackoff_mono hBase' hMax'
      (Int64.le_iff_toInt_le.mp hMore)

/- The pauses of a worker that retries every five seconds. -/
theorem backoff_law_five_seconds :
    BackoffLaw 5000000000 maxOutboxBackoffDelay64 ∧
      [-3, 1, 2, 3, 7, 8, 9000000000000000000].map
          (fun attempts =>
            calculateExponentialBackoff64 5000000000 attempts
              maxOutboxBackoffDelay64) =
        [5000000000, 5000000000, 10000000000, 20000000000,
          320000000000, 600000000000, 600000000000] :=
  ⟨backoff_law (by decide) (by decide) (by decide),
    by decide +kernel⟩

end OrderManagement
