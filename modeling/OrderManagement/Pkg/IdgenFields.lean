import OrderManagement.Pkg.Idgen

/-
  An id as a number. While the clock stands in the 2^41
  milliseconds from the epoch on, the three fields of an id
  lie side by side below the sign bit, and shifts and masks
  give them back.

  Main declarations:
    * `Snowflake.InEpoch`
    * `Snowflake.Decodes` and `Snowflake.decodes`
    * `Snowflake.toInt_id`
-/

namespace OrderManagement

namespace Snowflake

/- The time since the epoch fits the field that is above
   worker and sequence. -/
structure InEpoch
    (s : Snowflake) : Prop where
  epoch : 0 < s.epoch
  reached : s.epoch.toInt ≤ s.lastTimestamp.toInt
  inside :
    s.lastTimestamp.toInt < s.epoch.toInt + 2 ^ 41

/- What a reader gets from an id with the constants of the
   layout. -/
structure Decodes
    (id timestamp epoch workerID sequence : Int64) :
    Prop where
  timeField : id >>> timeShift = timestamp - epoch
  workerField : id >>> workerShift &&& maxWorkerID = workerID
  sequenceField : id &&& maxSequence = sequence
  inRange : 0 ≤ sequence ∧ sequence ≤ maxSequence

------------------------------------------------------------
-- The Three Fields
------------------------------------------------------------

theorem InEpoch.toInt_time
    {s : Snowflake}
    (hIn : s.InEpoch) :
    (s.lastTimestamp - s.epoch).toInt =
      s.lastTimestamp.toInt - s.epoch.toInt :=
  Int64.toInt_sub_of_le _ _ (Int64.le_of_lt hIn.epoch)
    (Int64.le_iff_toInt_le.mpr hIn.reached)

theorem toInt_eq_toNat
    {x : Int64}
    (hNonneg : 0 ≤ x.toInt) :
    x.toInt = x.toBitVec.toNat := by
  have hCond := BitVec.toInt_eq_toNat_cond x.toBitVec
  have hSame : x.toBitVec.toInt = x.toInt := rfl
  have hBound := x.toBitVec.isLt
  split at hCond <;> omega

theorem InEpoch.toNat_time
    {s : Snowflake}
    (hIn : s.InEpoch) :
    (s.lastTimestamp - s.epoch).toBitVec.toNat < 2 ^ 41 := by
  have hTime := hIn.toInt_time
  have hReached := hIn.reached
  have hInside := hIn.inside
  have hNat :=
    toInt_eq_toNat (x := s.lastTimestamp - s.epoch) (by omega)
  omega

theorem toNat_id
    {s : Snowflake}
    (hSound : s.Sound)
    (hIn : s.InEpoch) :
    s.id.toBitVec.toNat =
      ((s.lastTimestamp - s.epoch).toBitVec.toNat * 2 ^ 10 +
        s.workerID.toBitVec.toNat) * 2 ^ 12 +
        s.sequence.toBitVec.toNat := by
  have hTime := hIn.toNat_time
  have hWorker := hSound.workerID
  have hAbove :
      ((s.lastTimestamp - s.epoch).toBitVec <<< 10 |||
        s.workerID.toBitVec).toNat =
        (s.lastTimestamp - s.epoch).toBitVec.toNat * 2 ^ 10 +
          s.workerID.toBitVec.toNat :=
    BitFields.toNat_or_shiftLeft (m := 41) (by omega) hTime
      hWorker
  rw [toBitVec_id, ← hAbove]
  apply BitFields.toNat_or_shiftLeft (m := 51) (by omega)
  · omega
  · exact hSound.sequence

/- The sign bit stays zero. -/
theorem toInt_id
    {s : Snowflake}
    (hSound : s.Sound)
    (hIn : s.InEpoch) :
    s.id.toInt = s.id.toBitVec.toNat := by
  have hID := toNat_id hSound hIn
  have hTime := hIn.toNat_time
  have hWorker := hSound.workerID
  have hSequence := hSound.sequence
  apply BitVec.toInt_eq_toNat_of_lt
  omega

------------------------------------------------------------
-- Decoding
------------------------------------------------------------

theorem toInt_shiftRight
    {x y : Int64}
    {k : Nat}
    (hShift : y.toBitVec.smod 64 = BitVec.ofNat 64 k)
    (hSmall : k < 64) :
    (x >>> y).toInt = x.toInt / 2 ^ k := by
  have hBits := Int64.toBitVec_shiftRight x y
  have hToNat : (BitVec.ofNat 64 k).toNat = k := by
    rw [BitVec.toNat_ofNat]
    omega
  rw [hShift] at hBits
  have hInt := congrArg BitVec.toInt hBits
  rw [BitVec.toInt_sshiftRight', hToNat,
    Int.shiftRight_eq_div_pow] at hInt
  exact_mod_cast hInt

theorem decodes
    {s : Snowflake}
    (hSound : s.Sound)
    (hIn : s.InEpoch) :
    Decodes s.id s.lastTimestamp s.epoch s.workerID
      s.sequence := by
  have hID := toNat_id hSound hIn
  have hInt := toInt_id hSound hIn
  have hTime := hIn.toInt_time
  have hReached := hIn.reached
  have hTimeNat :=
    toInt_eq_toNat (x := s.lastTimestamp - s.epoch) (by omega)
  have hWorker := hSound.workerID
  have hSequence := hSound.sequence
  have hUpper := toInt_shiftRight (x := s.id)
    (y := workerShift) (k := 12) (by decide) (by omega)
  constructor
  case timeField =>
    have hShift := toInt_shiftRight (x := s.id)
      (y := timeShift) (k := 22) (by decide) (by omega)
    apply Int64.toInt_inj.mp
    omega
  case workerField =>
    have hUpperNat := toInt_eq_toNat
      (x := s.id >>> workerShift) (by omega)
    have hMask :
        maxWorkerID.toBitVec.toNat = 2 ^ 10 - 1 := rfl
    apply Int64.toBitVec_inj.mp
    apply BitVec.eq_of_toNat_eq
    rw [Int64.toBitVec_and, BitVec.toNat_and, hMask,
      Nat.and_two_pow_sub_one_eq_mod]
    omega
  case sequenceField =>
    have hMask :
        maxSequence.toBitVec.toNat = 2 ^ 12 - 1 := rfl
    apply Int64.toBitVec_inj.mp
    apply BitVec.eq_of_toNat_eq
    rw [Int64.toBitVec_and, BitVec.toNat_and, hMask,
      Nat.and_two_pow_sub_one_eq_mod]
    omega
  case inRange =>
    have hMax : maxSequence.toInt = 4095 := rfl
    have hZero : (0 : Int64).toInt = 0 := rfl
    have hSmall : s.sequence.toInt = s.sequence.toBitVec.toNat :=
      BitVec.toInt_eq_toNat_of_lt (by omega)
    rw [Int64.le_iff_toInt_le, Int64.le_iff_toInt_le]
    omega

end Snowflake

end OrderManagement
