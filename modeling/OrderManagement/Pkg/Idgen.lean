import OrderManagement.Library.BitFields

/-
  The snowflake generator of the package `idgen`. It holds
  its mutex for a whole call, so a call is one step; the
  clock is what a call reads from it. A call that has not
  ended with its readings still waits.

  Main declarations:
    * `Snowflake` and `Snowflake.nextIDWithError`
    * `Snowflake.Next` and
      `Snowflake.next_of_nextIDWithError`
    * `Snowflake.id_eq_iff`
-/

namespace OrderManagement

------------------------------------------------------------
-- The Generator
------------------------------------------------------------

/- 2024-01-01 00:00:00 UTC in milliseconds. -/
def defaultEpoch : Int64 := 1704067200000

def maxWorkerID : Int64 := 1023

def maxSequence : Int64 := 4095

def timeShift : Int64 := 22

def workerShift : Int64 := 12

inductive IdgenError
| invalidWorkerID (got max : Int64)
| invalidEpoch
| clockMovedBack (drift : Int64)
deriving DecidableEq, Repr

structure Snowflake where
  epoch : Int64
  workerID : Int64
  lastTimestamp : Int64
  sequence : Int64
deriving DecidableEq, Repr

def newSnowflakeWithEpoch
    (workerID epoch now : Int64) :
    Except IdgenError Snowflake :=
  if workerID < 0 ∨ maxWorkerID < workerID then
    .error (.invalidWorkerID workerID maxWorkerID)
  else if epoch ≤ 0 ∨ now < epoch then
    .error .invalidEpoch
  else
    .ok {
      epoch
      workerID
      lastTimestamp := -1
      sequence := 0 }

def newSnowflake
    (workerID now : Int64) : Except IdgenError Snowflake :=
  newSnowflakeWithEpoch workerID defaultEpoch now

namespace Snowflake

/- The next reading of the clock. -/
def currentTime
    (readings : List Int64) : Option (Int64 × List Int64) :=
  match readings with
  | [] => none
  | now :: readings => some (now, readings)

/- After a small step back the clock is read once more. -/
def catchUp
    (s : Snowflake)
    (now : Int64)
    (readings : List Int64) : Option (Int64 × List Int64) :=
  if now < s.lastTimestamp ∧ s.lastTimestamp - now ≤ 100 then
    currentTime readings
  else
    some (now, readings)

/- The clock is read until it has passed a millisecond. -/
def waitPast
    (lastTimestamp now : Int64) :
    List Int64 → Option (Int64 × List Int64)
| [] =>
    if now ≤ lastTimestamp then none else some (now, [])
| next :: readings =>
    if now ≤ lastTimestamp then
      waitPast lastTimestamp next readings
    else
      some (now, next :: readings)

def advance
    (s : Snowflake)
    (now : Int64)
    (readings : List Int64) : Option (Snowflake × List Int64) :=
  if now = s.lastTimestamp then
    let sequence := (s.sequence + 1) &&& maxSequence
    if sequence = 0 then do
      let (now, readings) ←
        waitPast s.lastTimestamp now readings
      return ({ s with
        lastTimestamp := now
        sequence := sequence }, readings)
    else
      some ({ s with sequence := sequence }, readings)
  else
    some ({ s with lastTimestamp := now, sequence := 0 },
      readings)

def id
    (s : Snowflake) : Int64 :=
  (s.lastTimestamp - s.epoch) <<< timeShift |||
    s.workerID <<< workerShift ||| s.sequence

/- The result, the generator after the call, and the
   readings that the call left. -/
def nextIDWithError
    (s : Snowflake)
    (readings : List Int64) :
    Option
      (Except IdgenError Int64 × Snowflake × List Int64) := do
  let (now, readings) ← currentTime readings
  let (now, readings) ← s.catchUp now readings
  if now < s.lastTimestamp then
    return (.error (.clockMovedBack (s.lastTimestamp - now)),
      s, readings)
  else
    let (s', readings) ← s.advance now readings
    return (.ok s'.id, s', readings)

------------------------------------------------------------
-- What a Call Does
------------------------------------------------------------

/- The sequence number stands in its twelve bits, and the
   worker in its ten. -/
structure Sound
    (s : Snowflake) : Prop where
  sequence : s.sequence.toBitVec.toNat < 2 ^ 12
  workerID : s.workerID.toBitVec.toNat < 2 ^ 10

/- How a call ends whose last reading is `now`. -/
inductive Next
    (s : Snowflake)
    (now : Int64) :
    Except IdgenError Int64 → Snowflake → Prop
| refused (drift : Int64) :
    Next s now (.error (.clockMovedBack drift)) s
| again
    {s' : Snowflake}
    (hAfter :
      s' = { s with sequence := s'.sequence })
    (hNow : now = s.lastTimestamp)
    (hRoom : s.sequence.toBitVec.toNat + 1 < 2 ^ 12)
    (hSequence :
      s'.sequence.toBitVec.toNat =
        s.sequence.toBitVec.toNat + 1) :
    Next s now (.ok s'.id) s'
| later
    {s' : Snowflake}
    (hAfter :
      s' = { s with lastTimestamp := now, sequence := 0 })
    (hNow : s.lastTimestamp < now) :
    Next s now (.ok s'.id) s'

theorem catchUp_reads
    {s : Snowflake}
    {now now' : Int64}
    {readings rest : List Int64}
    (hRead : s.catchUp now readings = some (now', rest)) :
    ∃ used, now :: readings = used ++ now' :: rest := by
  unfold catchUp at hRead
  split at hRead
  · cases readings with
    | nil => cases hRead
    | cons next readings =>
        cases hRead
        exact ⟨[now], rfl⟩
  · cases hRead
    exact ⟨[], rfl⟩

theorem waitPast_reads
    {lastTimestamp now now' : Int64}
    {readings rest : List Int64}
    (hRead :
      waitPast lastTimestamp now readings =
        some (now', rest)) :
    lastTimestamp < now' ∧
      ∃ used, now :: readings = used ++ now' :: rest := by
  induction readings generalizing now with
  | nil =>
      unfold waitPast at hRead
      split at hRead
      case isTrue => cases hRead
      case isFalse hPassed =>
        cases hRead
        exact ⟨Int64.not_le.mp hPassed, [], rfl⟩
  | cons next readings ih =>
      unfold waitPast at hRead
      split at hRead
      case isTrue =>
        rcases ih hRead with ⟨hLater, used, hUsed⟩
        exact ⟨hLater, now :: used, by rw [hUsed]; rfl⟩
      case isFalse hPassed =>
        cases hRead
        exact ⟨Int64.not_le.mp hPassed, [], rfl⟩

/- The next sequence number, or zero after the last one. -/
theorem sequence_succ
    {s : Snowflake}
    (hSound : s.Sound) :
    ((s.sequence + 1) &&& maxSequence).toBitVec.toNat =
      (s.sequence.toBitVec.toNat + 1) % 2 ^ 12 := by
  have hSequence := hSound.sequence
  have hMask : maxSequence.toBitVec.toNat = 2 ^ 12 - 1 := rfl
  have hOne : (1 : Int64).toBitVec.toNat = 1 := rfl
  rw [Int64.toBitVec_and, BitVec.toNat_and, hMask,
    Nat.and_two_pow_sub_one_eq_mod, Int64.toBitVec_add,
    BitVec.toNat_add, hOne]
  omega

theorem next_of_advance
    {s s' : Snowflake}
    {now : Int64}
    {readings rest : List Int64}
    (hSound : s.Sound)
    (hNow : ¬ now < s.lastTimestamp)
    (hAdvance : s.advance now readings = some (s', rest)) :
    ∃ used now',
      now :: readings = used ++ now' :: rest ∧
        s.Next now' (.ok s'.id) s' := by
  unfold advance at hAdvance
  split at hAdvance
  case isTrue hSame =>
    dsimp only at hAdvance
    split at hAdvance
    case isTrue hZero =>
      -- the millisecond has no number left
      simp only [Option.bind_eq_bind, Option.bind_eq_some_iff,
        Option.pure_def, Option.some.injEq, Prod.mk.injEq]
        at hAdvance
      rcases hAdvance with ⟨⟨now', _⟩, hWait, rfl, rfl⟩
      rcases waitPast_reads hWait with ⟨hLater, used, hUsed⟩
      refine ⟨used, now', hUsed, Next.later ?_ hLater⟩
      rw [hZero]
    case isFalse hNonzero =>
      cases hAdvance
      have hSucc := sequence_succ hSound
      have hSequence := hSound.sequence
      have hPositive :
          ((s.sequence + 1) &&& maxSequence).toBitVec.toNat ≠ 0 := by
        intro hZero
        apply hNonzero
        apply Int64.toBitVec_inj.mp
        exact BitVec.eq_of_toNat_eq hZero
      refine ⟨[], now, rfl, Next.again rfl hSame ?_ ?_⟩
      · omega
      · dsimp only
        omega
  case isFalse hOther =>
    cases hAdvance
    refine ⟨[], now, rfl, Next.later rfl ?_⟩
    rw [Int64.lt_iff_toInt_lt] at hNow ⊢
    have hNe : now.toInt ≠ s.lastTimestamp.toInt :=
      fun hEq => hOther (Int64.toInt_inj.mp hEq)
    omega

/- A call that has ended used its readings up to one. -/
theorem next_of_nextIDWithError
    {s s' : Snowflake}
    {readings rest : List Int64}
    {result : Except IdgenError Int64}
    (hSound : s.Sound)
    (hNext :
      s.nextIDWithError readings = some (result, s', rest)) :
    ∃ used now,
      readings = used ++ now :: rest ∧
        s.Next now result s' := by
  unfold nextIDWithError at hNext
  simp only [Option.bind_eq_bind, Option.bind_eq_some_iff]
    at hNext
  rcases hNext with
    ⟨⟨first, readings₁⟩, hFirst, ⟨now, readings₂⟩, hCatch,
      hRest⟩
  cases readings with
  | nil => cases hFirst
  | cons first readings =>
      cases hFirst
      rcases catchUp_reads hCatch with ⟨used, hUsed⟩
      split at hRest
      case isTrue =>
        cases hRest
        exact ⟨used, now, hUsed, Next.refused _⟩
      case isFalse hNow =>
        simp only [Option.bind_eq_some_iff, Option.pure_def,
          Option.some.injEq, Prod.mk.injEq] at hRest
        rcases hRest with
          ⟨⟨_, _⟩, hAdvance, rfl, rfl, rfl⟩
        rcases next_of_advance hSound hNow hAdvance with
          ⟨used', now', hUsed', hAfter⟩
        exact ⟨used ++ used', now', by
          rw [hUsed, hUsed', List.append_assoc], hAfter⟩

theorem Next.sound
    {s s' : Snowflake}
    {now : Int64}
    {result : Except IdgenError Int64}
    (hNext : s.Next now result s')
    (hSound : s.Sound) :
    s'.Sound := by
  cases hNext with
  | refused => exact hSound
  | again hAfter _ hRoom hSequence =>
      constructor
      · omega
      · rw [hAfter]
        exact hSound.workerID
  | later hAfter =>
      rw [hAfter]
      exact ⟨Nat.two_pow_pos 12, hSound.workerID⟩

/- The epoch and the worker never change. -/
theorem Next.fixed
    {s s' : Snowflake}
    {now : Int64}
    {result : Except IdgenError Int64}
    (hNext : s.Next now result s') :
    s'.epoch = s.epoch ∧ s'.workerID = s.workerID := by
  cases hNext with
  | refused => exact ⟨rfl, rfl⟩
  | again hAfter | later hAfter =>
      rw [hAfter]
      exact ⟨rfl, rfl⟩

/- The constructor takes no epoch before 1970. -/
theorem sound_of_newSnowflakeWithEpoch
    {s : Snowflake}
    {workerID epoch now : Int64}
    (hNew : newSnowflakeWithEpoch workerID epoch now = .ok s) :
    s.Sound ∧
      s.epoch = epoch ∧ s.workerID = workerID ∧
      s.lastTimestamp = -1 ∧ 0 < epoch := by
  unfold newSnowflakeWithEpoch at hNew
  split at hNew
  case isTrue => cases hNew
  case isFalse hWorker =>
    split at hNew
    case isTrue => cases hNew
    case isFalse hEpoch =>
      cases hNew
      refine ⟨⟨Nat.two_pow_pos 12, ?_⟩, rfl, rfl, rfl,
        Int64.not_le.mp (not_or.mp hEpoch).1⟩
      rw [not_or, Int64.not_lt, Int64.not_lt,
        Int64.le_iff_toInt_le, Int64.le_iff_toInt_le] at hWorker
      have hZero : (0 : Int64).toInt = 0 := rfl
      have hMax : maxWorkerID.toInt = 1023 := rfl
      have hToInt :=
        BitVec.toInt_eq_toNat_cond workerID.toBitVec
      have hSame : workerID.toBitVec.toInt = workerID.toInt := rfl
      have hBound := workerID.toBitVec.isLt
      dsimp only
      split at hToInt <;> omega

theorem sound_of_newSnowflake
    {s : Snowflake}
    {workerID now : Int64}
    (hNew : newSnowflake workerID now = .ok s) :
    s.Sound ∧
      s.epoch = defaultEpoch ∧ s.workerID = workerID ∧
      s.lastTimestamp = -1 := by
  rcases sound_of_newSnowflakeWithEpoch hNew with
    ⟨hSound, hEpoch, hWorker, hLast, _⟩
  exact ⟨hSound, hEpoch, hWorker, hLast⟩

------------------------------------------------------------
-- The Fields of an Id
------------------------------------------------------------

/- Two milliseconds that agree in the 42 bits that the shift
   leaves to them. -/
def SameMillis
    (t t' : Int64) : Prop :=
  t <<< timeShift = t' <<< timeShift

instance (t t' : Int64) : Decidable (SameMillis t t') :=
  inferInstanceAs (Decidable (_ = _))

theorem sameMillis_iff
    (t t' epoch : Int64) :
    SameMillis t t' ↔
      (t - epoch).toBitVec <<< 22 =
        (t' - epoch).toBitVec <<< 22 := by
  have hShift : timeShift.toBitVec.smod 64 = 22 := by decide
  unfold SameMillis
  rw [← Int64.toBitVec_inj, Int64.toBitVec_shiftLeft,
    Int64.toBitVec_shiftLeft, hShift, Int64.toBitVec_sub,
    Int64.toBitVec_sub]
  exact (BitFields.sub_shiftLeft_inj _ _ _).symm

/- Worker and sequence stand below the time. -/
theorem toBitVec_id
    (s : Snowflake) :
    s.id.toBitVec =
      ((s.lastTimestamp - s.epoch).toBitVec <<< 10 |||
        s.workerID.toBitVec) <<< 12 |||
        s.sequence.toBitVec := by
  have hTime : timeShift.toBitVec.smod 64 = 22 := by decide
  have hWorker : workerShift.toBitVec.smod 64 = 12 := by decide
  unfold id
  rw [Int64.toBitVec_or, Int64.toBitVec_or,
    Int64.toBitVec_shiftLeft, Int64.toBitVec_shiftLeft, hTime,
    hWorker, BitVec.shiftLeft_or_distrib, ← BitVec.shiftLeft_add]
  rfl

theorem id_eq_iff
    {s s' : Snowflake}
    (hSound : s.Sound)
    (hSound' : s'.Sound)
    (hEpoch : s.epoch = s'.epoch) :
    s.id = s'.id ↔
      SameMillis s.lastTimestamp s'.lastTimestamp ∧
        s.workerID = s'.workerID ∧
        s.sequence = s'.sequence := by
  rw [← Int64.toBitVec_inj, toBitVec_id, toBitVec_id,
    BitFields.or_shiftLeft_inj hSound.sequence hSound'.sequence,
    BitVec.shiftLeft_or_distrib, BitVec.shiftLeft_or_distrib,
    ← BitVec.shiftLeft_add, ← BitVec.shiftLeft_add,
    BitFields.or_shiftLeft_inj
      (BitFields.shiftLeft_lt hSound.workerID)
      (BitFields.shiftLeft_lt hSound'.workerID),
    BitFields.shiftLeft_inj (by decide) hSound.workerID
      hSound'.workerID,
    sameMillis_iff _ _ s.epoch, ← Int64.toBitVec_inj,
    ← Int64.toBitVec_inj, hEpoch, and_assoc]

end Snowflake

end OrderManagement
