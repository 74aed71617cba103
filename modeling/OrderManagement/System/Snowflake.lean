import OrderManagement.Pkg.IdgenFields
import OrderManagement.System.OrderIDs

/-
  The snowflake generators on their clocks. Each generator
  has a worker and an epoch of its own and reads an endless
  clock that may stand still or jump back; its calls consume
  the readings one after the other.

  Main declarations:
    * `ClockedStep` and `NewGenerators`
    * `SnowflakeIDs`
    * `snowflake_ids`
-/

namespace OrderManagement

------------------------------------------------------------
-- A Call Takes What It Needs
------------------------------------------------------------

namespace Snowflake

theorem catchUp_takes
    {s : Snowflake}
    {now now' : Int64}
    {readings rest : List Int64}
    (hRead : s.catchUp now readings = some (now', rest)) :
    ∃ used, readings = used ++ rest ∧
      ∀ more,
        s.catchUp now (used ++ more) = some (now', more) := by
  unfold catchUp at hRead ⊢
  split at hRead
  case isTrue hBack =>
    cases readings with
    | nil => cases hRead
    | cons next readings =>
        cases hRead
        exact ⟨[now'], rfl, fun more => if_pos hBack⟩
  case isFalse hBack =>
    cases hRead
    exact ⟨[], rfl, fun more => if_neg hBack⟩

theorem waitPast_of_passed
    {lastTimestamp now : Int64}
    (hPassed : ¬ now ≤ lastTimestamp)
    (readings : List Int64) :
    waitPast lastTimestamp now readings =
      some (now, readings) := by
  cases readings with
  | nil =>
      unfold waitPast
      exact if_neg hPassed
  | cons next readings =>
      unfold waitPast
      exact if_neg hPassed

theorem waitPast_takes
    {lastTimestamp now now' : Int64}
    {readings rest : List Int64}
    (hRead :
      waitPast lastTimestamp now readings =
        some (now', rest)) :
    ∃ used, readings = used ++ rest ∧
      ∀ more,
        waitPast lastTimestamp now (used ++ more) =
          some (now', more) := by
  induction readings generalizing now with
  | nil =>
      unfold waitPast at hRead
      split at hRead
      case isTrue => cases hRead
      case isFalse hPassed =>
        cases hRead
        exact ⟨[], rfl, waitPast_of_passed hPassed⟩
  | cons next readings ih =>
      unfold waitPast at hRead
      split at hRead
      case isTrue hWait =>
        rcases ih hRead with ⟨used, hUsed, hTakes⟩
        refine ⟨next :: used, by rw [hUsed]; rfl, ?_⟩
        intro more
        rw [List.cons_append]
        unfold waitPast
        rw [if_pos hWait]
        exact hTakes more
      case isFalse hPassed =>
        cases hRead
        exact ⟨[], rfl, waitPast_of_passed hPassed⟩

theorem advance_takes
    {s s' : Snowflake}
    {now : Int64}
    {readings rest : List Int64}
    (hAdvance : s.advance now readings = some (s', rest)) :
    ∃ used, readings = used ++ rest ∧
      ∀ more,
        s.advance now (used ++ more) = some (s', more) := by
  unfold advance at hAdvance ⊢
  split at hAdvance
  case isTrue hSame =>
    dsimp only at hAdvance ⊢
    split at hAdvance
    case isTrue hZero =>
      simp only [Option.bind_eq_bind, Option.bind_eq_some_iff,
        Option.pure_def, Option.some.injEq, Prod.mk.injEq]
        at hAdvance
      rcases hAdvance with ⟨⟨now', _⟩, hWait, hAfter, rfl⟩
      rcases waitPast_takes hWait with ⟨used, hUsed, hTakes⟩
      refine ⟨used, hUsed, fun more => ?_⟩
      rw [if_pos hSame, if_pos hZero, hTakes more, ← hAfter]
      rfl
    case isFalse hNonzero =>
      cases hAdvance
      refine ⟨[], rfl, fun more => ?_⟩
      rw [if_pos hSame, if_neg hNonzero]
      rfl
  case isFalse hOther =>
    cases hAdvance
    exact ⟨[], rfl, fun more => if_neg hOther⟩

/- The readings behind those of a call do not matter to it. -/
theorem nextIDWithError_takes
    {s s' : Snowflake}
    {readings rest : List Int64}
    {result : Except IdgenError Int64}
    (hNext :
      s.nextIDWithError readings = some (result, s', rest)) :
    ∃ used, readings = used ++ rest ∧
      s.nextIDWithError used = some (result, s', []) := by
  cases readings with
  | nil => cases hNext
  | cons first readings =>
      unfold nextIDWithError currentTime at hNext
      simp only [Option.bind_eq_bind, Option.bind_some,
        Option.bind_eq_some_iff] at hNext
      rcases hNext with ⟨⟨now, readings'⟩, hCatch, hRest⟩
      rcases catchUp_takes hCatch with ⟨used, rfl, hCatches⟩
      split at hRest
      case isTrue hBack =>
        cases hRest
        refine ⟨first :: used, rfl, ?_⟩
        have hWhole := hCatches []
        rw [List.append_nil] at hWhole
        unfold nextIDWithError currentTime
        simp only [Option.bind_eq_bind, Option.bind_some,
          hWhole]
        exact if_pos hBack
      case isFalse hBack =>
        simp only [Option.bind_eq_some_iff, Option.pure_def,
          Option.some.injEq, Prod.mk.injEq] at hRest
        rcases hRest with
          ⟨⟨_, _⟩, hAdvance, rfl, rfl, rfl⟩
        rcases advance_takes hAdvance with
          ⟨used', rfl, hAdvances⟩
        refine ⟨first :: (used ++ used'), by simp, ?_⟩
        have hWhole := hAdvances []
        rw [List.append_nil] at hWhole
        unfold nextIDWithError currentTime
        simp only [Option.bind_eq_bind, Option.bind_some,
          hCatches used', if_neg hBack, hWhole]
        rfl

------------------------------------------------------------
-- A Call Returns
------------------------------------------------------------

theorem waitPast_returns
    {lastTimestamp now : Int64}
    {readings : List Int64}
    (hPasses : ∃ t ∈ readings, lastTimestamp < t) :
    ∃ now' rest,
      waitPast lastTimestamp now readings =
        some (now', rest) := by
  induction readings generalizing now with
  | nil =>
      rcases hPasses with ⟨t, hMem, _⟩
      cases hMem
  | cons next readings ih =>
      unfold waitPast
      split
      case isFalse => exact ⟨now, next :: readings, rfl⟩
      case isTrue =>
        by_cases hNext : next ≤ lastTimestamp
        · apply ih
          rcases hPasses with ⟨t, hMem, hLater⟩
          cases hMem with
          | head => exact absurd hLater (Int64.not_lt.mpr hNext)
          | tail _ hMem => exact ⟨t, hMem, hLater⟩
        · refine ⟨next, readings, ?_⟩
          cases readings <;>
          · unfold waitPast
            exact if_neg hNext

/- The clock is read twice before the spin. -/
theorem nextIDWithError_returns
    {s : Snowflake}
    {first second : Int64}
    {readings : List Int64}
    (hPasses : ∃ t ∈ readings, s.lastTimestamp < t) :
    ∃ result s' rest,
      s.nextIDWithError (first :: second :: readings) =
        some (result, s', rest) := by
  have hAdvance :
      ∀ now readings',
        (∃ t ∈ readings', s.lastTimestamp < t) →
          ∃ s' rest,
            s.advance now readings' = some (s', rest) := by
    intro now readings' hLater
    unfold advance
    dsimp only
    split
    · split
      · rcases @waitPast_returns _ now _ hLater with
          ⟨now', rest, hWait⟩
        rw [hWait]
        exact ⟨_, _, rfl⟩
      · exact ⟨_, _, rfl⟩
    · exact ⟨_, _, rfl⟩
  have hCatch :
      ∃ now readings',
        s.catchUp first (second :: readings) =
            some (now, readings') ∧
          ∃ t ∈ readings', s.lastTimestamp < t := by
    rcases hPasses with ⟨t, hMem, hLater⟩
    unfold catchUp
    split
    · exact ⟨second, readings, rfl, t, hMem, hLater⟩
    · exact ⟨first, second :: readings, rfl, t,
        List.mem_cons_of_mem _ hMem, hLater⟩
  rcases hCatch with ⟨now, readings', hCatches, hLater⟩
  unfold nextIDWithError currentTime
  simp only [Option.bind_eq_bind, Option.bind_some, hCatches]
  split
  · exact ⟨_, _, _, rfl⟩
  · rcases hAdvance now readings' hLater with
      ⟨s', rest, hAdvances⟩
    rw [hAdvances]
    exact ⟨_, _, _, rfl⟩

/- Later calls of one generator make greater ids. -/
theorem id_lt_of_before
    {s s' : Snowflake}
    (hSound : s.Sound)
    (hSound' : s'.Sound)
    (hIn : s.InEpoch)
    (hIn' : s'.InEpoch)
    (hEpoch : s.epoch = s'.epoch)
    (hWorker : s.workerID = s'.workerID)
    (hBefore : s.Before s') :
    s.id < s'.id := by
  have hID := toNat_id hSound hIn
  have hID' := toNat_id hSound' hIn'
  have hTime := hIn.toInt_time
  have hTime' := hIn'.toInt_time
  have hNat :=
    toInt_eq_toNat (x := s.lastTimestamp - s.epoch)
      (by have := hIn.reached; omega)
  have hNat' :=
    toInt_eq_toNat (x := s'.lastTimestamp - s'.epoch)
      (by have := hIn'.reached; omega)
  have hFits := hSound.workerID
  have hFits' := hSound'.workerID
  have hLow := hSound.sequence
  have hLow' := hSound'.sequence
  have hSameEpoch := congrArg Int64.toInt hEpoch
  rw [hWorker] at hID
  rw [Int64.lt_iff_toInt_lt, toInt_id hSound hIn,
    toInt_id hSound' hIn']
  rcases hBefore with hEarlier | ⟨hSame, hLess⟩
  · rw [Int64.lt_iff_toInt_lt] at hEarlier
    omega
  · rw [hSame, hEpoch] at hID
    omega

end Snowflake

variable {ι : Type} [DecidableEq ι]

------------------------------------------------------------
-- Generators on Clocks
------------------------------------------------------------

/- Generators as the constructor makes them. -/
def NewGenerators
    (workerID epoch : ι → Int64)
    (generators : ι → Snowflake) : Prop :=
  ∀ i, ∃ now,
    newSnowflakeWithEpoch (workerID i) (epoch i) now =
      .ok (generators i)

/- The state counts the readings that each generator has
   consumed from its clock. -/
inductive ClockedStep
    (clock : ι → Nat → Int64) :
    (ι → Snowflake) × (ι → Nat) → NextIDCall ι →
      (ι → Snowflake) × (ι → Nat) → Prop
| call
    {generators generators' : ι → Snowflake}
    {consumed : ι → Nat}
    {c : NextIDCall ι}
    (hReadings :
      c.readings =
        (List.range c.readings.length).map fun k =>
          clock c.process (consumed c.process + k))
    (hStep : NextIDStep generators c generators') :
    ClockedStep clock (generators, consumed) c
      (generators',
        Function.update consumed c.process
          (consumed c.process + c.readings.length))

/- The clock of a generator stands in the milliseconds that
   the 41 bits of its ids can count. -/
def ClocksInEpoch
    (epoch : ι → Int64)
    (clock : ι → Nat → Int64) : Prop :=
  ∀ i k,
    (epoch i).toInt ≤ (clock i k).toInt ∧
      (clock i k).toInt < (epoch i).toInt + 2 ^ 41

/-
  What holds after any calls: of the ids that they made, and
  of the next call. A call waits only for a reading that has
  passed the last millisecond, and one that fails leaves its
  generator as it was.
-/
structure SnowflakeIDs
    (workerID epoch : ι → Int64)
    (clock : ι → Nat → Int64)
    (calls : List (NextIDCall ι))
    (generators : ι → Snowflake)
    (consumed : ι → Nat) : Prop where
  increasing :
    calls.Pairwise fun c c' =>
      c.process = c'.process →
        ∀ id ∈ c.id, ∀ id' ∈ c'.id, id < id'
  inRange :
    ∀ c ∈ calls, ∀ id ∈ c.id,
      0 ≤ id.toInt ∧ id.toInt < 2 ^ 63
  decodes :
    ∀ c ∈ calls, ∀ id ∈ c.id,
      ∃ timestamp ∈ c.millis, ∃ sequence,
        Snowflake.Decodes id timestamp (epoch c.process)
          (workerID c.process) sequence
  distinct :
    ∀ c ∈ calls, ∀ c' ∈ calls,
      workerID c.process ≠ workerID c'.process →
        ∀ id ∈ c.id, ∀ id' ∈ c'.id, id ≠ id'
  refused :
    ∀ c generators' consumed' e,
      ClockedStep clock (generators, consumed) c
          (generators', consumed') →
        c.result = .error e →
          generators' = generators
  returns :
    ∀ i k,
      consumed i + 2 ≤ k →
        (generators i).lastTimestamp < clock i k →
          ∃ c generators' consumed',
            c.process = i ∧
              ClockedStep clock (generators, consumed) c
                (generators', consumed')

theorem numbered_of_clocked
    {clock : ι → Nat → Int64}
    {start : ι → Snowflake}
    {calls : List (NextIDCall ι)}
    {state : (ι → Snowflake) × (ι → Nat)}
    (hSound : ∀ i, (start i).Sound)
    (hRun :
      Transition.Run (ClockedStep clock) (start, fun _ => 0)
        calls state) :
    Numbered start calls state.1 := by
  apply hRun.history
    (P := fun calls state => Numbered start calls state.1)
  · exact Numbered.start hSound
  · intro calls state c state' _ hNumbered hStep
    cases hStep with
    | call _ hCall => exact hNumbered.step hCall

/- Every generator that made an id stands in its epoch. -/
theorem inEpoch_of_clocked
    {workerID epoch : ι → Int64}
    {clock : ι → Nat → Int64}
    {start : ι → Snowflake}
    {calls : List (NextIDCall ι)}
    {state : (ι → Snowflake) × (ι → Nat)}
    (hNew : NewGenerators workerID epoch start)
    (hClock : ClocksInEpoch epoch clock)
    (hRun :
      Transition.Run (ClockedStep clock) (start, fun _ => 0)
        calls state)
    {c : NextIDCall ι}
    (hMem : c ∈ calls)
    {id : Int64}
    (hID : c.id = some id) :
    c.after.InEpoch := by
  have hSound i :=
    let ⟨_, hNow⟩ := hNew i
    Snowflake.sound_of_newSnowflakeWithEpoch hNow
  have hNumbered :=
    numbered_of_clocked (fun i => (hSound i).1) hRun
  rcases hNumbered.made c hMem id hID with
    ⟨_, _, hMillis, hEpoch, _⟩
  rcases hSound c.process with ⟨_, hIs, _, _, hPositive⟩
  rw [hIs] at hEpoch
  have hRead : c.after.lastTimestamp ∈ c.readings := by
    unfold NextIDCall.millis at hMillis
    cases hResult : c.result with
    | error e =>
        rw [hResult] at hMillis
        cases hMillis
    | ok id =>
        rw [hResult] at hMillis
        exact List.mem_of_getLast? hMillis
  rcases hRun.exists_step_of_mem hMem with
    ⟨_, _, _, _, _, _, hStep, _⟩
  cases hStep with
  | @call _ _ consumed _ hReadings _ =>
      rw [hReadings, List.mem_map] at hRead
      rcases hRead with ⟨k, _, hReading⟩
      have hIn := hClock c.process (consumed c.process + k)
      rw [hReading] at hIn
      constructor
      · rw [hEpoch]
        exact hPositive
      · rw [hEpoch]
        exact hIn.1
      · rw [hEpoch]
        exact hIn.2

theorem ClockedStep.refused
    {clock : ι → Nat → Int64}
    {generators generators' : ι → Snowflake}
    {consumed consumed' : ι → Nat}
    {c : NextIDCall ι}
    {e : IdgenError}
    (hSound : ∀ i, (generators i).Sound)
    (hStep :
      ClockedStep clock (generators, consumed) c
        (generators', consumed'))
    (hError : c.result = .error e) :
    generators' = generators := by
  have hNone : c.id = none := by
    unfold NextIDCall.id
    rw [hError]
  cases hStep with
  | call _ hCall =>
      rcases hCall.went hSound with ⟨rfl, _, _, _, hWent⟩
      cases hWent with
      | panicked _ _ hKept =>
          rw [hKept]
          exact Function.update_eq_self _ _
      | made hSome =>
          rw [hNone] at hSome
          cases hSome

theorem clocked_returns
    {clock : ι → Nat → Int64}
    {generators : ι → Snowflake}
    {consumed : ι → Nat}
    {i : ι}
    {k : Nat}
    (hLater : consumed i + 2 ≤ k)
    (hPasses : (generators i).lastTimestamp < clock i k) :
    ∃ c generators' consumed',
      c.process = i ∧
        ClockedStep clock (generators, consumed) c
          (generators', consumed') := by
  let readings :=
    (List.range (k + 1 - consumed i)).map fun n =>
      clock i (consumed i + n)
  have hSplit :
      readings =
        clock i (consumed i) :: clock i (consumed i + 1) ::
          (List.range (k - 1 - consumed i)).map fun n =>
            clock i (consumed i + (n + 2)) := by
    have hLength :
        k + 1 - consumed i = k - 1 - consumed i + 1 + 1 := by
      omega
    simp only [readings, hLength, List.range_succ_eq_map,
      List.map_cons, List.map_map]
    rfl
  have hMem :
      ∃ t ∈ (List.range (k - 1 - consumed i)).map fun n =>
          clock i (consumed i + (n + 2)),
        (generators i).lastTimestamp < t := by
    refine ⟨clock i k, List.mem_map.mpr ?_, hPasses⟩
    refine ⟨k - 2 - consumed i, ?_, ?_⟩
    · rw [List.mem_range]
      omega
    · rw [show consumed i + (k - 2 - consumed i + 2) = k by
        omega]
  rcases Snowflake.nextIDWithError_returns hMem with
    ⟨result, after, rest, hReturns⟩
  rw [← hSplit] at hReturns
  rcases Snowflake.nextIDWithError_takes hReturns with
    ⟨used, hUsed, hTakes⟩
  have hPrefix :
      used =
        (List.range used.length).map fun n =>
          clock i (consumed i + n) := by
    have hTake : used = readings.take used.length := by
      rw [hUsed, List.take_left]
    have hShort : used.length ≤ k + 1 - consumed i := by
      have hLength := congrArg List.length hUsed
      simp only [readings, List.length_map, List.length_range,
        List.length_append] at hLength
      omega
    rw [hTake, ← List.map_take, List.take_range,
      Nat.min_eq_left hShort, List.length_map,
      List.length_range]
  exact ⟨⟨i, used, result, after⟩, _, _, rfl,
    ClockedStep.call hPrefix (NextIDStep.call hTakes)⟩

------------------------------------------------------------
-- Main Result
------------------------------------------------------------

theorem snowflake_ids
    {workerID epoch : ι → Int64}
    {clock : ι → Nat → Int64}
    {start generators : ι → Snowflake}
    {consumed : ι → Nat}
    {calls : List (NextIDCall ι)}
    (hNew : NewGenerators workerID epoch start)
    (hClock : ClocksInEpoch epoch clock)
    (hRun :
      Transition.Run (ClockedStep clock) (start, fun _ => 0)
        calls (generators, consumed)) :
    SnowflakeIDs workerID epoch clock calls generators
      consumed := by
  have hMade i :=
    let ⟨_, hNow⟩ := hNew i
    Snowflake.sound_of_newSnowflakeWithEpoch hNow
  have hNumbered :=
    numbered_of_clocked (fun i => (hMade i).1) hRun
  have hFields :
      ∀ c ∈ calls, ∀ id ∈ c.id,
        id = c.after.id ∧ c.after.Sound ∧ c.after.InEpoch ∧
          c.millis = some c.after.lastTimestamp ∧
          c.after.epoch = epoch c.process ∧
          c.after.workerID = workerID c.process := by
    intro c hMem id hID
    rcases hNumbered.made c hMem id hID with
      ⟨hIs, hSound, hMillis, hEpoch, hWorker⟩
    rcases hMade c.process with ⟨_, hStartEpoch, hStartWorker, _⟩
    exact ⟨hIs, hSound,
      inEpoch_of_clocked hNew hClock hRun hMem hID, hMillis,
      hEpoch.trans hStartEpoch, hWorker.trans hStartWorker⟩
  have hDecodes :
      ∀ c ∈ calls, ∀ id ∈ c.id,
        ∃ timestamp ∈ c.millis, ∃ sequence,
          Snowflake.Decodes id timestamp (epoch c.process)
            (workerID c.process) sequence := by
    intro c hMem id hID
    rcases hFields c hMem id hID with
      ⟨rfl, hSound, hIn, hMillis, hEpoch, hWorker⟩
    refine ⟨_, hMillis, c.after.sequence, ?_⟩
    rw [← hEpoch, ← hWorker]
    exact Snowflake.decodes hSound hIn
  constructor
  case increasing =>
    refine hNumbered.ordered.imp_of_mem ?_
    intro c c' hMem hMem' hOrdered hSame id hID id' hID'
    rcases hFields c hMem id hID with
      ⟨rfl, hSound, hIn, _, hEpoch, hWorker⟩
    rcases hFields c' hMem' id' hID' with
      ⟨rfl, hSound', hIn', _, hEpoch', hWorker'⟩
    apply Snowflake.id_lt_of_before hSound hSound' hIn hIn'
    · rw [hEpoch, hEpoch', hSame]
    · rw [hWorker, hWorker', hSame]
    · exact hOrdered hSame _ hID _ hID'
  case inRange =>
    intro c hMem id hID
    rcases hFields c hMem id hID with ⟨rfl, hSound, hIn, _⟩
    have hInt := Snowflake.toInt_id hSound hIn
    have hBelow := Int64.toInt_lt c.after.id
    omega
  case decodes => exact hDecodes
  case distinct =>
    intro c hMem c' hMem' hOther id hID id' hID' hSame
    rcases hDecodes c hMem id hID with ⟨_, _, _, hOf⟩
    rcases hDecodes c' hMem' id' hID' with ⟨_, _, _, hOf'⟩
    apply hOther
    rw [← hOf.workerField, ← hOf'.workerField, hSame]
  case refused =>
    intro c generators' consumed' e hStep hError
    exact hStep.refused hNumbered.sound hError
  case returns =>
    intro i k hLater hPasses
    exact clocked_returns hLater hPasses

end OrderManagement

/-
  Two generators: the first has made an id, then its clock
  jumps back too far; the second has made one too.
-/
namespace OrderManagement

def sampleWorkers : Bool → Int64
| false => 3
| true => 1023

def sampleClock (_ : Bool) (k : Nat) : Int64 :=
  if k = 1 then defaultEpoch else defaultEpoch + 500

def sampleGenerator (i : Bool) : Snowflake where
  epoch := defaultEpoch
  workerID := sampleWorkers i
  lastTimestamp := -1
  sequence := 0

def sampleNumbered (i : Bool) : Snowflake :=
  { sampleGenerator i with lastTimestamp := defaultEpoch + 500 }

def sampleNextIDCalls : List (NextIDCall Bool) := [
  ⟨false, [defaultEpoch + 500], .ok (sampleNumbered false).id,
    sampleNumbered false⟩,
  ⟨false, [defaultEpoch], .error (.clockMovedBack 500),
    sampleNumbered false⟩,
  ⟨true, [defaultEpoch + 500], .ok (sampleNumbered true).id,
    sampleNumbered true⟩]

theorem snowflake_ids_sample :
    ∃ generators consumed,
      SnowflakeIDs sampleWorkers (fun _ => defaultEpoch)
        sampleClock sampleNextIDCalls generators consumed := by
  have hNew :
      NewGenerators sampleWorkers (fun _ => defaultEpoch)
        sampleGenerator := by
    intro i
    refine ⟨defaultEpoch, ?_⟩
    cases i <;> decide
  have hClock :
      ClocksInEpoch (fun _ => defaultEpoch) sampleClock := by
    intro i k
    unfold sampleClock
    dsimp only
    split <;> decide
  refine ⟨_, _, snowflake_ids hNew hClock
    (Transition.Run.snoc (Transition.Run.snoc
      (Transition.Run.single (ClockedStep.call ?_
        (NextIDStep.call ?_)))
      (ClockedStep.call ?_ (NextIDStep.call ?_)))
      (ClockedStep.call ?_ (NextIDStep.call ?_)))⟩ <;>
  decide +kernel

end OrderManagement
