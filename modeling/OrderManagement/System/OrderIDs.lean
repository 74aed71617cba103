import Mathlib.Data.List.Pairwise
import OrderManagement.Library.Transition
import OrderManagement.Pkg.Idgen

/-
  The order ids of several processes. Every process makes
  its ids with the default generator of its own package
  `idgen`, and nothing gives these generators different
  workers: two ids are equal as soon as two processes make
  them in one millisecond.

  Main declarations:
    * `NextIDCall`, `NextIDStep`, and `IDProcesses`
    * `Numbered` and `Numbered.step`
    * `order_ids_distinct_iff`
    * `order_ids_collide`
-/

namespace OrderManagement

variable {ι : Type} [DecidableEq ι]

------------------------------------------------------------
-- Processes
------------------------------------------------------------

/- The call of `NextID` for one order: what it reads from
   the clock, its result, and the generator it leaves. -/
structure NextIDCall (ι : Type) where
  process : ι
  readings : List Int64
  result : Except IdgenError Int64
  after : Snowflake

namespace NextIDCall

omit [DecidableEq ι]

/- `NextID` panics instead of returning an error. -/
def id
    (c : NextIDCall ι) : Option Int64 :=
  match c.result with
  | .ok id => some id
  | .error _ => none

/- The reading with which a call that returns has ended. -/
def millis
    (c : NextIDCall ι) : Option Int64 :=
  match c.result with
  | .ok _ => c.readings.getLast?
  | .error _ => none

end NextIDCall

inductive NextIDStep :
    (ι → Snowflake) → NextIDCall ι → (ι → Snowflake) → Prop
| call
    {generators : ι → Snowflake}
    {c : NextIDCall ι}
    (hNext :
      (generators c.process).nextIDWithError c.readings =
        some (c.result, c.after, [])) :
    NextIDStep generators c
      (Function.update generators c.process c.after)

/- Each package has initialised its default generator. -/
def IDProcesses
    (generators : ι → Snowflake) : Prop :=
  ∀ i, ∃ now, newSnowflake 1 now = .ok (generators i)

------------------------------------------------------------
-- The Numbers of One Generator
------------------------------------------------------------

/- An earlier millisecond, or a smaller number in it. -/
def Snowflake.Before
    (s s' : Snowflake) : Prop :=
  s.lastTimestamp < s'.lastTimestamp ∨
    s.lastTimestamp = s'.lastTimestamp ∧
      s.sequence.toBitVec.toNat < s'.sequence.toBitVec.toNat

theorem Snowflake.Before.trans
    {s s' s'' : Snowflake}
    (hBefore : s.Before s')
    (hBefore' : s'.Before s'') :
    s.Before s'' := by
  unfold Snowflake.Before at *
  rw [Int64.lt_iff_toInt_lt] at *
  rcases hBefore with hEarlier | ⟨hSame, hLess⟩ <;>
    rcases hBefore' with hEarlier' | ⟨hSame', hLess'⟩
  · exact Or.inl (hEarlier.trans hEarlier')
  · exact Or.inl (hSame' ▸ hEarlier)
  · exact Or.inl (hSame ▸ hEarlier')
  · exact Or.inr ⟨hSame.trans hSame', hLess.trans hLess'⟩

/- How a call went: it panicked and left the generator as it
   was, or it made the id of the generator that it left. -/
inductive NextIDCall.Went
    (s : Snowflake)
    (c : NextIDCall ι) : Prop
| panicked
    (hID : c.id = none)
    (hMillis : c.millis = none)
    (hKept : c.after = s)
| made
    (hID : c.id = some c.after.id)
    (hMillis : c.millis = some c.after.lastTimestamp)
    (hRead : c.after.lastTimestamp ∈ c.readings)
    (hBefore : s.Before c.after)
    (hOpens :
      c.after.lastTimestamp = s.lastTimestamp ∨
        c.after.sequence = 0)

omit [DecidableEq ι] in
/- A call that returns the id of the generator that it left,
   at the time of its last reading. -/
theorem NextIDCall.Went.of_ok
    {s : Snowflake}
    {c : NextIDCall ι}
    (hResult : c.result = .ok c.after.id)
    (hLast : c.readings.getLast? = some c.after.lastTimestamp)
    (hBefore : s.Before c.after)
    (hOpens :
      c.after.lastTimestamp = s.lastTimestamp ∨
        c.after.sequence = 0) :
    c.Went s := by
  refine .made ?_ ?_ ?_ hBefore hOpens
  · unfold NextIDCall.id
    rw [hResult]
  · unfold NextIDCall.millis
    rw [hResult]
    exact hLast
  · exact List.mem_of_getLast? hLast

theorem NextIDStep.went
    {generators generators' : ι → Snowflake}
    {c : NextIDCall ι}
    (hSound : ∀ i, (generators i).Sound)
    (hStep : NextIDStep generators c generators') :
    generators' =
        Function.update generators c.process c.after ∧
      c.after.Sound ∧
      c.after.epoch = (generators c.process).epoch ∧
      c.after.workerID = (generators c.process).workerID ∧
      c.Went (generators c.process) := by
  cases hStep with
  | call hCall =>
      rcases Snowflake.next_of_nextIDWithError
          (hSound c.process) hCall with
        ⟨used, now, hReadings, hNext⟩
      refine ⟨rfl, hNext.sound (hSound _), hNext.fixed.1,
        hNext.fixed.2, ?_⟩
      have hLast : c.readings.getLast? = some now := by
        rw [hReadings, List.getLast?_append]
        rfl
      generalize hResult : c.result = result at hNext
      generalize hAfter : c.after = after at hNext
      cases hNext with
      | refused =>
          apply NextIDCall.Went.panicked _ _ hAfter
          · unfold NextIDCall.id
            rw [hResult]
          · unfold NextIDCall.millis
            rw [hResult]
      | again hIs hNow hRoom hSequence =>
          have hTime : after.lastTimestamp = now := by
            rw [hIs, hNow]
          subst hAfter
          refine .of_ok hResult (hTime ▸ hLast) ?_ ?_
          · exact Or.inr ⟨(hTime.trans hNow).symm, by omega⟩
          · exact Or.inl (hTime.trans hNow)
      | later hIs hNow =>
          have hTime : after.lastTimestamp = now := by
            rw [hIs]
          subst hAfter
          refine .of_ok hResult (hTime ▸ hLast) ?_ ?_
          · exact Or.inl (hTime ▸ hNow)
          · rw [hIs]
            exact Or.inr rfl

/-
  What the calls so far have left: the generators keep their
  workers, stand at the last id of their process, and have
  numbered their ids upwards.
-/
structure Numbered
    (start : ι → Snowflake)
    (calls : List (NextIDCall ι))
    (generators : ι → Snowflake) : Prop where
  sound : ∀ i, (generators i).Sound
  fixed :
    ∀ i,
      (generators i).epoch = (start i).epoch ∧
        (generators i).workerID = (start i).workerID
  made :
    ∀ c ∈ calls, ∀ id ∈ c.id,
      id = c.after.id ∧ c.after.Sound ∧
        c.millis = some c.after.lastTimestamp ∧
        c.after.epoch = (start c.process).epoch ∧
        c.after.workerID = (start c.process).workerID
  latest :
    ∀ c ∈ calls, ∀ id ∈ c.id,
      c.after = generators c.process ∨
        c.after.Before (generators c.process)
  ordered :
    calls.Pairwise fun c c' =>
      c.process = c'.process →
        ∀ id ∈ c.id, ∀ id' ∈ c'.id, c.after.Before c'.after

omit [DecidableEq ι] in
theorem Numbered.start
    {start : ι → Snowflake}
    (hSound : ∀ i, (start i).Sound) :
    Numbered start [] start where
  sound := hSound
  fixed _ := ⟨rfl, rfl⟩
  made := by simp
  latest := by simp
  ordered := List.Pairwise.nil

theorem Numbered.step
    {start generators generators' : ι → Snowflake}
    {calls : List (NextIDCall ι)}
    {c : NextIDCall ι}
    (hNumbered : Numbered start calls generators)
    (hStep : NextIDStep generators c generators') :
    Numbered start (calls ++ [c]) generators' := by
  rcases hStep.went hNumbered.sound with
    ⟨rfl, hSound, hEpoch, hWorker, hWent⟩
  have hStart := hNumbered.fixed c.process
  constructor
  case sound =>
    intro i
    by_cases hProcess : i = c.process
    · rw [hProcess, Function.update_self]
      exact hSound
    · rw [Function.update_of_ne hProcess]
      exact hNumbered.sound i
  case fixed =>
    intro i
    by_cases hProcess : i = c.process
    · rw [hProcess, Function.update_self, hEpoch, hWorker]
      exact hStart
    · rw [Function.update_of_ne hProcess]
      exact hNumbered.fixed i
  case made =>
    intro c' hMem id hID
    rcases List.mem_append.mp hMem with hOld | hNew
    · exact hNumbered.made c' hOld id hID
    · cases List.mem_singleton.mp hNew
      cases hWent with
      | panicked hNone =>
          rw [hNone] at hID
          cases hID
      | made hSome hMillis =>
          rw [hSome] at hID
          cases hID
          exact ⟨rfl, hSound, hMillis, hEpoch.trans hStart.1,
            hWorker.trans hStart.2⟩
  case latest =>
    intro c' hMem id hID
    rcases List.mem_append.mp hMem with hOld | hNew
    · have hLatest := hNumbered.latest c' hOld id hID
      by_cases hProcess : c'.process = c.process
      · rw [hProcess] at hLatest
        rw [hProcess, Function.update_self]
        cases hWent with
        | panicked _ _ hKept =>
            rw [hKept]
            exact hLatest
        | made _ _ _ hBefore =>
            rcases hLatest with hSame | hEarlier
            · exact Or.inr (hSame ▸ hBefore)
            · exact Or.inr (hEarlier.trans hBefore)
      · rw [Function.update_of_ne hProcess]
        exact hLatest
    · cases List.mem_singleton.mp hNew
      rw [Function.update_self]
      exact Or.inl rfl
  case ordered =>
    rw [List.pairwise_append]
    refine ⟨hNumbered.ordered, List.pairwise_singleton _ _, ?_⟩
    intro c' hOld c'' hNew hProcess id hID id' hID'
    cases List.mem_singleton.mp hNew
    have hLatest := hNumbered.latest c' hOld id hID
    rw [hProcess] at hLatest
    cases hWent with
    | panicked hNone =>
        rw [hNone] at hID'
        cases hID'
    | made _ _ _ hBefore =>
        rcases hLatest with hSame | hEarlier
        · exact hSame ▸ hBefore
        · exact hEarlier.trans hBefore

------------------------------------------------------------
-- The First Number of a Millisecond
------------------------------------------------------------

/- Every millisecond in which an id was made has its number
   zero, unless a clock reads the time before the first
   call. -/
structure Opened
    (calls : List (NextIDCall ι))
    (generators : ι → Snowflake) : Prop where
  made :
    ∀ c ∈ calls, ∀ t ∈ c.millis,
      ∃ first ∈ calls, first.process = c.process ∧
        first.millis = some t ∧
        first.after.sequence = 0
  current :
    ∀ i,
      (generators i).lastTimestamp = -1 ∨
        ∃ first ∈ calls, first.process = i ∧
          first.millis = some (generators i).lastTimestamp ∧
          first.after.sequence = 0

theorem Opened.step
    {generators generators' : ι → Snowflake}
    {calls : List (NextIDCall ι)}
    {c : NextIDCall ι}
    (hSound : ∀ i, (generators i).Sound)
    (hOpened : Opened calls generators)
    (hClock : -1 ∉ c.readings)
    (hStep : NextIDStep generators c generators') :
    Opened (calls ++ [c]) generators' := by
  rcases hStep.went hSound with ⟨rfl, _, _, _, hWent⟩
  have hOld :
      ∀ {i : ι} {t : Int64},
        (∃ first ∈ calls, first.process = i ∧
          first.millis = some t ∧
          first.after.sequence = 0) →
        ∃ first ∈ calls ++ [c], first.process = i ∧
          first.millis = some t ∧
          first.after.sequence = 0 := by
    rintro i t ⟨first, hMem, hFirst⟩
    exact ⟨first, List.mem_append_left _ hMem, hFirst⟩
  have hHere :
      c.millis = some c.after.lastTimestamp →
        ∃ first ∈ calls ++ [c], first.process = c.process ∧
          first.millis = some c.after.lastTimestamp ∧
          first.after.sequence = 0 := by
    intro hMillis
    cases hWent with
    | panicked _ hNone =>
        rw [hNone] at hMillis
        cases hMillis
    | made _ _ hRead _ hOpens =>
        rcases hOpens with hSame | hZero
        · rcases hOpened.current c.process with
            hUnused | hFirst
          · rw [hSame, hUnused] at hRead
            exact absurd hRead hClock
          · rw [← hSame] at hFirst
            exact hOld hFirst
        · exact ⟨c, by simp, rfl, hMillis, hZero⟩
  constructor
  case made =>
    intro c' hMem t hTime
    rcases List.mem_append.mp hMem with hBefore | hNew
    · exact hOld (hOpened.made c' hBefore t hTime)
    · cases List.mem_singleton.mp hNew
      cases hWent with
      | panicked _ hNone =>
          rw [hNone] at hTime
          cases hTime
      | made _ hMillis =>
          rw [hMillis] at hTime
          cases hTime
          exact hHere hMillis
  case current =>
    intro i
    by_cases hProcess : i = c.process
    · rw [hProcess, Function.update_self]
      cases hWent with
      | panicked _ _ hKept =>
          rw [hKept]
          exact (hOpened.current c.process).imp_right hOld
      | made _ hMillis => exact Or.inr (hHere hMillis)
    · rw [Function.update_of_ne hProcess]
      exact (hOpened.current i).imp_right hOld

------------------------------------------------------------
-- Distinct Order Ids
------------------------------------------------------------

/- No millisecond is used by two processes, and none comes
   back in the 42 bits of the time. -/
def MillisApart
    (calls : List (NextIDCall ι)) : Prop :=
  ∀ c ∈ calls, ∀ c' ∈ calls,
    ∀ t ∈ c.millis, ∀ t' ∈ c'.millis,
      Snowflake.SameMillis t t' → c.process = c'.process ∧ t = t'

/- Over the readings that there are, not over all of int64. -/
instance
    (c c' : NextIDCall ι)
    (t : Int64) :
    Decidable (∀ t' ∈ c'.millis,
      Snowflake.SameMillis t t' →
        c.process = c'.process ∧ t = t') :=
  Option.decidableForallMem
    (p := fun t' =>
      Snowflake.SameMillis t t' →
        c.process = c'.process ∧ t = t')
    c'.millis

instance
    (c c' : NextIDCall ι) :
    Decidable (∀ t ∈ c.millis, ∀ t' ∈ c'.millis,
      Snowflake.SameMillis t t' →
        c.process = c'.process ∧ t = t') :=
  Option.decidableForallMem
    (p := fun t =>
      ∀ t' ∈ c'.millis,
        Snowflake.SameMillis t t' →
          c.process = c'.process ∧ t = t')
    c.millis

instance
    (calls : List (NextIDCall ι)) :
    Decidable (MillisApart calls) :=
  inferInstanceAs
    (Decidable (∀ c ∈ calls, ∀ c' ∈ calls, ∀ t ∈ c.millis,
      ∀ t' ∈ c'.millis, _ → _))

theorem Numbered.of_run
    {start generators : ι → Snowflake}
    {calls : List (NextIDCall ι)}
    (hSound : ∀ i, (start i).Sound)
    (hRun :
      Transition.Run NextIDStep start calls generators) :
    Numbered start calls generators :=
  hRun.history (P := Numbered start) (Numbered.start hSound)
    (fun _ _ _ _ _ hNumbered hStep => hNumbered.step hStep)

omit [DecidableEq ι] in
/- A call that ended with a millisecond made an id. -/
theorem NextIDCall.id_of_millis
    {c : NextIDCall ι}
    {t : Int64}
    (hTime : t ∈ c.millis) :
    ∃ id, id ∈ c.id := by
  unfold NextIDCall.millis at hTime
  unfold NextIDCall.id
  cases hResult : c.result with
  | ok id => exact ⟨id, rfl⟩
  | error => rw [hResult] at hTime; cases hTime

/-
  The ids of all processes are distinct if no millisecond is
  used twice; and only then, unless a clock reads the last
  millisecond of 1969, which a generator takes for one that
  it has used.
-/
theorem order_ids_distinct_iff
    {start generators : ι → Snowflake}
    {calls : List (NextIDCall ι)}
    (hStart : IDProcesses start)
    (hRun :
      Transition.Run NextIDStep start calls generators) :
    (MillisApart calls →
      (calls.filterMap NextIDCall.id).Nodup) ∧
    ((∀ c ∈ calls, -1 ∉ c.readings) →
      (calls.filterMap NextIDCall.id).Nodup →
        MillisApart calls) := by
  have hNew :
      ∀ i, (start i).Sound ∧
        (start i).epoch = defaultEpoch ∧
        (start i).workerID = 1 := by
    intro i
    rcases hStart i with ⟨now, hOk⟩
    rcases Snowflake.sound_of_newSnowflake hOk with
      ⟨hSound, hEpoch, hWorker, _⟩
    exact ⟨hSound, hEpoch, hWorker⟩
  have hNumbered := Numbered.of_run (fun i => (hNew i).1) hRun
  -- two ids differ exactly in their time and their number
  have hEqual :
      ∀ c ∈ calls, ∀ c' ∈ calls,
        ∀ id ∈ c.id, ∀ id' ∈ c'.id,
          id = id' ↔
            Snowflake.SameMillis c.after.lastTimestamp
                c'.after.lastTimestamp ∧
              c.after.sequence = c'.after.sequence := by
    intro c hMem c' hMem' id hID id' hID'
    rcases hNumbered.made c hMem id hID with
      ⟨rfl, hSound, _, hEpoch, hWorker⟩
    rcases hNumbered.made c' hMem' id' hID' with
      ⟨rfl, hSound', _, hEpoch', hWorker'⟩
    rw [Snowflake.id_eq_iff hSound hSound' (by
        rw [hEpoch, hEpoch', (hNew _).2.1, (hNew _).2.1]),
      hWorker, hWorker', (hNew _).2.2, (hNew _).2.2]
    simp
  have hPairs :
      (calls.filterMap NextIDCall.id).Nodup ↔
        calls.Pairwise fun c c' =>
          ∀ id ∈ c.id, ∀ id' ∈ c'.id, id ≠ id' :=
    List.pairwise_filterMap
  rw [hPairs]
  constructor
  · intro hApart
    refine hNumbered.ordered.imp_of_mem ?_
    intro c c' hMem hMem' hOrdered id hID id' hID' hSame
    rcases (hEqual c hMem c' hMem' id hID id' hID').mp hSame
      with ⟨hMillis, hSequence⟩
    rcases hApart c hMem c' hMem' _
        (hNumbered.made c hMem id hID).2.2.1 _
        (hNumbered.made c' hMem' id' hID').2.2.1 hMillis with
      ⟨hProcess, hTime⟩
    rcases hOrdered hProcess id hID id' hID' with
      hEarlier | ⟨_, hLess⟩
    · rw [hTime] at hEarlier
      exact Int64.lt_irrefl hEarlier
    · rw [hSequence] at hLess
      exact Nat.lt_irrefl _ hLess
  · intro hClock hDistinct c hMem c' hMem' t hTime t' hTime'
      hMillis
    have hOpened :
        (∀ c ∈ calls, -1 ∉ c.readings) →
          Opened calls generators := by
      refine hRun.history
        (P := fun ls g =>
          (∀ c ∈ ls, -1 ∉ c.readings) → Opened ls g) ?_ ?_
      · intro _
        refine ⟨by simp, fun i => Or.inl ?_⟩
        rcases hStart i with ⟨now, hOk⟩
        exact (Snowflake.sound_of_newSnowflake hOk).2.2.2
      · intro ls u c v hBefore ih hStep hReadings
        exact (ih fun b hOld =>
            hReadings b (List.mem_append_left _ hOld)).step
          (Numbered.of_run (fun i => (hNew i).1) hBefore).sound
          (hReadings c (by simp)) hStep
    rcases (hOpened hClock).made c hMem t hTime with
      ⟨first, hFirst, hProcess, hFirstTime, hZero⟩
    rcases (hOpened hClock).made c' hMem' t' hTime' with
      ⟨first', hFirst', hProcess', hFirstTime', hZero'⟩
    by_contra hOther
    have hNe : first ≠ first' := by
      rintro rfl
      refine hOther ⟨hProcess.symm.trans hProcess', ?_⟩
      exact Option.some.inj (hFirstTime.symm.trans hFirstTime')
    rcases NextIDCall.id_of_millis hFirstTime with ⟨id, hID⟩
    rcases NextIDCall.id_of_millis hFirstTime' with
      ⟨id', hID'⟩
    have hSymmetric :
        Std.Symm fun c c' : NextIDCall ι =>
          ∀ id ∈ c.id, ∀ id' ∈ c'.id, id ≠ id' :=
      ⟨fun _ _ hDiffer id hID id' hID' =>
        (hDiffer id' hID' id hID).symm⟩
    apply hDistinct.forall hFirst hFirst' hNe id hID id' hID'
    rw [hEqual first hFirst first' hFirst' id hID id' hID']
    have hLast := (hNumbered.made first hFirst id hID).2.2.1
    have hLast' :=
      (hNumbered.made first' hFirst' id' hID').2.2.1
    rw [hFirstTime] at hLast
    rw [hFirstTime'] at hLast'
    cases hLast
    cases hLast'
    exact ⟨hMillis, hZero.trans hZero'.symm⟩

------------------------------------------------------------
-- Two Processes
------------------------------------------------------------

/- The default generator of a process that has started. -/
def launched : Snowflake where
  epoch := defaultEpoch
  workerID := 1
  lastTimestamp := -1
  sequence := 0

/- A process makes the id with this number of one
   millisecond in 2027. -/
def launchedCall
    (process : Bool)
    (sequence : Int64) : NextIDCall Bool :=
  let after := { launched with
    lastTimestamp := 1800000000000
    sequence := sequence }
  { process
    readings := [1800000000000]
    result := .ok after.id
    after }

theorem launched_processes :
    IDProcesses fun _ : Bool => launched := by
  have hNew :
      newSnowflake 1 1790000000000 = .ok launched := by
    decide +kernel
  exact fun _ => ⟨_, hNew⟩

/- One process numbers its ids within the millisecond. -/
theorem order_ids_distinct_iff_sample :
    ([launchedCall false 0, launchedCall false 1].filterMap
      NextIDCall.id).Nodup := by
  have hFirst :
      NextIDStep (fun _ : Bool => launched)
        (launchedCall false 0)
        (Function.update _ false
          (launchedCall false 0).after) :=
    NextIDStep.call (by decide +kernel)
  have hSecond :
      NextIDStep
        (Function.update (fun _ : Bool => launched) false
          (launchedCall false 0).after)
        (launchedCall false 1)
        (Function.update _ false
          (launchedCall false 1).after) :=
    NextIDStep.call (by decide +kernel)
  exact (order_ids_distinct_iff launched_processes
    ((Transition.Run.single hFirst).snoc hSecond)).1
    (by decide +kernel)

/- Two processes make the same id in one millisecond. -/
theorem order_ids_collide :
    ∃ (start generators : Bool → Snowflake)
      (calls : List (NextIDCall Bool)),
      IDProcesses start ∧
        Transition.Run NextIDStep start calls generators ∧
        ¬ (calls.filterMap NextIDCall.id).Nodup := by
  have hFirst :
      NextIDStep (fun _ : Bool => launched)
        (launchedCall false 0)
        (Function.update _ false
          (launchedCall false 0).after) :=
    NextIDStep.call (by decide +kernel)
  have hSecond :
      NextIDStep
        (Function.update (fun _ : Bool => launched) false
          (launchedCall false 0).after)
        (launchedCall true 0)
        (Function.update _ true
          (launchedCall true 0).after) :=
    NextIDStep.call (by decide +kernel)
  exact ⟨_, _, _, launched_processes,
    (Transition.Run.single hFirst).snoc hSecond,
    by decide +kernel⟩

end OrderManagement
