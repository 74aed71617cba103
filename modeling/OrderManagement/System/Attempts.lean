import OrderManagement.System.Leases

/-
  What the attempts of a row count. A claim charges every
  row of its batch, and `publishBatch` returns at the first
  failure. As long as no batch is left with rows that were
  not tried, the attempts of a row are the calls of
  publishEvent for it and the ones that a worker still owes.

  Main declarations:
    * `publishCalls` and `Fleet.pending`
    * `Fleet.Finishes`
    * `Fleet.Step.pending` and `Fleet.Step.attemptsOf`
    * `OnlyAfterPublishing` with `attempts_count_publishes`
-/

namespace OrderManagement

variable [Deployment]

------------------------------------------------------------
-- Calls of publishEvent
------------------------------------------------------------

/- The calls of publishEvent for the row of a key. -/
def FleetEvent.publishes
    (key : String) : FleetEvent → Nat
| .publish _ outbox _ =>
    if Keyed.key outbox = key then 1 else 0
| .tick | .service | .select _ | .claim .. | .markPublished ..
| .markFailed .. | .stop _ => 0

def publishCalls
    (key : String)
    (ls : List FleetEvent) : Nat :=
  (ls.map (FleetEvent.publishes key)).sum

theorem publishCalls_snoc
    (key : String)
    (ls : List FleetEvent)
    (l : FleetEvent) :
    publishCalls key (ls ++ [l]) =
      publishCalls key ls + l.publishes key := by
  simp [publishCalls]

/- The calls that a batch still owes to the row of a key. -/
def PublishBatch.owes
    (key : String)
    (batch : PublishBatch) : Nat :=
  (batch.unpublished.map Keyed.key).count key

def Fleet.pending
    (s : Fleet)
    (key : String) : Nat :=
  (s.workers.map (PublishBatch.owes key)).sum

/- The attempts of the row of a key, if there is one. -/
def Fleet.attemptsOf
    (s : Fleet)
    (key : String) : Nat :=
  ((s.db.orderTimeoutOutbox.find? key).map
    OrderTimeoutOutbox.attempts).getD 0

/-
  A failure hits the last row of its batch, and a batch that
  is given up has no rows left.
-/
def Fleet.Finishes
    (s : Fleet) : FleetEvent → Prop
| .publish worker outbox false =>
    s.workers[worker]? = some (.claimed [outbox])
| .stop worker =>
    (s.workers[worker]?.map
      PublishBatch.unpublished).getD [] = []
| .publish _ _ true | .tick | .service | .select _ | .claim ..
| .markPublished .. | .markFailed .. => True

instance
    (s : Fleet) :
    (l : FleetEvent) → Decidable (s.Finishes l)
| .publish worker outbox false =>
    inferInstanceAs
      (Decidable
        (s.workers[worker]? = some (.claimed [outbox])))
| .stop worker =>
    inferInstanceAs
      (Decidable
        ((s.workers[worker]?.map
          PublishBatch.unpublished).getD [] = []))
| .publish _ _ true | .tick | .service | .select _ | .claim ..
| .markPublished .. | .markFailed .. =>
    inferInstanceAs (Decidable True)

------------------------------------------------------------
-- What a Step Counts
------------------------------------------------------------

omit [Deployment] in
/- A sum after one of its terms was replaced. -/
theorem sum_map_set
    {α : Type}
    {l : List α}
    {i : Nat}
    {a : α}
    (hGet : l[i]? = some a)
    (b : α)
    (f : α → Nat) :
    ((l.set i b).map f).sum + f a = (l.map f).sum + f b := by
  induction l generalizing i with
  | nil => cases hGet
  | cons c l ih =>
      cases i with
      | zero =>
          cases hGet
          simp only [List.set_cons_zero, List.map_cons,
            List.sum_cons]
          omega
      | succ i =>
          have hRest := ih hGet
          simp only [List.set_cons_succ, List.map_cons,
            List.sum_cons]
          omega

theorem Fleet.pending_set
    {s : Fleet}
    {worker : Nat}
    {old : PublishBatch}
    (hWorker : s.workers[worker]? = some old)
    (batch : PublishBatch)
    (key : String) :
    (s.set worker batch).pending key + old.owes key =
      s.pending key + batch.owes key :=
  sum_map_set hWorker batch (PublishBatch.owes key)

variable {config : FleetConfig}

/- Each copy that a step charges is one that a call of
   publishEvent is owed for, until it is made. -/
theorem Fleet.Step.pending
    {s t : Fleet}
    {l : FleetEvent}
    (hStep : Fleet.Step config s l t)
    (hSelections : s.Selections config)
    (hFinishes : s.Finishes l)
    (key : String) :
    t.pending key + l.publishes key =
      s.pending key + l.charges key := by
  cases hStep with
  | tick | service => rfl
  | select limit hIdle hLocked =>
      exact Fleet.pending_set hIdle _ key
  | @claim worker limit events batch db hSelected hLease =>
      have hStep :
          Fleet.Step config s
            (.claim worker limit s.clock batch) _ :=
        .claim hSelected hLease
      have hNodup : (batch.map Keyed.key).Nodup :=
        s.db.orderTimeoutOutbox.nodup.sublist
          (hStep.batch hSelections).1
      have hSet :=
        Fleet.pending_set (s := { s with db := db })
          hSelected (.claimed batch) key
      have hOwes :
          (PublishBatch.claimed batch).owes key =
            FleetEvent.charges key
              (.claim worker limit s.clock batch) := by
        unfold PublishBatch.owes FleetEvent.charges
        simp only [PublishBatch.unpublished,
          FleetEvent.claimTime]
        by_cases hMem : key ∈ batch.map Keyed.key
        · rw [if_pos hMem]
          exact List.count_eq_one_of_mem hNodup hMem
        · rw [if_neg hMem]
          exact List.count_eq_zero.mpr hMem
      rw [← hOwes]
      exact hSet
  | @publish worker outbox events ok hClaimed =>
      have hSet :=
        Fleet.pending_set hClaimed
          (if ok then .published outbox events
            else .failed outbox) key
      have hRest :
          (PublishBatch.claimed (outbox :: events)).owes key =
            (if ok then PublishBatch.published outbox events
              else PublishBatch.failed outbox).owes key +
              FleetEvent.publishes key
                (.publish worker outbox ok) := by
        have hCons :
            (PublishBatch.claimed (outbox :: events)).owes key =
              (events.map Keyed.key).count key +
                FleetEvent.publishes key
                  (.publish worker outbox ok) := by
          unfold PublishBatch.owes
          simp only [PublishBatch.unpublished, List.map_cons,
            List.count_cons, FleetEvent.publishes, beq_iff_eq]
        cases ok with
        | true => exact hCons
        | false =>
            rw [Fleet.Finishes, hClaimed] at hFinishes
            cases hFinishes
            exact hCons
      change _ = s.pending key + 0
      omega
  | @markPublished worker outbox events db hPublished hFree
      hMark =>
      have hSet :=
        Fleet.pending_set (s := { s with db := db })
          hPublished (.claimed events) key
      exact Nat.add_right_cancel hSet
  | markFailed hFailed hFree hMark =>
      exact Fleet.pending_set hFailed _ key
  | @stop worker batch hWorker =>
      have hNone : batch.owes key = 0 := by
        rw [Fleet.Finishes, hWorker] at hFinishes
        have hNothing : batch.unpublished = [] := hFinishes
        rw [PublishBatch.owes, hNothing]
        rfl
      have hSet := Fleet.pending_set hWorker .idle key
      rw [hNone] at hSet
      exact hSet

/- The counters grow with the claims, and new rows have not
   been claimed. -/
theorem Fleet.Step.attemptsOf
    {s t : Fleet}
    {l : FleetEvent}
    (hStep : Fleet.Step config s l t)
    (hSelections : s.Selections config)
    (key : String) :
    t.attemptsOf key = s.attemptsOf key + l.charges key := by
  unfold Fleet.attemptsOf
  cases hFind : s.db.orderTimeoutOutbox.find? key with
  | some row =>
      have hKey := Table.key_of_find? hFind
      have hMem :=
        hStep.mem_rewrite (Table.mem_of_find? hFind)
      have hFound := Table.find?_key_of_mem hMem
      rw [l.key_rewrite, hKey] at hFound
      rw [hFound, ← hKey]
      exact l.attempts_rewrite row
  | none =>
      have hFree := Table.find?_eq_none_iff.mp hFind
      have hNone : l.claimTime key = none := by
        by_contra hSome
        rcases hStep.claimed hSelections
            (Option.isSome_iff_ne_none.mpr hSome) with
          ⟨row, hMem, rfl, _⟩
        exact hFree (List.mem_map_of_mem hMem)
      rw [FleetEvent.charges, hNone]
      cases hNew : t.db.orderTimeoutOutbox.find? key with
      | none => rfl
      | some row =>
          rcases hStep.keys with ⟨created, hRows, _, hFresh⟩
          have hKey := Table.key_of_find? hNew
          have hMem : row ∈ t.rows := Table.mem_of_find? hNew
          rw [hRows] at hMem
          rcases List.mem_append.mp hMem with hOld | hAdded
          · rcases List.mem_map.mp hOld with
              ⟨old, hStored, rfl⟩
            rw [l.key_rewrite] at hKey
            exact absurd (hKey ▸ List.mem_map_of_mem hStored)
              hFree
          · exact (hFresh row hAdded).1

------------------------------------------------------------
-- Runs
------------------------------------------------------------

/-
  The promise: when a pending row has used up its attempts,
  and no worker is about to publish it, then publishEvent
  was called for it that many times.
-/
def OnlyAfterPublishing
    (ls : List FleetEvent)
    (t : Fleet) : Prop :=
  ∀ row ∈ t.rows,
    row.publishedAt = none →
      defaultMaxOutboxAttempts ≤ row.attempts →
        t.pending (Keyed.key row) = 0 →
          defaultMaxOutboxAttempts ≤
            publishCalls (Keyed.key row) ls

/- The steps of workers that try all rows of a batch. -/
def Fleet.FinishingStep
    (config : FleetConfig)
    (s : Fleet)
    (l : FleetEvent)
    (t : Fleet) : Prop :=
  Fleet.Step config s l t ∧ s.Finishes l

theorem Fleet.Fresh.attemptsOf
    {s : Fleet}
    (hFresh : s.Fresh)
    (key : String) :
    s.attemptsOf key = 0 := by
  unfold Fleet.attemptsOf
  cases hFind : s.db.orderTimeoutOutbox.find? key with
  | none => rfl
  | some row =>
      exact hFresh.unclaimed row (Table.mem_of_find? hFind)

theorem Fleet.Fresh.pending
    {s : Fleet}
    (hFresh : s.Fresh)
    (key : String) :
    s.pending key = 0 := by
  refine List.sum_eq_zero fun n hMem => ?_
  rcases List.mem_map.mp hMem with ⟨batch, hBatch, rfl⟩
  rw [hFresh.idle batch hBatch]
  rfl

/- The attempts of a row are the calls that were made for it
   and those that are still owed. -/
theorem attemptsOf_eq
    {s t : Fleet}
    {ls : List FleetEvent}
    (hFresh : s.Fresh)
    (hRun : Transition.Run (Fleet.FinishingStep config) s ls t)
    (key : String) :
    t.attemptsOf key =
      publishCalls key ls + t.pending key := by
  have hKept :
      t.Selections config ∧
        t.attemptsOf key =
          publishCalls key ls + t.pending key := by
    refine hRun.history
      (P := fun ls t =>
        t.Selections config ∧
          t.attemptsOf key =
            publishCalls key ls + t.pending key) ?_ ?_
    · refine ⟨hFresh.selections, ?_⟩
      rw [hFresh.attemptsOf, hFresh.pending]
      rfl
    · rintro ls t l u _ ⟨hSelections, hEq⟩ ⟨hStep, hFinishes⟩
      refine ⟨hStep.selections hSelections, ?_⟩
      have hPending :=
        hStep.pending hSelections hFinishes key
      have hAttempts := hStep.attemptsOf hSelections key
      rw [publishCalls_snoc]
      omega
  exact hKept.2

/-
  Attempts count calls of publishEvent, in every run in which
  a failure hits the last row of its batch.
-/
theorem attempts_count_publishes
    {s t : Fleet}
    {ls : List FleetEvent}
    (hFresh : s.Fresh)
    (hRun :
      Transition.Run (Fleet.FinishingStep config) s ls t) :
    OnlyAfterPublishing ls t := by
  intro row hMem _ hExhausted hIdle
  have hEq := attemptsOf_eq hFresh hRun (Keyed.key row)
  have hFound := Table.find?_key_of_mem hMem
  unfold Fleet.attemptsOf at hEq
  rw [hFound, hIdle] at hEq
  have hSame : row.attempts = publishCalls (Keyed.key row) ls :=
    hEq
  rw [← hSame]
  exact hExhausted

/- Computed runs all of whose steps finish their batches. -/
def Fleet.allFinish
    (config : FleetConfig)
    (s : Fleet) : List FleetCommand → Bool
| [] => true
| c :: cs =>
    match s.perform config c with
    | some (l, t) =>
        decide (s.Finishes l) && Fleet.allFinish config t cs
    | none => true

theorem Fleet.play_finishing
    {s : Fleet}
    {cs : List FleetCommand}
    (hFinish : s.allFinish config cs = true) :
    Transition.Run (Fleet.FinishingStep config) s
      (s.play config cs).1 (s.play config cs).2 := by
  induction cs generalizing s with
  | nil => exact Transition.Run.refl s
  | cons c cs ih =>
      unfold Fleet.play
      unfold Fleet.allFinish at hFinish
      split
      case h_1 l t hPerform =>
        rw [hPerform] at hFinish
        simp only [Bool.and_eq_true,
          decide_eq_true_eq] at hFinish
        exact Transition.Run.append
          (Transition.Run.single
            ⟨Fleet.step_of_perform hPerform, hFinish.1⟩)
          (ih hFinish.2)
      case h_2 => exact Transition.Run.refl s

/- A batch was given up. -/
def FleetEvent.stops : FleetEvent → Bool
| .stop _ => true
| .tick | .service | .select _ | .claim .. | .publish ..
| .markPublished .. | .markFailed .. => false

end OrderManagement

------------------------------------------------------------
-- A Failure in Front of a Row
------------------------------------------------------------

namespace OrderManagement

attribute [local instance] sampleDeployment

/- Batches of a given size whose first row always fails. -/
def failingRounds
    (limit : Int) : List FleetCommand :=
  (List.range 10).flatMap fun k =>
    [ .tick (600000 * k), .select 0 limit, .claim 0,
      .publish 0 false, .markFailed 0 "timeout" ]

/- One row at a time, its attempts are all used. -/
theorem attempts_count_publishes_sample :
    (sampleFleet.play sampleFleetConfig
        (failingRounds 1)).2.attemptsOf "E7" = 10 ∧
      OnlyAfterPublishing
        (sampleFleet.play sampleFleetConfig
          (failingRounds 1)).1
        (sampleFleet.play sampleFleetConfig
          (failingRounds 1)).2 :=
  ⟨by decide +kernel,
    attempts_count_publishes sampleFleet_fresh
      (Fleet.play_finishing (by decide +kernel))⟩

/- The second row of the batches is never tried, and has no
   attempts left. -/
theorem untried_row_exhausted :
    ¬ ∀ s ls t,
        s.Fresh →
          Transition.Run (Fleet.Step sampleFleetConfig) s ls
              t →
            (∀ l ∈ ls, l.stops = false) →
              OnlyAfterPublishing ls t := by
  intro hClaim
  have hOnly :=
    hClaim _ _ _ sampleFleet_fresh
      (sampleFleet.play_run sampleFleetConfig
        (failingRounds 2)) (by decide +kernel)
  have hUntried :
      ∃ row ∈
          (sampleFleet.play sampleFleetConfig
            (failingRounds 2)).2.rows,
        row.publishedAt = none ∧
          defaultMaxOutboxAttempts ≤ row.attempts ∧
          (sampleFleet.play sampleFleetConfig
            (failingRounds 2)).2.pending
              (Keyed.key row) = 0 ∧
          publishCalls (Keyed.key row)
            (sampleFleet.play sampleFleetConfig
              (failingRounds 2)).1 = 0 := by
    decide +kernel
  rcases hUntried with
    ⟨row, hMem, hPending, hExhausted, hIdle, hNever⟩
  have hCalls := hOnly row hMem hPending hExhausted hIdle
  rw [hNever] at hCalls
  exact absurd hCalls (by decide)

end OrderManagement
