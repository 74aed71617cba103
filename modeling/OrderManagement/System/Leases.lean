import OrderManagement.Library.Lease
import OrderManagement.Library.Transition
import OrderManagement.System.Fleet
import OrderManagement.System.Serial

/-
  How often and how soon a row of the outbox is claimed. The
  workers share the retry delay, so the claims of one row
  are grants of a lease. Anyone who has claimed a row may
  move its next attempt, but never nearer than the delay.

  Main declarations:
    * `claimTimes`
    * `RowLeased` with `Fleet.Step.rowLeased`
    * `Fleet.Tracked` with `Fleet.Step.tracked`
    * `ClaimsExclusive` with `claims_exclusive`
-/

namespace OrderManagement

open Transaction

variable [Deployment]

------------------------------------------------------------
-- Claims of a Row
------------------------------------------------------------

/- The instant at which an event claims the row of a key. -/
def FleetEvent.claimTime
    (key : String) : FleetEvent → Option Time
| .claim _ _ now batch =>
    if key ∈ batch.map Keyed.key then some now else none
| .tick | .service | .select _ | .publish ..
| .markPublished .. | .markFailed .. | .stop _ => none

def claimTimes
    (key : String)
    (ls : List FleetEvent) : List Time :=
  ls.filterMap (FleetEvent.claimTime key)

theorem claimTimes_snoc
    (key : String)
    (ls : List FleetEvent)
    (l : FleetEvent) :
    claimTimes key (ls ++ [l]) =
      claimTimes key ls ++ (l.claimTime key).toList := by
  unfold claimTimes
  rw [List.filterMap_append]
  cases hTime : l.claimTime key <;> simp [hTime]

theorem claimTimes_snoc_of_none
    {key : String}
    {l : FleetEvent}
    (ls : List FleetEvent)
    (hNone : l.claimTime key = none) :
    claimTimes key (ls ++ [l]) = claimTimes key ls := by
  rw [claimTimes_snoc, hNone]
  exact List.append_nil _

variable {config : FleetConfig}

/- A claim charges the row of a key, or it does not. -/
def FleetEvent.charges
    (key : String)
    (l : FleetEvent) : Nat :=
  (l.claimTime key).elim 0 fun _ => 1

/- The attempts of a row grow with each claim of it. -/
theorem FleetEvent.attempts_rewrite
    (l : FleetEvent)
    (row : OrderTimeoutOutbox) :
    (l.rewrite config row).attempts =
      row.attempts + l.charges (Keyed.key row) := by
  unfold FleetEvent.charges
  cases l with
  | claim worker limit now batch =>
      simp only [FleetEvent.rewrite, FleetEvent.claimTime]
      by_cases hMem : Keyed.key row ∈ batch.map Keyed.key
      · rw [if_pos hMem, if_pos hMem]
        rfl
      · rw [if_neg hMem, if_neg hMem]
        rfl
  | markPublished | markFailed =>
      simp only [FleetEvent.rewrite]
      split <;> rfl
  | tick | service | select | publish | stop => rfl

/- A claim takes stored rows that are due and pending. -/
theorem Fleet.Step.claimed
    {s t : Fleet}
    {l : FleetEvent}
    (hStep : Fleet.Step config s l t)
    (hSelections : s.Selections config)
    {key : String}
    (hClaim : (l.claimTime key).isSome) :
    ∃ row ∈ s.rows,
      Keyed.key row = key ∧
        l.claimTime key = some s.clock ∧
        l.rewrite config row =
          row.claimed (s.clock + config.leaseDuration) ∧
        Dao.isClaimable s.clock config.attemptLimit row =
          true := by
  cases hStep with
  | @claim _ limit events batch db hSelected hLease =>
      simp only [FleetEvent.claimTime] at hClaim ⊢
      by_cases hKey : key ∈ batch.map Keyed.key
      case neg =>
        rw [if_neg hKey] at hClaim
        cases hClaim
      case pos =>
        have hSound := hSelections.sound _ _ _ _ hSelected
        have hEvents := hKey
        rw [(Dao.commits_leaseOrderTimeoutOutbox
          hLease).2.1] at hEvents
        rcases List.mem_map.mp hEvents with ⟨row, hMem, rfl⟩
        exact ⟨row, hSound.sublist.subset hMem, rfl,
          if_pos hKey, if_pos hKey, hSound.claimable row hMem⟩
  | tick | service | select | publish | markPublished
  | markFailed | stop => cases hClaim

------------------------------------------------------------
-- Copies of Rows
------------------------------------------------------------

/- A worker's copy of a row is that of a claim, and as old
   as the row, or older. -/
def Fleet.CopiesOld
    (s : Fleet) : Prop :=
  ∀ batch ∈ s.workers, ∀ outbox ∈ batch.copies,
    ∃ row ∈ s.rows,
      Keyed.key row = Keyed.key outbox ∧
        0 < outbox.attempts ∧
        outbox.attempts ≤ row.attempts

theorem FleetEvent.attempts_le
    (l : FleetEvent)
    (row : OrderTimeoutOutbox) :
    row.attempts ≤ (l.rewrite config row).attempts := by
  rw [l.attempts_rewrite]
  exact Nat.le_add_right ..

theorem Fleet.Step.mem_rewrite
    {s t : Fleet}
    {l : FleetEvent}
    (hStep : Fleet.Step config s l t)
    {row : OrderTimeoutOutbox}
    (hMem : row ∈ s.rows) :
    l.rewrite config row ∈ t.rows := by
  rcases hStep.rows with ⟨created, hRows, _⟩
  rw [hRows]
  exact List.mem_append_left _ (List.mem_map_of_mem hMem)

/- The copies that a worker acts on were there before, or
   the step has claimed them. -/
theorem Fleet.Step.copies
    {s t : Fleet}
    {l : FleetEvent}
    (hStep : Fleet.Step config s l t)
    {batch : PublishBatch}
    (hBatch : batch ∈ t.workers)
    {outbox : OrderTimeoutOutbox}
    (hCopy : outbox ∈ batch.copies) :
    (∃ old ∈ s.workers, outbox ∈ old.copies) ∨
      ∃ worker limit now copies,
        l = .claim worker limit now copies ∧
          outbox ∈ copies := by
  cases hStep with
  | tick | service => exact Or.inl ⟨batch, hBatch, hCopy⟩
  | select limit hIdle hLocked =>
      rcases List.mem_or_eq_of_mem_set hBatch with hOld | rfl
      · exact Or.inl ⟨batch, hOld, hCopy⟩
      · cases hCopy
  | claim hSelected hLease =>
      rcases List.mem_or_eq_of_mem_set hBatch with hOld | rfl
      · exact Or.inl ⟨batch, hOld, hCopy⟩
      · exact Or.inr ⟨_, _, _, _, rfl, hCopy⟩
  | publish ok hClaimed =>
      rcases List.mem_or_eq_of_mem_set hBatch with hOld | rfl
      · exact Or.inl ⟨batch, hOld, hCopy⟩
      · refine Or.inl
          ⟨_, List.mem_of_getElem? hClaimed, ?_⟩
        cases ok with
        | true => exact hCopy
        | false =>
            rw [List.mem_singleton.mp hCopy]
            exact List.mem_cons_self ..
  | markPublished hPublished hFree hMark =>
      rcases List.mem_or_eq_of_mem_set hBatch with hOld | rfl
      · exact Or.inl ⟨batch, hOld, hCopy⟩
      · exact Or.inl
          ⟨_, List.mem_of_getElem? hPublished,
            List.mem_cons_of_mem _ hCopy⟩
  | markFailed hFailed hFree hMark =>
      rcases List.mem_or_eq_of_mem_set hBatch with hOld | rfl
      · exact Or.inl ⟨batch, hOld, hCopy⟩
      · cases hCopy
  | stop hWorker =>
      rcases List.mem_or_eq_of_mem_set hBatch with hOld | rfl
      · exact Or.inl ⟨batch, hOld, hCopy⟩
      · cases hCopy

theorem Fleet.Step.copiesOld
    {s t : Fleet}
    {l : FleetEvent}
    (hStep : Fleet.Step config s l t)
    (hSelections : s.Selections config)
    (hOld : s.CopiesOld) :
    t.CopiesOld := by
  intro batch hBatch outbox hCopy
  rcases hStep.copies hBatch hCopy with
    ⟨old, hMem, hCopy⟩ | ⟨worker, limit, now, copies, rfl, hMem⟩
  · rcases hOld old hMem outbox hCopy with
      ⟨row, hRow, hKey, hPos, hLe⟩
    exact ⟨l.rewrite config row, hStep.mem_rewrite hRow,
      (l.key_rewrite row).trans hKey, hPos,
      hLe.trans (l.attempts_le row)⟩
  · cases hStep with
    | @claim _ _ events _ db hSelected hLease =>
        have hSound := hSelections.sound _ _ _ _ hSelected
        have hBatch := Dao.commits_leaseOrderTimeoutOutbox hLease
        have hStep :
            Fleet.Step config s
              (.claim worker limit s.clock copies) _ :=
          .claim hSelected hLease
        rw [hBatch.1] at hMem
        rcases List.mem_map.mp hMem with ⟨row, hRow, rfl⟩
        have hKey :
            Keyed.key row ∈ copies.map Keyed.key := by
          rw [hBatch.2.1]
          exact List.mem_map_of_mem hRow
        refine ⟨_,
          hStep.mem_rewrite (hSound.sublist.subset hRow),
          FleetEvent.key_rewrite _ _, Nat.succ_pos _, ?_⟩
        simp only [FleetEvent.rewrite, if_pos hKey]
        exact le_rfl

------------------------------------------------------------
-- The Lease of a Row
------------------------------------------------------------

/-
  What the row of a key tells about its claims so far. The
  next attempt is no later than the pause after the latest
  claim, counted from now.
-/
structure RowLeased
    (config : FleetConfig)
    (clock : Time)
    (grants : List Time)
    (row : OrderTimeoutOutbox) : Prop where
  valid :
    Lease.Valid config.outboxRetryDelay clock
      ⟨row.nextAttemptAt, grants⟩
  counted : row.attempts = grants.length
  limited : (row.attempts : Int) ≤ config.attemptLimit
  paused :
    0 < row.attempts →
      row.nextAttemptAt ≤
        clock +
          calculateExponentialBackoff config.outboxRetryDelay
            row.attempts config.maxBackoffDelay

omit [Deployment] in
theorem RowLeased.wait
    {clock now : Time}
    {grants : List Time}
    {row : OrderTimeoutOutbox}
    (hLeased : RowLeased config clock grants row)
    (hLater : clock ≤ now) :
    RowLeased config now grants row where
  valid := hLeased.valid.wait hLater
  counted := hLeased.counted
  limited := hLeased.limited
  paused hClaimed :=
    (hLeased.paused hClaimed).trans
      (Int.add_le_add_right hLater _)

omit [Deployment] in
theorem FleetConfig.attemptLimit_pos
    (config : FleetConfig) :
    0 < config.attemptLimit := by
  unfold FleetConfig.attemptLimit
  split <;> omega

omit [Deployment] in
/- A row that no one has claimed yet. -/
theorem RowLeased.fresh
    {clock : Time}
    {row : OrderTimeoutOutbox}
    (hFresh : row.attempts = 0) :
    RowLeased config clock [] row where
  valid := Lease.valid_fresh _ _ _
  counted := hFresh
  limited := by
    rw [hFresh]
    exact config.attemptLimit_pos.le
  paused hClaimed := by omega

section Leases

variable (hDelay : 0 < config.outboxRetryDelay)
  (hTenMinutes :
    config.outboxRetryDelay ≤ config.maxBackoffDelay)

include hDelay hTenMinutes

omit [Deployment] in
/- A claim is a grant of the lease. -/
theorem RowLeased.claim
    [Deployment]
    {clock : Time}
    {grants : List Time}
    {row : OrderTimeoutOutbox}
    (hLeased : RowLeased config clock grants row)
    (hClaimable :
      Dao.isClaimable clock config.attemptLimit row = true) :
    RowLeased config clock (grants ++ [clock])
      (row.claimed (clock + config.leaseDuration)) := by
  unfold Dao.isClaimable at hClaimable
  simp only [Bool.and_eq_true, decide_eq_true_eq] at hClaimable
  rcases hClaimable with ⟨⟨_, hDue⟩, hFew⟩
  have hDuration :
      config.leaseDuration = config.outboxRetryDelay :=
    if_neg (not_le.mpr hDelay)
  rw [hDuration]
  constructor
  · exact hLeased.valid.grant hDelay.le hDue
  · rw [List.length_append, ← hLeased.counted]
    rfl
  · change ((row.attempts + 1 : Nat) : Int) ≤ _
    omega
  · intro _
    exact Int.add_le_add_left
      (le_calculateExponentialBackoff _ hDelay hTenMinutes) _

omit [Deployment] in
/- A mark puts off the next attempt, by no more than the
   pause after the latest claim. -/
theorem RowLeased.mark
    {clock : Time}
    {grants : List Time}
    {row outbox : OrderTimeoutOutbox}
    (hLeased : RowLeased config clock grants row)
    (lastError : String)
    (hOld : outbox.attempts ≤ row.attempts) :
    RowLeased config clock grants
      { row with
        lastError := lastError
        nextAttemptAt :=
          clock +
            calculateExponentialBackoff
              config.outboxRetryDelay outbox.attempts
              config.maxBackoffDelay } where
  valid :=
    hLeased.valid.postpone
      (Int.add_le_add_left
        (le_calculateExponentialBackoff _ hDelay hTenMinutes)
        _)
  counted := hLeased.counted
  limited := hLeased.limited
  paused _ :=
    Int.add_le_add_left
      (calculateExponentialBackoff_mono hDelay
        (hDelay.trans_le hTenMinutes)
        (Int.ofNat_le.mpr hOld)) _

/- A row and its history after a step. -/
theorem Fleet.Step.rowLeased
    {s t : Fleet}
    {l : FleetEvent}
    (hStep : Fleet.Step config s l t)
    (hSelections : s.Selections config)
    (hOld : s.CopiesOld)
    {row : OrderTimeoutOutbox}
    (hMem : row ∈ s.rows)
    {ls : List FleetEvent}
    (hLeased :
      RowLeased config s.clock
        (claimTimes (Keyed.key row) ls) row) :
    RowLeased config t.clock
      (claimTimes (Keyed.key row) (ls ++ [l]))
      (l.rewrite config row) := by
  cases hClaim : l.claimTime (Keyed.key row) with
  | some time =>
      rcases hStep.claimed hSelections
          (Option.isSome_of_eq_some hClaim) with
        ⟨claimed, hStored, hKey, hTime, hRewrite, hClaimable⟩
      cases Table.eq_of_key_eq hStored hMem hKey
      rw [claimTimes_snoc, hTime, hRewrite]
      exact (hLeased.claim hDelay hTenMinutes hClaimable).wait
        hStep.clock_le
  | none =>
      rw [claimTimes_snoc_of_none ls hClaim]
      have hLeased := hLeased.wait hStep.clock_le
      cases hStep with
      | claim hSelected hLease =>
          simp only [FleetEvent.claimTime,
            ite_eq_right_iff, reduceCtorEq, imp_false]
            at hClaim
          simp only [FleetEvent.rewrite, if_neg hClaim]
          exact hLeased
      | markPublished hPublished hFree hMark =>
          simp only [FleetEvent.rewrite]
          split
          case isTrue =>
            exact ⟨hLeased.valid, hLeased.counted,
              hLeased.limited, hLeased.paused⟩
          case isFalse => exact hLeased
      | @markFailed _ outbox _ _ hFailed hFree hMark =>
          simp only [FleetEvent.rewrite]
          split
          case isTrue hNamed =>
            rcases hOld _ (List.mem_of_getElem? hFailed) outbox
                (List.mem_singleton_self _) with
              ⟨own, hOwn, hKey, _, hLe⟩
            unfold Dao.isUnpublished at hNamed
            simp only [Bool.and_eq_true,
              decide_eq_true_eq] at hNamed
            cases Table.eq_of_key_eq hOwn hMem
              (hKey.trans hNamed.1.symm)
            exact hLeased.mark hDelay hTenMinutes _ hLe
          case isFalse => exact hLeased
      | tick | service | select | publish | stop =>
          exact hLeased

------------------------------------------------------------
-- Runs
------------------------------------------------------------

omit hDelay hTenMinutes

/- The keys of the table after a step, in the order of their
   rows. -/
theorem Fleet.Step.keys
    {s t : Fleet}
    {l : FleetEvent}
    (hStep : Fleet.Step config s l t) :
    ∃ created : List OrderTimeoutOutbox,
      t.rows = s.rows.map (l.rewrite config ·) ++ created ∧
        t.rows.map Keyed.key =
          s.rows.map Keyed.key ++ created.map Keyed.key ∧
        ∀ row ∈ created,
          row.attempts = 0 ∧
            Keyed.key row ∉ s.rows.map Keyed.key := by
  rcases hStep.rows with ⟨created, hRows, hFresh⟩
  have hKeys :
      t.rows.map Keyed.key =
        s.rows.map Keyed.key ++ created.map Keyed.key := by
    rw [hRows, List.map_append, List.map_map]
    congr 1
    exact List.map_congr_left fun row _ => l.key_rewrite row
  refine ⟨created, hRows, hKeys, ?_⟩
  intro row hMem
  refine ⟨hFresh row hMem, fun hTaken => ?_⟩
  have hNodup := t.db.orderTimeoutOutbox.nodup
  rw [show t.db.orderTimeoutOutbox.rows = t.rows from rfl,
    hKeys, List.nodup_append] at hNodup
  exact hNodup.2.2 _ hTaken _ (List.mem_map_of_mem hMem) rfl

/- What holds of the fleet and its history in any run. -/
structure Fleet.Tracked
    (config : FleetConfig)
    (ls : List FleetEvent)
    (s : Fleet) : Prop where
  selections : s.Selections config
  copies : s.CopiesOld
  leased :
    ∀ row ∈ s.rows,
      RowLeased config s.clock
        (claimTimes (Keyed.key row) ls) row
  stored :
    ∀ key, claimTimes key ls ≠ [] →
      key ∈ s.rows.map Keyed.key
  batches :
    ∀ worker limit now batch,
      .claim worker limit now batch ∈ ls →
        (batch.map Keyed.key).Sublist
            (s.rows.map Keyed.key) ∧
          batch.length ≤ limit.toNat

theorem Fleet.Fresh.tracked
    {s : Fleet}
    (hFresh : s.Fresh) :
    s.Tracked config [] where
  selections := hFresh.selections
  copies batch hBatch outbox hCopy := by
    rw [hFresh.idle batch hBatch] at hCopy
    cases hCopy
  leased row hMem := RowLeased.fresh (hFresh.unclaimed row hMem)
  stored key hClaimed := absurd rfl hClaimed
  batches worker limit now batch hMem := by cases hMem

/- The batch of a claim: rows of the table in their order. -/
theorem Fleet.Step.batch
    {s t : Fleet}
    {worker : Nat}
    {limit : Int}
    {now : Time}
    {batch : List OrderTimeoutOutbox}
    (hStep :
      Fleet.Step config s (.claim worker limit now batch) t)
    (hSelections : s.Selections config) :
    (batch.map Keyed.key).Sublist (s.rows.map Keyed.key) ∧
      batch.length ≤ limit.toNat := by
  cases hStep with
  | @claim _ _ events _ db hSelected hLease =>
      have hSound := hSelections.sound _ _ _ _ hSelected
      have hBatch := Dao.commits_leaseOrderTimeoutOutbox hLease
      constructor
      · rw [hBatch.2.1]
        exact hSound.sublist.map _
      · rw [hBatch.1, List.length_map]
        exact hSound.limited

include hDelay hTenMinutes

theorem Fleet.Step.tracked
    {s t : Fleet}
    {l : FleetEvent}
    {ls : List FleetEvent}
    (hStep : Fleet.Step config s l t)
    (hTracked : s.Tracked config ls) :
    t.Tracked config (ls ++ [l]) := by
  rcases hStep.keys with ⟨created, hRows, hKeys, hFresh⟩
  have hUnclaimed :
      ∀ key, key ∉ s.rows.map Keyed.key →
        claimTimes key (ls ++ [l]) = [] := by
    intro key hFree
    have hBefore : claimTimes key ls = [] := by
      by_contra hClaimed
      exact hFree (hTracked.stored key hClaimed)
    have hNone : l.claimTime key = none := by
      by_contra hSome
      rcases hStep.claimed hTracked.selections
          (Option.isSome_iff_ne_none.mpr hSome) with
        ⟨row, hMem, rfl, _⟩
      exact hFree (List.mem_map_of_mem hMem)
    rw [claimTimes_snoc_of_none ls hNone, hBefore]
  constructor
  · exact hStep.selections hTracked.selections
  · exact hStep.copiesOld hTracked.selections hTracked.copies
  · intro row hMem
    rw [hRows] at hMem
    rcases List.mem_append.mp hMem with hOld | hNew
    · rcases List.mem_map.mp hOld with ⟨old, hStored, rfl⟩
      rw [l.key_rewrite]
      exact hStep.rowLeased hDelay hTenMinutes
        hTracked.selections hTracked.copies hStored
        (hTracked.leased old hStored)
    · rw [hUnclaimed _ (hFresh row hNew).2]
      exact RowLeased.fresh (hFresh row hNew).1
  · intro key hClaimed
    rw [hKeys]
    by_contra hFree
    refine hClaimed (hUnclaimed key fun hTaken => hFree ?_)
    exact List.mem_append_left _ hTaken
  · intro worker limit now batch hMem
    rw [hKeys]
    rcases List.mem_append.mp hMem with hOld | hNew
    · have hBatch := hTracked.batches _ _ _ _ hOld
      exact ⟨hBatch.1.trans (List.sublist_append_left ..),
        hBatch.2⟩
    · cases List.mem_singleton.mp hNew
      have hBatch := hStep.batch hTracked.selections
      exact ⟨hBatch.1.trans (List.sublist_append_left ..),
        hBatch.2⟩

theorem Fleet.Tracked.run
    {s t : Fleet}
    {ls : List FleetEvent}
    (hFresh : s.Fresh)
    (hRun : Transition.Run (Fleet.Step config) s ls t) :
    t.Tracked config ls :=
  hRun.history (P := fun ls t => t.Tracked config ls)
    hFresh.tracked
    fun _ _ _ _ _ hTracked hStep =>
      hStep.tracked hDelay hTenMinutes hTracked

omit hDelay hTenMinutes

/- A published row stays published and is not claimed. -/
theorem Fleet.Step.published
    {s t : Fleet}
    {l : FleetEvent}
    (hStep : Fleet.Step config s l t)
    (hSelections : s.Selections config)
    {row : OrderTimeoutOutbox}
    (hMem : row ∈ s.rows)
    (hPublished : row.publishedAt.isSome) :
    l.claimTime (Keyed.key row) = none ∧
      (l.rewrite config row).publishedAt.isSome := by
  have hNone : l.claimTime (Keyed.key row) = none := by
    by_contra hSome
    rcases hStep.claimed hSelections
        (Option.isSome_iff_ne_none.mpr hSome) with
      ⟨claimed, hStored, hKey, _, _, hClaimable⟩
    cases Table.eq_of_key_eq hStored hMem hKey
    unfold Dao.isClaimable at hClaimable
    simp [Option.isSome_iff_ne_none.mp hPublished] at hClaimable
  refine ⟨hNone, ?_⟩
  cases l with
  | markPublished =>
      simp only [FleetEvent.rewrite]
      split
      case isTrue => rfl
      case isFalse => exact hPublished
  | claim | markFailed =>
      simp only [FleetEvent.rewrite]
      split <;> exact hPublished
  | tick | service | select | publish | stop =>
      exact hPublished

theorem claimTimes_of_published
    {s t : Fleet}
    {ls : List FleetEvent}
    (hSelections : s.Selections config)
    (hRun : Transition.Run (Fleet.Step config) s ls t)
    {row : OrderTimeoutOutbox}
    (hMem : row ∈ s.rows)
    (hPublished : row.publishedAt.isSome) :
    claimTimes (Keyed.key row) ls = [] := by
  have hKept :
      t.Selections config ∧
        claimTimes (Keyed.key row) ls = [] ∧
        ∃ row' ∈ t.rows,
          Keyed.key row' = Keyed.key row ∧
            row'.publishedAt.isSome := by
    refine hRun.history
      (P := fun ls t =>
        t.Selections config ∧
          claimTimes (Keyed.key row) ls = [] ∧
          ∃ row' ∈ t.rows,
            Keyed.key row' = Keyed.key row ∧
              row'.publishedAt.isSome) ?_ ?_
    · exact ⟨hSelections, rfl, row, hMem, rfl, hPublished⟩
    · rintro ls t l u _
        ⟨hSelections, hNone, row', hMem', hKey, hPublished'⟩
        hStep
      rcases hStep.published hSelections hMem' hPublished' with
        ⟨hNow, hStill⟩
      rw [hKey] at hNow
      refine ⟨hStep.selections hSelections, ?_,
        _, hStep.mem_rewrite hMem',
        (l.key_rewrite row').trans hKey, hStill⟩
      rw [claimTimes_snoc_of_none ls hNow, hNone]
  exact hKept.2.1

------------------------------------------------------------
-- Exclusive Claims
------------------------------------------------------------

/- The id of a row: rows are numbered as they are inserted. -/
def Fleet.rowID
    (s : Fleet)
    (row : OrderTimeoutOutbox) : Nat :=
  (s.rows.map Keyed.key).idxOf (Keyed.key row)

theorem Fleet.rowID_lt
    (s : Fleet)
    {batch : List OrderTimeoutOutbox}
    (hBatch :
      (batch.map Keyed.key).Sublist (s.rows.map Keyed.key)) :
    (batch.map s.rowID).Pairwise (· < ·) := by
  have hNodup := s.db.orderTimeoutOutbox.nodup
  have hAll :
      (s.rows.map Keyed.key).Pairwise fun k k' =>
        (s.rows.map Keyed.key).idxOf k <
          (s.rows.map Keyed.key).idxOf k' := by
    refine List.pairwise_iff_getElem.mpr ?_
    intro i j hI hJ hLess
    rw [hNodup.idxOf_getElem i hI, hNodup.idxOf_getElem j hJ]
    exact hLess
  have hKept := hAll.sublist hBatch
  rw [List.pairwise_map] at hKept ⊢
  exact hKept

/-
  What is sure of the claims in a run. The next attempt of a
  row never lies within a lease that was granted; it moves
  back only when a worker marks a copy that is older than
  the latest claim.
-/
structure ClaimsExclusive
    (config : FleetConfig)
    (ls : List FleetEvent)
    (t : Fleet) : Prop where
  leased :
    ∀ row ∈ t.rows, ∀ now ∈ claimTimes (Keyed.key row) ls,
      now + config.outboxRetryDelay ≤ row.nextAttemptAt
  postponed :
    ∀ l u, Fleet.Step config t l u →
      ∀ row ∈ t.rows, ∀ row' ∈ u.rows,
        Keyed.key row' = Keyed.key row →
          row'.nextAttemptAt < row.nextAttemptAt →
            ∃ worker outbox lastError,
              l =
                  .markFailed worker t.clock outbox
                    lastError ∧
                Keyed.key outbox = Keyed.key row ∧
                outbox.attempts < row.attempts
  spaced :
    ∀ key, (claimTimes key ls).Pairwise fun t u =>
      t + config.outboxRetryDelay ≤ u
  published :
    ∀ row ∈ t.rows, row.publishedAt.isSome →
      ∀ ms u, Transition.Run (Fleet.Step config) t ms u →
        claimTimes (Keyed.key row) ms = []
  counted :
    ∀ row ∈ t.rows,
      row.attempts =
          (claimTimes (Keyed.key row) ls).length ∧
        (row.attempts : Int) ≤ config.attemptLimit
  ordered :
    ∀ worker limit now batch,
      .claim worker limit now batch ∈ ls →
        (batch.map t.rowID).Pairwise (· < ·) ∧
          batch.length ≤ limit.toNat

/- A mark by the latest claimer does not move a row back. -/
theorem Fleet.Tracked.postponed
    {s t : Fleet}
    {l : FleetEvent}
    {ls : List FleetEvent}
    (hDelay : 0 < config.outboxRetryDelay)
    (hTracked : s.Tracked config ls)
    (hStep : Fleet.Step config s l t)
    {row : OrderTimeoutOutbox}
    (hMem : row ∈ s.rows)
    (hBack :
      (l.rewrite config row).nextAttemptAt <
        row.nextAttemptAt) :
    ∃ worker outbox lastError,
      l = .markFailed worker s.clock outbox lastError ∧
        Keyed.key outbox = Keyed.key row ∧
        outbox.attempts < row.attempts := by
  cases hStep with
  | tick | service | select | publish | stop =>
      exact absurd hBack (lt_irrefl _)
  | markPublished hPublished hFree hMark =>
      simp only [FleetEvent.rewrite] at hBack
      split at hBack <;> exact absurd hBack (lt_irrefl _)
  | @claim worker limit events batch _ hSelected hLease =>
      have hStep :
          Fleet.Step config s
            (.claim worker limit s.clock batch) _ :=
        .claim hSelected hLease
      cases hClaim :
          (FleetEvent.claim worker limit s.clock
            batch).claimTime (Keyed.key row) with
      | none =>
          simp only [FleetEvent.claimTime, ite_eq_right_iff,
            reduceCtorEq, imp_false] at hClaim
          simp only [FleetEvent.rewrite,
            if_neg hClaim] at hBack
          exact absurd hBack (lt_irrefl _)
      | some now =>
          rcases hStep.claimed hTracked.selections
              (Option.isSome_of_eq_some hClaim) with
            ⟨own, hOwn, hKey, _, hRewrite, hClaimable⟩
          cases Table.eq_of_key_eq hOwn hMem hKey
          -- a claimed row was due, and its lease is ahead
          have hDuration :
              config.leaseDuration = config.outboxRetryDelay :=
            if_neg (not_le.mpr hDelay)
          unfold Dao.isClaimable at hClaimable
          simp only [Bool.and_eq_true,
            decide_eq_true_eq] at hClaimable
          have hDue : row.nextAttemptAt ≤ s.clock :=
            hClaimable.1.2
          rw [hRewrite, hDuration] at hBack
          exact absurd hBack (not_lt.mpr (hDue.trans
            (Int.le_add_of_nonneg_right hDelay.le)))
  | @markFailed worker outbox lastError _ hFailed hFree
      hMark =>
      rcases hTracked.copies _ (List.mem_of_getElem? hFailed)
          outbox (List.mem_singleton_self _) with
        ⟨own, hOwn, hKey, hPos, hLe⟩
      simp only [FleetEvent.rewrite] at hBack
      split at hBack
      case isFalse => exact absurd hBack (lt_irrefl _)
      case isTrue hNamed =>
        unfold Dao.isUnpublished at hNamed
        simp only [Bool.and_eq_true,
          decide_eq_true_eq] at hNamed
        cases Table.eq_of_key_eq hOwn hMem
          (hKey.trans hNamed.1.symm)
        refine ⟨worker, outbox, lastError, rfl, hKey.symm, ?_⟩
        by_contra hLatest
        have hSame : outbox.attempts = row.attempts :=
          Nat.le_antisymm hLe (Nat.le_of_not_lt hLatest)
        have hPaused :=
          (hTracked.leased row hMem).paused (hPos.trans_le hLe)
        rw [hSame] at hBack
        exact absurd hBack (not_lt.mpr hPaused)

/-
  Exclusive claims. In every run of the workers a row is
  claimed at most once in each lease, in all at most as often
  as its attempts are limited, and not after it was
  published.
-/
theorem claims_exclusive
    {s t : Fleet}
    {ls : List FleetEvent}
    (hDelay : 0 < config.outboxRetryDelay)
    (hTenMinutes :
      config.outboxRetryDelay ≤ config.maxBackoffDelay)
    (hFresh : s.Fresh)
    (hRun : Transition.Run (Fleet.Step config) s ls t) :
    ClaimsExclusive config ls t := by
  have hTracked :=
    Fleet.Tracked.run hDelay hTenMinutes hFresh hRun
  constructor
  · exact fun row hMem => (hTracked.leased row hMem).valid.covered
  · intro l u hStep row hMem row' hMem' hKey hBack
    have hSame : row' = l.rewrite config row :=
      Table.eq_of_key_eq hMem' (hStep.mem_rewrite hMem)
        (hKey.trans (l.key_rewrite row).symm)
    rw [hSame] at hBack
    exact hTracked.postponed hDelay hStep hMem hBack
  · intro key
    by_cases hStored : key ∈ t.rows.map Keyed.key
    · rcases List.mem_map.mp hStored with ⟨row, hMem, rfl⟩
      exact (hTracked.leased row hMem).valid.spaced
    · have hNone : claimTimes key ls = [] := by
        by_contra hClaimed
        exact hStored (hTracked.stored key hClaimed)
      rw [hNone]
      exact List.Pairwise.nil
  · intro row hMem hPublished ms u hRest
    exact claimTimes_of_published hTracked.selections hRest
      hMem hPublished
  · intro row hMem
    exact ⟨(hTracked.leased row hMem).counted,
      (hTracked.leased row hMem).limited⟩
  · intro worker limit now batch hMem
    have hBatch := hTracked.batches _ _ _ _ hMem
    exact ⟨t.rowID_lt hBatch.1, hBatch.2⟩

end Leases

/- No step lets the next attempt of a row come sooner. -/
def NextAttemptsKept
    (config : FleetConfig) : Prop :=
  ∀ s ls t l u,
    s.Fresh → Transition.Run (Fleet.Step config) s ls t →
      Fleet.Step config t l u →
        ∀ row ∈ t.rows, ∀ row' ∈ u.rows,
          Keyed.key row = Keyed.key row' →
            row.nextAttemptAt ≤ row'.nextAttemptAt

end OrderManagement

------------------------------------------------------------
-- A Late Mark
------------------------------------------------------------

namespace OrderManagement

attribute [local instance] sampleDeployment

def sampleFleetConfig : FleetConfig where
  ticksPerMillisecond := 1
  outboxRetryDelay := 30000
  maxAttempts := defaultMaxOutboxAttempts

def sampleOutboxRow
    (eventID : String)
    (orderID : Int) : OrderTimeoutOutbox where
  eventID := eventID
  orderID := orderID
  userID := 3
  timeoutAt := 1800000
  publishedAt := none
  attempts := 0
  nextAttemptAt := 0
  lastError := ""

/- Two workers and an outbox with two rows. -/
def sampleFleet : Fleet where
  clock := 0
  db := { DB.empty with
    orderTimeoutOutbox :=
      ⟨[sampleOutboxRow "E7" 7, sampleOutboxRow "E8" 8],
        by decide +kernel⟩ }
  workers := [.idle, .idle]

theorem sampleFleet_fresh : sampleFleet.Fresh where
  unclaimed := by decide +kernel
  idle batch hMem := by
    simpa [sampleFleet] using hMem

/-
  The first worker is slow. When its lease is over, the
  second one claims the rows, fails, and makes them wait for
  a minute; then the first one fails too.
-/
def lateCommands : List FleetCommand :=
  [ .select 0 1, .claim 0, .tick 30000, .select 1 1,
    .claim 1, .publish 1 false, .markFailed 1 "timeout",
    .tick 30001, .publish 0 false ]

theorem claims_exclusive_sample :
    (sampleFleet.play sampleFleetConfig
        lateCommands).1.length = 9 ∧
      ClaimsExclusive sampleFleetConfig
        (sampleFleet.play sampleFleetConfig lateCommands).1
        (sampleFleet.play sampleFleetConfig
          lateCommands).2 :=
  ⟨by decide +kernel,
    claims_exclusive (by decide) (by decide)
      sampleFleet_fresh (Fleet.play_run _ _ _)⟩

/- The mark that the slow worker makes then. -/
def lateMark : Option (FleetEvent × Fleet) :=
  (sampleFleet.play sampleFleetConfig
    lateCommands).2.perform sampleFleetConfig
      (.markFailed 0 "timeout")

theorem lateMark_isSome :
    lateMark.isSome := by
  decide +kernel

theorem late_mark_moves_back :
    ¬ NextAttemptsKept sampleFleetConfig := by
  intro hKept
  have hBack :
      ∃ row ∈
          (sampleFleet.play sampleFleetConfig
            lateCommands).2.rows,
        ∃ row' ∈ (lateMark.get lateMark_isSome).2.rows,
          Keyed.key row = Keyed.key row' ∧
            row'.nextAttemptAt < row.nextAttemptAt := by
    decide +kernel
  rcases hBack with ⟨row, hMem, row', hMem', hKey, hLess⟩
  have hStep :=
    Fleet.step_of_perform (Option.some_get lateMark_isSome).symm
  exact absurd
    (hKept _ _ _ _ _ sampleFleet_fresh
      (Fleet.play_run _ _ lateCommands) hStep row hMem row'
      hMem' hKey)
    (not_le.mpr hLess)

end OrderManagement
