import OrderManagement.Ordertimeout.Worker
import OrderManagement.System.Requests
import OrderManagement.Library.Transition

/-
  Any number of workers that run `publishBatch` against one
  outbox and read one clock. A claim is two steps: the
  SELECT locks the rows that it returns, and the UPDATE ends
  the transaction. Other workers act in between.

  Main declarations:
    * `Fleet`, `FleetEvent`, and `Fleet.Step`
    * `Fleet.Step.rows` and `Fleet.Step.workers_eq`
    * `Fleet.Selections` with `Fleet.Step.selections`
    * `Fleet.Step.claim_commits`
    * `Fleet.play` with `Fleet.play_run`
-/

namespace OrderManagement

open Transaction

variable [Deployment]

------------------------------------------------------------
-- Configuration
------------------------------------------------------------

/-
  What the workers have in common. Instants and durations
  count ticks here, any number of them to a millisecond.
-/
structure FleetConfig where
  ticksPerMillisecond : Int
  outboxRetryDelay : Time
  maxAttempts : Int

def FleetConfig.leaseDuration
    (config : FleetConfig) : Time :=
  if config.outboxRetryDelay ≤ 0 then
    config.ticksPerMillisecond * 30000
  else
    config.outboxRetryDelay

def FleetConfig.maxBackoffDelay
    (config : FleetConfig) : Time :=
  config.ticksPerMillisecond * maxOutboxBackoffDelay

/- The limit that the claiming SELECT compares with. -/
def FleetConfig.attemptLimit
    (config : FleetConfig) : Int :=
  if config.maxAttempts ≤ 0 then 10 else config.maxAttempts

------------------------------------------------------------
-- States
------------------------------------------------------------

/-
  How far a worker has come with a batch: its claiming
  transaction has locked rows, it goes on with the first of
  the rows that it has claimed, or `publishEvent` has
  returned for a row.
-/
inductive PublishBatch
| idle
| selected
    (now : Time)
    (limit : Int)
    (events : List OrderTimeoutOutbox)
| claimed (events : List OrderTimeoutOutbox)
| published
    (outbox : OrderTimeoutOutbox)
    (events : List OrderTimeoutOutbox)
| failed (outbox : OrderTimeoutOutbox)
deriving DecidableEq

/- The rows for which a batch has yet to call publishEvent. -/
def PublishBatch.unpublished :
    PublishBatch → List OrderTimeoutOutbox
| .claimed events | .published _ events => events
| .idle | .selected .. | .failed _ => []

/- The copies of claimed rows that a batch still acts on. -/
def PublishBatch.copies :
    PublishBatch → List OrderTimeoutOutbox
| .claimed events => events
| .published outbox events => outbox :: events
| .failed outbox => [outbox]
| .idle | .selected .. => []

/- A row is locked by the transaction of a batch. -/
def PublishBatch.locks
    (row : OrderTimeoutOutbox) : PublishBatch → Bool
| .selected _ _ events =>
    Keyed.key row ∈ events.map Keyed.key
| .idle | .claimed _ | .published .. | .failed _ => false

structure Fleet where
  clock : Time
  db : DB
  workers : List PublishBatch

abbrev Fleet.rows
    (s : Fleet) : List OrderTimeoutOutbox :=
  s.db.orderTimeoutOutbox.rows

def Fleet.locks
    (s : Fleet)
    (row : OrderTimeoutOutbox) : Bool :=
  s.workers.any (PublishBatch.locks row)

def Fleet.set
    (s : Fleet)
    (worker : Nat)
    (batch : PublishBatch) : Fleet :=
  { s with workers := s.workers.set worker batch }

------------------------------------------------------------
-- Steps
------------------------------------------------------------

/- What a step does, with the instant that it reads. -/
inductive FleetEvent
| tick
| service
| select (worker : Nat)
| claim
    (worker : Nat)
    (limit : Int)
    (now : Time)
    (batch : List OrderTimeoutOutbox)
| publish
    (worker : Nat)
    (outbox : OrderTimeoutOutbox)
    (ok : Bool)
| markPublished
    (worker : Nat)
    (now : Time)
    (outbox : OrderTimeoutOutbox)
| markFailed
    (worker : Nat)
    (now : Time)
    (outbox : OrderTimeoutOutbox)
    (lastError : String)
| stop (worker : Nat)

/-
  SKIP LOCKED passes over the rows that other claims have
  locked, and maybe over more of them. A marking statement
  waits for the lock on its row. A batch stops when it is
  done, when a statement fails, or when its process is lost;
  an open transaction is rolled back then.
-/
inductive Fleet.Step
    (config : FleetConfig) :
    Fleet → FleetEvent → Fleet → Prop
| tick
    {s : Fleet}
    {now : Time}
    (hLater : s.clock ≤ now) :
    Fleet.Step config s .tick { s with clock := now }
| service
    {s : Fleet}
    {view db : DB}
    {request : Request}
    {outcome : Outcome}
    (hEffect : Effect view request outcome s.db db) :
    Fleet.Step config s .service { s with db := db }
| select
    {s : Fleet}
    {worker : Nat}
    (limit : Int)
    {locked : OrderTimeoutOutbox → Bool}
    (hIdle : s.workers[worker]? = some .idle)
    (hLocked : ∀ row, s.locks row = true → locked row = true) :
    Fleet.Step config s (.select worker)
      (s.set worker
        (.selected s.clock limit
          (Dao.listPendingOrderTimeoutOutbox s.clock limit
            config.attemptLimit locked s.db)))
| claim
    {s : Fleet}
    {worker : Nat}
    {limit : Int}
    {events batch : List OrderTimeoutOutbox}
    {db : DB}
    (hSelected :
      s.workers[worker]? =
        some (.selected s.clock limit events))
    (hLease :
      Commits
        (Dao.leaseOrderTimeoutOutbox events
          (s.clock + config.leaseDuration)) s.db batch db) :
    Fleet.Step config s (.claim worker limit s.clock batch)
      (Fleet.set { s with db := db } worker (.claimed batch))
| publish
    {s : Fleet}
    {worker : Nat}
    {outbox : OrderTimeoutOutbox}
    {events : List OrderTimeoutOutbox}
    (ok : Bool)
    (hClaimed :
      s.workers[worker]? = some (.claimed (outbox :: events))) :
    Fleet.Step config s (.publish worker outbox ok)
      (s.set worker
        (if ok then .published outbox events
          else .failed outbox))
| markPublished
    {s : Fleet}
    {worker : Nat}
    {outbox : OrderTimeoutOutbox}
    {events : List OrderTimeoutOutbox}
    {db : DB}
    (hPublished :
      s.workers[worker]? = some (.published outbox events))
    (hFree : s.locks outbox = false)
    (hMark :
      Commits
        (Dao.markOrderTimeoutOutboxPublished outbox.eventID
          s.clock) s.db () db) :
    Fleet.Step config s (.markPublished worker s.clock outbox)
      (Fleet.set { s with db := db } worker (.claimed events))
| markFailed
    {s : Fleet}
    {worker : Nat}
    {outbox : OrderTimeoutOutbox}
    {lastError : String}
    {db : DB}
    (hFailed : s.workers[worker]? = some (.failed outbox))
    (hFree : s.locks outbox = false)
    (hMark :
      Commits
        (Dao.markOrderTimeoutOutboxFailed outbox.eventID
          lastError
          (s.clock +
            calculateExponentialBackoff
              config.outboxRetryDelay outbox.attempts
              config.maxBackoffDelay)) s.db () db) :
    Fleet.Step config s
      (.markFailed worker s.clock outbox lastError)
      (Fleet.set { s with db := db } worker .idle)
| stop
    {s : Fleet}
    {worker : Nat}
    {batch : PublishBatch}
    (hWorker : s.workers[worker]? = some batch) :
    Fleet.Step config s (.stop worker) (s.set worker .idle)

/- At the start no row has been claimed. -/
structure Fleet.Fresh
    (s : Fleet) : Prop where
  unclaimed : ∀ row ∈ s.rows, row.attempts = 0
  idle : ∀ batch ∈ s.workers, batch = .idle

------------------------------------------------------------
-- Effect of a Step on the Rows
------------------------------------------------------------

/- What a step makes of a row of the outbox. -/
def FleetEvent.rewrite
    (config : FleetConfig)
    (row : OrderTimeoutOutbox) :
    FleetEvent → OrderTimeoutOutbox
| .claim _ _ now batch =>
    if Keyed.key row ∈ batch.map Keyed.key then
      row.claimed (now + config.leaseDuration)
    else
      row
| .markPublished _ now outbox =>
    if Dao.isUnpublished outbox.eventID row then
      { row with publishedAt := some now, lastError := "" }
    else
      row
| .markFailed _ now outbox lastError =>
    if Dao.isUnpublished outbox.eventID row then
      { row with
        lastError := lastError
        nextAttemptAt :=
          now +
            calculateExponentialBackoff
              config.outboxRetryDelay outbox.attempts
              config.maxBackoffDelay }
    else
      row
| .tick | .service | .select _ | .publish .. | .stop _ => row

/- The worker that takes a step. -/
def FleetEvent.worker : FleetEvent → Option Nat
| .tick | .service => none
| .select worker | .claim worker .. | .publish worker ..
| .markPublished worker .. | .markFailed worker ..
| .stop worker => some worker

variable {config : FleetConfig}

theorem FleetEvent.key_rewrite
    (l : FleetEvent)
    (row : OrderTimeoutOutbox) :
    Keyed.key (l.rewrite config row) = Keyed.key row := by
  cases l with
  | claim | markPublished | markFailed =>
      simp only [FleetEvent.rewrite]
      split <;> rfl
  | tick | service | select | publish | stop => rfl

/- A call of a service adds rows that nobody has claimed. -/
theorem Effect.outbox_rows
    {view db db' : DB}
    {request : Request}
    {outcome : Outcome}
    (hEffect : Effect view request outcome db db') :
    ∃ created : List OrderTimeoutOutbox,
      db'.orderTimeoutOutbox.rows =
          db.orderTimeoutOutbox.rows ++ created ∧
        ∀ row ∈ created, row.attempts = 0 := by
  cases hEffect with
  | @orderCreated now nextAttemptAt userID req ids
      requestHash items order _ _ hChecked hPlaced =>
      exact ⟨[timeoutRow nextAttemptAt ids.eventID order],
        (Table.insert?_eq_some_iff.mp hPlaced.outbox).2,
        by simp [timeoutRow]⟩
  | orderPaid _ hMoved | orderFinished _ hMoved
  | orderCancelled _ hMoved | orderExpired _ _ hMoved =>
      exact ⟨[], by rw [OrderMoved.outbox hMoved]; simp, by simp⟩
  | productCreated | productStatusSame | productStatusSet
  | inventoryInitialised | inventoryAdded | orderReplayed
  | cancelRepeated | expiryRepeated | expiryIgnored
  | expiryLate => exact ⟨[], by simp, by simp⟩

/- A step rewrites the rows that are there, and only a
   service adds new ones. -/
theorem Fleet.Step.rows
    {s t : Fleet}
    {l : FleetEvent}
    (hStep : Fleet.Step config s l t) :
    ∃ created : List OrderTimeoutOutbox,
      t.rows = s.rows.map (l.rewrite config ·) ++ created ∧
        ∀ row ∈ created, row.attempts = 0 := by
  cases hStep with
  | service hEffect =>
      simpa [FleetEvent.rewrite] using hEffect.outbox_rows
  | claim hSelected hLease =>
      have hRows :=
        (Dao.commits_leaseOrderTimeoutOutbox hLease).2.2
      exact ⟨[], by rw [List.append_nil]; exact hRows,
        by simp⟩
  | markPublished hPublished hFree hMark =>
      rcases Dao.commits_markOrderTimeoutOutboxPublished
          hMark with ⟨_, rfl⟩
      exact ⟨[], by rw [List.append_nil]; rfl, by simp⟩
  | markFailed hFailed hFree hMark =>
      rcases Dao.commits_markOrderTimeoutOutboxFailed
          hMark with ⟨_, rfl⟩
      exact ⟨[], by rw [List.append_nil]; rfl, by simp⟩
  | tick | select | publish | stop =>
      exact ⟨[], by simp [FleetEvent.rewrite, Fleet.set],
        by simp⟩

/- A step leaves the batches of the other workers alone. -/
theorem Fleet.Step.workers_eq
    {s t : Fleet}
    {l : FleetEvent}
    (hStep : Fleet.Step config s l t)
    {worker : Nat}
    (hOther : l.worker ≠ some worker) :
    t.workers[worker]? = s.workers[worker]? := by
  cases hStep with
  | tick | service => rfl
  | select | claim | publish | markPublished | markFailed
  | stop =>
      exact List.getElem?_set_ne fun hSame =>
        hOther (congrArg some hSame)

theorem Fleet.Step.clock_le
    {s t : Fleet}
    {l : FleetEvent}
    (hStep : Fleet.Step config s l t) :
    s.clock ≤ t.clock := by
  cases hStep with
  | tick hLater => exact hLater
  | service | select | claim | publish | markPublished
  | markFailed | stop => exact le_rfl

------------------------------------------------------------
-- Locked Rows
------------------------------------------------------------

/- The transaction of a worker has locked these rows. -/
def Fleet.Selecting
    (s : Fleet)
    (worker : Nat)
    (now : Time)
    (limit : Int)
    (events : List OrderTimeoutOutbox) : Prop :=
  s.workers[worker]? = some (.selected now limit events)

/- A selection is an old one, or the step has just read it. -/
theorem Fleet.Step.selecting
    {s t : Fleet}
    {l : FleetEvent}
    (hStep : Fleet.Step config s l t)
    {worker : Nat}
    {now : Time}
    {limit : Int}
    {events : List OrderTimeoutOutbox}
    (hSelecting : t.Selecting worker now limit events) :
    (l.worker ≠ some worker ∧
        s.Selecting worker now limit events) ∨
      (now = s.clock ∧ t.db = s.db ∧
        l.worker = some worker ∧
        ∃ locked : OrderTimeoutOutbox → Bool,
          (∀ row, s.locks row = true → locked row = true) ∧
            events =
              Dao.listPendingOrderTimeoutOutbox s.clock limit
                config.attemptLimit locked s.db) := by
  by_cases hOwn : l.worker = some worker
  · right
    unfold Fleet.Selecting at hSelecting
    cases hStep with
    | tick | service => cases hOwn
    | @select worker' _ locked hIdle hLocked =>
        cases hOwn
        rw [Fleet.set, List.getElem?_set] at hSelecting
        rcases List.getElem?_eq_some_iff.mp hIdle with
          ⟨hBound, _⟩
        rw [if_pos rfl, if_pos hBound] at hSelecting
        cases hSelecting
        exact ⟨rfl, rfl, rfl, locked, hLocked, rfl⟩
    | publish ok hClaimed =>
        cases hOwn
        rw [Fleet.set, List.getElem?_set] at hSelecting
        cases ok <;> simp at hSelecting
    | claim | markPublished | markFailed | stop =>
        cases hOwn
        rw [Fleet.set, List.getElem?_set] at hSelecting
        simp at hSelecting
  · left
    unfold Fleet.Selecting at hSelecting ⊢
    rw [hStep.workers_eq hOwn] at hSelecting
    exact ⟨hOwn, hSelecting⟩

/- Locked rows are claimable and stand in their order. -/
structure Fleet.Selection
    (config : FleetConfig)
    (s : Fleet)
    (now : Time)
    (limit : Int)
    (events : List OrderTimeoutOutbox) : Prop where
  sublist : events.Sublist s.rows
  claimable :
    ∀ row ∈ events,
      Dao.isClaimable now config.attemptLimit row = true
  limited : events.length ≤ limit.toNat

/- No two of the open transactions have locked one row. -/
structure Fleet.Selections
    (config : FleetConfig)
    (s : Fleet) : Prop where
  sound :
    ∀ worker now limit events,
      s.Selecting worker now limit events →
        s.Selection config now limit events
  apart :
    ∀ worker now limit events worker' now' limit' events',
      s.Selecting worker now limit events →
        s.Selecting worker' now' limit' events' →
          worker ≠ worker' → events.Disjoint events'

theorem Fleet.Fresh.selections
    {s : Fleet}
    (hFresh : s.Fresh) :
    s.Selections config := by
  have hNone :
      ∀ worker now limit events,
        ¬ s.Selecting worker now limit events := by
    intro worker now limit events hSelecting
    have hIdle :=
      hFresh.idle _ (List.mem_of_getElem? hSelecting)
    cases hIdle
  constructor
  · intro worker now limit events hSelecting
    exact absurd hSelecting (hNone _ _ _ _)
  · intro worker now limit events _ _ _ _ hSelecting
    exact absurd hSelecting (hNone _ _ _ _)

theorem Fleet.Selecting.locks
    {s : Fleet}
    {worker : Nat}
    {now : Time}
    {limit : Int}
    {events : List OrderTimeoutOutbox}
    (hSelecting : s.Selecting worker now limit events)
    {row outbox : OrderTimeoutOutbox}
    (hMem : row ∈ events)
    (hKey : Keyed.key row = Keyed.key outbox) :
    s.locks outbox = true :=
  List.any_eq_true.mpr
    ⟨_, List.mem_of_getElem? hSelecting,
      decide_eq_true (List.mem_map.mpr ⟨row, hMem, hKey⟩)⟩

/- No step of another worker rewrites a locked row. -/
theorem Fleet.Step.rewrite_locked
    {s t : Fleet}
    {l : FleetEvent}
    (hStep : Fleet.Step config s l t)
    (hSelections : s.Selections config)
    {worker : Nat}
    {now : Time}
    {limit : Int}
    {events : List OrderTimeoutOutbox}
    (hSelecting : s.Selecting worker now limit events)
    (hOther : l.worker ≠ some worker)
    {row : OrderTimeoutOutbox}
    (hMem : row ∈ events) :
    l.rewrite config row = row := by
  have hUnnamed :
      ∀ outbox : OrderTimeoutOutbox,
        s.locks outbox = false →
          Dao.isUnpublished outbox.eventID row ≠ true := by
    intro outbox hFree hNamed
    unfold Dao.isUnpublished at hNamed
    simp only [Bool.and_eq_true,
      decide_eq_true_eq] at hNamed
    rw [hSelecting.locks hMem hNamed.1] at hFree
    cases hFree
  cases hStep with
  | claim hSelected hLease =>
      refine if_neg fun hKey => ?_
      rw [(Dao.commits_leaseOrderTimeoutOutbox
        hLease).2.1] at hKey
      rcases List.mem_map.mp hKey with
        ⟨own, hOwn, hSame⟩
      have hRow :=
        (hSelections.sound _ _ _ _ hSelecting).sublist.subset
          hMem
      have hOwnRow :=
        (hSelections.sound _ _ _ _ hSelected).sublist.subset
          hOwn
      cases Table.eq_of_key_eq hOwnRow hRow hSame
      refine hSelections.apart _ _ _ _ _ _ _ _ hSelecting
        hSelected ?_ hMem hOwn
      rintro rfl
      exact hOther rfl
  | markPublished hPublished hFree hMark =>
      exact if_neg (hUnnamed _ hFree)
  | markFailed hFailed hFree hMark =>
      exact if_neg (hUnnamed _ hFree)
  | tick | service | select | publish | stop => rfl

/- Rows that a step leaves alone stay in their order. -/
theorem Fleet.Step.sublist
    {s t : Fleet}
    {l : FleetEvent}
    {events : List OrderTimeoutOutbox}
    (hStep : Fleet.Step config s l t)
    (hSublist : events.Sublist s.rows)
    (hSame : ∀ row ∈ events, l.rewrite config row = row) :
    events.Sublist t.rows := by
  rcases hStep.rows with ⟨created, hRows, _⟩
  have hMap : events.map (l.rewrite config ·) = events := by
    calc
      events.map (l.rewrite config ·) = events.map id :=
        List.map_congr_left hSame
      _ = events := List.map_id events
  rw [hRows, ← hMap]
  exact (hSublist.map _).trans (List.sublist_append_left ..)

theorem Fleet.Step.selections
    {s t : Fleet}
    {l : FleetEvent}
    (hStep : Fleet.Step config s l t)
    (hSelections : s.Selections config) :
    t.Selections config := by
  constructor
  · intro worker now limit events hSelecting
    rcases hStep.selecting hSelecting with
      ⟨hOther, hOld⟩ | ⟨rfl, hDB, _, locked, hLocked, rfl⟩
    · have hSound := hSelections.sound _ _ _ _ hOld
      refine ⟨?_, hSound.claimable, hSound.limited⟩
      exact hStep.sublist hSound.sublist fun row hMem =>
        hStep.rewrite_locked hSelections hOld hOther hMem
    · refine ⟨?_, ?_, List.length_take_le ..⟩
      · rw [Fleet.rows, hDB]
        exact (List.take_sublist ..).trans List.filter_sublist
      · exact fun row hMem =>
          (Dao.mem_listPendingOrderTimeoutOutbox hMem).1
  · intro worker now limit events worker' now' limit' events'
      hSelecting hSelecting' hNe row hMem hMem'
    -- what one of them has read, the other had not locked
    rcases hStep.selecting hSelecting with
      ⟨_, hOld⟩ | ⟨_, _, hOwn, locked, hLocked, rfl⟩
    · rcases hStep.selecting hSelecting' with
        ⟨_, hOld'⟩ | ⟨_, _, _, locked, hLocked, rfl⟩
      · exact hSelections.apart _ _ _ _ _ _ _ _ hOld hOld' hNe
          hMem hMem'
      · have hFree :=
          (Dao.mem_listPendingOrderTimeoutOutbox hMem').2
        rw [hLocked row (hOld.locks hMem rfl)] at hFree
        cases hFree
    · rcases hStep.selecting hSelecting' with
        ⟨_, hOld'⟩ | ⟨_, _, hOwn', _⟩
      · have hFree :=
          (Dao.mem_listPendingOrderTimeoutOutbox hMem).2
        rw [hLocked row (hOld'.locks hMem' rfl)] at hFree
        cases hFree
      · rw [hOwn] at hOwn'
        exact hNe (Option.some.inj hOwn')

/-
  A claim is one transaction: what its two statements have
  done is what the whole function does at the instant of the
  second one, passing over the rows that it did not lock.
-/
theorem Fleet.Step.claim_commits
    {s t : Fleet}
    {worker : Nat}
    {limit : Int}
    {now : Time}
    {batch : List OrderTimeoutOutbox}
    (hStep :
      Fleet.Step config s (.claim worker limit now batch) t)
    (hSelections : s.Selections config)
    (hDelay : 0 < config.outboxRetryDelay) :
    ∃ locked,
      Commits
        (Dao.claimPendingOrderTimeoutOutbox now limit
          config.outboxRetryDelay config.maxAttempts locked)
        s.db batch t.db := by
  cases hStep with
  | @claim _ _ events _ db hSelected hLease =>
      have hSound := hSelections.sound _ _ _ _ hSelected
      refine ⟨fun row => decide (row ∉ events), ?_⟩
      unfold FleetConfig.leaseDuration at hLease
      rw [if_neg (not_le.mpr hDelay)] at hLease
      refine Dao.commits_claimPendingOrderTimeoutOutbox hDelay
        hSound.limited ?_ hLease
      unfold Dao.listPendingOrderTimeoutOutbox
      rw [Table.filter_eq_of_sublist hSound.sublist,
        List.take_of_length_le hSound.limited]
      intro row hRow
      constructor
      · intro hPicked
        simp only [Bool.and_eq_true] at hPicked
        simpa using hPicked.2
      · intro hMem
        have hClaimable := hSound.claimable row hMem
        unfold FleetConfig.attemptLimit at hClaimable
        rw [hClaimable]
        simpa using hMem

------------------------------------------------------------
-- Computed Runs
------------------------------------------------------------

/- A step that is chosen, for runs that are computed. -/
inductive FleetCommand
| tick (now : Time)
| select (worker : Nat) (limit : Int)
| claim (worker : Nat)
| publish (worker : Nat) (ok : Bool)
| markFailed (worker : Nat) (lastError : String)

/- The transaction, if a worker may commit it now. -/
def Fleet.performClaim
    (config : FleetConfig)
    (s : Fleet)
    (worker : Nat) : Option (FleetEvent × Fleet) :=
  match s.workers[worker]? with
  | some (.selected now limit events) =>
      match
        (Dao.leaseOrderTimeoutOutbox events
          (s.clock + config.leaseDuration)).run s.db
      with
      | .ok (batch, db) =>
          if now = s.clock then
            some (.claim worker limit s.clock batch,
              Fleet.set { s with db := db } worker
                (.claimed batch))
          else
            none
      | .error _ => none
  | _ => none

def Fleet.performMarkFailed
    (config : FleetConfig)
    (s : Fleet)
    (worker : Nat)
    (lastError : String) : Option (FleetEvent × Fleet) :=
  match s.workers[worker]? with
  | some (.failed outbox) =>
      match
        (Dao.markOrderTimeoutOutboxFailed outbox.eventID
          lastError
          (s.clock +
            calculateExponentialBackoff
              config.outboxRetryDelay outbox.attempts
              config.maxBackoffDelay)).run s.db
      with
      | .ok (_, db) =>
          if s.locks outbox = false then
            some
              (.markFailed worker s.clock outbox lastError,
                Fleet.set { s with db := db } worker .idle)
          else
            none
      | .error _ => none
  | _ => none

def Fleet.perform
    (config : FleetConfig)
    (s : Fleet) : FleetCommand → Option (FleetEvent × Fleet)
| .tick now =>
    if s.clock ≤ now then
      some (.tick, { s with clock := now })
    else
      none
| .select worker limit =>
    match s.workers[worker]? with
    | some .idle =>
        some (.select worker, s.set worker
          (.selected s.clock limit
            (Dao.listPendingOrderTimeoutOutbox s.clock limit
              config.attemptLimit s.locks s.db)))
    | _ => none
| .claim worker => s.performClaim config worker
| .publish worker ok =>
    match s.workers[worker]? with
    | some (.claimed (outbox :: events)) =>
        some (.publish worker outbox ok, s.set worker
          (if ok then .published outbox events
            else .failed outbox))
    | _ => none
| .markFailed worker lastError =>
    s.performMarkFailed config worker lastError

theorem Fleet.step_of_perform
    {s t : Fleet}
    {c : FleetCommand}
    {l : FleetEvent}
    (hPerform : s.perform config c = some (l, t)) :
    Fleet.Step config s l t := by
  cases c with
  | tick now =>
      simp only [Fleet.perform] at hPerform
      split at hPerform
      case isTrue hLater =>
        cases hPerform
        exact .tick hLater
      case isFalse => cases hPerform
  | select worker limit =>
      simp only [Fleet.perform] at hPerform
      split at hPerform
      case h_1 hIdle =>
        cases hPerform
        exact .select limit hIdle fun _ hLocks => hLocks
      case h_2 => cases hPerform
  | claim worker =>
      simp only [Fleet.perform, Fleet.performClaim] at hPerform
      split at hPerform
      case h_1 hSelected =>
        split at hPerform
        case h_1 hLease =>
          split at hPerform
          case isTrue hNow =>
            cases hPerform
            cases hNow
            exact .claim hSelected hLease
          case isFalse => cases hPerform
        case h_2 => cases hPerform
      case h_2 => cases hPerform
  | publish worker ok =>
      simp only [Fleet.perform] at hPerform
      split at hPerform
      case h_1 hClaimed =>
        cases hPerform
        exact .publish ok hClaimed
      case h_2 => cases hPerform
  | markFailed worker lastError =>
      simp only [Fleet.perform,
        Fleet.performMarkFailed] at hPerform
      split at hPerform
      case h_1 hFailed =>
        split at hPerform
        case h_1 hMark =>
          split at hPerform
          case isTrue hFree =>
            cases hPerform
            exact .markFailed hFailed hFree hMark
          case isFalse => cases hPerform
        case h_2 => cases hPerform
      case h_2 => cases hPerform

/- The run of some commands; it ends at the first of them
   that is not enabled. -/
def Fleet.play
    (config : FleetConfig)
    (s : Fleet) : List FleetCommand → List FleetEvent × Fleet
| [] => ([], s)
| c :: cs =>
    match s.perform config c with
    | some (l, t) =>
        let rest := Fleet.play config t cs
        (l :: rest.1, rest.2)
    | none => ([], s)

theorem Fleet.play_run
    (config : FleetConfig)
    (s : Fleet)
    (cs : List FleetCommand) :
    Transition.Run (Fleet.Step config) s (s.play config cs).1
      (s.play config cs).2 := by
  induction cs generalizing s with
  | nil => exact Transition.Run.refl s
  | cons c cs ih =>
      unfold Fleet.play
      split
      case h_1 l t hPerform =>
        exact Transition.Run.append
          (Transition.Run.single
            (Fleet.step_of_perform hPerform)) (ih t)
      case h_2 => exact Transition.Run.refl s

end OrderManagement
