import OrderManagement.Model.Schema

/-
  The statements of `order_timeout_outbox_dao.go` that the
  publishing worker runs.

  Main declarations:
    * `Dao.claimPendingOrderTimeoutOutbox`
    * `Dao.markOrderTimeoutOutboxPublished`
    * `Dao.markOrderTimeoutOutboxFailed`
    * `OutboxTouched`
    * `Dao.commits_claimPendingOrderTimeoutOutbox`
-/

namespace OrderManagement

open Transaction

variable [Deployment]

------------------------------------------------------------
-- Statements
------------------------------------------------------------

/- A row after it was claimed until the end of a lease. -/
def OrderTimeoutOutbox.claimed
    (row : OrderTimeoutOutbox)
    (leaseUntil : Time) : OrderTimeoutOutbox :=
  { row with
    attempts := row.attempts + 1
    nextAttemptAt := leaseUntil }

namespace Dao

/- The WHERE clause of the claiming SELECT. -/
def isClaimable
    (now : Time)
    (maxAttempts : Int)
    (row : OrderTimeoutOutbox) : Bool :=
  row.publishedAt.isNone && row.nextAttemptAt ≤ now &&
    row.attempts < maxAttempts

/- The pending rows, oldest first, up to the limit. -/
def listPendingOrderTimeoutOutbox
    (now : Time)
    (limit : Int)
    (maxAttempts : Int)
    (locked : OrderTimeoutOutbox → Bool)
    (db : DB) : List OrderTimeoutOutbox :=
  (db.orderTimeoutOutbox.rows.filter fun row =>
    isClaimable now maxAttempts row && !locked row).take
      limit.toNat

/- SKIP LOCKED passes over the rows in `locked`. -/
def claimPendingOrderTimeoutOutbox
    (now : Time)
    (limit leaseDuration maxAttempts : Int)
    (locked : OrderTimeoutOutbox → Bool) :
    Tx (List OrderTimeoutOutbox) := do
  if limit ≤ 0 then
    return []
  else
    let leaseDuration :=
      if leaseDuration ≤ 0 then 30000 else leaseDuration
    let maxAttempts :=
      if maxAttempts ≤ 0 then 10 else maxAttempts
    let leaseUntil := now + leaseDuration
    let db ← get
    let events :=
      listPendingOrderTimeoutOutbox now limit maxAttempts
        locked db
    set { db with
      orderTimeoutOutbox :=
        db.orderTimeoutOutbox.map
          (fun row =>
            if row ∈ events then row.claimed leaseUntil
            else row)
          (by
            intro row
            split <;> rfl) }
    return events.map fun row => row.claimed leaseUntil

/-
  The UPDATE of the claiming transaction, which names the
  rows that the SELECT has locked by their ids.
-/
def leaseOrderTimeoutOutbox
    (events : List OrderTimeoutOutbox)
    (leaseUntil : Time) : Tx (List OrderTimeoutOutbox) := do
  let db ← get
  set { db with
    orderTimeoutOutbox :=
      db.orderTimeoutOutbox.map
        (fun row =>
          if Keyed.key row ∈ events.map Keyed.key then
            row.claimed leaseUntil
          else
            row)
        (by
          intro row
          split <;> rfl) }
  return events.map fun row => row.claimed leaseUntil

/- The WHERE clause of the two marking UPDATEs. -/
def isUnpublished
    (eventID : String)
    (row : OrderTimeoutOutbox) : Bool :=
  Deployment.collate row.eventID =
      Deployment.collate eventID &&
    row.publishedAt.isNone

def markOrderTimeoutOutboxPublished
    (eventID : String)
    (now : Time) : Tx Unit := do
  let db ← get
  set { db with
    orderTimeoutOutbox :=
      db.orderTimeoutOutbox.map
        (fun row =>
          if isUnpublished eventID row then
            { row with publishedAt := some now, lastError := "" }
          else
            row)
        (by
          intro row
          split <;> rfl) }

def markOrderTimeoutOutboxFailed
    (eventID lastError : String)
    (nextAttemptAt : Time) : Tx Unit := do
  let db ← get
  set { db with
    orderTimeoutOutbox :=
      db.orderTimeoutOutbox.map
        (fun row =>
          if isUnpublished eventID row then
            { row with
              lastError := lastError
              nextAttemptAt := nextAttemptAt }
          else
            row)
        (by
          intro row
          split <;> rfl) }

end Dao

------------------------------------------------------------
-- Effects of the Statements
------------------------------------------------------------

/- What no statement of the worker changes about a row. -/
def OrderTimeoutOutbox.identity
    (row : OrderTimeoutOutbox) :
    String × Int × Int × Time :=
  (row.eventID, row.orderID, row.userID, row.timeoutAt)

/-
  The rows of the outbox were rewritten by a function that
  keeps their identity, and nothing else was touched.
-/
def OutboxTouched
    (db db' : DB) : Prop :=
  ∃ f : OrderTimeoutOutbox → OrderTimeoutOutbox,
    (∀ row, (f row).identity = row.identity) ∧
      ∃ hKey,
        db' = { db with
          orderTimeoutOutbox :=
            db.orderTimeoutOutbox.map f hKey }

theorem OutboxTouched.refl
    (db : DB) :
    OutboxTouched db db :=
  ⟨id, fun _ => rfl, fun _ => rfl, by
    cases db
    simp [Table.map]⟩

namespace Dao

theorem claimPendingOrderTimeoutOutbox_touched
    {now : Time}
    {limit leaseDuration maxAttempts : Int}
    {locked : OrderTimeoutOutbox → Bool}
    {events : List OrderTimeoutOutbox}
    {db db' : DB}
    (hCommit :
      Commits
        (claimPendingOrderTimeoutOutbox now limit
          leaseDuration maxAttempts locked) db events db') :
    OutboxTouched db db' := by
  unfold claimPendingOrderTimeoutOutbox at hCommit
  split at hCommit
  case isTrue =>
    rw [commits_pure] at hCommit
    exact hCommit.2 ▸ OutboxTouched.refl db
  case isFalse =>
    simp only [commits_bind, commits_get, commits_set,
      commits_pure] at hCommit
    rcases hCommit with
      ⟨_, _, ⟨rfl, rfl⟩, _, _, rfl, _, rfl⟩
    refine ⟨_, ?_, _, rfl⟩
    intro row
    rw [apply_ite OrderTimeoutOutbox.identity]
    exact ite_self _

/- The two marking UPDATEs rewrite the rows of their WHERE
   clause. -/
theorem commits_markOrderTimeoutOutboxPublished
    {eventID : String}
    {now : Time}
    {r : Unit}
    {db db' : DB}
    (hCommit :
      Commits (markOrderTimeoutOutboxPublished eventID now)
        db r db') :
    ∃ hKey,
      db' = { db with
        orderTimeoutOutbox :=
          db.orderTimeoutOutbox.map
            (fun row =>
              if isUnpublished eventID row then
                { row with
                  publishedAt := some now
                  lastError := "" }
              else
                row)
            hKey } := by
  unfold markOrderTimeoutOutboxPublished at hCommit
  simp only [commits_bind, commits_get,
    commits_set] at hCommit
  rcases hCommit with ⟨_, _, ⟨rfl, rfl⟩, rfl⟩
  exact ⟨_, rfl⟩

theorem commits_markOrderTimeoutOutboxFailed
    {eventID lastError : String}
    {nextAttemptAt : Time}
    {r : Unit}
    {db db' : DB}
    (hCommit :
      Commits
        (markOrderTimeoutOutboxFailed eventID lastError
          nextAttemptAt) db r db') :
    ∃ hKey,
      db' = { db with
        orderTimeoutOutbox :=
          db.orderTimeoutOutbox.map
            (fun row =>
              if isUnpublished eventID row then
                { row with
                  lastError := lastError
                  nextAttemptAt := nextAttemptAt }
              else
                row)
            hKey } := by
  unfold markOrderTimeoutOutboxFailed at hCommit
  simp only [commits_bind, commits_get,
    commits_set] at hCommit
  rcases hCommit with ⟨_, _, ⟨rfl, rfl⟩, rfl⟩
  exact ⟨_, rfl⟩

theorem markOrderTimeoutOutboxPublished_touched
    {eventID : String}
    {now : Time}
    {r : Unit}
    {db db' : DB}
    (hCommit :
      Commits (markOrderTimeoutOutboxPublished eventID now)
        db r db') :
    OutboxTouched db db' := by
  rcases commits_markOrderTimeoutOutboxPublished hCommit with
    ⟨hKey, rfl⟩
  refine ⟨_, ?_, hKey, rfl⟩
  intro row
  split <;> rfl

theorem markOrderTimeoutOutboxFailed_touched
    {eventID lastError : String}
    {nextAttemptAt : Time}
    {r : Unit}
    {db db' : DB}
    (hCommit :
      Commits
        (markOrderTimeoutOutboxFailed eventID lastError
          nextAttemptAt) db r db') :
    OutboxTouched db db' := by
  rcases commits_markOrderTimeoutOutboxFailed hCommit with
    ⟨hKey, rfl⟩
  refine ⟨_, ?_, hKey, rfl⟩
  intro row
  split <;> rfl

------------------------------------------------------------
-- The Two Statements of a Claim
------------------------------------------------------------

/- What the claiming SELECT returns. -/
theorem mem_listPendingOrderTimeoutOutbox
    {now : Time}
    {limit maxAttempts : Int}
    {locked : OrderTimeoutOutbox → Bool}
    {db : DB}
    {row : OrderTimeoutOutbox}
    (hMem :
      row ∈
        listPendingOrderTimeoutOutbox now limit maxAttempts
          locked db) :
    isClaimable now maxAttempts row = true ∧
      locked row = false := by
  have hKept := (List.mem_filter.mp (List.mem_of_mem_take hMem)).2
  simpa using hKept

/- The copies that a claim returns have the keys of the rows
   that were locked. -/
theorem commits_leaseOrderTimeoutOutbox
    {events batch : List OrderTimeoutOutbox}
    {leaseUntil : Time}
    {db db' : DB}
    (hCommit :
      Commits
        (leaseOrderTimeoutOutbox events leaseUntil) db
        batch db') :
    batch = events.map (·.claimed leaseUntil) ∧
      batch.map Keyed.key = events.map Keyed.key ∧
      db'.orderTimeoutOutbox.rows =
        db.orderTimeoutOutbox.rows.map fun row =>
          if Keyed.key row ∈ batch.map Keyed.key then
            row.claimed leaseUntil
          else
            row := by
  unfold leaseOrderTimeoutOutbox at hCommit
  simp only [commits_bind, commits_get, commits_set,
    commits_pure] at hCommit
  rcases hCommit with ⟨_, _, ⟨rfl, rfl⟩, _, _, rfl, rfl, rfl⟩
  have hKeys :
      (events.map (·.claimed leaseUntil)).map Keyed.key =
        events.map Keyed.key := by
    rw [List.map_map]
    rfl
  refine ⟨rfl, hKeys, ?_⟩
  rw [hKeys]
  rfl

/- The whole claiming transaction is its SELECT followed by
   its UPDATE. -/
theorem commits_claimPendingOrderTimeoutOutbox
    {now : Time}
    {limit leaseDuration maxAttempts : Int}
    {locked : OrderTimeoutOutbox → Bool}
    {events batch : List OrderTimeoutOutbox}
    {db db' : DB}
    (hDuration : 0 < leaseDuration)
    (hLimited : events.length ≤ limit.toNat)
    (hEvents :
      events =
        listPendingOrderTimeoutOutbox now limit
          (if maxAttempts ≤ 0 then 10 else maxAttempts)
          locked db)
    (hLease :
      Commits
        (leaseOrderTimeoutOutbox events
          (now + leaseDuration)) db batch db') :
    Commits
      (claimPendingOrderTimeoutOutbox now limit
        leaseDuration maxAttempts locked) db batch db' := by
  have hSublist :
      events.Sublist db.orderTimeoutOutbox.rows := by
    rw [hEvents]
    exact (List.take_sublist ..).trans List.filter_sublist
  have hMem :
      ∀ row ∈ db.orderTimeoutOutbox.rows,
        Keyed.key row ∈ events.map Keyed.key ↔
          row ∈ events := by
    intro row hRow
    constructor
    · intro hKey
      rcases List.mem_map.mp hKey with ⟨event, hEvent, hSame⟩
      rwa [← Table.eq_of_key_eq (hSublist.subset hEvent) hRow
        hSame]
    · exact List.mem_map_of_mem
  unfold leaseOrderTimeoutOutbox at hLease
  simp only [commits_bind, commits_get, commits_set,
    commits_pure] at hLease
  rcases hLease with ⟨_, _, ⟨rfl, rfl⟩, _, _, rfl, rfl, rfl⟩
  unfold claimPendingOrderTimeoutOutbox
  split
  case isTrue hNone =>
    have hEmpty : events = [] :=
      List.length_eq_zero_iff.mp (by omega)
    subst hEmpty
    rw [commits_pure]
    refine ⟨rfl, ?_⟩
    cases db
    simp [Table.map]
  case isFalse hSome =>
    simp only [commits_bind, commits_get, commits_set,
      commits_pure, if_neg (Int.not_le.mpr hDuration)]
    subst hEvents
    refine ⟨_, _, ⟨rfl, rfl⟩, (), _, rfl, rfl, ?_⟩
    congr 1
    refine Table.ext (List.map_congr_left fun row hRow => ?_)
    simp only [hMem row hRow]

end Dao

end OrderManagement
