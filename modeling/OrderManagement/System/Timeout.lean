import OrderManagement.System.Ledger
import OrderManagement.System.Retry

/-
  Timeout messages of any origin, number, and order, among
  any calls of users. A message cancels a pending order
  whose outbox row it names and whose deadline has passed,
  or it changes nothing; and an order is restored once,
  whoever cancels it.

  Main declarations:
    * `NamedByOutbox`
    * `Effect.of_expiry`
    * `TimeoutSafe` and `timeout_safe`
    * `foreign_event_cancels`
-/

namespace OrderManagement

open Transaction

variable [Deployment]

------------------------------------------------------------
-- One Message
------------------------------------------------------------

/- A row of the outbox has this order and an event id that
   the column takes for this one. -/
def NamedByOutbox
    (db : DB)
    (eventID : String)
    (orderID : Int)
    (now : Time) : Prop :=
  ∃ row ∈ db.orderTimeoutOutbox.rows,
    Deployment.collate row.eventID =
        Deployment.collate eventID ∧
      row.orderID = orderID ∧ row.timeoutAt ≤ now

/- What a snapshot shows is still there. -/
theorem TimeoutDue.namedByOutbox
    {view db : DB}
    {now : Time}
    {eventID : String}
    {orderID : Int}
    (hDue : TimeoutDue view now eventID orderID)
    (hGrows : view.Grows db) :
    NamedByOutbox db eventID orderID now := by
  rcases hDue with ⟨row, hRow, hTime⟩
  unfold Dao.getOrderTimeoutOutbox at hRow
  rw [Option.filter_eq_some_iff] at hRow
  rcases hGrows.outbox _ _ hRow.1 with
    ⟨row', hFind, hIdentity⟩
  simp only [OrderTimeoutOutbox.identity,
    Prod.mk.injEq] at hIdentity
  refine ⟨row', Table.mem_of_find? hFind,
    Table.key_of_find? hFind, ?_, ?_⟩
  · rw [hIdentity.2.1]
    exact of_decide_eq_true hRow.2
  · rw [hIdentity.2.2.2]
    exact hTime

/- A message that commits cancels its order, or it changes
   nothing. -/
theorem OrderService.of_cancelExpiredOrder
    {view : DB}
    {now : Time}
    {eventID : String}
    {orderID : Int}
    {outcome : Outcome}
    {db db' : DB}
    (hWellFormed : db.WellFormed)
    (hGrows : view.Grows db)
    (hCommit :
      Commits
        (OrderService.cancelExpiredOrder view now eventID
          orderID) db outcome db') :
    db' = db ∨
      ∃ order,
        order.id = orderID ∧ order.status = .pending ∧
          NamedByOutbox db eventID orderID now ∧
          OrderCancelled db db' order now := by
  rcases commits_cancelExpiredOrder (hGrows.lines orderID)
      (hWellFormed.linesOrderly orderID) hCommit with
    ⟨_, hSame, _⟩ | ⟨_, hSame, _⟩ | ⟨_, hSame, _⟩ |
      ⟨_, hDue, order, hID, hPending, hCancelled⟩
  · exact Or.inl hSame
  · exact Or.inl hSame
  · exact Or.inl hSame
  · exact Or.inr ⟨order, hID, hPending,
      hDue.namedByOutbox hGrows, hCancelled⟩

/-
  What a message does to the database, at its clock reading:
  nothing, or it takes its order from pending to cancelled
  and the outbox has named it and set this deadline.
-/
def Expires
    (eventID : String)
    (orderID : Int)
    (now : Time)
    (db db' : DB) : Prop :=
  db' = db ∨
    statusOf db orderID = some .pending ∧
      statusOf db' orderID = some .cancelled ∧
      NamedByOutbox db eventID orderID now

theorem Request.expires
    {eventID : String}
    {orderID : Int}
    {view db : DB}
    (hWellFormed : db.WellFormed)
    (hGrows : view.Grows db)
    (now nextAttemptAt : Time) :
    Expires eventID orderID now db
      ((Request.cancelExpiredOrder eventID orderID).run view
        now nextAttemptAt db).2 := by
  generalize hRun :
    (Request.cancelExpiredOrder eventID orderID).run view now
      nextAttemptAt db = result
  rcases result with ⟨response, db'⟩
  rcases Request.run_eq hRun with
    ⟨outcome, _, hCommit⟩ | ⟨_, _, hSame, _⟩
  · rcases OrderService.of_cancelExpiredOrder hWellFormed
        hGrows hCommit with
      hSame | ⟨order, rfl, hPending, hNamed, hCancelled⟩
    · exact Or.inl hSame
    · refine Or.inr ⟨?_, ?_, hNamed⟩
      · unfold statusOf
        rw [OrderMoved.find hCancelled, Option.map_some,
          hPending]
      · rw [OrderMoved.statusOf hCancelled, if_pos rfl]
  · exact Or.inl hSame

------------------------------------------------------------
-- Whole Runs
------------------------------------------------------------

/- A call restores an order when it takes it to cancelled. -/
def Event.restores
    (orderID : Int)
    (e : Event) : Bool :=
  e.mark orderID = some .cancelled

/- The rollback logs of an order. -/
def rollbackLogs
    (db : DB)
    (orderID : Int) :
    List (Int × Int × StockBiz × Option Int) :=
  (entriesOf db.stockLogs orderID).filter fun entry =>
    entry.2.2.1 = .orderRollback

omit [Deployment] in
theorem filter_deductEntries
    (items : List OrderItem)
    (orderID : Int) :
    (deductEntries items orderID).filter
        (fun entry => entry.2.2.1 = .orderRollback) = [] := by
  unfold deductEntries
  rw [List.filter_eq_nil_iff]
  intro entry hEntry
  rcases List.mem_map.mp hEntry with ⟨line, _, rfl⟩
  simp

omit [Deployment] in
theorem filter_rollbackEntries
    (items : List OrderItem)
    (orderID : Int) :
    (rollbackEntries items orderID).filter
        (fun entry => entry.2.2.1 = .orderRollback) =
      rollbackEntries items orderID := by
  unfold rollbackEntries
  rw [List.filter_eq_self]
  intro entry hEntry
  rcases List.mem_map.mp hEntry with ⟨line, _, rfl⟩
  simp

/- The move that a call reports is one that it has made. -/
theorem Event.Sound.moved
    {e : Event}
    {orderID : Int}
    {status : OrderStatus}
    (hSound : e.Sound)
    (hMark : e.mark orderID = some status) :
    ∃ outcome view,
      Effect view e.request outcome e.before e.after ∧
        moveOf orderID e.request outcome = some status := by
  unfold Event.mark at hMark
  cases hResponse : e.response with
  | error =>
      rw [hResponse] at hMark
      cases hMark
  | ok outcome =>
      rw [hResponse] at hMark
      rcases hSound.effect hResponse with ⟨view, _, hEffect⟩
      exact ⟨outcome, view, hEffect, hMark⟩

/-
  A reachable state and the calls before it:
    * a message that is about to run, with whatever clock
      reading, expires its order or changes nothing;
    * the messages that have run changed nothing unless
      their order was pending;
    * each order was restored at most once, with its whole
      quantity, and no other call on it gave anything back;
    * the rollback logs of an order are those of one
      cancellation, or none.
-/
structure TimeoutSafe
    (events : List Event)
    (s : State) : Prop where
  expires :
    ∀ c ∈ s.calls, ∀ acquired view eventID orderID,
      c.stage = .viewed acquired view →
      c.request = .cancelExpiredOrder eventID orderID →
      ∀ now nextAttemptAt,
        Expires eventID orderID now s.db
          (c.request.run view now nextAttemptAt s.db).2
  ignored :
    ∀ e ∈ events, ∀ eventID orderID,
      e.request = .cancelExpiredOrder eventID orderID →
      statusOf e.before orderID ≠ some .pending →
        e.after = e.before
  once :
    ∀ orderID,
      (events.filter (Event.restores orderID)).length ≤ 1
  restored :
    ∀ e ∈ events, ∀ orderID, e.restores orderID = true →
      ∀ p,
        stockOf e.after.inventories p =
          stockOf e.before.inventories p +
            orderQuantity e.before.orderItems orderID p
  kept :
    ∀ e ∈ events, ∀ orderID,
      e.request.names orderID = true →
      e.restores orderID = false →
        ∀ p,
          stockOf e.after.inventories p =
            stockOf e.before.inventories p
  logged :
    ∀ orderID,
      (rollbackLogs s.db orderID).Perm
        (if statusOf s.db orderID = some .cancelled then
          rollbackEntries s.db.orderItems orderID
        else
          [])

/- Timeout messages are calls that may arrive at any time
   and in any number, like those of the users. -/
theorem timeout_safe
    {events : List Event}
    {s : State}
    (hReaches : Reaches events s) :
    TimeoutSafe events s := by
  have hSound := hReaches.sound
  constructor
  case expires =>
    intro c hCall acquired view eventID orderID hStage hRequest
      now nextAttemptAt
    rw [hRequest]
    exact Request.expires hSound.wellFormed
      ((hSound.calls c hCall).grows acquired view hStage) now
      nextAttemptAt
  case ignored =>
    intro e hEvent eventID orderID hRequest hStatus
    rcases (hReaches.event hEvent).1.result with
      ⟨_, _, _, hExecuted, _⟩ | ⟨_, _, hSame⟩
    · rcases hReaches.ran hEvent hExecuted with
        ⟨view, now, nextAttemptAt, hRan⟩
      have hExpires :
          Expires eventID orderID now e.before
            ((Request.cancelExpiredOrder eventID orderID).run
              view now nextAttemptAt e.before).2 :=
        Request.expires (hReaches.event hEvent).1.wellFormed
          hRan.grows now nextAttemptAt
      rw [← hRequest, hRan.run] at hExpires
      rcases hExpires with hSame | ⟨hPending, _⟩
      · exact hSame
      · exact absurd hPending hStatus
    · exact hSame
  case once =>
    intro orderID
    have hOnce := hReaches.marked_once orderID .cancelled
    unfold Event.restores
    rw [hOnce]
    split
    · exact Nat.le_refl 1
    · exact Nat.zero_le 1
  case restored =>
    intro e hEvent orderID hRestores p
    rcases (hReaches.event hEvent).1.moved
        (of_decide_eq_true hRestores) with
      ⟨outcome, view, hEffect, hMove⟩
    rcases hEffect.of_cancelled hMove with
      ⟨order, now, rfl, hCancelled⟩
    exact (OrderMoved.moved hCancelled).stockOf p
  case kept =>
    intro e hEvent orderID hNames hRestores p
    have hOther : e.mark orderID ≠ some .cancelled :=
      of_decide_eq_false hRestores
    unfold Event.mark at hOther
    rcases (hReaches.event hEvent).1.result with
      ⟨outcome, view, hOk, _, _, hEffect⟩ | ⟨_, _, hSame⟩
    · rw [hOk] at hOther
      by_cases hPaid :
          moveOf orderID e.request outcome = some .paid
      · rcases hEffect.of_paid hPaid with ⟨order, now, _, hMoved⟩
        exact (OrderMoved.moved hMoved).stockOf p |>.trans
          (add_zero _)
      · exact (hEffect.inventories_eq hNames hPaid
          hOther).stockOf p |>.trans (add_zero _)
    · rw [hSame]
  case logged =>
    intro orderID
    have hLogged := hReaches.orderLogged orderID
    unfold OrderLogged at hLogged
    refine (hLogged.filter _).trans ?_
    rw [List.filter_append, filter_deductEntries,
      List.nil_append]
    split
    · rw [filter_rollbackEntries]
    · exact List.Perm.nil

end OrderManagement

------------------------------------------------------------
-- A Message in Another Case
------------------------------------------------------------

namespace OrderManagement

attribute [local instance] sampleDeployment

/- The sample order times out, and its message comes twice.
   The event id is written in small letters. -/
def timeoutCalls : List Invocation :=
  sampleCalls ++
    [ sampleCall (.cancelExpiredOrder "e7" 7) 1800000,
      sampleCall (.cancelExpiredOrder "e7" 7) 1800000 ]

theorem timeout_safe_sample :
    TimeoutSafe (serialEvents DB.empty timeoutCalls)
        ⟨serialDB DB.empty timeoutCalls, 0⟩ ∧
      ((serialEvents DB.empty timeoutCalls).filter
        (Event.restores 7)).length = 1 ∧
      (rollbackLogs (serialDB DB.empty timeoutCalls)
        7).length = 1 := by
  refine ⟨timeout_safe (reaches_serial timeoutCalls), ?_, ?_⟩
  · decide +kernel
  · decide +kernel

/- The order is cancelled by a message whose event id no row
   of the outbox has: the column ignores its case. -/
theorem foreign_event_cancels :
    ∃ (events : List Event) (s : State),
      Reaches events s ∧
        ∃ e ∈ events,
          e.request = .cancelExpiredOrder "e7" 7 ∧
            e.restores 7 = true ∧
            ∀ row ∈ e.before.orderTimeoutOutbox.rows,
              ¬ (row.eventID = "e7" ∧ row.orderID = 7) := by
  have hFound :
      ∃ e ∈ serialEvents DB.empty timeoutCalls,
        e.request = .cancelExpiredOrder "e7" 7 ∧
          e.restores 7 = true ∧
          ∀ row ∈ e.before.orderTimeoutOutbox.rows,
            ¬ (row.eventID = "e7" ∧ row.orderID = 7) := by
    decide +kernel
  exact ⟨_, _, reaches_serial timeoutCalls, hFound⟩

end OrderManagement
