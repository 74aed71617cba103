import OrderManagement.System.Restoration

/-
  Runs of the calls that close one pending order, when the
  process may be lost at any point: before a transaction
  commits, or between the commit and the command that it
  owes to Redis.

  Main declarations:
    * `Closing` and `Action.Closes`
    * `Event.Sound.closing`
    * `Shop.Closes` with `Shop.Closes.step`
-/

namespace OrderManagement

variable [Deployment]

------------------------------------------------------------
-- Calls That Close an Order
------------------------------------------------------------

/- The two ways in which a pending order is closed. -/
inductive Closing
| cancellation
| payment
deriving DecidableEq

omit [Deployment] in
def Closing.status : Closing → OrderStatus
| .cancellation => .cancelled
| .payment => .paid

omit [Deployment] in
/- The command that is due when an order was closed. -/
def Closing.command
    (id : Int) : Closing → FollowUp
| .cancellation => .restore id
| .payment => .confirm id

/- The transaction that closes the order. -/
def Closing.Moves
    (k : Closing)
    (db db' : DB)
    (order : Order)
    (now : Time) : Prop :=
  match k with
  | .cancellation => OrderCancelled db db' order now
  | .payment => OrderPaid db db' order now

def Request.closes
    (k : Closing)
    (id : Int)
    (request : Request) : Bool :=
  match k, request with
  | .cancellation, request => request.cancels id
  | .payment, .payOrder _ id' => id' = id
  | .payment, _ => false

/- Only calls that close the order arrive, and Redis keeps
   its keys. A command may be lost with its process. -/
def Action.Closes
    (k : Closing)
    (id : Int) : Action → Prop
| .arrive request _ => request.closes k id = true
| .core _ => True
| .followUp _ _ => True
| _ => False

instance
    (k : Closing)
    (id : Int)
    (a : Action) :
    Decidable (a.Closes k id) :=
  match a with
  | .arrive request _ =>
      inferInstanceAs (Decidable (request.closes k id = true))
  | .core _ | .followUp _ _ => inferInstanceAs (Decidable True)
  | .listForRebuild | .listForReconcile | .compare
  | .write _ _ _ | .resyncDone | .evict _
  | .evictReservation _ => inferInstanceAs (Decidable False)

/- A closing call moves the order, or it changes nothing. A
   cancellation may find that the order was cancelled. -/
theorem Event.Sound.closing
    {e : Event}
    {k : Closing}
    {id : Int}
    (hSound : e.Sound)
    (hCloses : e.request.closes k id = true) :
    (∃ order now,
        order.id = id ∧
          order.status = .pending ∧
          k.Moves e.before e.after order now ∧
          e.followUp = some (k.command id)) ∨
      e.after = e.before ∧
        (e.followUp = none ∨
          e.followUp = some (k.command id) ∧
            k = .cancellation ∧
            statusOf e.before id = some .cancelled) := by
  rcases hSound.result with
    ⟨outcome, view, hOk, _, _, hEffect⟩ | ⟨err, hError, hSame⟩
  · cases k with
    | cancellation =>
        rcases hSound.cancellation hCloses hOk with
          ⟨_, hDue, order, now, hID, hPending, hMoved⟩ |
            ⟨_, hDue, hSame, hCancelled⟩ | ⟨_, _, hDue, hSame⟩
        · exact Or.inl ⟨order, now, hID, hPending, hMoved, hDue⟩
        · exact Or.inr ⟨hSame, Or.inr ⟨hDue, rfl, hCancelled⟩⟩
        · exact Or.inr ⟨hSame, Or.inl hDue⟩
    | payment =>
        cases hRequest : e.request with
        | payOrder userID orderID =>
            rw [hRequest] at hCloses hEffect
            have hID : orderID = id := of_decide_eq_true hCloses
            subst hID
            have hDue :
                outcome = .orderPaid →
                  e.followUp = some (.confirm orderID) := by
              rintro rfl
              unfold Event.followUp
              rw [hRequest, hOk]
            generalize e.before = db at hEffect ⊢
            generalize e.after = db' at hEffect ⊢
            cases hEffect with
            | @orderPaid order now _ _ hPending hMoved =>
                exact Or.inl
                  ⟨order, now, rfl, hPending, hMoved, hDue rfl⟩
            | productStatusSame hOther
            | productStatusSet hOther => simp at hOther
        | createProduct | onSaleProduct | offSaleProduct
        | initInventory | addInventory | createOrder
        | finishOrder | cancelOrder | cancelExpiredOrder =>
            rw [hRequest] at hCloses
            cases hCloses
  · refine Or.inr ⟨hSame, Or.inl ?_⟩
    unfold Event.followUp
    rw [hError]
    cases hRequest : e.request with
    | createOrder =>
        rw [hRequest] at hCloses
        cases k <;> cases hCloses
    | createProduct | onSaleProduct | offSaleProduct
    | initInventory | addInventory | payOrder | finishOrder
    | cancelOrder | cancelExpiredOrder => rfl

/- A status change reads and writes nothing of the outbox. -/
theorem OrderMoved.with_outbox
    {db db' : DB}
    {order : Order}
    {toStatus : OrderStatus}
    {timeField : OrderTimeField}
    {now : Time}
    {stock locked : Int → Int}
    {entries : List (Int × Int × StockBiz × Option Int)}
    (hMoved :
      OrderMoved db db' order toStatus timeField now stock
        locked entries)
    (outbox : Table OrderTimeoutOutbox) :
    OrderMoved
      { db with orderTimeoutOutbox := outbox }
      { db' with orderTimeoutOutbox := outbox } order toStatus
      timeField now stock locked entries where
  find := hMoved.find
  orders := hMoved.orders
  moved := hMoved.moved
  logs := hMoved.logs
  products := hMoved.products
  orderItems := hMoved.orderItems
  keys := hMoved.keys
  outbox := rfl

theorem Closing.Moves.with_outbox
    {k : Closing}
    {db db' : DB}
    {order : Order}
    {now : Time}
    (hMoves : k.Moves db db' order now)
    (outbox : Table OrderTimeoutOutbox) :
    k.Moves
      { db with orderTimeoutOutbox := outbox }
      { db' with orderTimeoutOutbox := outbox } order now := by
  cases k <;> exact OrderMoved.with_outbox hMoves outbox

/- What is common to the two transactions. -/
theorem Closing.Moves.facts
    {k : Closing}
    {db db' : DB}
    {order : Order}
    {now : Time}
    (hMoves : k.Moves db db' order now) :
    db.orders.find? order.id = some order ∧
      db'.orderTimeoutOutbox = db.orderTimeoutOutbox ∧
      statusOf db' order.id = some k.status := by
  cases k <;>
    exact ⟨OrderMoved.find hMoves, OrderMoved.outbox hMoves,
      by
        rw [OrderMoved.statusOf hMoves, if_pos rfl]
        rfl⟩

------------------------------------------------------------
-- The Invariant of Such Runs
------------------------------------------------------------

/- The database as it was, up to the outbox, or with the
   order closed. -/
inductive ClosedTo
    (k : Closing)
    (order : Order)
    (db db' : DB) : Prop
| pending
    (hSame :
      db' = { db with
        orderTimeoutOutbox := db'.orderTimeoutOutbox })
| closed
    {now : Time}
    (hMoves :
      k.Moves
        { db with
          orderTimeoutOutbox := db'.orderTimeoutOutbox }
        db' order now)

/-
  The shop in a run of calls that close one order. The
  order is closed at most once, and so is the reservation
  taken away, whatever is lost on the way.
-/
structure Shop.Closes
    (k : Closing)
    (order : Order)
    (s u : Shop) : Prop where
  sound : u.Sound
  grows : s.core.db.Grows u.core.db
  calls :
    ∀ c ∈ u.core.calls, c.request.closes k order.id = true
  commands :
    ∀ f ∈ u.followUps, f = k.command order.id
  resyncs : u.resyncs = s.resyncs
  db : ClosedTo k order s.core.db u.core.db
  redis :
    u.redis = s.redis ∨
      u.redis = (k.command order.id).run s.redis

omit [Deployment] in
/- The second run of such a command changes nothing. -/
theorem Closing.run_command_twice
    {k : Closing}
    {id : Int}
    (redis : Redis) :
    (k.command id).run ((k.command id).run redis) =
      (k.command id).run redis := by
  cases k with
  | cancellation =>
      change InventoryStockGuard.releaseReservation
        (InventoryStockGuard.releaseReservation redis id) id =
          InventoryStockGuard.releaseReservation redis id
      unfold InventoryStockGuard.releaseReservation
      by_cases hID : id ≤ 0
      · simp only [if_pos hID]
      · simp only [if_neg hID]
        have hGone :
            (redis.releaseInventoryReservationScript
              id).reservations.find? id = none := by
          rw [Redis.releaseInventoryReservationScript_reservations,
            Table.find?_erase, if_pos rfl]
        generalize redis.releaseInventoryReservationScript id =
          released at hGone ⊢
        unfold Redis.releaseInventoryReservationScript
        rw [hGone]
  | payment =>
      change InventoryStockGuard.confirmPreDeductedInventory
        (InventoryStockGuard.confirmPreDeductedInventory redis
          id) id =
          InventoryStockGuard.confirmPreDeductedInventory redis
            id
      unfold InventoryStockGuard.confirmPreDeductedInventory
      by_cases hID : id ≤ 0
      · simp only [if_pos hID]
      · simp only [if_neg hID]
        have hGone :
            (redis.reservations.erase id).find? id = none := by
          rw [Table.find?_erase, if_pos rfl]
        unfold Redis.delReservation
        dsimp only
        rw [Table.erase_of_free hGone]

theorem Request.preDeduct_of_closes
    {request : Request}
    {k : Closing}
    {id : Int}
    (hCloses : request.closes k id = true)
    (delivery : Delivery)
    (redis : Redis) :
    request.preDeduct delivery redis = (.skipped, redis) := by
  cases request with
  | createOrder => cases k <;> cases hCloses
  | createProduct | onSaleProduct | offSaleProduct
  | initInventory | addInventory | payOrder | finishOrder
  | cancelOrder | cancelExpiredOrder => rfl

/- A closed order is not pending, and does not close again. -/
theorem ClosedTo.event
    {k : Closing}
    {order : Order}
    {db : DB}
    {e : Event}
    (hFind : db.orders.find? order.id = some order)
    (hClosed : ClosedTo k order db e.before)
    (hSound : e.Sound)
    (hCloses : e.request.closes k order.id = true) :
    ClosedTo k order db e.after ∧
      (e.followUp = none ∨
        e.followUp = some (k.command order.id) ∧
          statusOf e.after order.id = some k.status) := by
  rcases hSound.closing hCloses with
    ⟨order', now, hID, hPending, hMoves, hDue⟩ |
      ⟨hSame, hDue⟩
  · rcases hMoves.facts with ⟨hFind', hOutbox, hStatus⟩
    refine ⟨?_, Or.inr ⟨hDue, hID ▸ hStatus⟩⟩
    cases hClosed with
    | pending hEarlier =>
        have hOrder : order' = order := by
          rw [hID, hEarlier] at hFind'
          exact Option.some.inj (hFind'.symm.trans hFind)
        subst hOrder
        have hMoved :
            k.Moves
              { db with
                orderTimeoutOutbox :=
                  e.after.orderTimeoutOutbox }
              e.after order' now := by
          rw [hOutbox, ← hEarlier]
          exact hMoves
        exact ClosedTo.closed hMoved
    | closed hEarlier =>
        have hStatus := hEarlier.facts.2.2
        unfold statusOf at hStatus
        rw [← hID, hFind', Option.map_some, hPending] at hStatus
        cases k <;> cases hStatus
  · rw [hSame]
    refine ⟨hClosed, ?_⟩
    rcases hDue with hNone | ⟨hDue, rfl, hCancelled⟩
    · exact Or.inl hNone
    · exact Or.inr ⟨hDue, hCancelled⟩

/- The publishing worker closes nothing. -/
theorem ClosedTo.touched
    {k : Closing}
    {order : Order}
    {db old new : DB}
    (hClosed : ClosedTo k order db old)
    (hTouched : OutboxTouched old new) :
    ClosedTo k order db new := by
  rcases hTouched with ⟨f, _, hKey, hNew⟩
  have hSame :
      new = { old with
        orderTimeoutOutbox := new.orderTimeoutOutbox } := by
    rw [hNew]
  cases hClosed with
  | pending hEarlier =>
      apply ClosedTo.pending
      rw [hEarlier] at hSame
      exact hSame
  | closed hMoves =>
      have hLater :=
        hMoves.with_outbox new.orderTimeoutOutbox
      rw [← hSame] at hLater
      exact ClosedTo.closed hLater

theorem Shop.Closes.step
    {k : Closing}
    {order : Order}
    {s u t : Shop}
    {a : Action}
    (hFind : s.core.db.orders.find? order.id = some order)
    (hAction : a.Closes k order.id)
    (hCloses : s.Closes k order u)
    (hStep : Shop.Step u a t) :
    s.Closes k order t := by
  have hSound := hStep.sound hCloses.sound
  cases hStep with
  | arrive request delivery =>
      have hRequest : request.closes k order.id = true :=
        hAction
      rw [Request.preDeduct_of_closes hRequest]
      rw [Request.preDeduct_of_closes hRequest] at hSound
      exact {
        sound := hSound
        grows := hCloses.grows
        calls := by
          intro c hCall
          rcases Multiset.mem_cons.mp hCall with rfl | hOld
          · exact hRequest
          · exact hCloses.calls c hOld
        commands := hCloses.commands
        resyncs := hCloses.resyncs
        db := hCloses.db
        redis := hCloses.redis }
  | core hStep hNoArrival =>
      have hGrows :=
        hCloses.grows.trans (hStep.grows hCloses.sound.core)
      rcases hCloses.sound.core_cases hStep hNoArrival with
        ⟨rfl, hDB, c, stage, rest, hCalls, hCalls'⟩ |
          ⟨rfl, hCalls, hTouched⟩ |
            ⟨e, c, rfl, hBefore, hAfter, hCalls, hSame, _, _⟩
      · exact {
          sound := hSound
          grows := hGrows
          calls := by
            intro c' hCall
            change c' ∈ _ at hCall
            rw [hCalls'] at hCall
            rcases Multiset.mem_cons.mp hCall with rfl | hRest
            · exact hCloses.calls c (by
                rw [hCalls]
                exact Multiset.mem_cons_self _ _)
            · exact hCloses.calls c' (by
                rw [hCalls]
                exact Multiset.mem_cons_of_mem hRest)
          commands := by simpa [due] using hCloses.commands
          resyncs := hCloses.resyncs
          db := hDB ▸ hCloses.db
          redis := hCloses.redis }
      · exact {
          sound := hSound
          grows := hGrows
          calls := fun c hCall =>
            hCloses.calls c (hCalls ▸ hCall)
          commands := by simpa [due] using hCloses.commands
          resyncs := hCloses.resyncs
          db := hCloses.db.touched hTouched
          redis := hCloses.redis }
      · have hCall : c ∈ u.core.calls := by
          rw [hCalls]
          exact Multiset.mem_cons_self _ _
        have hEvent := (hStep.event hCloses.sound.core).1
        have hDB := hCloses.db
        rw [← hBefore] at hDB
        rcases hDB.event hFind hEvent
            (hSame ▸ hCloses.calls c hCall) with
          ⟨hClosed, hDue⟩
        exact {
          sound := hSound
          grows := hGrows
          calls := fun c' hCall' => hCloses.calls c' (by
            rw [hCalls]
            exact Multiset.mem_cons_of_mem hCall')
          commands := by
            intro f hCommand
            rcases Multiset.mem_add.mp hCommand with hNew | hOld
            · rw [mem_due] at hNew
              rcases hDue with hNone | ⟨hSome, _⟩
              · rw [hNone] at hNew
                cases hNew
              · rw [hSome] at hNew
                exact (Option.some.inj hNew).symm
            · exact hCloses.commands f hOld
          resyncs := hCloses.resyncs
          db := hAfter ▸ hClosed
          redis := hCloses.redis }
  | followUp command delivered hDue =>
      have hCommand : command = k.command order.id :=
        hCloses.commands command (by
          rw [hDue]
          exact Multiset.mem_cons_self _ _)
      exact {
        sound := hSound
        grows := hCloses.grows
        calls := hCloses.calls
        commands := fun f hLater =>
          hCloses.commands f (by
            rw [hDue]
            exact Multiset.mem_cons_of_mem hLater)
        resyncs := hCloses.resyncs
        db := hCloses.db
        redis := by
          cases delivered with
          | false => exact hCloses.redis
          | true =>
              refine Or.inr ?_
              change command.run u.redis = _
              rw [hCommand]
              rcases hCloses.redis with hSame | hRun
              · rw [hSame]
              · rw [hRun, Closing.run_command_twice] }
  | listForRebuild | listForReconcile | compare | write
  | resyncDone | evict | evictReservation => cases hAction

/- At the start nothing is in progress. -/
theorem Shop.Sound.closes
    {s : Shop}
    (hSound : s.Sound)
    (hQuiet : s.Quiet)
    (k : Closing)
    (order : Order) :
    s.Closes k order s where
  sound := hSound
  grows := DB.Grows.refl _
  calls c hCall := by
    rw [hQuiet.calls] at hCall
    cases Multiset.notMem_zero _ hCall
  commands f hDue := by
    rw [hQuiet.followUps] at hDue
    cases Multiset.notMem_zero _ hDue
  resyncs := rfl
  db := ClosedTo.pending rfl
  redis := Or.inl rfl

end OrderManagement
