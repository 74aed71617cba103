import OrderManagement.System.Serial

/-
  The life of an order under any interleaving of the calls
  that act on it. Every call decides on a snapshot that may
  be stale; the WHERE clause of the status change lets one
  of them win.

  Main declarations:
    * `statusOf` and `statusesTaken`
    * `Event.mark`
    * `Effect.advance`
    * `OrderLifecycle` and `order_lifecycle`
-/

namespace OrderManagement

------------------------------------------------------------
-- Paths of the State Machine
------------------------------------------------------------

/- The moves that the state machine of an order allows. -/
inductive Advance : Option OrderStatus → OrderStatus → Prop
| created : Advance none .pending
| paid : Advance (some .pending) .paid
| finished : Advance (some .paid) .finished
| cancelled : Advance (some .pending) .cancelled

/- The histories that the state machine of an order admits. -/
def OrderPath
    (statuses : List OrderStatus) : Prop :=
  statuses <+: [.pending, .paid, .finished] ∨
    statuses <+: [.pending, .cancelled]

instance
    (statuses : List OrderStatus) :
    Decidable (OrderPath statuses) :=
  inferInstanceAs (Decidable (_ ∨ _))

/- There are only five of them. -/
theorem orderPath_iff
    {statuses : List OrderStatus} :
    OrderPath statuses ↔
      statuses ∈
        [[], [.pending], [.pending, .paid],
          [.pending, .paid, .finished],
          [.pending, .cancelled]] := by
  unfold OrderPath
  rw [← List.mem_inits, ← List.mem_inits]
  constructor
  · rintro (hMem | hMem) <;> simp at hMem ⊢ <;> tauto
  · intro hMem
    simp at hMem ⊢
    tauto

/- A move from the end of a path makes a longer path. -/
theorem OrderPath.snoc
    {statuses : List OrderStatus}
    {status : OrderStatus}
    (hPath : OrderPath statuses)
    (hAdvance : Advance statuses.getLast? status) :
    OrderPath (statuses ++ [status]) := by
  rw [orderPath_iff] at hPath ⊢
  simp only [List.mem_cons, List.not_mem_nil,
    or_false] at hPath
  rcases hPath with rfl | rfl | rfl | rfl | rfl <;>
    cases hAdvance <;> decide

/- A path holds each status at most once, and never both a
   payment and a cancellation. -/
theorem OrderPath.count
    {statuses : List OrderStatus}
    (hPath : OrderPath statuses)
    (status : OrderStatus) :
    statuses.count status =
      if status ∈ statuses then 1 else 0 := by
  rw [orderPath_iff] at hPath
  simp only [List.mem_cons, List.not_mem_nil,
    or_false] at hPath
  rcases hPath with rfl | rfl | rfl | rfl | rfl <;>
    cases status <;> decide

theorem OrderPath.not_both
    {statuses : List OrderStatus}
    (hPath : OrderPath statuses) :
    ¬ (.paid ∈ statuses ∧ .cancelled ∈ statuses) := by
  rw [orderPath_iff] at hPath
  simp only [List.mem_cons, List.not_mem_nil,
    or_false] at hPath
  rcases hPath with rfl | rfl | rfl | rfl | rfl <;> decide

/- The last status tells which moves were made. -/
theorem OrderPath.mem_iff
    {statuses : List OrderStatus}
    (hPath : OrderPath statuses) :
    (.paid ∈ statuses ↔
        statuses.getLast? = some .paid ∨
          statuses.getLast? = some .finished) ∧
      (.finished ∈ statuses ↔
        statuses.getLast? = some .finished) ∧
      (.cancelled ∈ statuses ↔
        statuses.getLast? = some .cancelled) := by
  rw [orderPath_iff] at hPath
  simp only [List.mem_cons, List.not_mem_nil,
    or_false] at hPath
  rcases hPath with rfl | rfl | rfl | rfl | rfl <;> decide

variable [Deployment]

------------------------------------------------------------
-- Statuses over a Run
------------------------------------------------------------

/- The status of an order, if there is one. -/
def statusOf
    (db : DB)
    (orderID : Int) : Option OrderStatus :=
  (db.orders.find? orderID).map Order.status

/- The status that an order has after a call changed it. -/
def Event.statusChange
    (orderID : Int)
    (e : Event) : Option OrderStatus :=
  if statusOf e.after orderID = statusOf e.before orderID then
    none
  else
    statusOf e.after orderID

/- The statuses that an order takes, one after another. -/
def statusesTaken
    (events : List Event)
    (orderID : Int) : List OrderStatus :=
  events.filterMap (Event.statusChange orderID)

/- The status to which a call has moved an order, according
   to its request and its outcome. -/
def moveOf
    (orderID : Int) : Request → Outcome → Option OrderStatus
| .createOrder _ _ _, .orderCreated order =>
    if order.id = orderID then some .pending else none
| .payOrder _ id, .orderPaid =>
    if id = orderID then some .paid else none
| .finishOrder _ id, .orderFinished =>
    if id = orderID then some .finished else none
| .cancelOrder _ id, .orderCancelled =>
    if id = orderID then some .cancelled else none
| .cancelExpiredOrder _ id, .orderCancelled =>
    if id = orderID then some .cancelled else none
| _, _ => none

def Event.mark
    (orderID : Int)
    (e : Event) : Option OrderStatus :=
  match e.response with
  | .ok outcome => moveOf orderID e.request outcome
  | .error _ => none

------------------------------------------------------------
-- One Call
------------------------------------------------------------

theorem OrderMoved.statusOf
    {db db' : DB}
    {order : Order}
    {toStatus : OrderStatus}
    {timeField : OrderTimeField}
    {now : Time}
    {stock locked : Int → Int}
    {entries : List (Int × Int × StockBiz × Option Int)}
    (hMoved :
      OrderMoved db db' order toStatus timeField now stock
        locked entries)
    (orderID : Int) :
    statusOf db' orderID =
      if order.id = orderID then
        some toStatus
      else
        statusOf db orderID := by
  unfold OrderManagement.statusOf
  rw [hMoved.orders, Table.find?_update]
  by_cases hHere : order.id = orderID
  · subst hHere
    simp [Order.patched, hMoved.find]
  · have hHere' :
        ¬ (order.patched toStatus timeField now).id = orderID :=
      hHere
    simp [hHere, hHere']

/- A status change seen from any order. -/
theorem OrderMoved.advance
    {db db' : DB}
    {order : Order}
    {toStatus : OrderStatus}
    {timeField : OrderTimeField}
    {now : Time}
    {stock locked : Int → Int}
    {entries : List (Int × Int × StockBiz × Option Int)}
    (hMoved :
      OrderMoved db db' order toStatus timeField now stock
        locked entries)
    (hAdvance : Advance (some order.status) toStatus)
    (orderID : Int) :
    ((if order.id = orderID then some toStatus else none) =
          none ∧
        OrderManagement.statusOf db' orderID =
          OrderManagement.statusOf db orderID) ∨
      ∃ status,
        (if order.id = orderID then some toStatus else none) =
            some status ∧
          OrderManagement.statusOf db' orderID = some status ∧
          Advance (OrderManagement.statusOf db orderID)
            status := by
  rw [hMoved.statusOf]
  by_cases hHere : order.id = orderID
  · subst hHere
    refine Or.inr ⟨toStatus, if_pos rfl, if_pos rfl, ?_⟩
    rw [OrderManagement.statusOf, hMoved.find]
    exact hAdvance
  · exact Or.inl ⟨if_neg hHere, if_neg hHere⟩

/-
  A committed call leaves the status of an order alone, or
  it is itself the call that moves the order on.
-/
theorem Effect.advance
    {view : DB}
    {request : Request}
    {outcome : Outcome}
    {db db' : DB}
    (hEffect : Effect view request outcome db db')
    (orderID : Int) :
    (moveOf orderID request outcome = none ∧
        statusOf db' orderID = statusOf db orderID) ∨
      ∃ status,
        moveOf orderID request outcome = some status ∧
          statusOf db' orderID = some status ∧
          Advance (statusOf db orderID) status := by
  cases hEffect with
  | @orderCreated now nextAttemptAt userID req ids
      requestHash items order db db' hChecked hPlaced =>
      have hFree :=
        (Table.insert?_eq_some_iff.mp hPlaced.orders).1
      unfold statusOf
      rw [Table.find?_of_insert? hPlaced.orders, key_order]
      by_cases hHere : order.id = orderID
      · subst hHere
        rw [key_order] at hFree
        refine Or.inr ⟨.pending, if_pos rfl, ?_, ?_⟩
        · simp [hPlaced.status]
        · rw [hFree]
          exact Advance.created
      · exact Or.inl ⟨if_neg hHere, by rw [if_neg hHere]⟩
  | orderPaid hStatus hMoved =>
      exact OrderMoved.advance hMoved (hStatus ▸ .paid) orderID
  | orderFinished hStatus hMoved =>
      exact OrderMoved.advance hMoved (hStatus ▸ .finished)
        orderID
  | orderCancelled hStatus hMoved
  | orderExpired _ hStatus hMoved =>
      exact OrderMoved.advance hMoved (hStatus ▸ .cancelled)
        orderID
  | productStatusSame hRequest | productStatusSet hRequest =>
      rcases hRequest with rfl | rfl <;>
        exact Or.inl ⟨rfl, rfl⟩
  | productCreated | inventoryInitialised | inventoryAdded
  | orderReplayed | cancelRepeated | expiryRepeated
  | expiryIgnored | expiryLate => exact Or.inl ⟨rfl, rfl⟩

/- The same for the event of a call, with what it changed. -/
theorem Event.Sound.advance
    {e : Event}
    (hSound : e.Sound)
    (orderID : Int) :
    (e.mark orderID = none ∧
        e.statusChange orderID = none ∧
        statusOf e.after orderID =
          statusOf e.before orderID) ∨
      ∃ status,
        e.mark orderID = some status ∧
          e.statusChange orderID = some status ∧
          statusOf e.after orderID = some status ∧
          Advance (statusOf e.before orderID) status := by
  unfold Event.mark Event.statusChange
  rcases hSound.result with
    ⟨outcome, view, hOk, _, _, hEffect⟩ | ⟨err, hErr, hSame⟩
  · rw [hOk]
    rcases hEffect.advance orderID with
      ⟨hMove, hSame⟩ | ⟨status, hMove, hAfter, hAdvance⟩
    · exact Or.inl ⟨hMove, if_pos hSame, hSame⟩
    · refine Or.inr ⟨status, hMove, ?_, hAfter, hAdvance⟩
      rw [hAfter, if_neg]
      intro hEq
      rw [← hEq] at hAdvance
      cases hAdvance
  · rw [hErr, hSame]
    exact Or.inl ⟨rfl, if_pos rfl, rfl⟩

------------------------------------------------------------
-- Whole Runs
------------------------------------------------------------

/- The moves that calls report are the moves that happen. -/
theorem Reaches.statusesTaken_eq
    {events : List Event}
    {s : State}
    (hReaches : Reaches events s)
    (orderID : Int) :
    statusesTaken events orderID =
      events.filterMap (Event.mark orderID) := by
  apply List.filterMap_congr
  intro e hEvent
  rcases (hReaches.event hEvent).1.advance orderID with
    ⟨hMark, hChange, _⟩ | ⟨status, hMark, hChange, _⟩
  · rw [hMark, hChange]
  · rw [hMark, hChange]

/-
  The statuses of an order are a path of its state machine
  that ends in its current status.
-/
theorem Reaches.orderPath
    {events : List Event}
    {s : State}
    (hReaches : Reaches events s)
    (orderID : Int) :
    OrderPath (statusesTaken events orderID) ∧
      statusOf s.db orderID =
        (statusesTaken events orderID).getLast? := by
  refine hReaches.induction
    (P := fun events db =>
      OrderPath (statusesTaken events orderID) ∧
        statusOf db orderID =
          (statusesTaken events orderID).getLast?)
    ⟨Or.inl List.nil_prefix, rfl⟩ ?_ ?_ ?_
  · intro events db db' _ hOld hTouched
    rcases hTouched with ⟨f, _, hKey, rfl⟩
    exact hOld
  · intro events e outcome view hWellFormed ⟨hPath, hLast⟩
      hOk hGrows hEffect
    unfold statusesTaken at hPath hLast ⊢
    rw [List.filterMap_append]
    rcases hEffect.advance orderID with
      ⟨_, hSame⟩ | ⟨status, _, hAfter, hAdvance⟩
    · have hNone : e.statusChange orderID = none :=
        if_pos hSame
      simp only [List.filterMap_cons, hNone,
        List.filterMap_nil, List.append_nil]
      exact ⟨hPath, hSame.trans hLast⟩
    · have hSome : e.statusChange orderID = some status := by
        unfold Event.statusChange
        rw [hAfter, if_neg]
        intro hEq
        rw [← hEq] at hAdvance
        cases hAdvance
      simp only [List.filterMap_cons, hSome,
        List.filterMap_nil]
      refine ⟨hPath.snoc (hLast ▸ hAdvance), ?_⟩
      rw [hAfter, List.getLast?_concat]
  · intro events e err _ ⟨hPath, hLast⟩ _ hSame
    have hNone : e.statusChange orderID = none := by
      unfold Event.statusChange
      rw [hSame, if_pos rfl]
    unfold statusesTaken at hPath hLast ⊢
    rw [List.filterMap_append]
    simp only [List.filterMap_cons, hNone,
      List.filterMap_nil, List.append_nil]
    exact ⟨hPath, hLast⟩

/- Each move is made by exactly one call, or by none. -/
theorem Reaches.marked_once
    {events : List Event}
    {s : State}
    (hReaches : Reaches events s)
    (orderID : Int)
    (status : OrderStatus) :
    (events.filter fun e =>
        e.mark orderID = some status).length =
      if status ∈ statusesTaken events orderID then
        1
      else
        0 := by
  have hPath := (hReaches.orderPath orderID).1
  rw [← hPath.count, hReaches.statusesTaken_eq,
    List.count_filterMap, List.countP_eq_length_filter]
  refine congrArg List.length (List.filter_congr ?_)
  intro e _
  rw [Bool.eq_iff_iff]
  simp

------------------------------------------------------------
-- Stock and Responses
------------------------------------------------------------

/- Whether a request is a status change of the order. -/
def Request.names
    (orderID : Int) : Request → Bool
| .payOrder _ id => id = orderID
| .finishOrder _ id => id = orderID
| .cancelOrder _ id => id = orderID
| .cancelExpiredOrder _ id => id = orderID
| _ => false

/- A payment that a call made, seen in the database. -/
theorem Effect.of_paid
    {view : DB}
    {request : Request}
    {outcome : Outcome}
    {db db' : DB}
    {orderID : Int}
    (hEffect : Effect view request outcome db db')
    (hMove : moveOf orderID request outcome = some .paid) :
    ∃ order now,
      order.id = orderID ∧ OrderPaid db db' order now := by
  cases hEffect with
  | @orderPaid order now db db' _ hMoved =>
      simp only [moveOf, Option.ite_none_right_eq_some,
        and_true] at hMove
      exact ⟨order, now, hMove, hMoved⟩
  | productStatusSame hRequest | productStatusSet hRequest =>
      rcases hRequest with rfl | rfl <;> simp [moveOf] at hMove
  | _ => simp [moveOf] at hMove

/- A cancellation that a call made, seen in the database. -/
theorem Effect.of_cancelled
    {view : DB}
    {request : Request}
    {outcome : Outcome}
    {db db' : DB}
    {orderID : Int}
    (hEffect : Effect view request outcome db db')
    (hMove :
      moveOf orderID request outcome = some .cancelled) :
    ∃ order now,
      order.id = orderID ∧
        OrderCancelled db db' order now := by
  cases hEffect with
  | @orderCancelled order now db db' _ hMoved
  | @orderExpired order now eventID db db' _ _ hMoved =>
      simp only [moveOf, Option.ite_none_right_eq_some,
        and_true] at hMove
      exact ⟨order, now, hMove, hMoved⟩
  | productStatusSame hRequest | productStatusSet hRequest =>
      rcases hRequest with rfl | rfl <;> simp [moveOf] at hMove
  | _ => simp [moveOf] at hMove

/-
  The quantity of an order counts each of its items once,
  also after the database has grown.
-/
theorem DB.Grows.orderQuantity_eq
    {db db' : DB}
    {item : OrderItem}
    (hGrows : db.Grows db')
    (hWellFormed : db.WellFormed)
    (hOrder : (db.orders.find? item.orderID).isSome)
    (hItem : item ∈ db'.orderItems) :
    orderQuantity db.orderItems item.orderID item.productID =
      item.quantity := by
  have hLine :
      item.line ∈ linesOf db.orderItems item.orderID := by
    rw [hGrows.lines item.orderID hOrder]
    apply List.mem_map_of_mem
    simp [hItem]
  exact quantityOf_of_mem
    (hWellFormed.linesOrderly item.orderID).nodup hLine

/-
  A call on an order that does not move it by payment or by
  cancellation leaves the inventories alone.
-/
theorem Effect.inventories_eq
    {view : DB}
    {request : Request}
    {outcome : Outcome}
    {db db' : DB}
    {orderID : Int}
    (hEffect : Effect view request outcome db db')
    (hNames : request.names orderID = true)
    (hPaid : moveOf orderID request outcome ≠ some .paid)
    (hCancelled :
      moveOf orderID request outcome ≠ some .cancelled) :
    InventoriesMoved db.inventories db'.inventories 0 0 := by
  cases hEffect with
  | orderPaid _ hMoved =>
      simp only [Request.names, decide_eq_true_eq] at hNames
      simp [moveOf, hNames] at hPaid
  | orderFinished _ hMoved => exact hMoved.moved
  | orderCancelled _ hMoved | orderExpired _ _ hMoved =>
      simp only [Request.names, decide_eq_true_eq] at hNames
      simp [moveOf, hNames] at hCancelled
  | cancelRepeated | expiryRepeated | expiryIgnored
  | expiryLate => exact InventoriesMoved.refl _
  | productStatusSame hRequest | productStatusSet hRequest =>
      rcases hRequest with rfl | rfl <;> cases hNames
  | productCreated | inventoryInitialised | inventoryAdded
  | orderCreated | orderReplayed => cases hNames

/- A PayOrder call that returns no error has paid. -/
theorem Effect.payOrder
    {view : DB}
    {userID orderID : Int}
    {outcome : Outcome}
    {db db' : DB}
    (hEffect :
      Effect view (.payOrder userID orderID) outcome db db') :
    moveOf orderID (.payOrder userID orderID) outcome =
      some .paid := by
  cases hEffect with
  | orderPaid => exact if_pos rfl
  | productStatusSame hRequest | productStatusSet hRequest =>
      rcases hRequest with hRequest | hRequest <;> cases hRequest

/- A FinishOrder call without an error has finished. -/
theorem Effect.finishOrder
    {view : DB}
    {userID orderID : Int}
    {outcome : Outcome}
    {db db' : DB}
    (hEffect :
      Effect view (.finishOrder userID orderID) outcome db
        db') :
    moveOf orderID (.finishOrder userID orderID) outcome =
      some .finished := by
  cases hEffect with
  | orderFinished => exact if_pos rfl
  | productStatusSame hRequest | productStatusSet hRequest =>
      rcases hRequest with hRequest | hRequest <;> cases hRequest

/- After a CancelOrder call without an error the order is
   cancelled, whether by this call or before it. -/
theorem Effect.cancelOrder
    {view : DB}
    {userID orderID : Int}
    {outcome : Outcome}
    {db db' : DB}
    (hEffect :
      Effect view (.cancelOrder userID orderID) outcome db
        db') :
    statusOf db' orderID = some .cancelled := by
  cases hEffect with
  | orderCancelled _ hMoved =>
      rw [OrderMoved.statusOf hMoved, if_pos rfl]
  | cancelRepeated hFind hStatus =>
      simp [statusOf, hFind, hStatus]
  | productStatusSame hRequest | productStatusSet hRequest =>
      rcases hRequest with hRequest | hRequest <;> cases hRequest

/- A call of a kind that always moves the order returns no
   error exactly when it is the call that moved it. -/
theorem Event.Sound.returns_iff
    {e : Event}
    {orderID : Int}
    {fromStatus toStatus : OrderStatus}
    (hSound : e.Sound)
    (hMoves :
      ∀ outcome view,
        Effect view e.request outcome e.before e.after →
          moveOf orderID e.request outcome = some toStatus)
    (hAdvance :
      ∀ status, Advance status toStatus →
        status = some fromStatus) :
    (∃ outcome, e.response = .ok outcome) ↔
      statusOf e.before orderID = some fromStatus ∧
        statusOf e.after orderID = some toStatus := by
  have hApart : fromStatus ≠ toStatus := by
    rintro rfl
    cases fromStatus with
    | pending => exact absurd (hAdvance none .created) (by simp)
    | paid =>
        exact absurd (hAdvance (some .pending) .paid) (by simp)
    | finished =>
        exact absurd (hAdvance (some .paid) .finished) (by simp)
    | cancelled =>
        exact absurd (hAdvance (some .pending) .cancelled)
          (by simp)
  constructor
  · rintro ⟨outcome, hOk⟩
    rcases hSound.effect hOk with ⟨view, _, hEffect⟩
    have hMove := hMoves outcome view hEffect
    rcases hEffect.advance orderID with
      ⟨hNone, _⟩ | ⟨status, hSome, hAfter, hNext⟩
    · rw [hMove] at hNone
      cases hNone
    · rw [hMove] at hSome
      cases hSome
      exact ⟨hAdvance _ hNext, hAfter⟩
  · rintro ⟨hBefore, hAfter⟩
    rcases hSound.result with
      ⟨outcome, _, hOk, _⟩ | ⟨_, _, hSame⟩
    · exact ⟨outcome, hOk⟩
    · rw [hSame, hBefore] at hAfter
      cases hAfter
      exact absurd rfl hApart

------------------------------------------------------------
-- The Lifecycle of an Order
------------------------------------------------------------

/- What holds of one order after any run of the system. -/
structure OrderLifecycle
    (events : List Event)
    (db : DB)
    (orderID : Int) : Prop where
  statuses :
    statusesTaken events orderID <+:
        [.pending, .paid, .finished] ∨
      statusesTaken events orderID <+: [.pending, .cancelled]
  current :
    statusOf db orderID =
      (statusesTaken events orderID).getLast?
  timestamps :
    ∀ order, db.orders.find? orderID = some order →
      (order.paidAt.isSome ↔
          .paid ∈ statusesTaken events orderID) ∧
        (order.completedAt.isSome ↔
          .finished ∈ statusesTaken events orderID) ∧
        (order.cancelledAt.isSome ↔
          .cancelled ∈ statusesTaken events orderID)
  consumedOnce :
    (events.filter fun e =>
        e.mark orderID = some .paid).length =
      if .paid ∈ statusesTaken events orderID then 1 else 0
  releasedOnce :
    (events.filter fun e =>
        e.mark orderID = some .cancelled).length =
      if .cancelled ∈ statusesTaken events orderID then
        1
      else
        0
  neverBoth :
    ¬ (.paid ∈ statusesTaken events orderID ∧
      .cancelled ∈ statusesTaken events orderID)
  consumes :
    ∀ e ∈ events, e.mark orderID = some .paid →
      ∀ item ∈ db.orderItems, item.orderID = orderID →
        lockedOf e.after.inventories item.productID =
            lockedOf e.before.inventories item.productID -
              item.quantity ∧
          stockOf e.after.inventories item.productID =
            stockOf e.before.inventories item.productID
  releases :
    ∀ e ∈ events, e.mark orderID = some .cancelled →
      ∀ item ∈ db.orderItems, item.orderID = orderID →
        lockedOf e.after.inventories item.productID =
            lockedOf e.before.inventories item.productID -
              item.quantity ∧
          stockOf e.after.inventories item.productID =
            stockOf e.before.inventories item.productID +
              item.quantity
  untouched :
    ∀ e ∈ events, e.request.names orderID = true →
      e.mark orderID ≠ some .paid →
      e.mark orderID ≠ some .cancelled →
      ∀ p,
        lockedOf e.after.inventories p =
            lockedOf e.before.inventories p ∧
          stockOf e.after.inventories p =
            stockOf e.before.inventories p
  payReturns :
    ∀ e ∈ events, ∀ userID,
      e.request = .payOrder userID orderID →
        ((∃ outcome, e.response = .ok outcome) ↔
          statusOf e.before orderID = some .pending ∧
            statusOf e.after orderID = some .paid)
  finishReturns :
    ∀ e ∈ events, ∀ userID,
      e.request = .finishOrder userID orderID →
        ((∃ outcome, e.response = .ok outcome) ↔
          statusOf e.before orderID = some .paid ∧
            statusOf e.after orderID = some .finished)
  cancelStays :
    ∀ e ∈ events, ∀ userID outcome,
      e.request = .cancelOrder userID orderID →
      e.response = .ok outcome →
        statusOf db orderID = some .cancelled

/- A mark comes from an outcome. -/
theorem Event.ok_of_mark
    {e : Event}
    {orderID : Int}
    {status : OrderStatus}
    (hMark : e.mark orderID = some status) :
    ∃ outcome,
      e.response = .ok outcome ∧
        moveOf orderID e.request outcome = some status := by
  unfold Event.mark at hMark
  cases hResponse : e.response with
  | error err =>
      rw [hResponse] at hMark
      cases hMark
  | ok outcome =>
      rw [hResponse] at hMark
      exact ⟨outcome, rfl, hMark⟩

theorem order_lifecycle
    {events : List Event}
    {s : State}
    (hReaches : Reaches events s)
    (orderID : Int) :
    OrderLifecycle events s.db orderID := by
  rcases hReaches.orderPath orderID with ⟨hPath, hLast⟩
  rcases hPath.mem_iff with ⟨hPaid, hFinished, hCancelled⟩
  -- The quantity a moving call acts on is that of the items.
  have hQuantity :
      ∀ e ∈ events, ∀ order : Order,
        e.before.orders.find? order.id = some order →
        order.id = orderID →
        ∀ item ∈ s.db.orderItems, item.orderID = orderID →
          orderQuantity e.before.orderItems order.id
              item.productID = item.quantity := by
    intro e hEvent order hFind hID item hItem hOwn
    rcases hReaches.event hEvent with ⟨hSound, hGrows⟩
    have hSame : order.id = item.orderID := by rw [hID, hOwn]
    rw [hSame] at hFind ⊢
    exact (hSound.grows.trans hGrows).orderQuantity_eq
      hSound.wellFormed (by simp [hFind]) hItem
  constructor
  · exact hPath
  · exact hLast
  · intro order hFind
    have hStamped :=
      hReaches.sound.wellFormed.stamped orderID order hFind
    have hStatus :
        (statusesTaken events orderID).getLast? =
          some order.status := by
      rw [← hLast, statusOf, hFind]
      rfl
    rw [hPaid, hFinished, hCancelled, hStatus]
    simp only [Option.some.injEq]
    exact ⟨hStamped.paidAt, hStamped.completedAt,
      hStamped.cancelledAt⟩
  · exact hReaches.marked_once orderID .paid
  · exact hReaches.marked_once orderID .cancelled
  · exact hPath.not_both
  · intro e hEvent hMark item hItem hOwn
    rcases Event.ok_of_mark hMark with ⟨outcome, hOk, hMove⟩
    rcases (hReaches.event hEvent).1.effect hOk with
      ⟨view, _, hEffect⟩
    rcases hEffect.of_paid hMove with
      ⟨order, now, hID, hMoved⟩
    rw [hMoved.moved.lockedOf, hMoved.moved.stockOf,
      Pi.neg_apply, hQuantity e hEvent order hMoved.find hID
        item hItem hOwn, Pi.zero_apply]
    omega
  · intro e hEvent hMark item hItem hOwn
    rcases Event.ok_of_mark hMark with ⟨outcome, hOk, hMove⟩
    rcases (hReaches.event hEvent).1.effect hOk with
      ⟨view, _, hEffect⟩
    rcases hEffect.of_cancelled hMove with
      ⟨order, now, hID, hMoved⟩
    rw [hMoved.moved.lockedOf, hMoved.moved.stockOf,
      Pi.neg_apply, hQuantity e hEvent order hMoved.find hID
        item hItem hOwn]
    omega
  · intro e hEvent hNames hNotPaid hNotCancelled p
    rcases (hReaches.event hEvent).1.result with
      ⟨outcome, view, hOk, _, _, hEffect⟩ | ⟨_, _, hSame⟩
    · unfold Event.mark at hNotPaid hNotCancelled
      rw [hOk] at hNotPaid hNotCancelled
      have hMoved := hEffect.inventories_eq hNames hNotPaid
        hNotCancelled
      rw [hMoved.lockedOf, hMoved.stockOf, Pi.zero_apply]
      omega
    · rw [hSame]
      exact ⟨rfl, rfl⟩
  · intro e hEvent userID hRequest
    apply (hReaches.event hEvent).1.returns_iff
    · intro outcome view hEffect
      rw [hRequest] at hEffect ⊢
      exact hEffect.payOrder
    · intro status hAdvance
      cases hAdvance
      rfl
  · intro e hEvent userID hRequest
    apply (hReaches.event hEvent).1.returns_iff
    · intro outcome view hEffect
      rw [hRequest] at hEffect ⊢
      exact hEffect.finishOrder
    · intro status hAdvance
      cases hAdvance
      rfl
  · intro e hEvent userID outcome hRequest hOk
    rcases hReaches.event hEvent with ⟨hSound, hGrows⟩
    rcases hSound.effect hOk with ⟨view, _, hEffect⟩
    rw [hRequest] at hEffect
    have hAfter := hEffect.cancelOrder
    rcases Option.map_eq_some_iff.mp hAfter with
      ⟨order, hFind, hStatus⟩
    rcases hGrows.cancelled hFind hStatus with
      ⟨order', hFind', hStatus'⟩
    simp [statusOf, hFind', hStatus']

end OrderManagement

namespace OrderManagement

attribute [local instance] sampleDeployment

/- The sample order after it was paid: a cancellation of it
   later on finds it paid and fails. -/
theorem order_lifecycle_sample :
    let calls := sampleCalls ++
      [ sampleCall (.payOrder 3 7) 1,
        sampleCall (.cancelOrder 3 7) 2 ]
    statusesTaken (serialEvents DB.empty calls) 7 =
        [.pending, .paid] ∧
      OrderLifecycle (serialEvents DB.empty calls)
        (serialDB DB.empty calls) 7 := by
  intro calls
  have hLifecycle := order_lifecycle (reaches_serial calls) 7
  dsimp only at hLifecycle
  refine ⟨?_, hLifecycle⟩
  decide +kernel

end OrderManagement
