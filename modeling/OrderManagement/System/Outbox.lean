import OrderManagement.System.Step

/-
  Orders and their rows in the outbox. The transaction that
  creates an order writes its one row, and nothing writes or
  removes another.

  Main declarations:
    * `outboxOf`
    * `OutboxKept`
    * `Effect.outboxKept` and `Reaches.outboxKept`
-/

namespace OrderManagement

variable [Deployment]

/- The rows of the outbox that belong to an order. -/
def outboxOf
    (db : DB)
    (orderID : Int) : List OrderTimeoutOutbox :=
  db.orderTimeoutOutbox.rows.filter fun row =>
    row.orderID = orderID

/- Each order has one row, with its user and its deadline,
   and each row has its order. -/
structure OutboxKept
    (db : DB) : Prop where
  ofOrder :
    ∀ id order, db.orders.find? id = some order →
      ∃ row,
        outboxOf db id = [row] ∧
          row.userID = order.userID ∧
          row.timeoutAt =
            order.createdAt + Deployment.orderTimeout
  ofRow :
    ∀ row ∈ db.orderTimeoutOutbox.rows,
      (db.orders.find? row.orderID).isSome

theorem outboxKept_empty : OutboxKept DB.empty where
  ofOrder _ _ hFind := by cases hFind
  ofRow _ hMem := by cases hMem

/- The rows of an order after all rows were rewritten. -/
theorem outboxOf_map
    {db : DB}
    {f : OrderTimeoutOutbox → OrderTimeoutOutbox}
    {hKey : ∀ row, Keyed.key (f row) = Keyed.key row}
    (hIdentity : ∀ row, (f row).identity = row.identity)
    (orderID : Int) :
    outboxOf
        { db with
          orderTimeoutOutbox :=
            db.orderTimeoutOutbox.map f hKey } orderID =
      (outboxOf db orderID).map f := by
  unfold outboxOf
  change (db.orderTimeoutOutbox.rows.map f).filter _ = _
  rw [List.filter_map]
  congr 1
  apply List.filter_congr
  intro row _
  have hSame := hIdentity row
  simp only [OrderTimeoutOutbox.identity,
    Prod.mk.injEq] at hSame
  simp [hSame.2.1]

theorem OutboxKept.touched
    {db db' : DB}
    (hKept : OutboxKept db)
    (hTouched : OutboxTouched db db') :
    OutboxKept db' := by
  rcases hTouched with ⟨f, hIdentity, hKey, rfl⟩
  have hSame := hIdentity
  simp only [OrderTimeoutOutbox.identity,
    Prod.mk.injEq] at hSame
  constructor
  · intro id order hFind
    rcases hKept.ofOrder id order hFind with
      ⟨row, hRows, hUser, hTime⟩
    refine ⟨f row, ?_, ?_, ?_⟩
    · rw [outboxOf_map hIdentity, hRows]
      rfl
    · rw [(hSame row).2.2.1]
      exact hUser
    · rw [(hSame row).2.2.2]
      exact hTime
  · intro row hMem
    rcases List.mem_map.mp hMem with ⟨old, hOld, rfl⟩
    rw [(hSame old).2.1]
    exact hKept.ofRow old hOld

/- An order is created with its row. -/
theorem OrderPlaced.outboxKept
    {view : DB}
    {now nextAttemptAt : Time}
    {userID : Int}
    {idempotencyKey requestHash : String}
    {items : List CreateOrderItemRequest}
    {ids : GeneratedIDs}
    {order : Order}
    {db db' : DB}
    (hPlaced :
      OrderPlaced view now nextAttemptAt userID
        idempotencyKey requestHash items ids order db db')
    (hKept : OutboxKept db) :
    OutboxKept db' := by
  have hRows :
      db'.orderTimeoutOutbox.rows =
        db.orderTimeoutOutbox.rows ++
          [timeoutRow nextAttemptAt ids.eventID order] :=
    (Table.insert?_eq_some_iff.mp hPlaced.outbox).2
  have hNew :
      (timeoutRow nextAttemptAt ids.eventID order).orderID =
        order.id := rfl
  constructor
  · intro id order' hFind
    rw [Table.find?_of_insert? hPlaced.orders] at hFind
    unfold outboxOf
    rw [hRows, List.filter_append]
    split at hFind
    case isTrue hID =>
      cases hFind
      have hID : order.id = id := hID
      refine ⟨timeoutRow nextAttemptAt ids.eventID order, ?_,
        rfl, rfl⟩
      have hNone :
          (db.orderTimeoutOutbox.rows.filter fun row =>
            row.orderID = id) = [] := by
        rw [List.filter_eq_nil_iff]
        intro row hMem
        rw [← hID]
        simpa using hPlaced.outboxFree row hMem
      rw [hNone]
      simp [hNew, hID]
    case isFalse hOther =>
      have hOther : order.id ≠ id := hOther
      rcases hKept.ofOrder id order' hFind with
        ⟨row, hRow, hSame⟩
      unfold outboxOf at hRow
      refine ⟨row, ?_, hSame⟩
      rw [hRow]
      simp [hNew, hOther]
  · intro row hMem
    rw [hRows] at hMem
    rw [Table.find?_of_insert? hPlaced.orders]
    rcases List.mem_append.mp hMem with hOld | hMem
    · split
      · rfl
      · exact hKept.ofRow row hOld
    · rw [List.mem_singleton.mp hMem, if_pos]
      · rfl
      · exact hNew.symm

/- A status change keeps the user of its order and the time
   of its creation. -/
theorem OrderMoved.outboxKept
    {db db' : DB}
    {order : Order}
    {toStatus : OrderStatus}
    {timeField : OrderTimeField}
    {now : Time}
    {stock locked : Int → Int}
    {entries : List (Int × Int × StockBiz × Option Int)}
    (hMoved :
      OrderMoved db db' order toStatus timeField now stock
        locked entries)
    (hKept : OutboxKept db) :
    OutboxKept db' := by
  have hOutbox :
      ∀ id, outboxOf db' id = outboxOf db id := by
    intro id
    unfold outboxOf
    rw [hMoved.outbox]
  constructor
  · intro id order' hFind
    rw [hOutbox]
    rw [hMoved.orders, Table.find?_update] at hFind
    split at hFind
    case isTrue hID =>
      have hID : order.id = id := hID
      have hOld := hMoved.find
      rw [hID] at hOld
      rw [hOld] at hFind
      cases hFind
      exact hKept.ofOrder id order hOld
    case isFalse => exact hKept.ofOrder id order' hFind
  · intro row hMem
    rw [hMoved.outbox] at hMem
    have hSome := hKept.ofRow row hMem
    rw [hMoved.orders, Table.find?_update]
    split
    · simpa using hSome
    · exact hSome

theorem Effect.outboxKept
    {view : DB}
    {request : Request}
    {outcome : Outcome}
    {db db' : DB}
    (hEffect : Effect view request outcome db db')
    (hKept : OutboxKept db) :
    OutboxKept db' := by
  cases hEffect with
  | orderCreated _ hPlaced => exact hPlaced.outboxKept hKept
  | orderPaid _ hMoved | orderFinished _ hMoved
  | orderCancelled _ hMoved | orderExpired _ _ hMoved =>
      exact OrderMoved.outboxKept hMoved hKept
  | productCreated | productStatusSame | productStatusSet
  | inventoryInitialised | inventoryAdded | orderReplayed
  | cancelRepeated | expiryRepeated | expiryIgnored
  | expiryLate => exact ⟨hKept.ofOrder, hKept.ofRow⟩

theorem Reaches.outboxKept
    {events : List Event}
    {s : State}
    (hReaches : Reaches events s) :
    OutboxKept s.db := by
  refine hReaches.induction (P := fun _ db => OutboxKept db)
    outboxKept_empty ?_ ?_ ?_
  · intro _ _ _ _ hKept hTouched
    exact hKept.touched hTouched
  · intro _ _ _ _ _ hKept _ _ hEffect
    exact hEffect.outboxKept hKept
  · intro _ _ _ _ hKept _ _
    exact hKept

/- The row of an order is the only one with its order id. -/
theorem OutboxKept.unique
    {db : DB}
    (hKept : OutboxKept db)
    {row row' : OrderTimeoutOutbox}
    (hMem : row ∈ db.orderTimeoutOutbox.rows)
    (hMem' : row' ∈ db.orderTimeoutOutbox.rows)
    (hOrder : row.orderID = row'.orderID) :
    row = row' := by
  rcases Option.isSome_iff_exists.mp
      (hKept.ofRow row hMem) with ⟨order, hFind⟩
  rcases hKept.ofOrder _ order hFind with ⟨only, hOnly, _⟩
  have hIn : row ∈ outboxOf db row.orderID := by
    unfold outboxOf
    simp [hMem]
  have hIn' : row' ∈ outboxOf db row.orderID := by
    unfold outboxOf
    simp [hMem', hOrder]
  rw [hOnly] at hIn hIn'
  exact (List.mem_singleton.mp hIn).trans
    (List.mem_singleton.mp hIn').symm

end OrderManagement
