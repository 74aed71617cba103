import OrderManagement.Dao.Outbox
import OrderManagement.Service.Lines

/-
  What every reachable database satisfies, and how a later
  database extends an earlier one. The second relation is
  what a call knows about a snapshot it still acts on.

  Main declarations:
    * `DB.WellFormed`
    * `OrderStatus.canBecome`
    * `DB.Grows` with `DB.Grows.trans`
-/

namespace OrderManagement

------------------------------------------------------------
-- Well-Formed Databases
------------------------------------------------------------

/- Each timestamp is set by the status it belongs to. -/
structure Order.Stamped
    (order : Order) : Prop where
  paidAt :
    order.paidAt.isSome ↔
      order.status = .paid ∨ order.status = .finished
  completedAt :
    order.completedAt.isSome ↔ order.status = .finished
  cancelledAt :
    order.cancelledAt.isSome ↔ order.status = .cancelled

variable [Deployment]

/- The invariant of the tables that hold orders. -/
structure DB.WellFormed
    (db : DB) : Prop where
  productIDPositive :
    ∀ id, (db.products.find? id).isSome → 0 < id
  itemsOwned :
    ∀ item ∈ db.orderItems,
      (db.orders.find? item.orderID).isSome
  linesOrderly :
    ∀ orderID, Orderly (linesOf db.orderItems orderID)
  stamped :
    ∀ orderID order,
      db.orders.find? orderID = some order → order.Stamped
  inventoriesOwned :
    ∀ id, (db.inventories.find? id).isSome →
      (db.products.find? id).isSome

theorem DB.wellFormed_empty : DB.empty.WellFormed where
  productIDPositive _ hFind := by cases hFind
  itemsOwned _ hItem := by cases hItem
  linesOrderly _ := by
    constructor <;> simp [linesOf, DB.empty]
  stamped _ _ hFind := by cases hFind
  inventoriesOwned _ hFind := by cases hFind

------------------------------------------------------------
-- Growth
------------------------------------------------------------

omit [Deployment] in
/- The statuses that an order may still reach. -/
def OrderStatus.canBecome :
    OrderStatus → OrderStatus → Bool
| .pending, _ => true
| .paid, .paid => true
| .paid, .finished => true
| .finished, .finished => true
| .cancelled, .cancelled => true
| _, _ => false

omit [Deployment] in
theorem OrderStatus.canBecome_refl
    (s : OrderStatus) :
    s.canBecome s = true := by
  cases s <;> rfl

omit [Deployment] in
theorem OrderStatus.canBecome_trans
    {s t u : OrderStatus}
    (hFirst : s.canBecome t = true)
    (hSecond : t.canBecome u = true) :
    s.canBecome u = true := by
  cases s <;> cases t <;> cases u <;>
    first
      | rfl
      | exact absurd hFirst (by decide)
      | exact absurd hSecond (by decide)

omit [Deployment] in
/- The later row of an order that is still the same order. -/
structure Order.Follows
    (later earlier : Order) : Prop where
  userID : later.userID = earlier.userID
  orderNo : later.orderNo = earlier.orderNo
  createdAt : later.createdAt = earlier.createdAt
  status : earlier.status.canBecome later.status = true

/-
  Rows are never deleted, and what identifies them never
  changes; this is how one database comes after another.
-/
structure DB.Grows
    (old new : DB) : Prop where
  products :
    ∀ id, (old.products.find? id).isSome →
      (new.products.find? id).isSome
  inventories :
    ∀ id, (old.inventories.find? id).isSome →
      (new.inventories.find? id).isSome
  orders :
    ∀ id order, old.orders.find? id = some order →
      ∃ order',
        new.orders.find? id = some order' ∧
          order'.Follows order
  lines :
    ∀ id, (old.orders.find? id).isSome →
      linesOf old.orderItems id = linesOf new.orderItems id
  keys :
    ∀ slot record,
      old.orderIdempotencyKeys.find? slot = some record →
        new.orderIdempotencyKeys.find? slot = some record
  outbox :
    ∀ eventID row,
      old.orderTimeoutOutbox.find? eventID = some row →
        ∃ row',
          new.orderTimeoutOutbox.find? eventID = some row' ∧
            row'.identity = row.identity

namespace DB.Grows

theorem refl
    (db : DB) :
    Grows db db where
  products _ h := h
  inventories _ h := h
  orders _ order h :=
    ⟨order, h, rfl, rfl, rfl, order.status.canBecome_refl⟩
  lines _ _ := rfl
  keys _ _ h := h
  outbox _ row h := ⟨row, h, rfl⟩

theorem trans
    {a b c : DB}
    (hFirst : Grows a b)
    (hSecond : Grows b c) :
    Grows a c where
  products id h := hSecond.products id (hFirst.products id h)
  inventories id h :=
    hSecond.inventories id (hFirst.inventories id h)
  orders id order h := by
    rcases hFirst.orders id order h with ⟨mid, hMid, hSame⟩
    rcases hSecond.orders id mid hMid with
      ⟨last, hLast, hSame'⟩
    exact ⟨last, hLast,
      hSame'.userID.trans hSame.userID,
      hSame'.orderNo.trans hSame.orderNo,
      hSame'.createdAt.trans hSame.createdAt,
      OrderStatus.canBecome_trans hSame.status
        hSame'.status⟩
  lines id h := by
    rcases Option.isSome_iff_exists.mp h with ⟨order, hOrder⟩
    rcases hFirst.orders id order hOrder with ⟨mid, hMid, _⟩
    exact (hFirst.lines id h).trans
      (hSecond.lines id (by simp [hMid]))
  keys slot record h :=
    hSecond.keys slot record (hFirst.keys slot record h)
  outbox eventID row h := by
    rcases hFirst.outbox eventID row h with ⟨mid, hMid, hSame⟩
    rcases hSecond.outbox eventID mid hMid with
      ⟨last, hLast, hSame'⟩
    exact ⟨last, hLast, hSame'.trans hSame⟩

/- An order that was cancelled stays cancelled. -/
theorem cancelled
    {old new : DB}
    {id : Int}
    {order : Order}
    (hGrows : Grows old new)
    (hFind : old.orders.find? id = some order)
    (hStatus : order.status = .cancelled) :
    ∃ order',
      new.orders.find? id = some order' ∧
        order'.status = .cancelled := by
  rcases hGrows.orders id order hFind with
    ⟨order', hFind', hSame⟩
  refine ⟨order', hFind', ?_⟩
  have hNext := hSame.status
  rw [hStatus] at hNext
  cases hLast : order'.status with
  | cancelled => rfl
  | pending | paid | finished =>
      rw [hLast] at hNext
      cases hNext

end DB.Grows

------------------------------------------------------------
-- Statements of the Worker
------------------------------------------------------------

theorem OutboxTouched.grows
    {db db' : DB}
    (hTouched : OutboxTouched db db') :
    db.Grows db' := by
  rcases hTouched with ⟨f, hIdentity, hKey, rfl⟩
  exact {
    DB.Grows.refl db with
    outbox := by
      intro eventID row hFind
      exact ⟨f row, by simp [hFind], hIdentity row⟩ }

theorem OutboxTouched.wellFormed
    {db db' : DB}
    (hTouched : OutboxTouched db db')
    (hWellFormed : db.WellFormed) :
    db'.WellFormed := by
  rcases hTouched with ⟨f, _, hKey, rfl⟩
  exact {
    productIDPositive := hWellFormed.productIDPositive
    itemsOwned := hWellFormed.itemsOwned
    linesOrderly := hWellFormed.linesOrderly
    stamped := hWellFormed.stamped
    inventoriesOwned := hWellFormed.inventoriesOwned }

end OrderManagement
