import OrderManagement.System.Conservation

/-
  Migration 00016, which adds the column locked_quantity to
  product_inventories, and what becomes of the orders that
  are pending at that time.

  Main declarations:
    * `LegacyDB`, `Migration00016.up`, `Migration00016.down`
    * `Operable` and `LiveOrders`
    * `Migration00016.up_liveOrders_iff`
    * `Migration00016.up_stuck`
-/

namespace OrderManagement

open Transaction

------------------------------------------------------------
-- The Schema Before the Migration
------------------------------------------------------------

structure LegacyInventory where
  productID : Int
  stockQuantity : Int
  stockQuantityNonneg : 0 ≤ stockQuantity

instance : Keyed LegacyInventory Int where
  key := LegacyInventory.productID

/- The row with the new column, filled with its default. -/
def LegacyInventory.withLockedQuantity
    (row : LegacyInventory) : Inventory where
  productID := row.productID
  stockQuantity := row.stockQuantity
  lockedQuantity := 0
  stockQuantityNonneg := row.stockQuantityNonneg
  lockedQuantityNonneg :=
    Inventory.lockedQuantityDefault_nonneg

def Inventory.withoutLockedQuantity
    (row : Inventory) : LegacyInventory where
  productID := row.productID
  stockQuantity := row.stockQuantity
  stockQuantityNonneg := row.stockQuantityNonneg

variable [Deployment]

/- The other tables are those of today. -/
structure LegacyDB where
  products : Table Product
  inventories : Table LegacyInventory
  orders : Table Order
  orderItems : List OrderItem
  stockLogs : List StockLog
  orderIdempotencyKeys : Table OrderIdempotencyKey
  orderTimeoutOutbox : Table OrderTimeoutOutbox

namespace Migration00016

/- ADD COLUMN locked_quantity ... DEFAULT 0. The new CHECK
   holds of every row. -/
def up
    (db : LegacyDB) : DB where
  products := db.products
  inventories := {
    rows :=
      db.inventories.rows.map
        LegacyInventory.withLockedQuantity
    nodup := by
      rw [List.map_map]
      exact db.inventories.nodup }
  orders := db.orders
  orderItems := db.orderItems
  stockLogs := db.stockLogs
  orderIdempotencyKeys := db.orderIdempotencyKeys
  orderTimeoutOutbox := db.orderTimeoutOutbox

/- DROP COLUMN locked_quantity. -/
def down
    (db : DB) : LegacyDB where
  products := db.products
  inventories := {
    rows :=
      db.inventories.rows.map Inventory.withoutLockedQuantity
    nodup := by
      rw [List.map_map]
      exact db.inventories.nodup }
  orders := db.orders
  orderItems := db.orderItems
  stockLogs := db.stockLogs
  orderIdempotencyKeys := db.orderIdempotencyKeys
  orderTimeoutOutbox := db.orderTimeoutOutbox

theorem find?_up
    (db : LegacyDB)
    (p : Int) :
    (up db).inventories.find? p =
      (db.inventories.find? p).map
        LegacyInventory.withLockedQuantity :=
  List.find?_map ..

/- No stock is locked right after the migration. -/
theorem lockedOf_up
    (db : LegacyDB)
    (p : Int) :
    lockedOf (up db).inventories p = 0 := by
  unfold lockedOf
  rw [find?_up]
  cases db.inventories.find? p with
  | none => rfl
  | some row => rfl

/- The stock is as before, also after both directions. -/
theorem stockOf_up_down
    (db : DB)
    (p : Int) :
    stockOf (up (down db)).inventories p =
      stockOf db.inventories p := by
  have hFind :
      (down db).inventories.find? p =
        (db.inventories.find? p).map
          Inventory.withoutLockedQuantity :=
    List.find?_map ..
  unfold stockOf
  rw [find?_up, hFind]
  cases db.inventories.find? p with
  | none => rfl
  | some row => rfl

end Migration00016

------------------------------------------------------------
-- Live Orders
------------------------------------------------------------

/- What can be done with a pending order, by its user and by
   its timeout. -/
structure Operable
    (db : DB)
    (order : Order) : Prop where
  pay :
    ∀ now, ∃ db',
      Commits
        (OrderService.payOrder db now order.userID order.id)
        db .orderPaid db'
  cancel :
    ∀ now, ∃ db',
      Commits
        (OrderService.cancelOrder db now order.userID order.id)
        db .orderCancelled db'
  expire :
    ∀ now eventID,
      TimeoutDue db now eventID order.id →
      ∃ db',
        Commits
          (OrderService.cancelExpiredOrder db now eventID
            order.id)
          db .orderCancelled db'

/- The pending orders of a database are locked, and each of
   them can go on. -/
structure LiveOrders
    (db : DB) : Prop where
  backed :
    ∀ p, pendingQuantity db p ≤ lockedOf db.inventories p
  operable :
    ∀ order,
      db.orders.find? order.id = some order →
      order.status = .pending →
      Operable db order

/- The lock on a product covers each pending order. -/
theorem LiveOrders.orderQuantity_le
    {db : DB}
    {order : Order}
    (hLive : LiveOrders db)
    (hFind : db.orders.find? order.id = some order)
    (hPending : order.status = .pending)
    (p : Int) :
    orderQuantity db.orderItems order.id p ≤
      lockedOf db.inventories p := by
  have hRow := (Table.find?_eq_some_iff.mp hFind).1
  have hNonneg (other : Order) :
      0 ≤ if other.status.isPending then
          orderQuantity db.orderItems other.id p
        else
          0 := by
    split
    · exact orderQuantity_nonneg _ _ _
    · exact Int.le_refl 0
  have hTerm := Table.le_total hNonneg hRow
  rw [hPending] at hTerm
  exact le_trans hTerm (hLive.backed p)

------------------------------------------------------------
-- Orders Without Items
------------------------------------------------------------

theorem Dao.patchOrderStatus_commits
    {db : DB}
    {order : Order}
    {fromStatus : OrderStatus}
    (toStatus : OrderStatus)
    (timeField : OrderTimeField)
    (now : Time)
    (hFind : db.orders.find? order.id = some order)
    (hStatus : order.status = fromStatus) :
    Commits
      (Dao.patchOrderStatus order.userID order.id fromStatus
        toStatus timeField now)
      db 1
      { db with
        orders :=
          db.orders.update
            (order.patched toStatus timeField now) } := by
  have hRow :
      (db.orders.find? order.id).filter
          (fun row =>
            row.userID = order.userID ∧
              row.status = fromStatus) =
        some order := by
    simp [hFind, hStatus, Option.filter_some]
  unfold Dao.patchOrderStatus
  simp only [commits_bind, commits_get]
  refine ⟨db, db, ⟨rfl, rfl⟩, ?_⟩
  rw [hRow]
  simp only [commits_bind, commits_set, commits_pure]
  exact ⟨(), _, rfl, trivial, rfl⟩

theorem inventoryLines_eq_nil
    {view : DB}
    {orderID : Int}
    (hNone : linesOf view.orderItems orderID = []) :
    inventoryLines view orderID = [] := by
  have hItems :
      Dao.listOrderItemsByOrderID view orderID = [] :=
    List.map_eq_nil_iff.mp hNone
  unfold inventoryLines Dao.listOrderItemsByOrderIDForInventory
  rw [hItems]
  rfl

/- An order without lines asks nothing of the inventories. -/
theorem Operable.of_no_lines
    {db : DB}
    {order : Order}
    (hFind : db.orders.find? order.id = some order)
    (hPending : order.status = .pending)
    (hNone : linesOf db.orderItems order.id = []) :
    Operable db order := by
  let patched
      (toStatus : OrderStatus)
      (timeField : OrderTimeField)
      (now : Time) : DB :=
    { db with
      orders :=
        db.orders.update
          (order.patched toStatus timeField now) }
  have hCancel
      (now : Time)
      (remarkPrefix : String) :
      Commits (cancelPendingOrder db now order remarkPrefix)
        db true (patched .cancelled .cancelledAt now) := by
    unfold cancelPendingOrder
    rw [inventoryLines_eq_nil hNone, commits_bind]
    refine ⟨1, _,
      Dao.patchOrderStatus_commits .cancelled .cancelledAt now
        hFind hPending, ?_⟩
    simp
    rfl
  constructor
  case pay =>
    intro now
    have hLines :
        inventoryLines (patched .paid .paidAt now) order.id =
          [] :=
      inventoryLines_eq_nil hNone
    refine ⟨patched .paid .paidAt now, ?_⟩
    unfold OrderService.payOrder Dao.getOrderByID
    simp only [commits_bind, commits_fetch]
    refine ⟨order, db, ⟨by simp [hFind], rfl⟩, ?_⟩
    simp only [hPending, commits_bind]
    refine ⟨1, patched .paid .paidAt now,
      Dao.patchOrderStatus_commits .paid .paidAt now hFind
        hPending, ?_⟩
    simp [hLines]
  case cancel =>
    intro now
    refine ⟨patched .cancelled .cancelledAt now, ?_⟩
    unfold OrderService.cancelOrder Dao.getOrderByID
    simp only [commits_bind, commits_fetch]
    refine ⟨order, db, ⟨by simp [hFind], rfl⟩, ?_⟩
    simp only [hPending, commits_bind]
    exact ⟨true, _, hCancel now _, by simp⟩
  case expire =>
    intro now eventID hDue
    rcases hDue with ⟨outbox, hOutbox, hDue⟩
    refine ⟨patched .cancelled .cancelledAt now, ?_⟩
    unfold OrderService.cancelExpiredOrder
      Dao.getOrderByIDForSystem
    simp only [hOutbox, hFind, hPending, commits_bind,
      commits_ensure]
    refine ⟨(), db, ⟨hDue, rfl⟩, true, _, hCancel now _, ?_⟩
    simp

------------------------------------------------------------
-- Pending Orders After the Migration
------------------------------------------------------------

namespace Migration00016

/- The migration serves the live orders exactly when none of
   them has an item. -/
theorem up_liveOrders_iff
    (db : LegacyDB) :
    LiveOrders (up db) ↔
      ∀ order,
        db.orders.find? order.id = some order →
        order.status = .pending →
        linesOf db.orderItems order.id = [] := by
  constructor
  · intro hLive order hFind hPending
    rw [List.eq_nil_iff_forall_not_mem]
    intro line hLine
    have hTakes := orderQuantity_pos hLine
    have hCovered :=
      hLive.orderQuantity_le hFind hPending line.productID
    rw [lockedOf_up] at hCovered
    exact absurd hTakes (not_lt.mpr hCovered)
  · intro hNone
    constructor
    case backed =>
      intro p
      rw [lockedOf_up]
      refine (List.sum_eq_zero ?_).le
      intro amount hAmount
      rcases List.mem_map.mp hAmount with ⟨order, hRow, rfl⟩
      have hFind : db.orders.find? order.id = some order :=
        Table.find?_eq_some_iff.mpr ⟨hRow, rfl⟩
      cases hStatus : order.status with
      | pending =>
          exact congrArg (quantityOf · p)
            (hNone order hFind hStatus)
      | paid | finished | cancelled => rfl
    case operable =>
      intro order hFind hPending
      exact Operable.of_no_lines hFind hPending
        (hNone order hFind hPending)

/- No order that has items can go on. -/
theorem up_stuck
    {db : LegacyDB}
    {order : Order}
    (hOrderly : Orderly (linesOf db.orderItems order.id))
    (hItems : linesOf db.orderItems order.id ≠ [])
    (now : Time)
    (eventID : String)
    (db' : DB) :
    ¬ Commits
        (OrderService.payOrder (up db) now order.userID
          order.id)
        (up db) .orderPaid db' ∧
      ¬ Commits
        (OrderService.cancelOrder (up db) now order.userID
          order.id)
        (up db) .orderCancelled db' ∧
      ¬ Commits
        (OrderService.cancelExpiredOrder (up db) now eventID
          order.id)
        (up db) .orderCancelled db' := by
  rcases List.exists_mem_of_ne_nil _ hItems with ⟨line, hLine⟩
  have hTakes := orderQuantity_pos hLine
  -- Whatever moves the order would unlock what is not locked.
  have hUnmoved
      {moved : Order}
      {toStatus : OrderStatus}
      {timeField : OrderTimeField}
      {stock : Int → Int}
      {entries : List (Int × Int × StockBiz × Option Int)}
      (hID : moved.id = order.id)
      (hMoved :
        OrderMoved (up db) db' moved toStatus timeField now
          stock (-orderQuantity (up db).orderItems moved.id)
          entries) :
      False := by
    have hLocked := hMoved.moved.lockedOf line.productID
    have hNonneg :=
      lockedOf_nonneg db'.inventories line.productID
    rw [hLocked, lockedOf_up, hID, zero_add] at hNonneg
    exact absurd hTakes (not_lt.mpr
      (Int.nonpos_of_neg_nonneg hNonneg))
  refine ⟨?_, ?_, ?_⟩
  · intro hCommit
    rcases commits_payOrder hOrderly hCommit with
      ⟨_, moved, hID, _, _, hPaid⟩
    exact hUnmoved hID hPaid
  · intro hCommit
    rcases commits_cancelOrder (fun _ => rfl) hOrderly hCommit
      with ⟨hSame, _⟩ | ⟨_, moved, hID, _, _, hCancelled⟩
    · cases hSame
    · exact hUnmoved hID hCancelled
  · intro hCommit
    rcases commits_cancelExpiredOrder (fun _ => rfl) hOrderly
        hCommit with
      ⟨hSame, _⟩ | ⟨hSame, _⟩ | ⟨hSame, _⟩ |
      ⟨_, _, moved, hID, _, hCancelled⟩
    · cases hSame
    · cases hSame
    · cases hSame
    · exact hUnmoved hID hCancelled

end Migration00016

------------------------------------------------------------
-- What the Code Before the Migration Leaves
------------------------------------------------------------

/-
  The code before the migration did to the other columns
  what the code does now: what it leaves is what is left
  now, without the new column.
-/
def LegacyDB.Reached
    (supply : Int → Int)
    (db : LegacyDB) : Prop :=
  ∃ events s,
    Reaches events s ∧
      suppliedBy events = supply ∧
      db = Migration00016.down s.db

/- The stock of the pending orders is deducted already, and
   the migration leaves it out of both counters. -/
theorem LegacyDB.Reached.total_up
    {supply : Int → Int}
    {db : LegacyDB}
    (hReached : db.Reached supply)
    (p : Int) :
    stockOf (Migration00016.up db).inventories p +
        lockedOf (Migration00016.up db).inventories p +
        soldQuantity (Migration00016.up db) p =
      supply p -
        pendingQuantity (Migration00016.up db) p := by
  rcases hReached with ⟨events, s, hReaches, rfl, rfl⟩
  have hLocked := hReaches.conserved.locked p
  have hTotal := hReaches.conserved.total p
  rw [Migration00016.stockOf_up_down,
    Migration00016.lockedOf_up]
  have hSold :
      soldQuantity
          (Migration00016.up (Migration00016.down s.db)) p =
        soldQuantity s.db p := rfl
  have hPending :
      pendingQuantity
          (Migration00016.up (Migration00016.down s.db)) p =
        pendingQuantity s.db p := rfl
  rw [hSold, hPending]
  omega

end OrderManagement

namespace OrderManagement

attribute [local instance] sampleDeployment

/- An order for four pieces is pending at the migration. -/
theorem pending_order_not_served :
    ¬ ∀ (supply : Int → Int) (db : LegacyDB),
      db.Reached supply → LiveOrders (Migration00016.up db) := by
  intro hLive
  have hBacked :=
    (hLive _ _
      ⟨_, _, reaches_serial sampleCalls, rfl, rfl⟩).backed 1
  rw [Migration00016.lockedOf_up] at hBacked
  revert hBacked
  decide +kernel

end OrderManagement
