import OrderManagement.Model.Schema
import Mathlib.Data.List.Sort

/-
  The statements of `order_dao.go`, `product_dao.go`,
  `order_idempotency_key.go`, and the two statements of
  `order_timeout_outbox_dao.go` that the services run.

  Main declarations:
    * `Order.patched` and `Dao.patchOrderStatus`
    * `Dao.tryCreateOrderIdempotencyKey`
    * `Dao.completeOrderIdempotencyKey`
    * `Dao.commits_patchOrderStatus`
-/

namespace OrderManagement

open Transaction

------------------------------------------------------------
-- Status Changes
------------------------------------------------------------

/- The timestamp column that a status change fills in. -/
inductive OrderTimeField
| paidAt
| completedAt
| cancelledAt
deriving DecidableEq, Repr

/- The row after a status change at a given time. -/
def Order.patched
    (order : Order)
    (toStatus : OrderStatus)
    (timeField : OrderTimeField)
    (now : Time) : Order :=
  { order with
    status := toStatus
    paidAt :=
      if timeField = .paidAt then some now else order.paidAt
    completedAt :=
      if timeField = .completedAt then some now
      else order.completedAt
    cancelledAt :=
      if timeField = .cancelledAt then some now
      else order.cancelledAt
    updatedAt := now }

variable [Deployment]

namespace Dao

------------------------------------------------------------
-- Products
------------------------------------------------------------

/- The identifier is the one AUTO_INCREMENT hands out. -/
def createProduct
    (product : Product) : Tx Unit := do
  let db ← get
  ensure (0 < product.id) .database
  let products ←
    fetch (db.products.insert? product) .database
  set { db with products := products }

def getProductByID
    (view : DB)
    (id : Int) : Option Product :=
  view.products.find? id

def updateProductStatus
    (id : Int)
    (status : ProductStatus) : Tx Unit := do
  let db ← get
  match db.products.find? id with
  | none => return ()
  | some product =>
      set { db with
        products :=
          db.products.update { product with status := status } }

------------------------------------------------------------
-- Orders
------------------------------------------------------------

def createOrder
    (order : Order) : Tx Unit := do
  let db ← get
  ensure
    (∀ o ∈ db.orders.rows,
      Deployment.collate o.orderNo ≠
        Deployment.collate order.orderNo)
    .database
  let orders ← fetch (db.orders.insert? order) .database
  set { db with orders := orders }

def createOrderItem
    (item : OrderItem) : Tx Unit := do
  let db ← get
  set { db with orderItems := db.orderItems ++ [item] }

def getOrderByID
    (view : DB)
    (userID id : Int) : Option Order :=
  (view.orders.find? id).filter
    fun order => order.userID = userID

def getOrderByIDForSystem
    (view : DB)
    (id : Int) : Option Order :=
  view.orders.find? id

/-
  The page of the orders of a user, newest first, and how
  many there are. COUNT and SELECT are two statements, so
  each answers from its own snapshot.
-/
def listOrders
    (countView pageView : DB)
    (userID : Int)
    (pageSize offset : Nat) : List Order × Nat :=
  let ownOrders (view : DB) : List Order :=
    view.orders.rows.filter fun order => order.userID = userID
  ((((ownOrders pageView).insertionSort
      fun a b => b.id ≤ a.id).drop offset).take pageSize,
    (ownOrders countView).length)

def listOrderItemsByOrderID
    (view : DB)
    (orderID : Int) : List OrderItem :=
  view.orderItems.filter fun item => item.orderID = orderID

def listOrderItemsByOrderIDForInventory
    (view : DB)
    (orderID : Int) : List OrderItem :=
  (listOrderItemsByOrderID view orderID).insertionSort
    fun a b => a.productID ≤ b.productID

/- The number of rows that the conditional UPDATE changed. -/
def patchOrderStatus
    (userID orderID : Int)
    (fromStatus toStatus : OrderStatus)
    (timeField : OrderTimeField)
    (now : Time) : Tx Nat := do
  let db ← get
  match (db.orders.find? orderID).filter
      fun order =>
        order.userID = userID ∧ order.status = fromStatus with
  | none => return 0
  | some order =>
      set { db with
        orders :=
          db.orders.update
            (order.patched toStatus timeField now) }
      return 1

------------------------------------------------------------
-- Idempotency Keys
------------------------------------------------------------

/-
  INSERT ... ON CONFLICT DO NOTHING: whether the row was
  inserted, which the unique index decides.
-/
def tryCreateOrderIdempotencyKey
    (userID : Int)
    (idempotencyKey requestHash : String) : Tx Bool := do
  let db ← get
  match db.orderIdempotencyKeys.insert? {
      userID := userID
      idempotencyKey := idempotencyKey
      requestHash := requestHash
      orderID := none
      status := .orderBeingCreated } with
  | none => return false
  | some keys =>
      set { db with orderIdempotencyKeys := keys }
      return true

def getOrderIdempotencyKey
    (view : DB)
    (userID : Int)
    (idempotencyKey : String) : Option OrderIdempotencyKey :=
  view.orderIdempotencyKeys.find?
    (idempotencySlot userID idempotencyKey)

/- The number of rows that the conditional UPDATE changed. -/
def completeOrderIdempotencyKey
    (userID : Int)
    (idempotencyKey : String)
    (orderID : Int) : Tx Nat := do
  let db ← get
  match (db.orderIdempotencyKeys.find?
      (idempotencySlot userID idempotencyKey)).filter
        fun record => record.status = .orderBeingCreated with
  | none => return 0
  | some record =>
      set { db with
        orderIdempotencyKeys :=
          db.orderIdempotencyKeys.update
            { record with
              orderID := some orderID
              status := .orderAlreadyCreated } }
      return 1

------------------------------------------------------------
-- Timeout Outbox
------------------------------------------------------------

/- Both unique indexes and the foreign key are checked. -/
def createOrderTimeoutOutbox
    (outbox : OrderTimeoutOutbox) : Tx Unit := do
  let db ← get
  ensure
    (∀ row ∈ db.orderTimeoutOutbox.rows,
      row.orderID ≠ outbox.orderID)
    .database
  ensure (db.orders.find? outbox.orderID).isSome .database
  let rows ←
    fetch (db.orderTimeoutOutbox.insert? outbox) .database
  set { db with orderTimeoutOutbox := rows }

def getOrderTimeoutOutbox
    (view : DB)
    (eventID : String)
    (orderID : Int) : Option OrderTimeoutOutbox :=
  (view.orderTimeoutOutbox.find?
    (Deployment.collate eventID)).filter
      fun row => row.orderID = orderID

------------------------------------------------------------
-- Effects of the Statements
------------------------------------------------------------

theorem getOrderByID_eq_some
    {view : DB}
    {userID id : Int}
    {order : Order}
    (hFound : getOrderByID view userID id = some order) :
    order.id = id ∧
      order.userID = userID ∧
      view.orders.find? id = some order := by
  rcases Option.filter_eq_some_iff.mp hFound with
    ⟨hFind, hUser⟩
  exact ⟨Table.key_of_find? hFind, by simpa using hUser, hFind⟩

/-
  A conditional status change hits the row that passes its
  WHERE clause or changes nothing at all.
-/
theorem commits_patchOrderStatus
    {userID orderID : Int}
    {fromStatus toStatus : OrderStatus}
    {timeField : OrderTimeField}
    {now : Time}
    {db db' : DB}
    {rows : Nat}
    (hPatch :
      Commits
        (patchOrderStatus userID orderID fromStatus toStatus
          timeField now) db rows db') :
    (rows = 0 ∧ db' = db ∧
        ∀ order, db.orders.find? orderID = some order →
          order.userID = userID →
          order.status ≠ fromStatus) ∨
      rows = 1 ∧
        ∃ order,
          db.orders.find? orderID = some order ∧
            order.userID = userID ∧
            order.status = fromStatus ∧
            db' = { db with
              orders :=
                db.orders.update
                  (order.patched toStatus timeField now) } := by
  unfold patchOrderStatus at hPatch
  simp only [commits_bind, commits_get] at hPatch
  rcases hPatch with ⟨_, _, ⟨rfl, rfl⟩, hRest⟩
  split at hRest
  case h_1 hNone =>
    rw [commits_pure] at hRest
    refine Or.inl ⟨hRest.1.symm, hRest.2.symm, ?_⟩
    intro order hFind hUser hStatus
    rw [hFind, Option.filter_eq_none_iff] at hNone
    exact hNone order rfl (by simp [hUser, hStatus])
  case h_2 order hSome =>
    rw [Option.filter_eq_some_iff] at hSome
    simp only [commits_bind, commits_set,
      commits_pure] at hRest
    rcases hRest with ⟨_, _, rfl, rfl, rfl⟩
    rcases hSome with ⟨hFind, hWhere⟩
    simp only [decide_eq_true_eq] at hWhere
    exact Or.inr ⟨rfl, order, hFind, hWhere.1, hWhere.2, rfl⟩

/- The unique index decides whether a key is acquired. -/
theorem commits_tryCreateOrderIdempotencyKey
    {userID : Int}
    {idempotencyKey requestHash : String}
    {acquired : Bool}
    {db db' : DB} :
    Commits
        (tryCreateOrderIdempotencyKey userID idempotencyKey
          requestHash) db acquired db' ↔
      (acquired = false ∧
          db' = db ∧
          (db.orderIdempotencyKeys.find?
            (idempotencySlot userID
              idempotencyKey)).isSome) ∨
        acquired = true ∧
          ∃ keys,
            db.orderIdempotencyKeys.insert? {
                userID := userID
                idempotencyKey := idempotencyKey
                requestHash := requestHash
                orderID := none
                status := .orderBeingCreated } = some keys ∧
              db' = { db with orderIdempotencyKeys := keys } := by
  unfold tryCreateOrderIdempotencyKey
  simp only [commits_bind, commits_get]
  constructor
  · rintro ⟨_, _, ⟨rfl, rfl⟩, hRest⟩
    split at hRest
    case h_1 hNone =>
      rcases commits_pure.mp hRest with ⟨rfl, rfl⟩
      exact Or.inl
        ⟨rfl, rfl, Table.insert?_eq_none_iff.mp hNone⟩
    case h_2 keys hInsert =>
      simp only [commits_bind, commits_set,
        commits_pure] at hRest
      rcases hRest with ⟨_, _, rfl, rfl, rfl⟩
      exact Or.inr ⟨rfl, keys, hInsert, rfl⟩
  · rintro (⟨rfl, rfl, hTaken⟩ | ⟨rfl, keys, hInsert, rfl⟩)
    · refine ⟨db', db', ⟨rfl, rfl⟩, ?_⟩
      rw [Table.insert?_eq_none_iff.mpr hTaken, commits_pure]
      exact ⟨rfl, rfl⟩
    · refine ⟨db, db, ⟨rfl, rfl⟩, ?_⟩
      rw [hInsert]
      simp only [commits_bind, commits_set, commits_pure]
      exact ⟨(), _, rfl, trivial, rfl⟩

/- A key is completed once, while it is being created. -/
theorem commits_completeOrderIdempotencyKey
    {userID orderID : Int}
    {idempotencyKey : String}
    {rows : Nat}
    {db db' : DB}
    (hComplete :
      Commits
        (completeOrderIdempotencyKey userID idempotencyKey
          orderID) db rows db') :
    (rows = 0 ∧ db' = db) ∨
      rows = 1 ∧
        ∃ record,
          db.orderIdempotencyKeys.find?
              (idempotencySlot userID idempotencyKey) =
                some record ∧
            record.status = .orderBeingCreated ∧
            db' = { db with
              orderIdempotencyKeys :=
                db.orderIdempotencyKeys.update
                  { record with
                    orderID := some orderID
                    status := .orderAlreadyCreated } } := by
  unfold completeOrderIdempotencyKey at hComplete
  simp only [commits_bind, commits_get] at hComplete
  rcases hComplete with ⟨_, _, ⟨rfl, rfl⟩, hRest⟩
  split at hRest
  case h_1 =>
    rcases commits_pure.mp hRest with ⟨rfl, rfl⟩
    exact Or.inl ⟨rfl, rfl⟩
  case h_2 record hSome =>
    rcases Option.filter_eq_some_iff.mp hSome with
      ⟨hFind, hStatus⟩
    simp only [commits_bind, commits_set,
      commits_pure] at hRest
    rcases hRest with ⟨_, _, rfl, rfl, rfl⟩
    exact Or.inr
      ⟨rfl, record, hFind, of_decide_eq_true hStatus, rfl⟩

end Dao

end OrderManagement
