import OrderManagement.Library.Table
import OrderManagement.Library.Transaction

/-
  The rows of the MySQL schema, the database they make up,
  and the errors that the services report.

  A row carries the CHECK constraints of its table as
  fields: a value that breaks one cannot be stored. Columns
  that no modelled function reads (surrogate keys of
  append-only tables and their timestamps) are left out.

  Main declarations:
    * `Deployment`
    * `Product`, `Inventory`, `Order`, `OrderItem`,
      `StockLog`, `OrderIdempotencyKey`, and
      `OrderTimeoutOutbox`
    * `DB`
    * `Err`
-/

namespace OrderManagement

------------------------------------------------------------
-- Machine Integers and Time
------------------------------------------------------------

/- The largest value of a BIGINT column and of an int64. -/
def bigintMax : Int := 9223372036854775807

/- An int64 result: arithmetic of Go wraps around. -/
def wrap64 (n : Int) : Int := n.bmod 18446744073709551616

/- Instants and durations, in milliseconds. -/
abbrev Time := Int

/- A non-negative int64 is its own wrap-around. -/
theorem wrap64_eq
    {n : Int}
    (hLow : 0 ≤ n)
    (hHigh : n ≤ bigintMax) :
    wrap64 n = n := by
  unfold bigintMax at hHigh
  unfold wrap64
  rw [Int.bmod_eq_of_le] <;> omega

------------------------------------------------------------
-- Deployment
------------------------------------------------------------

/-
  What the code takes from outside: the collation under
  which VARCHAR keys are compared, the digest of
  crypto/sha256 in hexadecimal, and the configured delay
  after which a pending order times out.
-/
class Deployment where
  collate : String → String
  sha256Hex : String → String
  orderTimeout : Time

------------------------------------------------------------
-- Enumerations
------------------------------------------------------------

inductive ProductStatus
| onSale
| offSale
deriving DecidableEq, Repr

inductive OrderStatus
| pending
| paid
| finished
| cancelled
deriving DecidableEq, Repr

/- The model constants OrderBeingCreated and OrderAlreadyCreated. -/
inductive OrderIdempotencyStatus
| orderBeingCreated
| orderAlreadyCreated
deriving DecidableEq, Repr

inductive StockBiz
| init
| manualAdd
| orderDeduct
| orderRollback
deriving DecidableEq, Repr

------------------------------------------------------------
-- Rows
------------------------------------------------------------

structure Product where
  id : Int
  name : String
  description : String
  priceFen : Int
  status : ProductStatus
  priceFenPositive : 0 < priceFen
deriving DecidableEq

structure Inventory where
  productID : Int
  stockQuantity : Int
  lockedQuantity : Int
  stockQuantityNonneg : 0 ≤ stockQuantity
  lockedQuantityNonneg : 0 ≤ lockedQuantity
deriving DecidableEq

/- The default of the column passes its own check. -/
theorem Inventory.lockedQuantityDefault_nonneg :
    (0 : Int) ≤ 0 := Int.le_refl 0

structure Order where
  id : Int
  userID : Int
  orderNo : String
  totalAmountFen : Int
  status : OrderStatus
  paidAt : Option Time
  completedAt : Option Time
  cancelledAt : Option Time
  createdAt : Time
  updatedAt : Time
  totalAmountFenNonneg : 0 ≤ totalAmountFen
deriving DecidableEq

structure OrderItem where
  orderID : Int
  productID : Int
  productName : String
  productPriceFen : Int
  quantity : Int
  subtotalFen : Int
  productPriceFenPositive : 0 < productPriceFen
  quantityPositive : 0 < quantity
  quantityBigint : quantity ≤ bigintMax
  subtotalFenPositive : 0 < subtotalFen
deriving DecidableEq

structure StockLog where
  productID : Int
  changeQuantity : Int
  beforeQuantity : Int
  afterQuantity : Int
  bizType : StockBiz
  bizID : Option Int
  remark : String
  beforeQuantityNonneg : 0 ≤ beforeQuantity
  afterQuantityNonneg : 0 ≤ afterQuantity
  quantityBalance :
    afterQuantity = beforeQuantity + changeQuantity
deriving DecidableEq

structure OrderIdempotencyKey where
  userID : Int
  idempotencyKey : String
  requestHash : String
  orderID : Option Int
  status : OrderIdempotencyStatus
deriving DecidableEq

structure OrderTimeoutOutbox where
  eventID : String
  orderID : Int
  userID : Int
  timeoutAt : Time
  publishedAt : Option Time
  attempts : Nat
  nextAttemptAt : Time
  lastError : String
deriving DecidableEq

------------------------------------------------------------
-- Unique Indexes
------------------------------------------------------------

instance : Keyed Product Int where
  key := Product.id

instance : Keyed Inventory Int where
  key := Inventory.productID

instance : Keyed Order Int where
  key := Order.id

@[simp] theorem key_product
    (r : Product) :
    Keyed.key r = r.id := rfl

@[simp] theorem key_inventory
    (r : Inventory) :
    Keyed.key r = r.productID := rfl

@[simp] theorem key_order
    (r : Order) :
    Keyed.key r = r.id := rfl

variable [Deployment]

/-
  The entry of the index uk_user_id_idempotency_key, which
  compares keys under the collation of the column.
-/
def idempotencySlot
    (userID : Int)
    (idempotencyKey : String) : Int × String :=
  (userID, Deployment.collate idempotencyKey)

instance : Keyed OrderIdempotencyKey (Int × String) where
  key r := idempotencySlot r.userID r.idempotencyKey

/- Event identifiers are compared under the collation too. -/
instance : Keyed OrderTimeoutOutbox String where
  key r := Deployment.collate r.eventID

@[simp] theorem key_idempotencyKey
    (r : OrderIdempotencyKey) :
    Keyed.key r =
      idempotencySlot r.userID r.idempotencyKey := rfl

@[simp] theorem key_outbox
    (r : OrderTimeoutOutbox) :
    Keyed.key r = Deployment.collate r.eventID := rfl

------------------------------------------------------------
-- Database
------------------------------------------------------------

/- The tables, append-only ones in insertion order. -/
structure DB where
  products : Table Product
  inventories : Table Inventory
  orders : Table Order
  orderItems : List OrderItem
  stockLogs : List StockLog
  orderIdempotencyKeys : Table OrderIdempotencyKey
  orderTimeoutOutbox : Table OrderTimeoutOutbox
deriving DecidableEq

/- The database right after the migrations. -/
def DB.empty : DB where
  products := Table.empty
  inventories := Table.empty
  orders := Table.empty
  orderItems := []
  stockLogs := []
  orderIdempotencyKeys := Table.empty
  orderTimeoutOutbox := Table.empty

------------------------------------------------------------
-- Errors
------------------------------------------------------------

/-
  Errors by the names of their variables. `database` stands
  for every error of the driver: a lost connection, a
  deadlock, or a violated constraint.
-/
inductive Err
| recordNotFound
| database
| reserveInventoryFailed
| releaseLockedInventoryFailed
| consumeLockedInventoryFailed
| initInventoryFailed
| initInventoryExists
| inventoryNotFound
| invalidAddQuantity
| invalidStockQuantity
| inventoryStockReconcileFailed
| inventoryStockRebuildFailed
| invalidProductPrice
| invalidProductName
| invalidProductDescription
| productNotFound
| productOnSaleFailed
| productOffSaleFailed
| createStockLogFailed
| invalidUserID
| invalidIdempotencyKey
| orderIdempotencyConflict
| orderBeingCreated
| orderIdempotencyStateInvalid
| duplicateOrderItem
| invalidOrderPagination
| productOffSale
| insufficientStock
| orderNotFound
| orderPayFailed
| orderFinishFailed
| orderCancelFailed
| orderNotPaid
| orderAlreadyCanceled
| orderAlreadyFinished
| orderAlreadyPaid
| orderTimeoutNotReached
deriving DecidableEq, Repr

/- A transaction over the database. -/
abbrev Tx (α : Type) := Transaction DB Err α

end OrderManagement
