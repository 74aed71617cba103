import OrderManagement.Dao.Inventory
import OrderManagement.Dao.Order
import OrderManagement.Service.OrderRequest

/-
  The transactions of `order_service.go`.

  Plain SELECTs answer from a snapshot, so the functions
  take the database they read from as `view`; locking reads
  and conditional UPDATEs act on the current rows.

  Main declarations:
    * `Outcome`
    * `aggregateAndSortOrderItems`, `cancelPendingOrder`
    * `OrderService.createOrder`, `OrderService.payOrder`,
      `OrderService.finishOrder`, `OrderService.cancelOrder`,
      and `OrderService.cancelExpiredOrder`
-/

namespace OrderManagement

open Transaction

------------------------------------------------------------
-- Outcomes
------------------------------------------------------------

/-
  How a call ended without an error. The value carries what
  the call returns, and the local flags on which the code
  decides what to do after the transaction.
-/
inductive Outcome
| orderCreated (order : Order)
| orderReplayed (order : Order)
| orderPaid
| orderFinished
| orderCancelled
| orderAlreadyCancelled
| orderIgnored
| orderNotRestored
| inventoryInitialised (productID quantity : Int)
| inventoryAdded (productID quantity afterQuantity : Int)
| productCreated (product : Product)
| productStatusSet
deriving DecidableEq

------------------------------------------------------------
-- Item Aggregation
------------------------------------------------------------

/- The product and the quantity of an order item. -/
structure ItemQuantity where
  productID : Int
  quantity : Int
deriving DecidableEq, Repr

/- One `qtyMap[id] += quantity` on the entries of the map. -/
def addQuantity
    (line : ItemQuantity) :
    List ItemQuantity → List ItemQuantity
| [] => [{ line with quantity := wrap64 (0 + line.quantity) }]
| entry :: entries =>
    if entry.productID = line.productID then
      { entry with
        quantity := wrap64 (entry.quantity + line.quantity) }
        :: entries
    else
      entry :: addQuantity line entries

/- One round of the loop: nil and invalid items are skipped. -/
def enterItem
    (entries : List ItemQuantity) :
    Option ItemQuantity → List ItemQuantity
| none => entries
| some line =>
    if line.productID ≤ 0 then
      entries
    else
      addQuantity line entries

/- The entries of qtyMap after the loop over the items. -/
def quantityMap
    (items : List (Option ItemQuantity)) :
    List ItemQuantity :=
  items.foldl enterItem []

def aggregateAndSortOrderItems
    (items : List (Option ItemQuantity)) :
    List ItemQuantity :=
  (quantityMap items).insertionSort
    fun a b => a.productID ≤ b.productID

/- An order item as the aggregation reads it. -/
def OrderItem.line
    (item : OrderItem) : ItemQuantity where
  productID := item.productID
  quantity := item.quantity

variable [Deployment]

/- The lines on which PayOrder and cancellation act. -/
def inventoryLines
    (view : DB)
    (orderID : Int) : List ItemQuantity :=
  aggregateAndSortOrderItems
    ((Dao.listOrderItemsByOrderIDForInventory view orderID).map
      fun item => some item.line)

------------------------------------------------------------
-- Creation
------------------------------------------------------------

namespace OrderService

/- The branch of a key that another call has inserted. -/
def replayOrder
    (view : DB)
    (userID : Int)
    (idempotencyKey requestHash : String) : Tx Order := do
  let record ←
    fetch
      (Dao.getOrderIdempotencyKey view userID idempotencyKey)
      .orderBeingCreated
  ensure (record.requestHash = requestHash)
    .orderIdempotencyConflict
  match record.status with
  | .orderAlreadyCreated =>
      let orderID ←
        fetch (record.orderID.filter fun id => 0 < id)
          .orderIdempotencyStateInvalid
      fetch (Dao.getOrderByID view userID orderID)
        .orderIdempotencyStateInvalid
  | .orderBeingCreated => throw .orderBeingCreated

/- A requested item together with its product. -/
abbrev OrderLine := CreateOrderItemRequest × Product

def loadProduct
    (view : DB)
    (item : CreateOrderItemRequest) : Tx OrderLine := do
  let product ←
    fetch (Dao.getProductByID view item.productID)
      .productNotFound
  ensure (product.status = .onSale) .productOffSale
  return (item, product)

/- The products of all items, read before anything else. -/
def loadProducts
    (view : DB) :
    List CreateOrderItemRequest → Tx (List OrderLine)
| [] => return []
| item :: items => do
    let line ← loadProduct view item
    let lines ← loadProducts view items
    return line :: lines

def totalAmountFen
    (lines : List OrderLine) : Int :=
  lines.foldl
    (fun total line =>
      wrap64 (total + wrap64 (line.2.priceFen * line.1.quantity)))
    0

/- One round of the loop that deducts stock for an item. -/
def placeOrderItem
    (order : Order)
    (line : OrderLine) : Tx Unit := do
  let (item, product) := line
  let found ←
    Dao.getInventoryByProductIDForUpdate item.productID
  let inv ← fetch found .inventoryNotFound
  let beforeQuantity := inv.stockQuantity
  let afterQuantity := wrap64 (beforeQuantity - item.quantity)
  ensure (0 ≤ afterQuantity) .insufficientStock
  onError
    (fun e =>
      if e = .reserveInventoryFailed then .insufficientStock
      else e)
    (Dao.reserveInventory item.productID item.quantity)
  let subtotalFen := wrap64 (product.priceFen * item.quantity)
  let ⟨hQuantity⟩ ← check (0 < item.quantity) .database
  let ⟨hBigint⟩ ←
    check (item.quantity ≤ bigintMax) .database
  let ⟨hSubtotal⟩ ← check (0 < subtotalFen) .database
  Dao.createOrderItem {
    orderID := order.id
    productID := product.id
    productName := product.name
    productPriceFen := product.priceFen
    quantity := item.quantity
    subtotalFen := subtotalFen
    productPriceFenPositive := product.priceFenPositive
    quantityPositive := hQuantity
    quantityBigint := hBigint
    subtotalFenPositive := hSubtotal }
  onError (fun _ => .createStockLogFailed)
    (Dao.createStockLog product.id (-item.quantity)
      beforeQuantity afterQuantity .orderDeduct (some order.id)
      ("创建订单扣减库存：" ++ order.orderNo))

/- The branch of a key that this call has inserted. -/
def placeOrder
    (view : DB)
    (now nextAttemptAt : Time)
    (userID : Int)
    (idempotencyKey : String)
    (items : List CreateOrderItemRequest)
    (ids : GeneratedIDs) : Tx Order := do
  let lines ← loadProducts view items
  let ⟨hTotal⟩ ← check (0 ≤ totalAmountFen lines) .database
  let order : Order := {
    id := ids.orderID
    userID := userID
    orderNo := ids.orderNo
    totalAmountFen := totalAmountFen lines
    status := .pending
    paidAt := none
    completedAt := none
    cancelledAt := none
    createdAt := now
    updatedAt := now
    totalAmountFenNonneg := hTotal }
  Dao.createOrder order
  forM lines (placeOrderItem order)
  let rowsAffected ←
    onError (fun _ => .orderIdempotencyStateInvalid)
      (Dao.completeOrderIdempotencyKey userID idempotencyKey
        order.id)
  ensure (rowsAffected = 1) .orderIdempotencyStateInvalid
  Dao.createOrderTimeoutOutbox {
    eventID := ids.eventID
    orderID := order.id
    userID := userID
    timeoutAt := order.createdAt + Deployment.orderTimeout
    publishedAt := none
    attempts := 0
    nextAttemptAt := nextAttemptAt
    lastError := "" }
  return order

/- The transaction of CreateOrder, on a checked request. -/
def createOrder
    (view : DB)
    (now nextAttemptAt : Time)
    (userID : Int)
    (idempotencyKey requestHash : String)
    (items : List CreateOrderItemRequest)
    (ids : GeneratedIDs) : Tx Outcome := do
  let acquired ←
    Dao.tryCreateOrderIdempotencyKey userID idempotencyKey
      requestHash
  if acquired then
    let order ←
      placeOrder view now nextAttemptAt userID idempotencyKey
        items ids
    return .orderCreated order
  else
    let order ←
      replayOrder view userID idempotencyKey requestHash
    return .orderReplayed order

end OrderService

------------------------------------------------------------
-- Cancellation
------------------------------------------------------------

/- One round of the loop that returns stock to a product. -/
def restoreLine
    (order : Order)
    (remarkPrefix : String)
    (item : ItemQuantity) : Tx Unit := do
  let found ←
    Dao.getInventoryByProductIDForUpdate item.productID
  let inventory ← fetch found .recordNotFound
  let before := inventory.stockQuantity
  let after := wrap64 (before + item.quantity)
  Dao.releaseLockedInventory item.productID item.quantity
  Dao.createStockLog item.productID item.quantity before after
    .orderRollback (some order.id)
    (remarkPrefix ++ order.orderNo)

/- Whether this call moved the order to cancelled. -/
def cancelPendingOrder
    (view : DB)
    (now : Time)
    (order : Order)
    (remarkPrefix : String) : Tx Bool := do
  let rows ←
    Dao.patchOrderStatus order.userID order.id .pending
      .cancelled .cancelledAt now
  if rows = 0 then
    return false
  else
    forM (inventoryLines view order.id)
      (restoreLine order remarkPrefix)
    return true

namespace OrderService

def cancelOrder
    (view : DB)
    (now : Time)
    (userID orderID : Int) : Tx Outcome := do
  let order ←
    fetch (Dao.getOrderByID view userID orderID)
      .orderNotFound
  match order.status with
  | .cancelled => return .orderAlreadyCancelled
  | .paid => throw .orderAlreadyPaid
  | .finished => throw .orderAlreadyFinished
  | .pending =>
      let cancelled ←
        cancelPendingOrder view now order "取消订单回滚库存："
      ensure (cancelled = true) .orderCancelFailed
      return .orderCancelled

def cancelExpiredOrder
    (view : DB)
    (now : Time)
    (eventID : String)
    (orderID : Int) : Tx Outcome := do
  -- A missing outbox row or order is not an error here.
  match Dao.getOrderTimeoutOutbox view eventID orderID with
  | none => return .orderIgnored
  | some outbox =>
      ensure (outbox.timeoutAt ≤ now) .orderTimeoutNotReached
      match Dao.getOrderByIDForSystem view orderID with
      | none => return .orderIgnored
      | some order =>
          match order.status with
          | .cancelled => return .orderAlreadyCancelled
          | .paid => return .orderIgnored
          | .finished => return .orderIgnored
          | .pending =>
              let restored ←
                cancelPendingOrder view now order
                  "订单超时取消回滚库存："
              if restored then
                return .orderCancelled
              else
                return .orderNotRestored

------------------------------------------------------------
-- Payment and Completion
------------------------------------------------------------

/-
  The order is read before the transaction. The items are
  read inside it, after the status change, so their
  snapshot is the current database.
-/
def payOrder
    (view : DB)
    (now : Time)
    (userID orderID : Int) : Tx Outcome := do
  let order ←
    fetch (Dao.getOrderByID view userID orderID)
      .orderNotFound
  match order.status with
  | .paid => throw .orderAlreadyPaid
  | .finished => throw .orderAlreadyFinished
  | .cancelled => throw .orderAlreadyCanceled
  | .pending =>
      let rows ←
        Dao.patchOrderStatus userID order.id .pending .paid
          .paidAt now
      ensure (rows ≠ 0) .orderPayFailed
      let db ← get
      forM (inventoryLines db order.id) fun item =>
        Dao.consumeLockedInventory item.productID item.quantity
      return .orderPaid

def finishOrder
    (view : DB)
    (now : Time)
    (userID orderID : Int) : Tx Outcome := do
  let order ←
    fetch (Dao.getOrderByID view userID orderID)
      .orderNotFound
  match order.status with
  | .pending => throw .orderNotPaid
  | .cancelled => throw .orderAlreadyCanceled
  | .finished => throw .orderAlreadyFinished
  | .paid =>
      let rows ←
        Dao.patchOrderStatus userID order.id .paid .finished
          .completedAt now
      ensure (rows ≠ 0) .orderFinishFailed
      return .orderFinished

end OrderService

end OrderManagement
