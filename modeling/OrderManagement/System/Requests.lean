import OrderManagement.Service.TransitionEffects
import OrderManagement.System.Database

/-
  The calls that reach the services, the transaction that
  each of them runs, and everything that such a transaction
  can have done when it commits.

  Main declarations:
    * `Request` and `Request.transaction`
    * `Effect` with `effect_of_commits`
    * `Effect.wellFormed` and `Effect.grows`
-/

namespace OrderManagement

open Transaction

------------------------------------------------------------
-- Requests
------------------------------------------------------------

/- A service call with its arguments. -/
inductive Request
| createProduct
    (id : Int)
    (name description : String)
    (priceFen : Int)
| onSaleProduct (id : Int)
| offSaleProduct (id : Int)
| initInventory
    (productID : Int)
    (stockQuantity : Option Int)
| addInventory (productID quantity : Int)
| createOrder
    (userID : Int)
    (req : CreateOrderRequest)
    (ids : GeneratedIDs)
| payOrder (userID orderID : Int)
| finishOrder (userID orderID : Int)
| cancelOrder (userID orderID : Int)
| cancelExpiredOrder (eventID : String) (orderID : Int)
deriving DecidableEq, Repr

variable [Deployment]

/-
  What a call does to the database, given the snapshot that
  its plain reads answer from and its clock readings.
-/
def Request.transaction
    (view : DB)
    (now nextAttemptAt : Time) : Request → Tx Outcome
| .createProduct id name description priceFen =>
    ProductService.createProduct id name description priceFen
| .onSaleProduct id => ProductService.onSaleProduct view id
| .offSaleProduct id => ProductService.offSaleProduct view id
| .initInventory productID stockQuantity =>
    InventoryService.initInventory view productID stockQuantity
| .addInventory productID quantity =>
    InventoryService.addInventory view productID quantity
| .createOrder userID req ids =>
    match OrderService.checkCreateOrder userID req with
    | .error e => throw e
    | .ok (requestHash, items) =>
        OrderService.createOrder view now nextAttemptAt userID
          req.idempotencyKey requestHash items ids
| .payOrder userID orderID =>
    OrderService.payOrder view now userID orderID
| .finishOrder userID orderID =>
    OrderService.finishOrder view now userID orderID
| .cancelOrder userID orderID =>
    OrderService.cancelOrder view now userID orderID
| .cancelExpiredOrder eventID orderID =>
    OrderService.cancelExpiredOrder view now eventID orderID

/- The response of a call and the database it leaves. -/
def Request.run
    (request : Request)
    (view : DB)
    (now nextAttemptAt : Time)
    (db : DB) : Except Err Outcome × DB :=
  match (request.transaction view now nextAttemptAt).run db with
  | .ok (outcome, db') => (.ok outcome, db')
  | .error e => (.error e, db)

------------------------------------------------------------
-- Effects
------------------------------------------------------------

/-
  Everything that a committed call can have done. Each case
  names the branch of the source that it belongs to.
-/
inductive Effect
    (view : DB) : Request → Outcome → DB → DB → Prop
| productCreated
    {id priceFen : Int}
    {name description : String}
    {product : Product}
    {products : Table Product}
    {db : DB}
    (hID : 0 < product.id)
    (hInsert : db.products.insert? product = some products) :
    Effect view
      (.createProduct id name description priceFen)
      (.productCreated product) db
      { db with products := products }
| productStatusSame
    {request : Request}
    {id : Int}
    {db : DB}
    (hRequest :
      request = .onSaleProduct id ∨
        request = .offSaleProduct id) :
    Effect view request .productStatusSet db db
| productStatusSet
    {request : Request}
    {product : Product}
    {status : ProductStatus}
    {db : DB}
    (hRequest :
      request = .onSaleProduct product.id ∨
        request = .offSaleProduct product.id)
    (hFind : db.products.find? product.id = some product) :
    Effect view request .productStatusSet db
      { db with
        products :=
          db.products.update { product with status := status } }
| inventoryInitialised
    {productID quantity : Int}
    {inventory : Inventory}
    {inventories : Table Inventory}
    {log : StockLog}
    {db : DB}
    (hQuantity : 0 ≤ quantity)
    (hProduct : (view.products.find? productID).isSome)
    (hKey : inventory.productID = productID)
    (hStock : inventory.stockQuantity = quantity)
    (hLocked : inventory.lockedQuantity = 0)
    (hInsert :
      db.inventories.insert? inventory = some inventories)
    (hEntry : log.entry = (productID, quantity, .init, none))
    (hBefore : log.beforeQuantity = 0) :
    Effect view (.initInventory productID (some quantity))
      (.inventoryInitialised productID quantity) db
      { db with
        inventories := inventories
        stockLogs := db.stockLogs ++ [log] }
| inventoryAdded
    {productID quantity : Int}
    {inventories : Table Inventory}
    {log : StockLog}
    {db : DB}
    (hQuantity : 0 < quantity)
    (hInventory : (db.inventories.find? productID).isSome)
    (hMoved :
      InventoriesMoved db.inventories inventories
        (Pi.single productID quantity) 0)
    (hEntry :
      log.entry = (productID, quantity, .manualAdd, none))
    (hBefore :
      log.beforeQuantity = stockOf db.inventories productID) :
    Effect view (.addInventory productID quantity)
      (.inventoryAdded productID quantity
        (stockOf db.inventories productID + quantity)) db
      { db with
        inventories := inventories
        stockLogs := db.stockLogs ++ [log] }
| orderCreated
    {now nextAttemptAt : Time}
    {userID : Int}
    {req : CreateOrderRequest}
    {ids : GeneratedIDs}
    {requestHash : String}
    {items : List CreateOrderItemRequest}
    {order : Order}
    {db db' : DB}
    (hChecked :
      OrderService.checkCreateOrder userID req =
        .ok (requestHash, items))
    (hPlaced :
      OrderPlaced view now nextAttemptAt userID
        req.idempotencyKey requestHash items ids order db
        db') :
    Effect view (.createOrder userID req ids)
      (.orderCreated order) db db'
| orderReplayed
    {userID : Int}
    {req : CreateOrderRequest}
    {ids : GeneratedIDs}
    {requestHash : String}
    {items : List CreateOrderItemRequest}
    {order : Order}
    {db : DB}
    (hChecked :
      OrderService.checkCreateOrder userID req =
        .ok (requestHash, items))
    (hReplayed :
      OrderReplayed view userID req.idempotencyKey requestHash
        order db) :
    Effect view (.createOrder userID req ids)
      (.orderReplayed order) db db
| orderPaid
    {order : Order}
    {now : Time}
    {db db' : DB}
    (hPending : order.status = .pending)
    (hPaid : OrderPaid db db' order now) :
    Effect view (.payOrder order.userID order.id) .orderPaid
      db db'
| orderFinished
    {order : Order}
    {now : Time}
    {db db' : DB}
    (hPaid : order.status = .paid)
    (hFinished : OrderFinished db db' order now) :
    Effect view (.finishOrder order.userID order.id)
      .orderFinished db db'
| orderCancelled
    {order : Order}
    {now : Time}
    {db db' : DB}
    (hPending : order.status = .pending)
    (hCancelled : OrderCancelled db db' order now) :
    Effect view (.cancelOrder order.userID order.id)
      .orderCancelled db db'
| orderExpired
    {order : Order}
    {now : Time}
    {eventID : String}
    {db db' : DB}
    (hDue : TimeoutDue view now eventID order.id)
    (hPending : order.status = .pending)
    (hCancelled : OrderCancelled db db' order now) :
    Effect view (.cancelExpiredOrder eventID order.id)
      .orderCancelled db db'
| cancelRepeated
    {order : Order}
    {db : DB}
    (hFind : db.orders.find? order.id = some order)
    (hCancelled : order.status = .cancelled) :
    Effect view (.cancelOrder order.userID order.id)
      .orderAlreadyCancelled db db
| expiryRepeated
    {order : Order}
    {eventID : String}
    {db : DB}
    (hFind : db.orders.find? order.id = some order)
    (hCancelled : order.status = .cancelled) :
    Effect view (.cancelExpiredOrder eventID order.id)
      .orderAlreadyCancelled db db
| expiryIgnored
    {eventID : String}
    {orderID : Int}
    {db : DB}
    (hNone :
      Dao.getOrderTimeoutOutbox view eventID orderID = none ∨
        view.orders.find? orderID = none ∨
        ∃ order,
          db.orders.find? orderID = some order ∧
            (order.status = .paid ∨
              order.status = .finished)) :
    Effect view (.cancelExpiredOrder eventID orderID)
      .orderIgnored db db
| expiryLate
    {eventID : String}
    {order : Order}
    {db : DB}
    (hFind : db.orders.find? order.id = some order)
    (hStatus : order.status ≠ .pending) :
    Effect view (.cancelExpiredOrder eventID order.id)
      .orderNotRestored db db

/-
  Whatever commits is one of the cases above, as long as the
  snapshot of the call is an earlier state of the database.
-/
theorem effect_of_commits
    {request : Request}
    {view : DB}
    {now nextAttemptAt : Time}
    {outcome : Outcome}
    {db db' : DB}
    (hWellFormed : db.WellFormed)
    (hGrows : view.Grows db)
    (hCommit :
      Commits (request.transaction view now nextAttemptAt) db
        outcome db') :
    Effect view request outcome db db' := by
  have hOrderly := hWellFormed.linesOrderly
  cases request with
  | createProduct id name description priceFen =>
      rcases commits_createProduct hCommit with
        ⟨product, rfl, rfl, hID, hInsert, hEnd⟩
      rw [hEnd]
      exact .productCreated hID hInsert
  | onSaleProduct id | offSaleProduct id =>
      rcases commits_setProductStatus hCommit with
        ⟨rfl, rfl | ⟨product, hProduct, rfl⟩⟩
      · exact .productStatusSame
          (show _ = Request.onSaleProduct id ∨
            _ = Request.offSaleProduct id by simp)
      · have hID : product.id = id :=
          Table.key_of_find? hProduct
        subst hID
        exact .productStatusSet (by simp) hProduct
  | initInventory productID stockQuantity =>
      rcases commits_initInventory hCommit with
        ⟨quantity, inventory, log, rfl, hQuantity, rfl,
          hProduct, hKey, hStock, hLocked, hInsert, hEntry,
          hBefore, hEnd⟩
      rw [hEnd]
      exact .inventoryInitialised hQuantity hProduct hKey
        hStock hLocked hInsert hEntry hBefore
  | addInventory productID quantity =>
      rcases commits_addInventory hCommit with
        ⟨hQuantity, rfl, _, hInventory, hMoved, log, hEntry,
          hBefore, hEnd⟩
      rw [hEnd]
      exact .inventoryAdded hQuantity hInventory hMoved hEntry
        hBefore
  | createOrder userID req ids =>
      cases hChecked :
          OrderService.checkCreateOrder userID req with
      | error e =>
          simp [Request.transaction, hChecked] at hCommit
      | ok checked =>
          simp only [Request.transaction, hChecked] at hCommit
          rcases commits_createOrder hCommit with
            ⟨order, rfl, hPlaced⟩ | ⟨order, rfl, rfl, hReplayed⟩
          · exact .orderCreated hChecked hPlaced
          · exact .orderReplayed hChecked hReplayed
  | payOrder userID orderID =>
      rcases commits_payOrder (hOrderly orderID) hCommit with
        ⟨rfl, order, rfl, rfl, hPending, hPaid⟩
      exact .orderPaid hPending hPaid
  | finishOrder userID orderID =>
      rcases commits_finishOrder hCommit with
        ⟨rfl, order, rfl, rfl, hPaid, hFinished⟩
      exact .orderFinished hPaid hFinished
  | cancelOrder userID orderID =>
      rcases commits_cancelOrder (hGrows.lines orderID)
          (hOrderly orderID) hCommit with
        ⟨rfl, rfl, seen, hSeen, hUser, hCancelled⟩ |
          ⟨rfl, order, rfl, rfl, hPending, hCancelled⟩
      · rcases hGrows.cancelled hSeen hCancelled with
          ⟨order, hFind, hStatus⟩
        rcases hGrows.orders orderID seen hSeen with
          ⟨order', hFind', hSame⟩
        rw [hFind] at hFind'
        cases hFind'
        have hID : order.id = orderID :=
          Table.key_of_find? hFind
        rw [← hUser, ← hSame.userID, ← hID]
        exact .cancelRepeated (hID ▸ hFind) hStatus
      · exact .orderCancelled hPending hCancelled
  | cancelExpiredOrder eventID orderID =>
      rcases commits_cancelExpiredOrder (hGrows.lines orderID)
          (hOrderly orderID) hCommit with
        ⟨rfl, rfl, hNone⟩ |
          ⟨rfl, rfl, seen, hSeen, hCancelled⟩ |
          ⟨rfl, rfl, seen, hSeen, hLate⟩ |
          ⟨rfl, hDue, order, rfl, hPending, hCancelled⟩
      · refine .expiryIgnored ?_
        rcases hNone with hNone | hNone |
          ⟨seen, hSeen, hStatus⟩
        · exact Or.inl hNone
        · exact Or.inr (Or.inl hNone)
        · rcases hGrows.orders orderID seen hSeen with
            ⟨order, hFind, hSame⟩
          refine Or.inr (Or.inr ⟨order, hFind, ?_⟩)
          have hNext := hSame.status
          rcases hStatus with hStatus | hStatus <;>
            rw [hStatus] at hNext <;>
            cases hLast : order.status <;>
            simp [hLast, OrderStatus.canBecome] at hNext ⊢
      · rcases hGrows.cancelled hSeen hCancelled with
          ⟨order, hFind, hStatus⟩
        have hID : order.id = orderID :=
          Table.key_of_find? hFind
        rw [← hID]
        exact .expiryRepeated (hID ▸ hFind) hStatus
      · rcases hGrows.orders orderID seen hSeen with
          ⟨order, hFind, hSame⟩
        have hID : order.id = orderID :=
          Table.key_of_find? hFind
        have hStatus := hLate order hFind hSame.userID
        rw [← hID]
        exact .expiryLate (hID ▸ hFind) hStatus
      · exact .orderExpired hDue hPending hCancelled

------------------------------------------------------------
-- Effects Grow the Database
------------------------------------------------------------

/- Changing the status of an order keeps all other rows. -/
theorem OrderMoved.grows
    {db db' : DB}
    {order : Order}
    {toStatus : OrderStatus}
    {timeField : OrderTimeField}
    {now : Time}
    {stock locked : Int → Int}
    {entries : List (Int × Int × StockBiz × Option Int)}
    (hMoved :
      OrderMoved db db' order toStatus timeField now stock
        locked entries)
    (hStatus : order.status.canBecome toStatus = true) :
    db.Grows db' where
  products id h := hMoved.products ▸ h
  inventories id h := by rw [hMoved.moved.isSome]; exact h
  orders id earlier h := by
    rw [hMoved.orders, Table.find?_update]
    by_cases hHere : order.id = id
    · subst hHere
      rw [hMoved.find] at h
      cases h
      refine ⟨order.patched toStatus timeField now, ?_, rfl,
        rfl, rfl, hStatus⟩
      simp [Order.patched, hMoved.find]
    · have hHere' :
          ¬ (order.patched toStatus timeField now).id = id :=
        hHere
      refine ⟨earlier, ?_, rfl, rfl, rfl,
        earlier.status.canBecome_refl⟩
      simp [hHere', h]
  lines id _ := by rw [hMoved.orderItems]
  keys slot record h := hMoved.keys ▸ h
  outbox eventID row h := ⟨row, hMoved.outbox ▸ h, rfl⟩

theorem OrderPlaced.grows
    {view : DB}
    {now nextAttemptAt : Time}
    {userID : Int}
    {idempotencyKey requestHash : String}
    {items : List CreateOrderItemRequest}
    {ids : GeneratedIDs}
    {order : Order}
    {db db' : DB}
    (hPlaced :
      OrderPlaced view now nextAttemptAt userID
        idempotencyKey requestHash items ids order db db') :
    db.Grows db' where
  products id h := hPlaced.products ▸ h
  inventories id h := by rw [hPlaced.moved.isSome]; exact h
  orders id earlier h :=
    ⟨earlier, Table.find?_mono_of_insert? hPlaced.orders h,
      rfl, rfl, rfl, earlier.status.canBecome_refl⟩
  lines id h := by
    rcases hPlaced.placed with
      ⟨newItems, logs, hItems, _, hOwn, _, _⟩
    have hFree :=
      (Table.insert?_eq_some_iff.mp hPlaced.orders).1
    have hOther : ∀ item ∈ newItems, item.orderID ≠ id := by
      intro item hItem hEq
      rw [← hEq, hOwn item hItem, ← key_order order,
        hFree] at h
      cases h
    rw [hItems, linesOf_append, linesOf_eq_nil hOther,
      List.append_nil]
  keys slot record h := by
    rw [hPlaced.keys]
    split
    case isTrue hHere =>
      rw [← hHere, hPlaced.slotFree] at h
      cases h
    case isFalse => exact h
  outbox eventID row h :=
    ⟨row, Table.find?_mono_of_insert? hPlaced.outbox h, rfl⟩

/- Every effect leads to a later database. -/
theorem Effect.grows
    {view : DB}
    {request : Request}
    {outcome : Outcome}
    {db db' : DB}
    (hEffect : Effect view request outcome db db') :
    db.Grows db' := by
  cases hEffect with
  | productCreated hID hInsert =>
      exact {
        DB.Grows.refl db with
        products := by
          intro id h
          rw [Table.find?_of_insert? hInsert]
          split
          · rfl
          · exact h }
  | productStatusSet hRequest hFind =>
      exact {
        DB.Grows.refl db with
        products := by
          intro id h
          rw [Table.find?_update]
          split
          · simpa using h
          · exact h }
  | inventoryInitialised _ _ _ _ _ hInsert _ _ =>
      exact {
        DB.Grows.refl db with
        inventories := by
          intro id h
          rw [Table.find?_of_insert? hInsert]
          split
          · rfl
          · exact h }
  | inventoryAdded _ _ hMoved _ _ =>
      exact {
        DB.Grows.refl db with
        inventories := by
          intro id h
          rw [hMoved.isSome]
          exact h }
  | orderCreated _ hPlaced => exact hPlaced.grows
  | orderPaid hPending hPaid =>
      exact OrderMoved.grows hPaid (by rw [hPending]; rfl)
  | orderFinished hPaid hFinished =>
      exact OrderMoved.grows hFinished (by rw [hPaid]; rfl)
  | orderCancelled hPending hCancelled
  | orderExpired _ hPending hCancelled =>
      exact OrderMoved.grows hCancelled (by rw [hPending]; rfl)
  | productStatusSame | orderReplayed | cancelRepeated
  | expiryRepeated | expiryIgnored | expiryLate =>
      exact DB.Grows.refl db

------------------------------------------------------------
-- Effects Keep the Database Well Formed
------------------------------------------------------------

omit [Deployment] in
/- A status change of the source fills in its timestamp. -/
theorem Order.Stamped.patched
    {order : Order}
    {now : Time}
    {toStatus : OrderStatus}
    {timeField : OrderTimeField}
    (hStamped : order.Stamped)
    (hMove :
      (order.status = .pending ∧ toStatus = .paid ∧
          timeField = .paidAt) ∨
        (order.status = .paid ∧ toStatus = .finished ∧
          timeField = .completedAt) ∨
        order.status = .pending ∧ toStatus = .cancelled ∧
          timeField = .cancelledAt) :
    (order.patched toStatus timeField now).Stamped := by
  have hPaid := hStamped.paidAt
  have hCompleted := hStamped.completedAt
  have hCancelled := hStamped.cancelledAt
  rcases hMove with ⟨hFrom, rfl, rfl⟩ | ⟨hFrom, rfl, rfl⟩ |
    ⟨hFrom, rfl, rfl⟩ <;>
    rw [hFrom] at hPaid hCompleted hCancelled <;>
    constructor <;>
    simp_all [Order.patched]

theorem OrderMoved.wellFormed
    {db db' : DB}
    {order : Order}
    {toStatus : OrderStatus}
    {timeField : OrderTimeField}
    {now : Time}
    {stock locked : Int → Int}
    {entries : List (Int × Int × StockBiz × Option Int)}
    (hMoved :
      OrderMoved db db' order toStatus timeField now stock
        locked entries)
    (hStamped :
      (order.patched toStatus timeField now).Stamped)
    (hWellFormed : db.WellFormed) :
    db'.WellFormed where
  productIDPositive id h :=
    hWellFormed.productIDPositive id (hMoved.products ▸ h)
  itemsOwned item hItem := by
    rw [hMoved.orderItems] at hItem
    have hOwned := hWellFormed.itemsOwned item hItem
    rw [hMoved.orders, Table.find?_update]
    split
    · simpa using hOwned
    · exact hOwned
  linesOrderly orderID :=
    hMoved.orderItems ▸ hWellFormed.linesOrderly orderID
  stamped orderID other hFind := by
    rw [hMoved.orders, Table.find?_update] at hFind
    split at hFind
    · rcases Option.map_eq_some_iff.mp hFind with ⟨_, _, rfl⟩
      exact hStamped
    · exact hWellFormed.stamped orderID other hFind
  inventoriesOwned id h := by
    rw [hMoved.moved.isSome] at h
    rw [hMoved.products]
    exact hWellFormed.inventoriesOwned id h

/- The lines of a new order are the requested ones. -/
theorem OrderPlaced.linesOf
    {view : DB}
    {now nextAttemptAt : Time}
    {userID : Int}
    {idempotencyKey requestHash : String}
    {items : List CreateOrderItemRequest}
    {ids : GeneratedIDs}
    {order : Order}
    {db db' : DB}
    (hPlaced :
      OrderPlaced view now nextAttemptAt userID
        idempotencyKey requestHash items ids order db db')
    (hWellFormed : db.WellFormed) :
    OrderManagement.linesOf db'.orderItems order.id =
      items.map CreateOrderItemRequest.line := by
  rcases hPlaced.placed with
    ⟨newItems, logs, hItems, _, hOwn, hLines, _⟩
  have hFree :=
    (Table.insert?_eq_some_iff.mp hPlaced.orders).1
  have hOld :
      OrderManagement.linesOf db.orderItems order.id = [] := by
    apply linesOf_eq_nil
    intro item hItem hEq
    have hOwned := hWellFormed.itemsOwned item hItem
    rw [hEq, ← key_order order, hFree] at hOwned
    cases hOwned
  rw [hItems, linesOf_append, hOld, linesOf_eq_map hOwn,
    List.nil_append, hLines]

theorem OrderPlaced.wellFormed
    {view : DB}
    {now nextAttemptAt : Time}
    {userID : Int}
    {req : CreateOrderRequest}
    {requestHash : String}
    {items : List CreateOrderItemRequest}
    {ids : GeneratedIDs}
    {order : Order}
    {db db' : DB}
    (hGrows : view.Grows db)
    (hChecked :
      OrderService.checkCreateOrder userID req =
        .ok (requestHash, items))
    (hPlaced :
      OrderPlaced view now nextAttemptAt userID
        req.idempotencyKey requestHash items ids order db db')
    (hWellFormed : db.WellFormed) :
    db'.WellFormed := by
  rcases OrderService.checkCreateOrder_eq_ok_iff.mp
      hChecked with ⟨_, _, _, hNodup, _, rfl⟩
  rcases hPlaced.placed with
    ⟨newItems, logs, hItems, _, hOwn, hLines, _⟩
  have hNew : Orderly (newItems.map OrderItem.line) := by
    constructor
    · rw [hLines, List.map_map]
      exact ((sortedOrderItems_perm req.items).map
        _).nodup_iff.mpr hNodup
    · intro line hLine
      rw [hLines] at hLine
      rcases List.mem_map.mp hLine with ⟨item, hItem, rfl⟩
      rcases hPlaced.onSale item hItem with
        ⟨product, hProduct, _⟩
      have hKnown :=
        hGrows.products item.productID (by simp [hProduct])
      exact hWellFormed.productIDPositive item.productID hKnown
    · intro line hLine
      rcases List.mem_map.mp hLine with ⟨item, _, rfl⟩
      exact item.quantityPositive
    · intro line hLine
      rcases List.mem_map.mp hLine with ⟨item, _, rfl⟩
      exact item.quantityBigint
  constructor
  · intro id h
    exact hWellFormed.productIDPositive id
      (hPlaced.products ▸ h)
  · intro item hItem
    rw [hItems] at hItem
    rw [Table.find?_of_insert? hPlaced.orders]
    split
    case isTrue => rfl
    case isFalse hOther =>
      rcases List.mem_append.mp hItem with hOld | hNewItem
      · exact hWellFormed.itemsOwned item hOld
      · exact absurd (hOwn item hNewItem).symm hOther
  · intro orderID
    by_cases hHere : orderID = order.id
    · rw [hHere, hPlaced.linesOf hWellFormed, ← hLines]
      exact hNew
    · rw [hItems, linesOf_append]
      have hOther :
          ∀ item ∈ newItems, item.orderID ≠ orderID := by
        intro item hItem hEq
        exact hHere (hEq ▸ hOwn item hItem)
      rw [linesOf_eq_nil hOther, List.append_nil]
      exact hWellFormed.linesOrderly orderID
  · intro orderID other hFind
    rw [Table.find?_of_insert? hPlaced.orders] at hFind
    split at hFind
    · cases hFind
      constructor <;>
        simp [hPlaced.paidAt, hPlaced.completedAt,
          hPlaced.cancelledAt, hPlaced.status]
    · exact hWellFormed.stamped orderID other hFind
  · intro id h
    rw [hPlaced.moved.isSome] at h
    rw [hPlaced.products]
    exact hWellFormed.inventoriesOwned id h

theorem Effect.wellFormed
    {view : DB}
    {request : Request}
    {outcome : Outcome}
    {db db' : DB}
    (hGrows : view.Grows db)
    (hEffect : Effect view request outcome db db')
    (hWellFormed : db.WellFormed) :
    db'.WellFormed := by
  cases hEffect with
  | productCreated hID hInsert =>
      refine {
        hWellFormed with
        productIDPositive := ?_
        inventoriesOwned := ?_ }
      · intro id h
        rw [Table.find?_of_insert? hInsert] at h
        split at h
        case isTrue hHere => exact hHere ▸ hID
        case isFalse =>
          exact hWellFormed.productIDPositive id h
      · intro id h
        rw [Table.find?_of_insert? hInsert]
        split
        · rfl
        · exact hWellFormed.inventoriesOwned id h
  | @productStatusSet request product status db _ hFind =>
      have hSame :
          ∀ id,
            ((db.products.update
                { product with status := status }).find?
                  id).isSome =
              (db.products.find? id).isSome := by
        intro id
        rw [Table.find?_update]
        split <;> simp
      refine {
        hWellFormed with
        productIDPositive := ?_
        inventoriesOwned := ?_ }
      · intro id h
        exact hWellFormed.productIDPositive id (hSame id ▸ h)
      · intro id h
        rw [hSame]
        exact hWellFormed.inventoriesOwned id h
  | @inventoryInitialised productID quantity inventory
      inventories log db _ hProduct hKey _ _ hInsert _ _ =>
      refine {
        hWellFormed with
        inventoriesOwned := ?_ }
      intro id h
      rw [Table.find?_of_insert? hInsert] at h
      split at h
      case isTrue hHere =>
        rw [key_inventory, hKey] at hHere
        exact hHere ▸ hGrows.products productID hProduct
      case isFalse => exact hWellFormed.inventoriesOwned id h
  | inventoryAdded _ _ hMoved _ _ =>
      refine {
        hWellFormed with
        inventoriesOwned := ?_ }
      intro id h
      rw [hMoved.isSome] at h
      exact hWellFormed.inventoriesOwned id h
  | orderCreated hChecked hPlaced =>
      exact hPlaced.wellFormed hGrows hChecked hWellFormed
  | orderPaid hPending hPaid =>
      refine OrderMoved.wellFormed hPaid ?_ hWellFormed
      exact (hWellFormed.stamped _ _ hPaid.find).patched
        (Or.inl ⟨hPending, rfl, rfl⟩)
  | orderFinished hPaid hFinished =>
      refine OrderMoved.wellFormed hFinished ?_ hWellFormed
      exact (hWellFormed.stamped _ _ hFinished.find).patched
        (Or.inr (Or.inl ⟨hPaid, rfl, rfl⟩))
  | orderCancelled hPending hCancelled
  | orderExpired _ hPending hCancelled =>
      refine OrderMoved.wellFormed hCancelled ?_ hWellFormed
      exact (hWellFormed.stamped _ _ hCancelled.find).patched
        (Or.inr (Or.inr ⟨hPending, rfl, rfl⟩))
  | productStatusSame | orderReplayed | cancelRepeated
  | expiryRepeated | expiryIgnored | expiryLate =>
      exact hWellFormed

end OrderManagement
