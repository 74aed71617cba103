import OrderManagement.Library.Alike
import OrderManagement.Service.OrderQueries
import OrderManagement.System.Database

/-
  What a user can learn from the database: the rows that
  belong to the user, the products, and the inventories. The
  transactions of a user end alike on two databases that
  agree on these.

  Main declarations:
    * `DB.SameFor` and `DB.AgreeFor`
    * `GeneratedIDs.Unused`
    * `Indistinct` with one rule for each statement
    * `OrderService.createOrder_alike`,
      `OrderService.payOrder_alike`,
      `OrderService.finishOrder_alike`, and
      `OrderService.cancelOrder_alike`
    * `OrderService.getOrderByID_eq` and
      `OrderService.listOrders_eq`
-/

namespace OrderManagement

open Transaction

variable [Deployment]

------------------------------------------------------------
-- The Rows of a User
------------------------------------------------------------

/- The same orders, items, and idempotency records belong to
   a user in both databases. -/
structure DB.SameFor
    (userID : Int)
    (db db' : DB) : Prop where
  orders :
    ∀ id,
      Dao.getOrderByID db userID id =
        Dao.getOrderByID db' userID id
  items :
    ∀ id, (Dao.getOrderByID db userID id).isSome →
      Dao.listOrderItemsByOrderID db id =
        Dao.listOrderItemsByOrderID db' id
  keys :
    ∀ idempotencyKey,
      Dao.getOrderIdempotencyKey db userID idempotencyKey =
        Dao.getOrderIdempotencyKey db' userID idempotencyKey

/- The products and the inventories are the same, too. -/
structure DB.AgreeFor
    (userID : Int)
    (db db' : DB) : Prop extends
    DB.SameFor userID db db' where
  products : db.products = db'.products
  inventories : db.inventories = db'.inventories

/- The identifiers are fresh: no order has them, and the
   outbox does not know them. -/
structure GeneratedIDs.Unused
    (ids : GeneratedIDs)
    (orders : Table Order)
    (outbox : Table OrderTimeoutOutbox) : Prop where
  order : orders.find? ids.orderID = none
  orderNo :
    ∀ order ∈ orders.rows,
      Deployment.collate order.orderNo ≠
        Deployment.collate ids.orderNo
  unlisted :
    ∀ row ∈ outbox.rows, row.orderID ≠ ids.orderID
  unsent :
    outbox.find? (Deployment.collate ids.eventID) = none

/- The order is stored, and its event is still missing. -/
structure GeneratedIDs.Unsent
    (ids : GeneratedIDs)
    (orders : Table Order)
    (outbox : Table OrderTimeoutOutbox) : Prop where
  order : (orders.find? ids.orderID).isSome
  unlisted :
    ∀ row ∈ outbox.rows, row.orderID ≠ ids.orderID
  unsent :
    outbox.find? (Deployment.collate ids.eventID) = none

------------------------------------------------------------
-- The Relation inside a Transaction
------------------------------------------------------------

/-
  How two databases are related while a transaction of the
  user works on them. The items of the orders that the user
  had before are the same, and both databases have the same
  property of their orders and of their outbox.
-/
structure Indistinct
    (userID : Int)
    (own : Int → Prop)
    (P : Table Order → Table OrderTimeoutOutbox → Prop)
    (db db' : DB) : Prop where
  products : db.products = db'.products
  inventories : db.inventories = db'.inventories
  orders :
    ∀ id,
      Dao.getOrderByID db userID id =
        Dao.getOrderByID db' userID id
  items :
    ∀ id, own id →
      Dao.listOrderItemsByOrderID db id =
        Dao.listOrderItemsByOrderID db' id
  keys :
    ∀ idempotencyKey,
      Dao.getOrderIdempotencyKey db userID idempotencyKey =
        Dao.getOrderIdempotencyKey db' userID idempotencyKey
  left : P db.orders db.orderTimeoutOutbox
  right : P db'.orders db'.orderTimeoutOutbox

/- Agreeing databases are so related at the start. -/
theorem DB.AgreeFor.indistinct
    {userID : Int}
    {P : Table Order → Table OrderTimeoutOutbox → Prop}
    {db db' : DB}
    (hAgree : DB.AgreeFor userID db db')
    (hLeft : P db.orders db.orderTimeoutOutbox)
    (hRight : P db'.orders db'.orderTimeoutOutbox) :
    Indistinct userID
      (fun id => (Dao.getOrderByID db userID id).isSome) P db
      db' where
  products := hAgree.products
  inventories := hAgree.inventories
  orders := hAgree.orders
  items := hAgree.items
  keys := hAgree.keys
  left := hLeft
  right := hRight

/- An order of a user stays one. -/
theorem DB.Grows.ownOrder
    {userID id : Int}
    {old new : DB}
    (hGrows : old.Grows new)
    (hOwn : (Dao.getOrderByID old userID id).isSome) :
    (Dao.getOrderByID new userID id).isSome := by
  rcases Option.isSome_iff_exists.mp hOwn with ⟨order, hFind⟩
  unfold Dao.getOrderByID at hFind
  rcases Option.filter_eq_some_iff.mp hFind with
    ⟨hFind, hUser⟩
  rcases hGrows.orders id order hFind with
    ⟨order', hFind', hFollows⟩
  unfold Dao.getOrderByID
  rw [hFind', Option.filter_some, hFollows.userID, if_pos hUser]
  rfl

section Statements

variable
  {userID : Int}
  {own : Int → Prop}
  {P : Table Order → Table OrderTimeoutOutbox → Prop}

------------------------------------------------------------
-- Inventories and Logs
------------------------------------------------------------

theorem Dao.checkedInventory_alike
    (productID stockQuantity lockedQuantity : Int) :
    Alike (Indistinct userID own P)
      (Dao.checkedInventory productID stockQuantity
        lockedQuantity) := by
  intro db db' hSame
  unfold Dao.checkedInventory
  refine (EndsAlike.check _ _ hSame).bind ?_
  rintro ⟨hStock⟩ db db' hSame
  refine (EndsAlike.check _ _ hSame).bind ?_
  rintro ⟨hLocked⟩ db db' hSame
  refine (EndsAlike.ensure _ Iff.rfl hSame).bind ?_
  rintro _ db db' hSame
  refine (EndsAlike.ensure _ Iff.rfl hSame).bind ?_
  rintro _ db db' hSame
  exact .pure _ hSame

theorem Dao.getInventoryByProductIDForUpdate_alike
    (productID : Int) :
    Alike (Indistinct userID own P)
      (Dao.getInventoryByProductIDForUpdate productID) := by
  intro db db' hSame
  unfold Dao.getInventoryByProductIDForUpdate
  refine .get_bind ?_
  rw [hSame.inventories]
  exact .pure _ hSame

theorem Dao.moveInventory_alike
    (productID : Int)
    (allowed : Inventory → Bool)
    (stockDelta lockedDelta : Int)
    (failed : Err) :
    Alike (Indistinct userID own P)
      (Dao.moveInventory productID allowed stockDelta
        lockedDelta failed) := by
  intro db db' hSame
  unfold Dao.moveInventory
  refine .get_bind ?_
  rw [hSame.inventories]
  refine (EndsAlike.fetch _ _ hSame).bind ?_
  intro row u u' hRead
  refine (Dao.checkedInventory_alike _ _ _ u u' hRead).bind ?_
  intro row' _ _ _
  exact .write { hSame with inventories := rfl }

theorem Dao.createStockLog_alike
    (productID changeQuantity : Int)
    (beforeQuantity afterQuantity : Int)
    (bizType : StockBiz)
    (bizID : Option Int)
    (remark : String) :
    Alike (Indistinct userID own P)
      (Dao.createStockLog productID changeQuantity
        beforeQuantity afterQuantity bizType bizID
        remark) := by
  intro db db' hSame
  unfold Dao.createStockLog
  refine .get_bind ?_
  refine (EndsAlike.check _ _ hSame).bind ?_
  rintro ⟨hBefore⟩ u u' hFirst
  refine (EndsAlike.check _ _ hFirst).bind ?_
  rintro ⟨hAfter⟩ u u' hSecond
  refine (EndsAlike.check _ _ hSecond).bind ?_
  rintro ⟨hBalance⟩ _ _ _
  exact .write { hSame with }

------------------------------------------------------------
-- Idempotency Keys
------------------------------------------------------------

theorem Dao.tryCreateOrderIdempotencyKey_alike
    (idempotencyKey requestHash : String) :
    Alike (Indistinct userID own P)
      (Dao.tryCreateOrderIdempotencyKey userID idempotencyKey
        requestHash) := by
  intro db db' hSame
  unfold Dao.tryCreateOrderIdempotencyKey
  refine .get_bind ?_
  generalize hRecord :
    ({ userID := userID
       idempotencyKey := idempotencyKey
       requestHash := requestHash
       orderID := none
       status := .orderBeingCreated } :
        OrderIdempotencyKey) = record
  have hKey :
      Keyed.key record =
        idempotencySlot userID idempotencyKey := by
    rw [← hRecord]
    rfl
  have hSlot :
      db.orderIdempotencyKeys.find? (Keyed.key record) =
        db'.orderIdempotencyKeys.find? (Keyed.key record) := by
    rw [hKey]
    exact hSame.keys idempotencyKey
  cases hFree :
      db.orderIdempotencyKeys.find? (Keyed.key record) with
  | some taken =>
      have hTaken :
          (db.orderIdempotencyKeys.find?
            (Keyed.key record)).isSome := by
        rw [hFree]
        rfl
      rw [Table.insert?_eq_none_iff.mpr hTaken,
        Table.insert?_eq_none_iff.mpr (hSlot ▸ hTaken)]
      exact .pure _ hSame
  | none =>
      rcases Table.exists_insert? hFree with ⟨keys, hInsert⟩
      rcases Table.exists_insert? (hSlot ▸ hFree) with
        ⟨keys', hInsert'⟩
      rw [hInsert, hInsert']
      refine .set_bind (.pure _ { hSame with keys := ?_ })
      intro k
      show keys.find? _ = keys'.find? _
      rw [Table.find?_of_insert? hInsert,
        Table.find?_of_insert? hInsert']
      split
      · rfl
      · exact hSame.keys k

theorem Dao.completeOrderIdempotencyKey_alike
    (idempotencyKey : String)
    (orderID : Int) :
    Alike (Indistinct userID own P)
      (Dao.completeOrderIdempotencyKey userID idempotencyKey
        orderID) := by
  intro db db' hSame
  unfold Dao.completeOrderIdempotencyKey
  refine .get_bind ?_
  have hSlot := hSame.keys idempotencyKey
  unfold Dao.getOrderIdempotencyKey at hSlot
  rw [hSlot]
  cases (db'.orderIdempotencyKeys.find?
      (idempotencySlot userID idempotencyKey)).filter
        fun record => record.status = .orderBeingCreated with
  | none => exact .pure _ hSame
  | some record =>
      refine .set_bind (.pure _ { hSame with keys := ?_ })
      intro k
      have hKey := hSame.keys k
      unfold Dao.getOrderIdempotencyKey at hKey ⊢
      rw [Table.find?_update, Table.find?_update, hKey]

------------------------------------------------------------
-- Orders
------------------------------------------------------------

/- An item of any order may be added. -/
theorem Dao.createOrderItem_alike
    (item : OrderItem) :
    Alike (Indistinct userID own P)
      (Dao.createOrderItem item) := by
  intro db db' hSame
  unfold Dao.createOrderItem
  refine .get_bind (.write { hSame with items := ?_ })
  intro id hOwn
  have hItems := hSame.items id hOwn
  unfold Dao.listOrderItemsByOrderID at hItems ⊢
  rw [List.filter_append, List.filter_append, hItems]

/- The new order belongs to the user, and its identifiers
   are fresh in both databases. -/
theorem Dao.createOrder_alike
    {ids : GeneratedIDs}
    {order : Order}
    {db db' : DB}
    (hID : order.id = ids.orderID)
    (hOrderNo : order.orderNo = ids.orderNo)
    (hSame : Indistinct userID own ids.Unused db db') :
    EndsAlike (Indistinct userID own ids.Unsent)
      (Dao.createOrder order) db (Dao.createOrder order)
      db' := by
  unfold Dao.createOrder
  have hFree : db.orders.find? (Keyed.key order) = none := by
    rw [key_order, hID]
    exact hSame.left.order
  have hFree' : db'.orders.find? (Keyed.key order) = none := by
    rw [key_order, hID]
    exact hSame.right.order
  rcases Table.exists_insert? hFree with ⟨orders, hInsert⟩
  rcases Table.exists_insert? hFree' with ⟨orders', hInsert'⟩
  refine .get_bind ?_
  refine (EndsAlike.ensure _ (iff_of_true ?_ ?_) hSame).bind ?_
  · rw [hOrderNo]
    exact hSame.left.orderNo
  · rw [hOrderNo]
    exact hSame.right.orderNo
  rintro _ u u' hRead
  rw [hInsert, hInsert']
  refine .fetch_bind (.write ?_)
  have hStored :
      ∀ {t v : Table Order},
        t.insert? order = some v →
          (v.find? ids.orderID).isSome := by
    intro t v hStore
    rw [Table.find?_of_insert? hStore, key_order, if_pos hID]
    rfl
  exact { hSame with
    orders := by
      intro id
      have hOld := hSame.orders id
      unfold Dao.getOrderByID at hOld ⊢
      rw [Table.find?_of_insert? hInsert,
        Table.find?_of_insert? hInsert']
      split
      · rfl
      · exact hOld
    left := ⟨hStored hInsert, hSame.left.unlisted,
      hSame.left.unsent⟩
    right := ⟨hStored hInsert', hSame.right.unlisted,
      hSame.right.unsent⟩ }

/- The statement sees the row only if it is the user's. -/
theorem Dao.patchOrderStatus_alike
    (orderID : Int)
    (fromStatus toStatus : OrderStatus)
    (timeField : OrderTimeField)
    (now : Time) :
    Alike (Indistinct userID own fun _ _ => True)
      (Dao.patchOrderStatus userID orderID fromStatus toStatus
        timeField now) := by
  intro db db' hSame
  unfold Dao.patchOrderStatus
  refine .get_bind ?_
  have hWhere :
      ∀ db : DB,
        ((db.orders.find? orderID).filter fun order =>
            order.userID = userID ∧
              order.status = fromStatus) =
          (Dao.getOrderByID db userID orderID).filter
            fun order => order.status = fromStatus := by
    intro db
    unfold Dao.getOrderByID
    rw [Option.filter_filter]
    simp only [Bool.decide_and]
  have hFound :
      ∀ {db : DB} {order : Order},
        Dao.getOrderByID db userID orderID = some order →
          db.orders.find? orderID = some order := by
    intro db order hOrder
    exact (Dao.getOrderByID_eq_some hOrder).2.2
  rw [hWhere db, hWhere db', hSame.orders orderID]
  cases hHit : (Dao.getOrderByID db' userID orderID).filter
      fun order => order.status = fromStatus with
  | none => exact .pure _ hSame
  | some order =>
      have hOrder' := (Option.filter_eq_some_iff.mp hHit).1
      have hOrder := (hSame.orders orderID).trans hOrder'
      have hID := (Dao.getOrderByID_eq_some hOrder').1
      refine .set_bind (.pure _ { hSame with orders := ?_ })
      intro id
      have hOld := hSame.orders id
      unfold Dao.getOrderByID at hOld ⊢
      rw [Table.find?_update, Table.find?_update]
      by_cases hHere :
          Keyed.key (order.patched toStatus timeField now) = id
      · have hThis : id = orderID := hHere.symm.trans hID
        rw [if_pos hHere, if_pos hHere, hThis, hFound hOrder,
          hFound hOrder']
      · rw [if_neg hHere, if_neg hHere]
        exact hOld

------------------------------------------------------------
-- Timeout Outbox
------------------------------------------------------------

theorem Dao.createOrderTimeoutOutbox_alike
    {ids : GeneratedIDs}
    {outbox : OrderTimeoutOutbox}
    {db db' : DB}
    (hID : outbox.orderID = ids.orderID)
    (hEvent : outbox.eventID = ids.eventID)
    (hSame : Indistinct userID own ids.Unsent db db') :
    EndsAlike (Indistinct userID own fun _ _ => True)
      (Dao.createOrderTimeoutOutbox outbox) db
      (Dao.createOrderTimeoutOutbox outbox) db' := by
  unfold Dao.createOrderTimeoutOutbox
  have hFree :
      db.orderTimeoutOutbox.find? (Keyed.key outbox) =
        none := by
    rw [key_outbox, hEvent]
    exact hSame.left.unsent
  have hFree' :
      db'.orderTimeoutOutbox.find? (Keyed.key outbox) =
        none := by
    rw [key_outbox, hEvent]
    exact hSame.right.unsent
  rcases Table.exists_insert? hFree with ⟨rows, hInsert⟩
  rcases Table.exists_insert? hFree' with ⟨rows', hInsert'⟩
  refine .get_bind ?_
  refine (EndsAlike.ensure _ (iff_of_true ?_ ?_) hSame).bind ?_
  · rw [hID]
    exact hSame.left.unlisted
  · rw [hID]
    exact hSame.right.unlisted
  rintro _ u u' hUnlisted
  refine (EndsAlike.ensure _ (iff_of_true ?_ ?_)
    hUnlisted).bind ?_
  · rw [hID]
    exact hSame.left.order
  · rw [hID]
    exact hSame.right.order
  rintro _ _ _ _
  rw [hInsert, hInsert']
  exact .fetch_bind (.write { hSame with
    left := trivial
    right := trivial })

------------------------------------------------------------
-- Rounds of the Loops
------------------------------------------------------------

theorem OrderService.placeOrderItem_alike
    (order : Order)
    (line : OrderService.OrderLine) :
    Alike (Indistinct userID own P)
      (OrderService.placeOrderItem order line) := by
  intro db db' hSame
  unfold OrderService.placeOrderItem
  refine (Dao.getInventoryByProductIDForUpdate_alike _ db db'
    hSame).bind ?_
  intro found u u' hSame
  refine (EndsAlike.fetch _ _ hSame).bind ?_
  intro inv u u' hSame
  refine (EndsAlike.ensure _ Iff.rfl hSame).bind ?_
  intro _ u u' hSame
  refine (EndsAlike.onError
    (Dao.moveInventory_alike _ _ _ _ _ u u' hSame)).bind ?_
  intro _ u u' hSame
  refine (EndsAlike.check _ _ hSame).bind ?_
  rintro ⟨hQuantity⟩ u u' hSame
  refine (EndsAlike.check _ _ hSame).bind ?_
  rintro ⟨hBigint⟩ u u' hSame
  refine (EndsAlike.check _ _ hSame).bind ?_
  rintro ⟨hSubtotal⟩ u u' hSame
  refine (Dao.createOrderItem_alike _ u u' hSame).bind ?_
  intro _ u u' hSame
  exact .onError
    (Dao.createStockLog_alike _ _ _ _ _ _ _ u u' hSame)

theorem restoreLine_alike
    (order : Order)
    (remarkPrefix : String)
    (line : ItemQuantity) :
    Alike (Indistinct userID own P)
      (restoreLine order remarkPrefix line) := by
  intro db db' hSame
  unfold restoreLine
  refine (Dao.getInventoryByProductIDForUpdate_alike _ db db'
    hSame).bind ?_
  intro found u u' hSame
  refine (EndsAlike.fetch _ _ hSame).bind ?_
  intro inventory u u' hSame
  refine (Dao.moveInventory_alike _ _ _ _ _ u u'
    hSame).bind ?_
  intro _ u u' hSame
  exact Dao.createStockLog_alike _ _ _ _ _ _ _ u u' hSame

------------------------------------------------------------
-- Creation
------------------------------------------------------------

theorem OrderService.loadProducts_alike
    {view view' : DB}
    (hProducts : view.products = view'.products)
    (items : List CreateOrderItemRequest)
    {db db' : DB}
    (hSame : Indistinct userID own P db db') :
    EndsAlike (Indistinct userID own P)
      (OrderService.loadProducts view items) db
      (OrderService.loadProducts view' items) db' := by
  induction items generalizing db db' with
  | nil => exact .pure _ hSame
  | cons item items ih =>
      unfold OrderService.loadProducts
      refine EndsAlike.bind (Q := Indistinct userID own P)
        ?_ ?_
      · unfold OrderService.loadProduct Dao.getProductByID
        rw [hProducts]
        refine (EndsAlike.fetch _ _ hSame).bind ?_
        intro product u u' hSame
        refine (EndsAlike.ensure _ Iff.rfl hSame).bind ?_
        intro _ u u' hSame
        exact .pure _ hSame
      · intro line u u' hSame
        refine (ih hSame).bind ?_
        intro lines u u' hSame
        exact .pure _ hSame

theorem OrderService.placeOrder_alike
    {view view' : DB}
    {now nextAttemptAt : Time}
    {idempotencyKey : String}
    {items : List CreateOrderItemRequest}
    {ids : GeneratedIDs}
    {db db' : DB}
    (hProducts : view.products = view'.products)
    (hSame : Indistinct userID own ids.Unused db db') :
    EndsAlike (Indistinct userID own fun _ _ => True)
      (OrderService.placeOrder view now nextAttemptAt userID
        idempotencyKey items ids) db
      (OrderService.placeOrder view' now nextAttemptAt userID
        idempotencyKey items ids) db' := by
  unfold OrderService.placeOrder
  refine (OrderService.loadProducts_alike hProducts items
    hSame).bind ?_
  intro lines u u' hSame
  refine (EndsAlike.check _ _ hSame).bind ?_
  rintro ⟨hTotal⟩ u u' hSame
  refine (Dao.createOrder_alike rfl rfl hSame).bind ?_
  intro _ u u' hSame
  refine (Alike.forM
    (fun line _ =>
      OrderService.placeOrderItem_alike _ line) u u'
    hSame).bind ?_
  intro _ u u' hSame
  refine (EndsAlike.onError
    (Dao.completeOrderIdempotencyKey_alike _ _ u u'
      hSame)).bind ?_
  intro rows u u' hSame
  refine (EndsAlike.ensure _ Iff.rfl hSame).bind ?_
  intro _ u u' hSame
  refine (Dao.createOrderTimeoutOutbox_alike rfl rfl
    hSame).bind ?_
  intro _ u u' hSame
  exact .pure _ hSame

theorem OrderService.replayOrder_alike
    {view view' : DB}
    {idempotencyKey requestHash : String}
    {db db' : DB}
    (hView : view.AgreeFor userID view')
    (hSame : Indistinct userID own P db db') :
    EndsAlike (Indistinct userID own P)
      (OrderService.replayOrder view userID idempotencyKey
        requestHash) db
      (OrderService.replayOrder view' userID idempotencyKey
        requestHash) db' := by
  unfold OrderService.replayOrder
  rw [hView.keys idempotencyKey]
  refine (EndsAlike.fetch _ _ hSame).bind ?_
  intro record u u' hSame
  refine (EndsAlike.ensure _ Iff.rfl hSame).bind ?_
  intro _ u u' hSame
  cases record.status with
  | orderBeingCreated => exact .throw _
  | orderAlreadyCreated =>
      refine (EndsAlike.fetch _ _ hSame).bind ?_
      intro orderID u u' hSame
      rw [hView.orders orderID]
      exact .fetch _ _ hSame

theorem OrderService.createOrder_alike
    {view view' : DB}
    {now nextAttemptAt : Time}
    {idempotencyKey requestHash : String}
    {items : List CreateOrderItemRequest}
    {ids : GeneratedIDs}
    {db db' : DB}
    (hView : view.AgreeFor userID view')
    (hSame : Indistinct userID own ids.Unused db db') :
    EndsAlike (fun _ _ => True)
      (OrderService.createOrder view now nextAttemptAt userID
        idempotencyKey requestHash items ids) db
      (OrderService.createOrder view' now nextAttemptAt userID
        idempotencyKey requestHash items ids) db' := by
  unfold OrderService.createOrder
  refine (Dao.tryCreateOrderIdempotencyKey_alike _ _ db db'
    hSame).bind ?_
  intro acquired u u' hSame
  cases acquired with
  | true =>
      refine (OrderService.placeOrder_alike hView.products
        hSame).bind ?_
      intro order u u' _
      exact .pure _ trivial
  | false =>
      refine (OrderService.replayOrder_alike hView
        hSame).bind ?_
      intro order u u' _
      exact .pure _ trivial

end Statements

------------------------------------------------------------
-- Status Changes
------------------------------------------------------------

section Transitions

variable
  {userID : Int}
  {own : Int → Prop}

/- Only an order of the user is cancelled, and its items are
   read from the view. -/
theorem cancelPendingOrder_alike
    {view view' : DB}
    {now : Time}
    {order : Order}
    {remarkPrefix : String}
    {db db' : DB}
    (hView : view.AgreeFor userID view')
    (hOwn :
      Dao.getOrderByID view userID order.id = some order)
    (hSame :
      Indistinct userID own (fun _ _ => True) db db') :
    EndsAlike (Indistinct userID own fun _ _ => True)
      (cancelPendingOrder view now order remarkPrefix) db
      (cancelPendingOrder view' now order remarkPrefix)
      db' := by
  unfold cancelPendingOrder
  have hUser := (Dao.getOrderByID_eq_some hOwn).2.1
  have hLines :
      inventoryLines view order.id =
        inventoryLines view' order.id := by
    unfold inventoryLines
      Dao.listOrderItemsByOrderIDForInventory
    rw [hView.items order.id (by rw [hOwn]; rfl)]
  rw [hUser, hLines]
  refine (Dao.patchOrderStatus_alike _ _ _ _ _ db db'
    hSame).bind ?_
  intro rows u u' hSame
  by_cases hRows : rows = 0
  · rw [if_pos hRows]
    exact .pure _ hSame
  · rw [if_neg hRows]
    refine (Alike.forM
      (fun line _ => restoreLine_alike _ _ line) u u'
      hSame).bind ?_
    intro _ u u' hSame
    exact .pure _ hSame

theorem OrderService.cancelOrder_alike
    {view view' : DB}
    {now : Time}
    {orderID : Int}
    {db db' : DB}
    (hView : view.AgreeFor userID view')
    (hSame :
      Indistinct userID own (fun _ _ => True) db db') :
    EndsAlike (fun _ _ => True)
      (OrderService.cancelOrder view now userID orderID) db
      (OrderService.cancelOrder view' now userID orderID)
      db' := by
  unfold OrderService.cancelOrder
  rw [← hView.orders orderID]
  refine .fetch_bind_same ?_
  intro order hFind
  have hID := (Dao.getOrderByID_eq_some hFind).1
  cases order.status with
  | cancelled => exact .pure _ trivial
  | paid => exact .throw _
  | finished => exact .throw _
  | pending =>
      refine (cancelPendingOrder_alike hView
        (hID ▸ hFind) hSame).bind ?_
      intro cancelled u u' hSame
      refine (EndsAlike.ensure _ Iff.rfl hSame).bind ?_
      intro _ u u' _
      exact .pure _ trivial

/- The items are read after the status change, by the id of
   an order that the user had before. -/
theorem OrderService.payOrder_alike
    {view view' : DB}
    {now : Time}
    {orderID : Int}
    {db db' : DB}
    (hView : view.AgreeFor userID view')
    (hOwn :
      (Dao.getOrderByID view userID orderID).isSome →
        own orderID)
    (hSame :
      Indistinct userID own (fun _ _ => True) db db') :
    EndsAlike (fun _ _ => True)
      (OrderService.payOrder view now userID orderID) db
      (OrderService.payOrder view' now userID orderID)
      db' := by
  unfold OrderService.payOrder
  rw [← hView.orders orderID]
  refine .fetch_bind_same ?_
  intro order hFind
  have hID := (Dao.getOrderByID_eq_some hFind).1
  cases order.status with
  | paid => exact .throw _
  | finished => exact .throw _
  | cancelled => exact .throw _
  | pending =>
      refine (Dao.patchOrderStatus_alike _ _ _ _ _ db db'
        hSame).bind ?_
      intro rows u u' hSame
      refine (EndsAlike.ensure _ Iff.rfl hSame).bind ?_
      intro _ u u' hSame
      refine .get_bind ?_
      have hLines :
          inventoryLines u order.id =
            inventoryLines u' order.id := by
        unfold inventoryLines
          Dao.listOrderItemsByOrderIDForInventory
        rw [hSame.items order.id
          (hID ▸ hOwn (by rw [hFind]; rfl))]
      rw [hLines]
      refine (Alike.forM
        (fun _ _ => Dao.moveInventory_alike _ _ _ _ _)
        u u' hSame).bind ?_
      intro _ u u' _
      exact .pure _ trivial

theorem OrderService.finishOrder_alike
    {view view' : DB}
    {now : Time}
    {orderID : Int}
    {db db' : DB}
    (hView : view.AgreeFor userID view')
    (hSame :
      Indistinct userID own (fun _ _ => True) db db') :
    EndsAlike (fun _ _ => True)
      (OrderService.finishOrder view now userID orderID) db
      (OrderService.finishOrder view' now userID orderID)
      db' := by
  unfold OrderService.finishOrder
  rw [hView.orders orderID]
  refine (EndsAlike.fetch _ _ hSame).bind ?_
  intro order u u' hSame
  cases order.status with
  | pending => exact .throw _
  | cancelled => exact .throw _
  | finished => exact .throw _
  | paid =>
      refine (Dao.patchOrderStatus_alike _ _ _ _ _ u u'
        hSame).bind ?_
      intro rows u u' hSame
      refine (EndsAlike.ensure _ Iff.rfl hSame).bind ?_
      intro _ u u' _
      exact .pure _ trivial

end Transitions

------------------------------------------------------------
-- Queries
------------------------------------------------------------

/- The items of another user's order are not reached, as the
   order itself is not found. -/
theorem OrderService.getOrderByID_eq
    {userID : Int}
    {view view' later later' : DB}
    (hView : view.AgreeFor userID view')
    (hLater : later.AgreeFor userID later')
    (hGrows : view.Grows later)
    (id : Int) :
    OrderService.getOrderByID view later userID id =
      OrderService.getOrderByID view' later' userID id := by
  unfold OrderService.getOrderByID
  rw [← hView.orders id]
  cases hFind : Dao.getOrderByID view userID id with
  | none => rfl
  | some order =>
      dsimp only
      rw [hLater.items id (hGrows.ownOrder (by rw [hFind]; rfl))]

/- Whatever other orders are stored, the user's own ones are
   listed in the same order. -/
theorem DB.AgreeFor.ownOrders
    {userID : Int}
    {view view' : DB}
    (hAgree : view.AgreeFor userID view') :
    (view.orders.rows.filter fun order =>
        order.userID = userID).insertionSort
          (fun a b => b.id ≤ a.id) =
      (view'.orders.rows.filter fun order =>
        order.userID = userID).insertionSort
          (fun a b => b.id ≤ a.id) := by
  have hMem :
      ∀ (db : DB) (order : Order),
        (order ∈ db.orders.rows.filter fun order =>
            order.userID = userID) ↔
          Dao.getOrderByID db userID order.id =
            some order := by
    intro db order
    unfold Dao.getOrderByID
    rw [List.mem_filter, Option.filter_eq_some_iff,
      Table.find?_eq_some_iff, key_order]
    tauto
  have hNodup :
      ∀ db : DB,
        (db.orders.rows.filter fun order =>
          order.userID = userID).Nodup :=
    fun db => (List.Nodup.of_map _ db.orders.nodup).filter _
  have hPerm :
      (view.orders.rows.filter fun order =>
          order.userID = userID).Perm
        (view'.orders.rows.filter fun order =>
          order.userID = userID) := by
    refine (List.perm_ext_iff_of_nodup (hNodup view)
      (hNodup view')).mpr ?_
    intro order
    rw [hMem view, hMem view', hAgree.orders order.id]
  have hSorted :=
    ((List.perm_insertionSort (fun a b : Order => b.id ≤ a.id)
      _).trans hPerm).trans
        (List.perm_insertionSort
          (fun a b : Order => b.id ≤ a.id) _).symm
  refine hSorted.eq_of_pairwise ?_
    (List.pairwise_insertionSort _ _)
    (List.pairwise_insertionSort _ _)
  intro a b hA hB hLE hGE
  have hA' := (hMem view a).mp
    ((List.perm_insertionSort _ _).mem_iff.mp hA)
  have hB' := (hMem view' b).mp
    ((List.perm_insertionSort _ _).mem_iff.mp hB)
  rw [hAgree.orders, le_antisymm hGE hLE, hB'] at hA'
  exact (Option.some.inj hA').symm

theorem OrderService.listOrders_eq
    {userID : Int}
    {view view' later later' : DB}
    (hView : view.AgreeFor userID view')
    (hLater : later.AgreeFor userID later')
    (page pageSize : Int) :
    OrderService.listOrders view later userID page pageSize =
      OrderService.listOrders view' later' userID page
        pageSize := by
  have hCount :=
    congrArg List.length hView.ownOrders
  rw [List.length_insertionSort,
    List.length_insertionSort] at hCount
  unfold OrderService.listOrders Dao.listOrders
  dsimp only
  rw [hCount, hLater.ownOrders]

end OrderManagement
