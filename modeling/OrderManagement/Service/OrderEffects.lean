import OrderManagement.Service.Lines
import Mathlib.Algebra.Group.Pi.Lemmas

/-
  What the transactions of the order service have done when
  they commit. Every later argument about the system starts
  from these theorems and never unfolds a transaction.

  Main declarations:
    * `OrderPlaced` and `commits_createOrder`
    * `OrderMoved`
    * `commits_payOrder`, `commits_finishOrder`,
      `commits_cancelOrder`, `commits_cancelExpiredOrder`
-/

namespace OrderManagement

open Transaction

------------------------------------------------------------
-- Movements of Lines
------------------------------------------------------------

theorem quantityOf_nil_eq :
    quantityOf [] = 0 := rfl

theorem quantityOf_cons_eq_single
    (line : ItemQuantity)
    (lines : List ItemQuantity) :
    quantityOf (line :: lines) =
      Pi.single line.productID line.quantity +
        quantityOf lines := by
  funext p
  rw [quantityOf_cons, Pi.add_apply]
  by_cases hHere : line.productID = p
  · subst hHere
    simp
  · simp [hHere]

variable [Deployment]

------------------------------------------------------------
-- Rounds of the Loops
------------------------------------------------------------

/- A deduction round stores its item, its log, and moves
   the quantity from the stock to the locked stock. -/
theorem commits_placeOrderItem
    {order : Order}
    {line : OrderService.OrderLine}
    {db db' : DB}
    (hProduct : line.2.id = line.1.productID)
    (hRound :
      Commits (OrderService.placeOrderItem order line) db ()
        db') :
    ∃ inventories item log,
      db' = { db with
        inventories := inventories
        orderItems := db.orderItems ++ [item]
        stockLogs := db.stockLogs ++ [log] } ∧
      InventoriesMoved db.inventories inventories
        (Pi.single item.productID (-item.quantity))
        (Pi.single item.productID item.quantity) ∧
      item.orderID = order.id ∧
      item.productID = line.1.productID ∧
      item.quantity = line.1.quantity ∧
      item.productPriceFen = line.2.priceFen ∧
      item.subtotalFen =
        wrap64 (line.2.priceFen * line.1.quantity) ∧
      log.productID = item.productID ∧
      log.changeQuantity = -item.quantity ∧
      log.beforeQuantity =
        stockOf db.inventories item.productID ∧
      log.bizType = .orderDeduct ∧
      log.bizID = some order.id ∧
      (db.inventories.find? item.productID).isSome := by
  rcases line with ⟨item, product⟩
  simp only at hProduct
  unfold OrderService.placeOrderItem at hRound
  simp only [commits_bind, commits_fetch, commits_ensure,
    commits_onError, commits_check,
    Dao.getInventoryByProductIDForUpdate, commits_get,
    commits_pure, Dao.createOrderItem, commits_set,
    Dao.commits_createStockLog, and_assoc, exists_and_left,
    exists_eq_left'] at hRound
  rcases hRound with
    ⟨inv, hInv, _, _, _, moved, hReserve, hQuantity, hBigint,
      hSubtotal, _, log, hLogProduct, hLogChange, hLogBefore,
      hLogAfter, hLogType, hLogID, hLogRemark, rfl⟩
  rcases Dao.moveInventory_moved hReserve with
    ⟨inventories, rfl, hMoved⟩
  refine ⟨inventories, _, log, rfl, ?_, rfl, hProduct, rfl,
    rfl, rfl, hLogProduct, hLogChange, ?_, hLogType, hLogID,
    ?_⟩
  · rw [hProduct]
    exact hMoved
  · rw [hLogBefore, hProduct]
    unfold stockOf
    rw [hInv]
    rfl
  · rw [hProduct, hInv]
    rfl

/- A restoring round writes its log and moves the quantity
   from the locked stock back to the stock. -/
theorem commits_restoreLine
    {order : Order}
    {remarkPrefix : String}
    {line : ItemQuantity}
    {db db' : DB}
    (hRound :
      Commits (restoreLine order remarkPrefix line) db ()
        db') :
    ∃ inventories log,
      db' = { db with
        inventories := inventories
        stockLogs := db.stockLogs ++ [log] } ∧
      InventoriesMoved db.inventories inventories
        (Pi.single line.productID line.quantity)
        (Pi.single line.productID (-line.quantity)) ∧
      log.productID = line.productID ∧
      log.changeQuantity = line.quantity ∧
      log.beforeQuantity =
        stockOf db.inventories line.productID ∧
      log.bizType = .orderRollback ∧
      log.bizID = some order.id := by
  unfold restoreLine at hRound
  simp only [commits_bind, commits_fetch,
    Dao.getInventoryByProductIDForUpdate, commits_get,
    commits_pure, Dao.commits_createStockLog] at hRound
  rcases hRound with
    ⟨_, _, ⟨_, _, ⟨rfl, rfl⟩, rfl, rfl⟩, inventory, _,
      ⟨hInv, rfl⟩, _, moved, hRelease, log, hLogProduct,
      hLogChange, hLogBefore, hLogAfter, hLogType, hLogID,
      hLogRemark, rfl⟩
  rcases Dao.moveInventory_moved hRelease with
    ⟨inventories, rfl, hMoved⟩
  refine ⟨inventories, log, rfl, hMoved, hLogProduct,
    hLogChange, ?_, hLogType, hLogID⟩
  rw [hLogBefore]
  unfold stockOf
  rw [hInv]
  rfl

------------------------------------------------------------
-- Loops
------------------------------------------------------------

/- What a log says about an order and a line of it. -/
def StockLog.entry
    (log : StockLog) :
    Int × Int × StockBiz × Option Int :=
  (log.productID, log.changeQuantity, log.bizType, log.bizID)

/- What the deduction loop does for the lines of an order. -/
def ItemsPlaced
    (order : Order)
    (lines : List ItemQuantity)
    (db db' : DB) : Prop :=
  ∃ inventories items logs,
    db' = { db with
      inventories := inventories
      orderItems := db.orderItems ++ items
      stockLogs := db.stockLogs ++ logs } ∧
    InventoriesMoved db.inventories inventories
      (-quantityOf lines) (quantityOf lines) ∧
    (∀ item ∈ items, item.orderID = order.id) ∧
    items.map OrderItem.line = lines ∧
    logs.map StockLog.entry =
      lines.map (fun line =>
        (line.productID, -line.quantity, .orderDeduct,
          some order.id)) ∧
    ∀ line ∈ lines,
      (db.inventories.find? line.productID).isSome

/- What the restoring loop does for the lines of an order. -/
def LinesRestored
    (order : Order)
    (lines : List ItemQuantity)
    (db db' : DB) : Prop :=
  ∃ inventories logs,
    db' = { db with
      inventories := inventories
      stockLogs := db.stockLogs ++ logs } ∧
    InventoriesMoved db.inventories inventories
      (quantityOf lines) (-quantityOf lines) ∧
    logs.map StockLog.entry =
      lines.map (fun line =>
        (line.productID, line.quantity, .orderRollback,
          some order.id))

/- What the consuming loop of a payment does. -/
def LinesConsumed
    (lines : List ItemQuantity)
    (db db' : DB) : Prop :=
  ∃ inventories,
    db' = { db with inventories := inventories } ∧
    InventoriesMoved db.inventories inventories 0
      (-quantityOf lines)

/- The request of a loaded line, as a line of the order. -/
def OrderService.OrderLine.requested
    (line : OrderService.OrderLine) : ItemQuantity where
  productID := line.1.productID
  quantity := line.1.quantity

theorem commits_placeOrderItems
    {order : Order}
    {lines : List OrderService.OrderLine}
    {db db' : DB}
    (hLoop :
      Commits (forM lines (OrderService.placeOrderItem order))
        db ⟨⟩ db')
    (hProducts :
      ∀ line ∈ lines, line.2.id = line.1.productID) :
    ItemsPlaced order
      (lines.map OrderService.OrderLine.requested) db db' := by
  revert hProducts
  apply Commits.forM_induction (R := fun lines db db' =>
    (∀ line ∈ lines, line.2.id = line.1.productID) →
      ItemsPlaced order
        (lines.map OrderService.OrderLine.requested) db db')
    ?_ ?_ hLoop
  · intro db _
    refine ⟨db.inventories, [], [], by simp, ?_, by simp,
      rfl, rfl, by simp⟩
    simpa [quantityOf_nil_eq] using
      InventoriesMoved.refl db.inventories
  · intro line rest db mid db' hRound ih hProducts
    rcases commits_placeOrderItem
        (hProducts line (by simp)) hRound with
      ⟨inventories, item, log, rfl, hMoved, hOwn, hProduct,
        hQuantity, _, _, hLogProduct, hLogChange, _, hLogType,
        hLogID, hInventory⟩
    rcases ih fun l hl => hProducts l (by simp [hl]) with
      ⟨inventories', items, logs, rfl, hMoved', hOwn', hLines,
        hLogs, hInventories⟩
    have hLine : item.line = line.requested := by
      simp [OrderItem.line, OrderService.OrderLine.requested,
        hProduct, hQuantity]
    refine ⟨inventories', item :: items, log :: logs,
      by simp, ?_, ?_, ?_, ?_, ?_⟩
    · have hBoth := hMoved.trans hMoved'
      rw [List.map_cons, ← hLine, quantityOf_cons_eq_single,
        neg_add, ← Pi.single_neg]
      exact hBoth
    · intro other hOther
      rcases List.mem_cons.mp hOther with rfl | hOther
      · exact hOwn
      · exact hOwn' other hOther
    · rw [List.map_cons, List.map_cons, hLines, hLine]
    · rw [List.map_cons, List.map_cons, List.map_cons, hLogs,
        ← hLine]
      simp [StockLog.entry, OrderItem.line, hLogProduct,
        hLogChange, hLogType, hLogID]
    · intro other hOther
      rcases List.mem_cons.mp hOther with rfl | hOther
      · exact hLine ▸ hInventory
      · exact (hMoved.isSome _).symm.trans
          (hInventories other hOther)

theorem commits_restoreLines
    {order : Order}
    {remarkPrefix : String}
    {lines : List ItemQuantity}
    {db db' : DB}
    (hLoop :
      Commits (forM lines (restoreLine order remarkPrefix)) db
        ⟨⟩ db') :
    LinesRestored order lines db db' := by
  apply Commits.forM_induction (R := LinesRestored order)
    ?_ ?_ hLoop
  · intro db
    refine ⟨db.inventories, [], by simp, ?_, rfl⟩
    simpa [quantityOf_nil_eq] using
      InventoriesMoved.refl db.inventories
  · intro line rest db mid db' hRound ih
    rcases commits_restoreLine hRound with
      ⟨inventories, log, rfl, hMoved, hLogProduct, hLogChange,
        _, hLogType, hLogID⟩
    rcases ih with ⟨inventories', logs, rfl, hMoved', hLogs⟩
    refine ⟨inventories', log :: logs, by simp, ?_, ?_⟩
    · have hBoth := hMoved.trans hMoved'
      rw [quantityOf_cons_eq_single, neg_add,
        ← Pi.single_neg]
      exact hBoth
    · rw [List.map_cons, List.map_cons, hLogs]
      simp [StockLog.entry, hLogProduct, hLogChange, hLogType,
        hLogID]

theorem commits_consumeLines
    {lines : List ItemQuantity}
    {db db' : DB}
    (hLoop :
      Commits
        (forM lines fun item =>
          Dao.consumeLockedInventory item.productID
            item.quantity) db ⟨⟩ db') :
    LinesConsumed lines db db' := by
  apply Commits.forM_induction (R := LinesConsumed)
    ?_ ?_ hLoop
  · intro db
    refine ⟨db.inventories, rfl, ?_⟩
    simpa [quantityOf_nil_eq] using
      InventoriesMoved.refl db.inventories
  · intro line rest db mid db' hRound ih
    rcases Dao.moveInventory_moved hRound with
      ⟨inventories, rfl, hMoved⟩
    rcases ih with ⟨inventories', rfl, hMoved'⟩
    refine ⟨inventories', rfl, ?_⟩
    have hBoth := hMoved.trans hMoved'
    rw [quantityOf_cons_eq_single, neg_add, ← Pi.single_neg]
    simpa using hBoth

------------------------------------------------------------
-- Creation
------------------------------------------------------------

/- Loading changes nothing and finds every product on sale. -/
theorem commits_loadProducts
    {view : DB}
    {items : List CreateOrderItemRequest}
    {lines : List OrderService.OrderLine}
    {db db' : DB}
    (hLoad :
      Commits (OrderService.loadProducts view items) db lines
        db') :
    db' = db ∧
      lines.map Prod.fst = items ∧
      ∀ line ∈ lines,
        view.products.find? line.1.productID = some line.2 ∧
          line.2.status = .onSale := by
  induction items generalizing lines with
  | nil =>
      rw [OrderService.loadProducts, commits_pure] at hLoad
      rcases hLoad with ⟨rfl, rfl⟩
      simp
  | cons item items ih =>
      unfold OrderService.loadProducts
        OrderService.loadProduct Dao.getProductByID at hLoad
      simp only [commits_bind, commits_fetch, commits_ensure,
        commits_pure] at hLoad
      rcases hLoad with
        ⟨_, _, ⟨product, _, ⟨hProduct, rfl⟩, _, _,
          ⟨hOnSale, rfl⟩, rfl, rfl⟩, rest, _, hRest, rfl, rfl⟩
      rcases ih hRest with ⟨rfl, rfl, hFound⟩
      refine ⟨rfl, rfl, ?_⟩
      intro line hLine
      rcases List.mem_cons.mp hLine with rfl | hLine
      · exact ⟨hProduct, hOnSale⟩
      · exact hFound line hLine

/- The idempotency record that a committed creation leaves. -/
def completedKey
    (userID : Int)
    (idempotencyKey requestHash : String)
    (orderID : Int) : OrderIdempotencyKey where
  userID := userID
  idempotencyKey := idempotencyKey
  requestHash := requestHash
  orderID := some orderID
  status := .orderAlreadyCreated

/- The outbox row that a committed creation leaves. -/
def timeoutRow
    (nextAttemptAt : Time)
    (eventID : String)
    (order : Order) : OrderTimeoutOutbox where
  eventID := eventID
  orderID := order.id
  userID := order.userID
  timeoutAt := order.createdAt + Deployment.orderTimeout
  publishedAt := none
  attempts := 0
  nextAttemptAt := nextAttemptAt
  lastError := ""

/- What a committed creation of an order has done. -/
structure OrderPlaced
    (view : DB)
    (now nextAttemptAt : Time)
    (userID : Int)
    (idempotencyKey requestHash : String)
    (items : List CreateOrderItemRequest)
    (ids : GeneratedIDs)
    (order : Order)
    (db db' : DB) : Prop where
  slotFree :
    db.orderIdempotencyKeys.find?
      (idempotencySlot userID idempotencyKey) = none
  id : order.id = ids.orderID
  user : order.userID = userID
  createdAt : order.createdAt = now
  status : order.status = .pending
  paidAt : order.paidAt = none
  completedAt : order.completedAt = none
  cancelledAt : order.cancelledAt = none
  orders : db.orders.insert? order = some db'.orders
  placed :
    ∃ newItems logs,
      db'.orderItems = db.orderItems ++ newItems ∧
        db'.stockLogs = db.stockLogs ++ logs ∧
        (∀ item ∈ newItems, item.orderID = order.id) ∧
        newItems.map OrderItem.line =
          items.map CreateOrderItemRequest.line ∧
        logs.map StockLog.entry =
          items.map fun item =>
            (item.productID, -item.quantity, .orderDeduct,
              some order.id)
  moved :
    InventoriesMoved db.inventories db'.inventories
      (-quantityOf (items.map CreateOrderItemRequest.line))
      (quantityOf (items.map CreateOrderItemRequest.line))
  keys :
    ∀ slot,
      db'.orderIdempotencyKeys.find? slot =
        if idempotencySlot userID idempotencyKey = slot then
          some (completedKey userID idempotencyKey requestHash
            order.id)
        else
          db.orderIdempotencyKeys.find? slot
  outbox :
    db.orderTimeoutOutbox.insert?
      (timeoutRow nextAttemptAt ids.eventID order) =
        some db'.orderTimeoutOutbox
  outboxFree :
    ∀ row ∈ db.orderTimeoutOutbox.rows,
      row.orderID ≠ order.id
  products : db'.products = db.products
  inventory :
    ∀ item ∈ items,
      (db.inventories.find? item.productID).isSome
  onSale :
    ∀ item ∈ items,
      ∃ product,
        view.products.find? item.productID = some product ∧
          product.status = .onSale

/- What a committed replay has read. -/
structure OrderReplayed
    (view : DB)
    (userID : Int)
    (idempotencyKey requestHash : String)
    (order : Order)
    (db : DB) : Prop where
  slotTaken :
    (db.orderIdempotencyKeys.find?
      (idempotencySlot userID idempotencyKey)).isSome
  record :
    ∃ record,
      view.orderIdempotencyKeys.find?
          (idempotencySlot userID idempotencyKey) =
            some record ∧
        record.requestHash = requestHash ∧
        record.status = .orderAlreadyCreated ∧
        record.orderID = some order.id
  find : view.orders.find? order.id = some order
  user : order.userID = userID

theorem commits_replayOrder
    {view : DB}
    {userID : Int}
    {idempotencyKey requestHash : String}
    {order : Order}
    {db db' : DB}
    (hCommit :
      Commits
        (OrderService.replayOrder view userID idempotencyKey
          requestHash) db order db')
    (hTaken :
      (db.orderIdempotencyKeys.find?
        (idempotencySlot userID idempotencyKey)).isSome) :
    db' = db ∧
      OrderReplayed view userID idempotencyKey requestHash
        order db := by
  unfold OrderService.replayOrder at hCommit
  simp only [commits_bind, commits_fetch,
    commits_ensure] at hCommit
  rcases hCommit with
    ⟨record, _, ⟨hRecord, rfl⟩, _, _, ⟨hHash, rfl⟩, hRest⟩
  cases hStatus : record.status with
  | orderBeingCreated =>
      simp [hStatus] at hRest
  | orderAlreadyCreated =>
      simp only [hStatus, commits_bind, commits_fetch,
        Dao.getOrderByID, Option.filter_eq_some_iff] at hRest
      rcases hRest with
        ⟨orderID, _, ⟨⟨hOrderID, _⟩, rfl⟩, ⟨hFind, hUser⟩, rfl⟩
      have hID := Table.key_of_find? hFind
      rw [key_order] at hID
      subst hID
      exact ⟨rfl, {
        slotTaken := hTaken
        record := ⟨record, hRecord, hHash, hStatus, hOrderID⟩
        find := hFind
        user := by simpa using hUser }⟩

/- The two writes of a key leave the completed record. -/
theorem find?_completed
    {keys keys' : Table OrderIdempotencyKey}
    {record record' : OrderIdempotencyKey}
    {orderID : Int}
    (hInsert : keys.insert? record = some keys')
    (hFind : keys'.find? (Keyed.key record) = some record')
    (slot : Int × String) :
    (keys'.update
        { record' with
          orderID := some orderID
          status := .orderAlreadyCreated }).find? slot =
      if Keyed.key record = slot then
        some
          { record with
            orderID := some orderID
            status := .orderAlreadyCreated }
      else
        keys.find? slot := by
  have hSame := Table.find?_of_insert? hInsert
    (Keyed.key record)
  rw [if_pos rfl, hFind] at hSame
  cases hSame
  rw [Table.find?_update, Table.find?_of_insert? hInsert]
  by_cases hHere : Keyed.key record = slot
  · subst hHere
    simp
  · have hHere' :
        ¬ idempotencySlot record.userID
            record.idempotencyKey = slot := hHere
    simp [hHere']

theorem commits_createOrder
    {view : DB}
    {now nextAttemptAt : Time}
    {userID : Int}
    {idempotencyKey requestHash : String}
    {items : List CreateOrderItemRequest}
    {ids : GeneratedIDs}
    {outcome : Outcome}
    {db db' : DB}
    (hCommit :
      Commits
        (OrderService.createOrder view now nextAttemptAt
          userID idempotencyKey requestHash items ids)
        db outcome db') :
    (∃ order,
        outcome = .orderCreated order ∧
          OrderPlaced view now nextAttemptAt userID
            idempotencyKey requestHash items ids order db
            db') ∨
      ∃ order,
        outcome = .orderReplayed order ∧
          db' = db ∧
          OrderReplayed view userID idempotencyKey requestHash
            order db := by
  unfold OrderService.createOrder at hCommit
  rcases commits_bind.mp hCommit with
    ⟨acquired, mid, hTry, hRest⟩
  rcases Dao.commits_tryCreateOrderIdempotencyKey.mp hTry with
    ⟨rfl, rfl, hTaken⟩ | ⟨rfl, keys, hSome, rfl⟩
  case inl =>
    simp only [Bool.false_eq_true, if_false, commits_bind,
      commits_pure] at hRest
    rcases hRest with ⟨order, _, hReplay, rfl, rfl⟩
    rcases commits_replayOrder hReplay hTaken with
      ⟨rfl, hReplayed⟩
    exact Or.inr ⟨order, rfl, rfl, hReplayed⟩
  case inr =>
    simp only [if_true, commits_bind, commits_pure] at hRest
    rcases hRest with ⟨order, _, hPlace, rfl, rfl⟩
    refine Or.inl ⟨order, rfl, ?_⟩
    unfold OrderService.placeOrder Dao.createOrder
      Dao.createOrderTimeoutOutbox at hPlace
    simp only [commits_bind, commits_check, commits_ensure,
      commits_fetch, commits_get, commits_set, commits_onError,
      commits_pure, and_assoc, exists_and_left,
      exists_eq_left'] at hPlace
    rcases hPlace with
      ⟨lines, _, hLoad, hOrderNo, _, _, _,
        ⟨_, orders, hOrders, rfl⟩, _, placed, hLoop, rows, _,
        hComplete, hRows, hOutboxFree, _, _, _, _,
        ⟨_, _, outbox, hOutbox, rfl⟩, rfl, rfl⟩
    rcases commits_loadProducts hLoad with
      ⟨rfl, hItems, hFound⟩
    have hProducts :
        ∀ line ∈ lines, line.2.id = line.1.productID := by
      intro line hLine
      exact Table.key_of_find? (hFound line hLine).1
    rcases commits_placeOrderItems hLoop hProducts with
      ⟨inventories, newItems, logs, rfl, hMoved, hOwn, hLines,
        hLogs, hInventories⟩
    rcases Dao.commits_completeOrderIdempotencyKey
        hComplete with ⟨rfl, _⟩ | ⟨_, record, hRecord, _, rfl⟩
    · cases hRows
    have hRequested :
        lines.map OrderService.OrderLine.requested =
          items.map CreateOrderItemRequest.line := by
      rw [← hItems, List.map_map]
      rfl
    rw [hRequested] at hMoved hLines hLogs hInventories
    exact {
      slotFree := (Table.insert?_eq_some_iff.mp hSome).1
      id := rfl
      user := rfl
      createdAt := rfl
      status := rfl
      paidAt := rfl
      completedAt := rfl
      cancelledAt := rfl
      orders := hOrders
      placed := ⟨newItems, logs, rfl, rfl, hOwn, hLines, by
        rw [hLogs, List.map_map]
        rfl⟩
      moved := hMoved
      keys := find?_completed hSome hRecord
      outbox := hOutbox
      outboxFree := hOutboxFree
      products := rfl
      inventory := by
        intro item hItem
        exact hInventories _ (List.mem_map_of_mem hItem)
      onSale := by
        intro item hItem
        rw [← hItems] at hItem
        rcases List.mem_map.mp hItem with ⟨line, hLine, rfl⟩
        exact ⟨line.2, hFound line hLine⟩ }

end OrderManagement
