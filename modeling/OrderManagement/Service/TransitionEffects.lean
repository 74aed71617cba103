import OrderManagement.Service.OrderEffects
import OrderManagement.Service.Inventory

/-
  What status changes, stock entries, and product calls
  have done when they commit.

  Main declarations:
    * `OrderMoved`
    * `commits_payOrder`, `commits_finishOrder`
    * `commits_cancelOrder`, `commits_cancelExpiredOrder`
    * `commits_initInventory`, `commits_addInventory`
-/

namespace OrderManagement

open Transaction

variable [Deployment]

------------------------------------------------------------
-- Status Changes
------------------------------------------------------------

/-
  A committed change of the status of one order: the order
  row, the two counters of its products, and the stock logs
  are all that differs.
-/
structure OrderMoved
    (db db' : DB)
    (order : Order)
    (toStatus : OrderStatus)
    (timeField : OrderTimeField)
    (now : Time)
    (stock locked : Int → Int)
    (entries : List (Int × Int × StockBiz × Option Int)) :
    Prop where
  find : db.orders.find? order.id = some order
  orders :
    db'.orders =
      db.orders.update (order.patched toStatus timeField now)
  moved :
    InventoriesMoved db.inventories db'.inventories stock
      locked
  logs :
    ∃ logs,
      db'.stockLogs = db.stockLogs ++ logs ∧
        (logs.map StockLog.entry).Perm entries
  products : db'.products = db.products
  orderItems : db'.orderItems = db.orderItems
  keys : db'.orderIdempotencyKeys = db.orderIdempotencyKeys
  outbox : db'.orderTimeoutOutbox = db.orderTimeoutOutbox

/- The rollback entries of a cancelled order. -/
def rollbackEntries
    (items : List OrderItem)
    (orderID : Int) :
    List (Int × Int × StockBiz × Option Int) :=
  (linesOf items orderID).map fun line =>
    (line.productID, line.quantity, .orderRollback,
      some orderID)

/- A payment takes the order's quantity out of the lock. -/
def OrderPaid
    (db db' : DB)
    (order : Order)
    (now : Time) : Prop :=
  OrderMoved db db' order .paid .paidAt now 0
    (-orderQuantity db.orderItems order.id) []

/- A completion moves no quantity. -/
def OrderFinished
    (db db' : DB)
    (order : Order)
    (now : Time) : Prop :=
  OrderMoved db db' order .finished .completedAt now 0 0 []

/- A cancellation returns the locked quantity to the stock. -/
def OrderCancelled
    (db db' : DB)
    (order : Order)
    (now : Time) : Prop :=
  OrderMoved db db' order .cancelled .cancelledAt now
    (orderQuantity db.orderItems order.id)
    (-orderQuantity db.orderItems order.id)
    (rollbackEntries db.orderItems order.id)

theorem commits_payOrder
    {view : DB}
    {now : Time}
    {userID orderID : Int}
    {outcome : Outcome}
    {db db' : DB}
    (hOrderly : Orderly (linesOf db.orderItems orderID))
    (hCommit :
      Commits (OrderService.payOrder view now userID orderID)
        db outcome db') :
    outcome = .orderPaid ∧
      ∃ order,
        order.id = orderID ∧
          order.userID = userID ∧
          order.status = .pending ∧
          OrderPaid db db' order now := by
  unfold OrderService.payOrder at hCommit
  simp only [commits_bind, commits_fetch] at hCommit
  rcases hCommit with ⟨seen, _, ⟨hSeen, rfl⟩, hRest⟩
  rcases Dao.getOrderByID_eq_some hSeen with ⟨rfl, _⟩
  cases hStatus : seen.status with
  | paid => simp [hStatus] at hRest
  | finished => simp [hStatus] at hRest
  | cancelled => simp [hStatus] at hRest
  | pending =>
      simp only [hStatus, commits_bind, commits_ensure,
        commits_get, commits_pure] at hRest
      rcases hRest with
        ⟨rows, mid, hPatch, _, _, ⟨hRows, rfl⟩, _, _,
          ⟨rfl, rfl⟩, _, _, hLoop, rfl, rfl⟩
      rcases Dao.commits_patchOrderStatus hPatch with
        ⟨hZero, _⟩ | ⟨_, order, hFind, hUser, hPending, rfl⟩
      · exact absurd hZero hRows
      rcases commits_consumeLines hLoop with
        ⟨inventories, rfl, hMoved⟩
      have hOrderID : order.id = seen.id :=
        Table.key_of_find? hFind
      refine ⟨rfl, order, hOrderID, hUser, hPending, ?_⟩
      exact {
        find := hOrderID ▸ hFind
        orders := rfl
        moved := by
          have hLines :
              quantityOf
                  (inventoryLines
                    { db with
                      orders :=
                        db.orders.update
                          (order.patched .paid .paidAt now) }
                    seen.id) =
                orderQuantity db.orderItems order.id := by
            funext p
            rw [hOrderID]
            exact quantityOf_perm
              (inventoryLines_perm hOrderly) p
          rw [← hLines]
          exact hMoved
        logs := ⟨[], by simp, by simp⟩
        products := rfl
        orderItems := rfl
        keys := rfl
        outbox := rfl }

theorem commits_finishOrder
    {view : DB}
    {now : Time}
    {userID orderID : Int}
    {outcome : Outcome}
    {db db' : DB}
    (hCommit :
      Commits
        (OrderService.finishOrder view now userID orderID)
        db outcome db') :
    outcome = .orderFinished ∧
      ∃ order,
        order.id = orderID ∧
          order.userID = userID ∧
          order.status = .paid ∧
          OrderFinished db db' order now := by
  unfold OrderService.finishOrder at hCommit
  simp only [commits_bind, commits_fetch] at hCommit
  rcases hCommit with ⟨seen, _, ⟨hSeen, rfl⟩, hRest⟩
  rcases Dao.getOrderByID_eq_some hSeen with ⟨rfl, _⟩
  cases hStatus : seen.status with
  | pending => simp [hStatus] at hRest
  | finished => simp [hStatus] at hRest
  | cancelled => simp [hStatus] at hRest
  | paid =>
      simp only [hStatus, commits_bind, commits_ensure,
        commits_pure] at hRest
      rcases hRest with
        ⟨rows, mid, hPatch, _, _, ⟨hRows, rfl⟩, rfl, rfl⟩
      rcases Dao.commits_patchOrderStatus hPatch with
        ⟨hZero, _⟩ | ⟨_, order, hFind, hUser, hPaid, rfl⟩
      · exact absurd hZero hRows
      have hOrderID : order.id = seen.id :=
        Table.key_of_find? hFind
      refine ⟨rfl, order, hOrderID, hUser, hPaid, ?_⟩
      exact {
        find := hOrderID ▸ hFind
        orders := rfl
        moved := InventoriesMoved.refl db.inventories
        logs := ⟨[], by simp, by simp⟩
        products := rfl
        orderItems := rfl
        keys := rfl
        outbox := rfl }

/-
  A cancellation that commits has changed the status of a
  pending order, or it has found no pending order and
  changed nothing.
-/
theorem commits_cancelPendingOrder
    {view : DB}
    {now : Time}
    {seen : Order}
    {remarkPrefix : String}
    {cancelled : Bool}
    {db db' : DB}
    (hSame :
      linesOf view.orderItems seen.id =
        linesOf db.orderItems seen.id)
    (hOrderly : Orderly (linesOf db.orderItems seen.id))
    (hCommit :
      Commits
        (cancelPendingOrder view now seen remarkPrefix) db
        cancelled db') :
    (cancelled = false ∧ db' = db ∧
        ∀ order, db.orders.find? seen.id = some order →
          order.userID = seen.userID →
          order.status ≠ .pending) ∨
      cancelled = true ∧
        ∃ order,
          order.id = seen.id ∧
            order.userID = seen.userID ∧
            order.status = .pending ∧
            OrderCancelled db db' order now := by
  unfold cancelPendingOrder at hCommit
  simp only [commits_bind] at hCommit
  rcases hCommit with ⟨rows, mid, hPatch, hRest⟩
  rcases Dao.commits_patchOrderStatus hPatch with
    ⟨rfl, rfl, hNone⟩ | ⟨rfl, order, hFind, hUser, hPending,
      rfl⟩
  · rw [if_pos rfl, commits_pure] at hRest
    exact Or.inl ⟨hRest.1.symm, hRest.2.symm, hNone⟩
  · rw [if_neg (by omega)] at hRest
    simp only [commits_bind, commits_pure] at hRest
    rcases hRest with ⟨_, _, hLoop, rfl, rfl⟩
    rcases commits_restoreLines hLoop with
      ⟨inventories, logs, rfl, hMoved, hLogs⟩
    have hOrderID : order.id = seen.id :=
      Table.key_of_find? hFind
    have hPerm :
        (inventoryLines view seen.id).Perm
          (linesOf db.orderItems order.id) := by
      rw [hOrderID, ← hSame]
      exact inventoryLines_perm (hSame ▸ hOrderly)
    have hQuantity :
        quantityOf (inventoryLines view seen.id) =
          orderQuantity db.orderItems order.id := by
      funext p
      exact quantityOf_perm hPerm p
    refine Or.inr
      ⟨rfl, order, hOrderID, hUser, hPending, ?_⟩
    exact {
      find := hOrderID ▸ hFind
      orders := rfl
      moved := hQuantity ▸ hMoved
      logs := by
        refine ⟨logs, rfl, ?_⟩
        rw [hLogs, rollbackEntries]
        rw [hOrderID] at hPerm ⊢
        exact hPerm.map _
      products := rfl
      orderItems := rfl
      keys := rfl
      outbox := rfl }

theorem commits_cancelOrder
    {view : DB}
    {now : Time}
    {userID orderID : Int}
    {outcome : Outcome}
    {db db' : DB}
    (hSame :
      (view.orders.find? orderID).isSome →
        linesOf view.orderItems orderID =
          linesOf db.orderItems orderID)
    (hOrderly : Orderly (linesOf db.orderItems orderID))
    (hCommit :
      Commits
        (OrderService.cancelOrder view now userID orderID)
        db outcome db') :
    (outcome = .orderAlreadyCancelled ∧ db' = db ∧
        ∃ order,
          view.orders.find? orderID = some order ∧
            order.userID = userID ∧
            order.status = .cancelled) ∨
      outcome = .orderCancelled ∧
        ∃ order,
          order.id = orderID ∧
            order.userID = userID ∧
            order.status = .pending ∧
            OrderCancelled db db' order now := by
  unfold OrderService.cancelOrder at hCommit
  simp only [commits_bind, commits_fetch] at hCommit
  rcases hCommit with ⟨seen, _, ⟨hFound, rfl⟩, hRest⟩
  rcases Dao.getOrderByID_eq_some hFound with
    ⟨rfl, rfl, hSeen⟩
  have hLines := hSame (by simp [hSeen])
  cases hStatus : seen.status with
  | paid => simp [hStatus] at hRest
  | finished => simp [hStatus] at hRest
  | cancelled =>
      simp only [hStatus, commits_pure] at hRest
      exact Or.inl
        ⟨hRest.1.symm, hRest.2.symm, seen, hSeen, rfl, hStatus⟩
  | pending =>
      simp only [hStatus, commits_bind, commits_ensure,
        commits_pure] at hRest
      rcases hRest with
        ⟨cancelled, mid, hCancel, _, _, ⟨rfl, rfl⟩, rfl, rfl⟩
      rcases commits_cancelPendingOrder hLines hOrderly
          hCancel with ⟨hFalse, _⟩ | ⟨_, hCancelled⟩
      · cases hFalse
      · exact Or.inr ⟨rfl, hCancelled⟩

/- The outbox row that a due timeout message has named. -/
def TimeoutDue
    (view : DB)
    (now : Time)
    (eventID : String)
    (orderID : Int) : Prop :=
  ∃ row,
    Dao.getOrderTimeoutOutbox view eventID orderID = some row ∧
      row.timeoutAt ≤ now

theorem commits_cancelExpiredOrder
    {view : DB}
    {now : Time}
    {eventID : String}
    {orderID : Int}
    {outcome : Outcome}
    {db db' : DB}
    (hSame :
      (view.orders.find? orderID).isSome →
        linesOf view.orderItems orderID =
          linesOf db.orderItems orderID)
    (hOrderly : Orderly (linesOf db.orderItems orderID))
    (hCommit :
      Commits
        (OrderService.cancelExpiredOrder view now eventID
          orderID) db outcome db') :
    (outcome = .orderIgnored ∧ db' = db ∧
        (Dao.getOrderTimeoutOutbox view eventID orderID = none ∨
          view.orders.find? orderID = none ∨
          ∃ order,
            view.orders.find? orderID = some order ∧
              (order.status = .paid ∨
                order.status = .finished))) ∨
      (outcome = .orderAlreadyCancelled ∧ db' = db ∧
        ∃ order,
          view.orders.find? orderID = some order ∧
            order.status = .cancelled) ∨
      (outcome = .orderNotRestored ∧ db' = db ∧
        ∃ seen,
          view.orders.find? orderID = some seen ∧
            ∀ order, db.orders.find? orderID = some order →
              order.userID = seen.userID →
              order.status ≠ .pending) ∨
      outcome = .orderCancelled ∧
        TimeoutDue view now eventID orderID ∧
        ∃ order,
          order.id = orderID ∧
            order.status = .pending ∧
            OrderCancelled db db' order now := by
  unfold OrderService.cancelExpiredOrder
    Dao.getOrderByIDForSystem at hCommit
  cases hOutbox :
      Dao.getOrderTimeoutOutbox view eventID orderID with
  | none =>
      simp only [hOutbox, commits_pure] at hCommit
      exact Or.inl ⟨hCommit.1.symm, hCommit.2.symm, Or.inl rfl⟩
  | some outbox =>
      simp only [hOutbox, commits_bind,
        commits_ensure] at hCommit
      rcases hCommit with ⟨_, _, ⟨hDue, rfl⟩, hRest⟩
      cases hSeen : view.orders.find? orderID with
      | none =>
          simp only [hSeen, commits_pure] at hRest
          exact Or.inl
            ⟨hRest.1.symm, hRest.2.symm, Or.inr (Or.inl rfl)⟩
      | some seen =>
          have hID : seen.id = orderID :=
            Table.key_of_find? hSeen
          subst hID
          have hLines := hSame (by simp [hSeen])
          cases hStatus : seen.status with
          | paid =>
              simp only [hSeen, hStatus, commits_pure] at hRest
              exact Or.inl ⟨hRest.1.symm, hRest.2.symm, Or.inr
                (Or.inr ⟨seen, rfl, Or.inl hStatus⟩)⟩
          | finished =>
              simp only [hSeen, hStatus, commits_pure] at hRest
              exact Or.inl ⟨hRest.1.symm, hRest.2.symm, Or.inr
                (Or.inr ⟨seen, rfl, Or.inr hStatus⟩)⟩
          | cancelled =>
              simp only [hSeen, hStatus, commits_pure] at hRest
              exact Or.inr (Or.inl
                ⟨hRest.1.symm, hRest.2.symm, seen, rfl, hStatus⟩)
          | pending =>
              simp only [hSeen, hStatus, commits_bind] at hRest
              rcases hRest with ⟨restored, mid, hCancel, hEnd⟩
              rcases commits_cancelPendingOrder hLines hOrderly
                  hCancel with
                ⟨rfl, rfl, hNone⟩ | ⟨rfl, order, hOrder, _,
                  hPending, hCancelled⟩
              · simp only [Bool.false_eq_true, if_false,
                  commits_pure] at hEnd
                exact Or.inr (Or.inr (Or.inl
                  ⟨hEnd.1.symm, hEnd.2.symm, seen, rfl, hNone⟩))
              · simp only [if_true, commits_pure] at hEnd
                rcases hEnd with ⟨rfl, rfl⟩
                exact Or.inr (Or.inr (Or.inr
                  ⟨rfl, ⟨outbox, hOutbox, hDue⟩, order, hOrder,
                    hPending, hCancelled⟩))

------------------------------------------------------------
-- Stock Entries
------------------------------------------------------------

theorem commits_initInventory
    {view : DB}
    {productID : Int}
    {stockQuantity : Option Int}
    {outcome : Outcome}
    {db db' : DB}
    (hCommit :
      Commits
        (InventoryService.initInventory view productID
          stockQuantity) db outcome db') :
    ∃ quantity inventory log,
      stockQuantity = some quantity ∧
        0 ≤ quantity ∧
        outcome = .inventoryInitialised productID quantity ∧
        (view.products.find? productID).isSome ∧
        inventory.productID = productID ∧
        inventory.stockQuantity = quantity ∧
        inventory.lockedQuantity = 0 ∧
        db.inventories.insert? inventory =
          some db'.inventories ∧
        log.entry = (productID, quantity, .init, none) ∧
        log.beforeQuantity = 0 ∧
        db' = { db with
          inventories := db'.inventories
          stockLogs := db.stockLogs ++ [log] } := by
  unfold InventoryService.initInventory Dao.initInventory
    Dao.getProductByID at hCommit
  simp only [commits_bind, commits_fetch, commits_ensure,
    commits_onError, commits_get, commits_set, commits_pure,
    Dao.commits_checkedInventory,
    Dao.commits_createStockLog, and_assoc, exists_and_left,
    exists_eq_left'] at hCommit
  rcases hCommit with
    ⟨quantity, hQuantity, hNonneg, _, product, hProduct, _, _,
      _, _, ⟨inventory, hKey, hStock, hLocked, _, _,
        inventories, hInsert, rfl⟩, _, _,
      ⟨log, hLogProduct, hLogChange, hLogBefore, _, hLogType,
        hLogID, _, rfl⟩, rfl, rfl⟩
  have hID : product.id = productID :=
    Table.key_of_find? hProduct
  refine ⟨quantity, inventory, log, hQuantity, hNonneg, ?_,
    ?_, ?_, hStock, hLocked, hInsert, ?_, hLogBefore, rfl⟩
  · rw [hID]
  · simp [hProduct]
  · rw [hKey, hID]
  · simp [StockLog.entry, hLogProduct, hLogChange, hLogType,
      hLogID, hID]

theorem commits_addInventory
    {view : DB}
    {productID quantity : Int}
    {outcome : Outcome}
    {db db' : DB}
    (hCommit :
      Commits
        (InventoryService.addInventory view productID
          quantity) db outcome db') :
    0 < quantity ∧
      outcome =
        .inventoryAdded productID quantity
          (stockOf db.inventories productID + quantity) ∧
      (view.products.find? productID).isSome ∧
      (db.inventories.find? productID).isSome ∧
      InventoriesMoved db.inventories db'.inventories
        (Pi.single productID quantity) 0 ∧
      ∃ log : StockLog,
        log.entry =
            (productID, quantity, .manualAdd, none) ∧
          log.beforeQuantity =
            stockOf db.inventories productID ∧
          db' = { db with
            inventories := db'.inventories
            stockLogs := db.stockLogs ++ [log] } := by
  unfold InventoryService.addInventory
    Dao.updateInventoryStockQuantity
    Dao.getInventoryByProductIDForUpdate
    Dao.getProductByID at hCommit
  simp only [commits_bind, commits_fetch, commits_ensure,
    commits_onError, commits_get, commits_set, commits_pure,
    Dao.commits_checkedInventory,
    Dao.commits_createStockLog, and_assoc, exists_and_left,
    exists_eq_left'] at hCommit
  rcases hCommit with
    ⟨hPositive, _, inventory, hInv, product, hProduct, _, _,
      ⟨row, hRow, row', hKey, hStock, hLocked, _, _, rfl⟩, _,
      _, ⟨log, hLogProduct, hLogChange, hLogBefore, hLogAfter,
        hLogType, hLogID, _, rfl⟩, rfl, rfl⟩
  have hBefore :
      stockOf db.inventories productID =
        inventory.stockQuantity := by
    unfold stockOf
    rw [hInv]
    rfl
  -- The CHECK on the log leaves no room for a wrapped sum.
  have hAfter :
      wrap64 (inventory.stockQuantity + quantity) =
        inventory.stockQuantity + quantity := by
    rw [← hLogAfter, log.quantityBalance, hLogBefore,
      hLogChange]
  refine ⟨hPositive, ?_, by simp [hProduct], by simp [hInv],
    ?_, log, ?_, ?_, rfl⟩
  · rw [hBefore, hAfter]
  · rw [hInv] at hRow
    cases hRow
    have hMoved := InventoriesMoved.of_update hInv hKey
    rw [hStock, hLocked, hAfter] at hMoved
    simpa using hMoved
  · simp [StockLog.entry, hLogProduct, hLogChange, hLogType,
      hLogID]
  · rw [hLogBefore, hBefore]

------------------------------------------------------------
-- Products
------------------------------------------------------------

theorem commits_createProduct
    {id : Int}
    {name description : String}
    {priceFen : Int}
    {outcome : Outcome}
    {db db' : DB}
    (hCommit :
      Commits
        (ProductService.createProduct id name description
          priceFen) db outcome db') :
    ∃ product : Product,
      outcome = .productCreated product ∧
        product.id = id ∧
        0 < id ∧
        db.products.insert? product = some db'.products ∧
        db' = { db with products := db'.products } := by
  unfold ProductService.createProduct
    Dao.createProduct at hCommit
  simp only [commits_bind, commits_fetch, commits_ensure,
    commits_check, commits_get, commits_set,
    commits_pure] at hCommit
  rcases hCommit with
    ⟨⟨hPrice⟩, _, rfl, _, _, ⟨_, rfl⟩, _, _, ⟨_, rfl⟩, _, _,
      ⟨_, _, ⟨rfl, rfl⟩, _, _, ⟨hID, rfl⟩, products, _,
        ⟨hInsert, rfl⟩, rfl⟩, rfl, rfl⟩
  exact ⟨_, rfl, rfl, hID, hInsert, rfl⟩

/- Only the status of the product may be different. -/
theorem commits_setProductStatus
    {status : ProductStatus}
    {view : DB}
    {id : Int}
    {outcome : Outcome}
    {db db' : DB}
    (hCommit :
      Commits (ProductService.setProductStatus status view id)
        db outcome db') :
    outcome = .productStatusSet ∧
      (db' = db ∨
        ∃ product,
          db.products.find? id = some product ∧
            db' = { db with
              products :=
                db.products.update
                  { product with status := status } }) := by
  unfold ProductService.setProductStatus
    Dao.getProductByID at hCommit
  simp only [commits_bind, commits_fetch] at hCommit
  rcases hCommit with ⟨seen, _, ⟨hSeen, rfl⟩, hRest⟩
  have hID : seen.id = id := Table.key_of_find? hSeen
  subst hID
  split at hRest
  case isTrue =>
    rw [commits_pure] at hRest
    exact ⟨hRest.1.symm, Or.inl hRest.2.symm⟩
  case isFalse =>
    unfold Dao.updateProductStatus at hRest
    simp only [commits_bind, commits_get,
      commits_pure] at hRest
    rcases hRest with
      ⟨_, _, ⟨_, _, ⟨rfl, rfl⟩, hUpdate⟩, rfl, rfl⟩
    split at hUpdate
    case h_1 =>
      rw [commits_pure] at hUpdate
      exact ⟨rfl, Or.inl hUpdate.2.symm⟩
    case h_2 product hProduct =>
      rw [commits_set] at hUpdate
      exact ⟨rfl, Or.inr ⟨product, hProduct, hUpdate.symm⟩⟩

end OrderManagement
