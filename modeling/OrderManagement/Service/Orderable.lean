import OrderManagement.Service.OrderEffects

/-
  When a creation commits: if every requested product is on
  sale and in stock and the generated identifiers are new,
  a key without a record creates an order.

  Main declarations:
    * `LineAvailable` and `Orderable`
    * `placeOrderItems_commits`
    * `createOrder_commits`
    * `createOrder_conflict` and `createOrder_replays`
-/

namespace OrderManagement

open Transaction

variable [Deployment]

------------------------------------------------------------
-- Conditions
------------------------------------------------------------

/- A requested item can be taken from the stock at once. -/
structure LineAvailable
    (db : DB)
    (line : OrderService.OrderLine) : Prop where
  product :
    db.products.find? line.1.productID = some line.2
  onSale : line.2.status = .onSale
  inventory :
    (db.inventories.find? line.1.productID).isSome
  quantity : 0 < line.1.quantity
  enough :
    line.1.quantity ≤
      stockOf db.inventories line.1.productID
  stockFits :
    stockOf db.inventories line.1.productID ≤ bigintMax
  lockedFits :
    lockedOf db.inventories line.1.productID +
      line.1.quantity ≤ bigintMax
  subtotal :
    0 < wrap64 (line.2.priceFen * line.1.quantity)

/- An order of these lines can be created at once. -/
structure Orderable
    (db : DB)
    (lines : List OrderService.OrderLine)
    (ids : GeneratedIDs) : Prop where
  distinct :
    (lines.map fun line => line.1.productID).Nodup
  available : ∀ line ∈ lines, LineAvailable db line
  total : 0 ≤ OrderService.totalAmountFen lines
  orderIDFresh : db.orders.find? ids.orderID = none
  orderNoFresh :
    ∀ o ∈ db.orders.rows,
      Deployment.collate o.orderNo ≠
        Deployment.collate ids.orderNo
  eventIDFresh :
    db.orderTimeoutOutbox.find?
      (Deployment.collate ids.eventID) = none
  outboxFresh :
    ∀ row ∈ db.orderTimeoutOutbox.rows,
      row.orderID ≠ ids.orderID

------------------------------------------------------------
-- The Loops
------------------------------------------------------------

theorem loadProducts_commits
    {db : DB}
    {lines : List OrderService.OrderLine}
    (hAvailable : ∀ line ∈ lines, LineAvailable db line)
    (current : DB) :
    Commits
      (OrderService.loadProducts db (lines.map Prod.fst))
      current lines current := by
  induction lines with
  | nil =>
      rw [List.map_nil, OrderService.loadProducts, commits_pure]
      exact ⟨rfl, rfl⟩
  | cons line lines ih =>
      have hLine := hAvailable line (by simp)
      have hRest := ih fun l hl => hAvailable l (by simp [hl])
      rw [List.map_cons]
      unfold OrderService.loadProducts
        OrderService.loadProduct Dao.getProductByID
      simp only [commits_bind, commits_fetch, commits_ensure,
        commits_pure]
      exact ⟨line, current,
        ⟨line.2, current, ⟨hLine.product, rfl⟩, (), current,
          ⟨hLine.onSale, rfl⟩, rfl, rfl⟩,
        lines, current, hRest, rfl, rfl⟩

/- A round commits for an available line. -/
theorem placeOrderItem_commits
    {order : Order}
    {line : OrderService.OrderLine}
    {db : DB}
    (hLine : LineAvailable db line) :
    ∃ db',
      Commits (OrderService.placeOrderItem order line) db ()
        db' := by
  rcases Option.isSome_iff_exists.mp hLine.inventory with
    ⟨inv, hInv⟩
  have hEnough := hLine.enough
  have hStockFits := hLine.stockFits
  have hLockedFits := hLine.lockedFits
  unfold stockOf at hEnough hStockFits
  unfold lockedOf at hLockedFits
  simp only [hInv, Option.map_some, Option.getD_some]
    at hEnough hStockFits hLockedFits
  have hQuantity := hLine.quantity
  have hStock := inv.stockQuantityNonneg
  have hLocked := inv.lockedQuantityNonneg
  have hAfter :
      wrap64 (inv.stockQuantity - line.1.quantity) =
        inv.stockQuantity - line.1.quantity := by
    apply wrap64_eq <;> omega
  have hReserve :
      ∃ db',
        Commits
          (Dao.reserveInventory line.1.productID
            line.1.quantity) db () db' := by
    apply Dao.moveInventory_commits hInv
    · exact decide_eq_true hEnough
    · omega
    · omega
    · omega
    · exact hLockedFits
  rcases hReserve with ⟨moved, hReserve⟩
  have hBalance :
      inv.stockQuantity - line.1.quantity =
        inv.stockQuantity + -line.1.quantity := by
    omega
  have hAfterNonneg :
      0 ≤ inv.stockQuantity - line.1.quantity := by
    omega
  have hBigint : line.1.quantity ≤ bigintMax := by omega
  rcases line with ⟨item, product⟩
  unfold OrderService.placeOrderItem
  simp only [commits_bind, commits_fetch, commits_ensure,
    commits_onError, commits_check,
    Dao.getInventoryByProductIDForUpdate, commits_get,
    commits_pure, Dao.createOrderItem, commits_set,
    Dao.commits_createStockLog]
  refine ⟨_, _, _, ⟨_, _, ⟨rfl, rfl⟩, rfl, rfl⟩, inv, _,
    ⟨hInv, rfl⟩, (), _, ⟨?_, rfl⟩, (), moved, hReserve,
    ⟨hQuantity⟩, _, rfl, ⟨hBigint⟩, _, rfl,
    ⟨hLine.subtotal⟩, _, rfl, (), _,
    ⟨_, _, ⟨rfl, rfl⟩, rfl⟩,
    ⟨product.id, -item.quantity, inv.stockQuantity,
      inv.stockQuantity - item.quantity, .orderDeduct,
      some order.id, _, hStock, hAfterNonneg, hBalance⟩,
    rfl, rfl, rfl, hAfter.symm, rfl, rfl, rfl, rfl⟩
  rw [hAfter]
  exact hAfterNonneg

/- What a round leaves is available to the other lines. -/
theorem LineAvailable.mono
    {order : Order}
    {line other : OrderService.OrderLine}
    {db db' : DB}
    (hLine : LineAvailable db line)
    (hOther : LineAvailable db other)
    (hApart : line.1.productID ≠ other.1.productID)
    (hRound :
      Commits (OrderService.placeOrderItem order line) db ()
        db') :
    LineAvailable db' other := by
  have hProduct : line.2.id = line.1.productID :=
    Table.key_of_find? hLine.product
  rcases commits_placeOrderItem hProduct hRound with
    ⟨inventories, item, log, rfl, hMoved, _, hItem, _⟩
  have hStock :
      stockOf inventories other.1.productID =
        stockOf db.inventories other.1.productID := by
    rw [hMoved.stockOf, hItem, Pi.single_eq_of_ne hApart.symm]
    omega
  have hLocked :
      lockedOf inventories other.1.productID =
        lockedOf db.inventories other.1.productID := by
    rw [hMoved.lockedOf, hItem,
      Pi.single_eq_of_ne hApart.symm]
    omega
  exact {
    product := hOther.product
    onSale := hOther.onSale
    inventory := (hMoved.isSome _).trans hOther.inventory
    quantity := hOther.quantity
    enough := by
      simp only [hStock]
      exact hOther.enough
    stockFits := by
      simp only [hStock]
      exact hOther.stockFits
    lockedFits := by
      simp only [hLocked]
      exact hOther.lockedFits
    subtotal := hOther.subtotal }

/- Lines of distinct products do not compete. -/
theorem placeOrderItems_commits
    {order : Order}
    {lines : List OrderService.OrderLine}
    {db : DB}
    (hDistinct :
      (lines.map fun line => line.1.productID).Nodup)
    (hAvailable : ∀ line ∈ lines, LineAvailable db line) :
    ∃ db',
      Commits (forM lines (OrderService.placeOrderItem order))
        db ⟨⟩ db' := by
  induction lines generalizing db with
  | nil =>
      refine ⟨db, ?_⟩
      rw [List.forM_nil, commits_pure]
      exact ⟨rfl, rfl⟩
  | cons line lines ih =>
      rw [List.map_cons, List.nodup_cons] at hDistinct
      have hLine := hAvailable line (by simp)
      rcases @placeOrderItem_commits _ order _ _ hLine with
        ⟨mid, hRound⟩
      have hRest :
          ∀ other ∈ lines, LineAvailable mid other := by
        intro other hOther
        apply hLine.mono _ _ hRound
        · exact hAvailable other (by simp [hOther])
        · intro hSame
          apply hDistinct.1
          rw [hSame]
          exact List.mem_map_of_mem hOther
      rcases ih hDistinct.2 hRest with ⟨db', hLoop⟩
      refine ⟨db', ?_⟩
      rw [List.forM_cons, commits_bind]
      exact ⟨(), mid, hRound, hLoop⟩

------------------------------------------------------------
-- The Transaction
------------------------------------------------------------

/- Completing a record that is being created. -/
theorem completeOrderIdempotencyKey_commits
    {userID orderID : Int}
    {idempotencyKey : String}
    {record : OrderIdempotencyKey}
    {db : DB}
    (hFind :
      db.orderIdempotencyKeys.find?
        (idempotencySlot userID idempotencyKey) = some record)
    (hStatus : record.status = .orderBeingCreated) :
    ∃ keys,
      Commits
        (Dao.completeOrderIdempotencyKey userID idempotencyKey
          orderID) db 1
        { db with orderIdempotencyKeys := keys } := by
  refine ⟨db.orderIdempotencyKeys.update
    { record with
      orderID := some orderID
      status := .orderAlreadyCreated }, ?_⟩
  unfold Dao.completeOrderIdempotencyKey
  simp only [commits_bind, commits_get]
  refine ⟨db, db, ⟨rfl, rfl⟩, ?_⟩
  rw [hFind, Option.filter_some,
    if_pos (decide_eq_true hStatus)]
  simp only [commits_bind, commits_set, commits_pure]
  exact ⟨(), _, rfl, trivial, rfl⟩

/-
  With a key that has no record, and with a snapshot that is
  the current database, an orderable request commits.
-/
theorem createOrder_commits
    {db : DB}
    (now nextAttemptAt : Time)
    {userID : Int}
    {idempotencyKey : String}
    (requestHash : String)
    {lines : List OrderService.OrderLine}
    {ids : GeneratedIDs}
    (hFree :
      db.orderIdempotencyKeys.find?
        (idempotencySlot userID idempotencyKey) = none)
    (hOrderable : Orderable db lines ids) :
    ∃ order db',
      Commits
        (OrderService.createOrder db now nextAttemptAt userID
          idempotencyKey requestHash (lines.map Prod.fst) ids)
        db (.orderCreated order) db' := by
  let record : OrderIdempotencyKey := {
    userID := userID
    idempotencyKey := idempotencyKey
    requestHash := requestHash
    orderID := none
    status := .orderBeingCreated }
  let order : Order := {
    id := ids.orderID
    userID := userID
    orderNo := ids.orderNo
    totalAmountFen := OrderService.totalAmountFen lines
    status := .pending
    paidAt := none
    completedAt := none
    cancelledAt := none
    createdAt := now
    updatedAt := now
    totalAmountFenNonneg := hOrderable.total }
  let outbox :=
    timeoutRow nextAttemptAt ids.eventID order
  rcases @Table.exists_insert? _ _ _ _ _ record hFree with
    ⟨keys, hKeys⟩
  rcases @Table.exists_insert? _ _ _ _ _ order
      hOrderable.orderIDFresh with
    ⟨orders, hOrders⟩
  rcases @Table.exists_insert? _ _ _ _ _ outbox
      hOrderable.eventIDFresh with
    ⟨rows, hRows⟩
  let begun : DB :=
    { db with orderIdempotencyKeys := keys, orders := orders }
  have hBegun :
      ∀ line ∈ lines, LineAvailable begun line := by
    intro line hLine
    exact { hOrderable.available line hLine with }
  have hProducts :
      ∀ line ∈ lines, line.2.id = line.1.productID := by
    intro line hLine
    exact Table.key_of_find?
      (hOrderable.available line hLine).product
  rcases @placeOrderItems_commits _ order _ _
      hOrderable.distinct hBegun with ⟨placed, hLoop⟩
  rcases commits_placeOrderItems hLoop hProducts with
    ⟨inventories, items, logs, rfl, _⟩
  have hRecord :
      keys.find? (idempotencySlot userID idempotencyKey) =
        some record := by
    have hFind := Table.find?_of_insert? hKeys
      (idempotencySlot userID idempotencyKey)
    rw [hFind]
    exact if_pos rfl
  have hOrder : (orders.find? ids.orderID).isSome := by
    have hFind := Table.find?_of_insert? hOrders ids.orderID
    rw [hFind, key_order, if_pos rfl]
    rfl
  rcases @completeOrderIdempotencyKey_commits _ _ order.id _ _
      { begun with
        inventories := inventories
        orderItems := begun.orderItems ++ items
        stockLogs := begun.stockLogs ++ logs } hRecord rfl with
    ⟨keys', hComplete⟩
  refine ⟨order,
    { begun with
      inventories := inventories
      orderItems := begun.orderItems ++ items
      stockLogs := begun.stockLogs ++ logs
      orderIdempotencyKeys := keys'
      orderTimeoutOutbox := rows }, ?_⟩
  unfold OrderService.createOrder
  simp only [commits_bind]
  refine ⟨true, _,
    Dao.commits_tryCreateOrderIdempotencyKey.mpr
      (Or.inr ⟨rfl, keys, hKeys, rfl⟩), ?_⟩
  simp only [if_true, commits_bind, commits_pure]
  refine ⟨order, _, ?_, rfl, rfl⟩
  unfold OrderService.placeOrder Dao.createOrder
    Dao.createOrderTimeoutOutbox
  simp only [commits_bind, commits_check, commits_ensure,
    commits_fetch, commits_get, commits_set, commits_onError,
    commits_pure]
  refine ⟨lines, _,
    loadProducts_commits hOrderable.available _,
    ⟨hOrderable.total⟩, _, rfl, (), begun,
    ⟨_, _, ⟨rfl, rfl⟩, (), _,
      ⟨hOrderable.orderNoFresh, rfl⟩, orders, _,
      ⟨hOrders, rfl⟩, rfl⟩,
    (), _, hLoop, 1, _, hComplete, (), _, ⟨rfl, rfl⟩, (), _,
    ⟨_, _, ⟨rfl, rfl⟩, (), _,
      ⟨hOrderable.outboxFresh, rfl⟩, (), _, ⟨hOrder, rfl⟩,
      rows, _, ⟨hRows, rfl⟩, rfl⟩, rfl, rfl⟩

------------------------------------------------------------
-- Taken Keys
------------------------------------------------------------

/- Another hash under a taken key is always a conflict. -/
theorem createOrder_conflict
    {db view : DB}
    {now nextAttemptAt : Time}
    {userID : Int}
    {idempotencyKey requestHash : String}
    {items : List CreateOrderItemRequest}
    {ids : GeneratedIDs}
    {record : OrderIdempotencyKey}
    (hTaken :
      (db.orderIdempotencyKeys.find?
        (idempotencySlot userID idempotencyKey)).isSome)
    (hRecord :
      view.orderIdempotencyKeys.find?
        (idempotencySlot userID idempotencyKey) = some record)
    (hHash : record.requestHash ≠ requestHash) :
    Aborts
      (OrderService.createOrder view now nextAttemptAt userID
        idempotencyKey requestHash items ids)
      db .orderIdempotencyConflict := by
  have hTry :
      Commits
        (Dao.tryCreateOrderIdempotencyKey userID
          idempotencyKey requestHash) db false db :=
    Dao.commits_tryCreateOrderIdempotencyKey.mpr
      (Or.inl ⟨rfl, rfl, hTaken⟩)
  unfold OrderService.createOrder
  refine aborts_bind.mpr (Or.inr ⟨false, db, hTry, ?_⟩)
  rw [if_neg Bool.false_ne_true]
  refine aborts_bind.mpr (Or.inl ?_)
  unfold OrderService.replayOrder
  refine aborts_bind.mpr (Or.inr ⟨record, db, ?_, ?_⟩)
  · exact commits_fetch.mpr ⟨hRecord, rfl⟩
  · refine aborts_bind.mpr (Or.inl ?_)
    exact aborts_ensure hHash

/- The same hash under a completed record is a replay. -/
theorem createOrder_replays
    {db view : DB}
    {now nextAttemptAt : Time}
    {userID : Int}
    {idempotencyKey requestHash : String}
    {items : List CreateOrderItemRequest}
    {ids : GeneratedIDs}
    {record : OrderIdempotencyKey}
    {order : Order}
    (hTaken :
      (db.orderIdempotencyKeys.find?
        (idempotencySlot userID idempotencyKey)).isSome)
    (hRecord :
      view.orderIdempotencyKeys.find?
        (idempotencySlot userID idempotencyKey) = some record)
    (hHash : record.requestHash = requestHash)
    (hStatus : record.status = .orderAlreadyCreated)
    (hOrderID : record.orderID = some order.id)
    (hPositive : 0 < order.id)
    (hFind : view.orders.find? order.id = some order)
    (hUser : order.userID = userID) :
    Commits
      (OrderService.createOrder view now nextAttemptAt userID
        idempotencyKey requestHash items ids)
      db (.orderReplayed order) db := by
  have hTry :
      Commits
        (Dao.tryCreateOrderIdempotencyKey userID
          idempotencyKey requestHash) db false db :=
    Dao.commits_tryCreateOrderIdempotencyKey.mpr
      (Or.inl ⟨rfl, rfl, hTaken⟩)
  unfold OrderService.createOrder
  refine commits_bind.mpr ⟨false, db, hTry, ?_⟩
  rw [if_neg Bool.false_ne_true]
  unfold OrderService.replayOrder
  simp only [commits_bind, commits_fetch, commits_ensure,
    commits_pure]
  refine ⟨order, db, ⟨record, db, ⟨hRecord, rfl⟩, (), db,
    ⟨hHash, rfl⟩, ?_⟩, rfl, rfl⟩
  simp only [hStatus, hOrderID, commits_bind, commits_fetch,
    Dao.getOrderByID]
  refine ⟨order.id, db, ⟨?_, rfl⟩, ?_, rfl⟩
  · rw [Option.filter_some, if_pos (decide_eq_true hPositive)]
  · rw [hFind, Option.filter_some,
      if_pos (decide_eq_true hUser)]

end OrderManagement
