import OrderManagement.Service.StockLedger
import OrderManagement.System.Lifecycle

/-
  The stock logs of a run. For each product they are a
  ledger of its stock, and for each order they are what its
  items were taken out and put back for.

  Main declarations:
    * `Request.ledgered` and `Step.ledgered`
    * `OrderLogged` with `Effect.orderLogged`
    * `StockLedger` and `stock_ledger`
-/

namespace OrderManagement

open Transaction Ledger

variable [Deployment]

------------------------------------------------------------
-- Ledgers of Products
------------------------------------------------------------

/- The calls other than CreateOrder and the cancellations
   write one log, or none. -/
theorem Effect.ledgered
    {view : DB}
    {request : Request}
    {outcome : Outcome}
    {db db' : DB}
    (hEffect : Effect view request outcome db db')
    (hCreated : ∀ order, outcome ≠ .orderCreated order)
    (hCancelled : outcome ≠ .orderCancelled) :
    Ledgered db db' := by
  cases hEffect with
  | productCreated | productStatusSet =>
      exact Ledgered.of_same rfl fun _ => rfl
  | productStatusSame | orderReplayed | cancelRepeated
  | expiryRepeated | expiryIgnored | expiryLate =>
      exact refl_of Ledgered db
  | inventoryInitialised _ _ hKey hStock _ hInsert hEntry
      hBefore =>
      simp only [StockLog.entry, Prod.mk.injEq] at hEntry
      apply Ledgered.of_inserted hInsert _ _ hBefore
      · rw [hEntry.1, hKey]
      · rw [hEntry.2.1, hStock]
  | inventoryAdded _ _ hMoved hEntry hBefore =>
      simp only [StockLog.entry, Prod.mk.injEq] at hEntry
      refine Ledgered.of_logged rfl ?_ ?_
      · rw [hEntry.1, hEntry.2.1]
        exact hMoved.stockOf
      · rw [hBefore, hEntry.1]
  | orderCreated => exact absurd rfl (hCreated _)
  | orderPaid _ hMoved | orderFinished _ hMoved =>
      rcases hMoved.logs with ⟨logs, hLogs, hEntries⟩
      have hNone : logs = [] :=
        List.map_eq_nil_iff.mp hEntries.eq_nil
      apply Ledgered.of_same
      · rw [hLogs, hNone, List.append_nil]
      · intro p
        rw [hMoved.moved.stockOf]
        exact add_zero _
  | orderCancelled | orderExpired =>
      exact absurd rfl hCancelled

/- Whatever commits continues the ledgers. -/
theorem Request.ledgered
    {request : Request}
    {view : DB}
    {now nextAttemptAt : Time}
    {outcome : Outcome}
    {db db' : DB}
    (hWellFormed : db.WellFormed)
    (hGrows : view.Grows db)
    (hCommit :
      Commits (request.transaction view now nextAttemptAt) db
        outcome db') :
    Ledgered db db' := by
  have hEffect := effect_of_commits hWellFormed hGrows hCommit
  cases request with
  | createOrder userID req ids =>
      unfold Request.transaction at hCommit
      dsimp only at hCommit
      cases hChecked :
          OrderService.checkCreateOrder userID req with
      | error err =>
          rw [hChecked] at hCommit
          exact (commits_throw.mp hCommit).elim
      | ok checked =>
          rw [hChecked] at hCommit
          exact OrderService.createOrder_ledgered _ _ _ hCommit
  | cancelOrder userID orderID =>
      exact OrderService.cancelOrder_ledgered _ _ _ hCommit
  | cancelExpiredOrder eventID orderID =>
      exact OrderService.cancelExpiredOrder_ledgered _ _ _
        hCommit
  | createProduct | onSaleProduct | offSaleProduct
  | initInventory | addInventory | payOrder | finishOrder =>
      apply hEffect.ledgered
      · rintro order rfl
        cases hEffect
      · rintro rfl
        cases hEffect

theorem Step.ledgered
    {s t : State}
    {l : Option Event}
    (hSound : s.Sound)
    (hStep : Step s l t) :
    Ledgered s.db t.db := by
  cases hStep with
  | arrive | insertKey | openView | openKeyedView | reject
  | fail => exact refl_of Ledgered _
  | finish hRun =>
      rename_i view rest request preDeduct acquired now
        nextAttemptAt response
      have hGrows :=
        (hSound.calls _ (Multiset.mem_cons_self _ _)).grows _ _
          rfl
      rcases Request.run_eq hRun with
        ⟨outcome, _, hCommit⟩ | ⟨e, _, rfl, _⟩
      · exact Request.ledgered hSound.wellFormed hGrows hCommit
      · exact refl_of Ledgered _
  | publish hTouched =>
      rcases hTouched with ⟨f, _, _, rfl⟩
      exact Ledgered.of_same rfl fun _ => rfl

/- The logs of a product lead from nothing to its stock. -/
theorem Reaches.ledgered
    {events : List Event}
    {s : State}
    (hReaches : Reaches events s)
    (p : Int) :
    Leads 0 (logsOf s.db.stockLogs p)
      (stockOf s.db.inventories p) := by
  rcases hReaches with ⟨ls, _, hRun⟩
  have hBoth :
      s.Sound ∧ Ledgered State.initial.db s.db := by
    refine hRun.invariant
      (P := fun s =>
        s.Sound ∧ Ledgered State.initial.db s.db)
      ?_ ⟨State.sound_initial, refl_of Ledgered _⟩
    intro s l t hState hStep
    exact ⟨hStep.sound hState.1,
      hState.2.trans (hStep.ledgered hState.1)⟩
  rcases hBoth.2 with ⟨logs, hLogs, hLeads⟩
  rw [hLogs]
  exact hLeads p

------------------------------------------------------------
-- Logs of Orders
------------------------------------------------------------

/- The entries that the items of an order are taken out by. -/
def deductEntries
    (items : List OrderItem)
    (orderID : Int) :
    List (Int × Int × StockBiz × Option Int) :=
  (linesOf items orderID).map fun line =>
    (line.productID, -line.quantity, .orderDeduct,
      some orderID)

/- What the logs say that were written for an order. -/
def entriesOf
    (logs : List StockLog)
    (orderID : Int) :
    List (Int × Int × StockBiz × Option Int) :=
  (logs.filter fun log => log.bizID = some orderID).map
    StockLog.entry

/- The logs of an order are complete: its items were taken
   out once, and put back once if it is cancelled. -/
def OrderLogged
    (db : DB)
    (orderID : Int) : Prop :=
  (entriesOf db.stockLogs orderID).Perm
    (deductEntries db.orderItems orderID ++
      if statusOf db orderID = some .cancelled then
        rollbackEntries db.orderItems orderID
      else
        [])

omit [Deployment] in
theorem entriesOf_append
    (logs logs' : List StockLog)
    (orderID : Int) :
    entriesOf (logs ++ logs') orderID =
      entriesOf logs orderID ++ entriesOf logs' orderID := by
  simp [entriesOf]

omit [Deployment] in
/- Logs whose entries name one order are its own. -/
theorem entriesOf_eq
    {logs : List StockLog}
    {entries : List (Int × Int × StockBiz × Option Int)}
    (orderID : Int)
    (hEntries : (logs.map StockLog.entry).Perm entries)
    (hOwn : ∀ entry ∈ entries, entry.2.2.2 = some orderID)
    (id : Int) :
    (entriesOf logs id).Perm
      (if orderID = id then entries else []) := by
  have hBizID :
      ∀ log ∈ logs, log.bizID = some orderID := by
    intro log hLog
    exact hOwn log.entry
      (hEntries.mem_iff.mp (List.mem_map_of_mem hLog))
  unfold entriesOf
  by_cases hHere : orderID = id
  · subst hHere
    rw [if_pos rfl, List.filter_eq_self.mpr
      (by simpa using hBizID)]
    exact hEntries
  · rw [if_neg hHere, List.filter_eq_nil_iff.mpr]
    · exact List.Perm.refl _
    · intro log hLog
      rw [hBizID log hLog]
      simpa using hHere

/- Logs that are about no order leave every order alone. -/
theorem OrderLogged.of_others
    {db db' : DB}
    {logs : List StockLog}
    {orderID : Int}
    (hLogged : OrderLogged db orderID)
    (hLogs : db'.stockLogs = db.stockLogs ++ logs)
    (hOthers : entriesOf logs orderID = [])
    (hItems :
      linesOf db'.orderItems orderID =
        linesOf db.orderItems orderID)
    (hStatus :
      statusOf db' orderID = some .cancelled ↔
        statusOf db orderID = some .cancelled) :
    OrderLogged db' orderID := by
  unfold OrderLogged deductEntries rollbackEntries at *
  rw [hLogs, entriesOf_append, hOthers, List.append_nil,
    hItems]
  simp only [hStatus]
  exact hLogged

/- An order is created with a log for each of its items. -/
theorem OrderPlaced.orderLogged
    {view : DB}
    {now nextAttemptAt : Time}
    {userID : Int}
    {idempotencyKey requestHash : String}
    {items : List CreateOrderItemRequest}
    {ids : GeneratedIDs}
    {order : Order}
    {db db' : DB}
    (hPlaced :
      OrderPlaced view now nextAttemptAt userID
        idempotencyKey requestHash items ids order db db')
    (hWellFormed : db.WellFormed)
    {orderID : Int}
    (hLogged : OrderLogged db orderID) :
    OrderLogged db' orderID := by
  rcases hPlaced.placed with
    ⟨newItems, logs, hItems, hLogs, hOwn, hLines, hEntries⟩
  have hNewEntries :=
    entriesOf_eq order.id (List.Perm.of_eq hEntries) (by
        intro entry hEntry
        rcases List.mem_map.mp hEntry with ⟨item, _, rfl⟩
        rfl) orderID
  have hFree := (Table.insert?_eq_some_iff.mp hPlaced.orders).1
  have hStatus :
      statusOf db' orderID =
        if order.id = orderID then some .pending
        else statusOf db orderID := by
    unfold statusOf
    rw [Table.find?_of_insert? hPlaced.orders, key_order]
    split
    · rw [Option.map_some, hPlaced.status]
    · rfl
  by_cases hHere : order.id = orderID
  · subst hHere
    have hNoItems :
        OrderManagement.linesOf db.orderItems order.id =
          [] := by
      apply linesOf_eq_nil
      rintro item hItem hSame
      have hOrder := hWellFormed.itemsOwned item hItem
      rw [hSame, ← key_order, hFree] at hOrder
      cases hOrder
    have hNoLogs : entriesOf db.stockLogs order.id = [] := by
      have hStatusNone : statusOf db order.id = none := by
        unfold statusOf
        rw [← key_order, hFree]
        rfl
      unfold OrderLogged deductEntries at hLogged
      rw [hNoItems, hStatusNone] at hLogged
      simpa using hLogged
    unfold OrderLogged deductEntries
    rw [hLogs, entriesOf_append, hNoLogs, hStatus, if_pos rfl,
      hPlaced.linesOf hWellFormed, List.map_map]
    rw [if_pos rfl] at hNewEntries
    simp only [reduceCtorEq, Option.some.injEq, if_false,
      List.nil_append, List.append_nil]
    exact hNewEntries
  · rw [if_neg hHere] at hStatus hNewEntries
    refine hLogged.of_others hLogs hNewEntries.eq_nil ?_
      (by rw [hStatus])
    rw [hItems, linesOf_append]
    have hOther :
        OrderManagement.linesOf newItems orderID = [] := by
      apply linesOf_eq_nil
      intro item hItem
      rw [hOwn item hItem]
      exact hHere
    rw [hOther, List.append_nil]

/- A status change writes the entries of its order. -/
theorem OrderMoved.orderLogged
    {db db' : DB}
    {order : Order}
    {toStatus : OrderStatus}
    {timeField : OrderTimeField}
    {now : Time}
    {stock locked : Int → Int}
    {entries : List (Int × Int × StockBiz × Option Int)}
    (hMoved :
      OrderMoved db db' order toStatus timeField now stock
        locked entries)
    (hStatus : order.status ≠ .cancelled)
    (hEntries :
      entries =
        if toStatus = .cancelled then
          rollbackEntries db.orderItems order.id
        else
          [])
    {orderID : Int}
    (hLogged : OrderLogged db orderID) :
    OrderLogged db' orderID := by
  rcases hMoved.logs with ⟨logs, hLogs, hPerm⟩
  have hOwn :
      ∀ entry ∈ entries, entry.2.2.2 = some order.id := by
    rw [hEntries]
    split
    · intro entry hEntry
      rcases List.mem_map.mp hEntry with ⟨line, _, rfl⟩
      rfl
    · intro entry hEntry
      cases hEntry
  have hNewEntries := entriesOf_eq _ hPerm hOwn orderID
  have hNewStatus := hMoved.statusOf orderID
  have hItems :
      linesOf db'.orderItems orderID =
        linesOf db.orderItems orderID := by
    rw [hMoved.orderItems]
  by_cases hHere : order.id = orderID
  · subst hHere
    rw [if_pos rfl] at hNewStatus hNewEntries
    have hOld :
        OrderManagement.statusOf db order.id ≠
          some .cancelled := by
      unfold OrderManagement.statusOf
      rw [hMoved.find]
      simpa using hStatus
    unfold OrderLogged deductEntries at hLogged ⊢
    rw [if_neg hOld, List.append_nil] at hLogged
    rw [hLogs, entriesOf_append, hItems, hNewStatus]
    refine hLogged.append (hNewEntries.trans ?_)
    rw [hEntries, hMoved.orderItems]
    simp
  · rw [if_neg hHere] at hNewStatus hNewEntries
    exact hLogged.of_others hLogs hNewEntries.eq_nil hItems
      (by rw [hNewStatus])

theorem Effect.orderLogged
    {view : DB}
    {request : Request}
    {outcome : Outcome}
    {db db' : DB}
    (hEffect : Effect view request outcome db db')
    (hWellFormed : db.WellFormed)
    {orderID : Int}
    (hLogged : OrderLogged db orderID) :
    OrderLogged db' orderID := by
  cases hEffect with
  | productCreated | productStatusSet =>
      exact hLogged.of_others (List.append_nil _).symm rfl rfl
        Iff.rfl
  | productStatusSame | orderReplayed | cancelRepeated
  | expiryRepeated | expiryIgnored | expiryLate =>
      exact hLogged
  | inventoryInitialised _ _ _ _ _ _ hEntry
  | inventoryAdded _ _ _ hEntry =>
      refine hLogged.of_others rfl ?_ rfl Iff.rfl
      simp only [StockLog.entry, Prod.mk.injEq] at hEntry
      simp [entriesOf, hEntry.2.2.2]
  | orderCreated _ hPlaced =>
      exact hPlaced.orderLogged hWellFormed hLogged
  | orderPaid hPending hMoved =>
      exact OrderMoved.orderLogged hMoved (by simp [hPending])
        rfl hLogged
  | orderFinished hPaid hMoved =>
      exact OrderMoved.orderLogged hMoved (by simp [hPaid]) rfl
        hLogged
  | orderCancelled hPending hMoved
  | orderExpired _ hPending hMoved =>
      exact OrderMoved.orderLogged hMoved (by simp [hPending])
        rfl hLogged

theorem Reaches.orderLogged
    {events : List Event}
    {s : State}
    (hReaches : Reaches events s)
    (orderID : Int) :
    OrderLogged s.db orderID := by
  refine hReaches.induction
    (P := fun _ db => OrderLogged db orderID) ?_ ?_ ?_ ?_
  · exact List.Perm.refl _
  · intro _ db db' _ hLogged hTouched
    rcases hTouched with ⟨f, _, _, rfl⟩
    exact hLogged.of_others (List.append_nil _).symm rfl rfl
      Iff.rfl
  · intro _ e outcome view hWellFormed hLogged _ _ hEffect
    exact hEffect.orderLogged hWellFormed hLogged
  · intro _ e err _ hLogged _ _
    exact hLogged

------------------------------------------------------------
-- The Stock Ledger
------------------------------------------------------------

/- What the stock logs of a database say. -/
structure StockLedger
    (db : DB) : Prop where
  balanced :
    ∀ log ∈ db.stockLogs,
      log.afterQuantity =
        log.beforeQuantity + log.changeQuantity
  first :
    ∀ p log rest, logsOf db.stockLogs p = log :: rest →
      log.beforeQuantity = 0
  linked :
    ∀ p pre log next rest,
      logsOf db.stockLogs p = pre ++ log :: next :: rest →
        next.beforeQuantity = log.afterQuantity
  last :
    ∀ p pre log, logsOf db.stockLogs p = pre ++ [log] →
      log.afterQuantity = stockOf db.inventories p
  unlogged :
    ∀ p, logsOf db.stockLogs p = [] →
      stockOf db.inventories p = 0
  orders :
    ∀ orderID, OrderLogged db orderID

theorem stock_ledger
    {events : List Event}
    {s : State}
    (hReaches : Reaches events s) :
    StockLedger s.db where
  balanced log _ := log.quantityBalance
  first p log rest hLogs := by
    have hLeads := hReaches.ledgered p
    rw [hLogs] at hLeads
    exact hLeads.first
  linked p pre log next rest hLogs := by
    have hLeads := hReaches.ledgered p
    rw [hLogs] at hLeads
    exact hLeads.link
  last p pre log hLogs := by
    have hLeads := hReaches.ledgered p
    rw [hLogs] at hLeads
    exact hLeads.last
  unlogged p hLogs := by
    have hLeads := hReaches.ledgered p
    rw [hLogs] at hLeads
    exact hLeads.symm
  orders := hReaches.orderLogged

end OrderManagement

namespace OrderManagement

attribute [local instance] sampleDeployment

/- The sample order is cancelled again. Of product 1 there
   are then four logs: its first stock, the deduction, the
   addition, and the rollback. -/
theorem stock_ledger_sample :
    let db :=
      serialDB DB.empty
        (sampleCalls ++ [sampleCall (.cancelOrder 3 7) 0])
    (logsOf db.stockLogs 1).map StockLog.afterQuantity =
        [10, 6, 11, 15] ∧
      (entriesOf db.stockLogs 7).length = 2 ∧
      StockLedger db := by
  refine ⟨by decide +kernel, by decide +kernel, ?_⟩
  have hReaches :=
    reaches_serial
      (sampleCalls ++ [sampleCall (.cancelOrder 3 7) 0])
  have hLedger := stock_ledger hReaches
  dsimp only at hLedger
  exact hLedger

end OrderManagement
