import OrderManagement.Dao.Writes
import OrderManagement.Library.Ledger
import OrderManagement.Service.TransitionEffects

/-
  The logs of a product are a ledger of its stock: every
  transaction goes on where the stock of each product
  stood, and leaves it where its last log says.

  Main declarations:
    * `logsOf`
    * `Ledgered`
    * `OrderService.createOrder_ledgered`
    * `cancelPendingOrder_ledgered`
-/

namespace OrderManagement

open Ledger Transaction

------------------------------------------------------------
-- Ledgers of Products
------------------------------------------------------------

/- The logs of a product, in the order of their insertion. -/
def logsOf
    (logs : List StockLog)
    (p : Int) : List StockLog :=
  logs.filter fun log => log.productID = p

/- The logs lead from one stock of a product to another. -/
abbrev Leads
    (stock : Int)
    (logs : List StockLog)
    (stock' : Int) : Prop :=
  Chained StockLog.beforeQuantity StockLog.afterQuantity
    stock logs stock'

variable [Deployment]

/- The second database continues the ledgers of the first. -/
def Ledgered
    (db db' : DB) : Prop :=
  ∃ logs,
    db'.stockLogs = db.stockLogs ++ logs ∧
      ∀ p,
        Leads (stockOf db.inventories p) (logsOf logs p)
          (stockOf db'.inventories p)

theorem Ledgered.of_same
    {db db' : DB}
    (hLogs : db'.stockLogs = db.stockLogs)
    (hStock :
      ∀ p,
        stockOf db'.inventories p = stockOf db.inventories p) :
    Ledgered db db' :=
  ⟨[], by simp [hLogs], fun p => (hStock p).symm⟩

theorem Ledgered.trans
    {a b c : DB}
    (hFirst : Ledgered a b)
    (hSecond : Ledgered b c) :
    Ledgered a c := by
  rcases hFirst with ⟨logs, hLogs, hLeads⟩
  rcases hSecond with ⟨logs', hLogs', hLeads'⟩
  refine ⟨logs ++ logs', ?_, fun p => ?_⟩
  · rw [hLogs', hLogs, List.append_assoc]
  · unfold logsOf
    rw [List.filter_append]
    exact (hLeads p).append (hLeads' p)

instance : IsPreorder DB Ledgered where
  refl _ := Ledgered.of_same rfl fun _ => rfl
  trans _ _ _ := Ledgered.trans

/- The stock of one product changes and its log says how. -/
theorem Ledgered.of_logged
    {db db' : DB}
    {log : StockLog}
    (hLogs : db'.stockLogs = db.stockLogs ++ [log])
    (hStock :
      ∀ p,
        stockOf db'.inventories p =
          stockOf db.inventories p +
            (Pi.single log.productID log.changeQuantity :
              Int → Int) p)
    (hBefore :
      log.beforeQuantity =
        stockOf db.inventories log.productID) :
    Ledgered db db' := by
  refine ⟨[log], hLogs, fun p => ?_⟩
  rw [hStock]
  unfold logsOf
  by_cases hProduct : log.productID = p
  · subst hProduct
    rw [List.filter_cons_of_pos (by simp), List.filter_nil,
      Pi.single_eq_same, ← hBefore, ← log.quantityBalance]
    exact Chained.single log
  · rw [List.filter_cons_of_neg (by simpa using hProduct),
      List.filter_nil, Pi.single_eq_of_ne (Ne.symm hProduct),
      add_zero]
    exact Chained.nil _

/- A product gets its row and the log of its first stock. -/
theorem Ledgered.of_inserted
    {db : DB}
    {inventory : Inventory}
    {inventories : Table Inventory}
    {log : StockLog}
    (hInsert :
      db.inventories.insert? inventory = some inventories)
    (hProduct : log.productID = inventory.productID)
    (hChange : log.changeQuantity = inventory.stockQuantity)
    (hBefore : log.beforeQuantity = 0) :
    Ledgered db
      { db with
        inventories := inventories
        stockLogs := db.stockLogs ++ [log] } := by
  have hNone :
      stockOf db.inventories inventory.productID = 0 := by
    have hFree := (Table.insert?_eq_some_iff.mp hInsert).1
    unfold stockOf
    rw [← key_inventory, hFree]
    rfl
  refine Ledgered.of_logged rfl (fun p => ?_) ?_
  · rw [hProduct, hChange]
    by_cases hHere : inventory.productID = p
    · subst hHere
      rw [hNone, Pi.single_eq_same, zero_add]
      unfold stockOf
      rw [Table.find?_of_insert? hInsert, key_inventory,
        if_pos rfl]
      rfl
    · rw [Pi.single_eq_of_ne (Ne.symm hHere), add_zero]
      unfold stockOf
      rw [Table.find?_of_insert? hInsert, key_inventory,
        if_neg hHere]
  · rw [hBefore, hProduct, hNone]

------------------------------------------------------------
-- Creation
------------------------------------------------------------

namespace OrderService

theorem placeOrderItem_ledgered
    {order : Order}
    {line : OrderLine}
    (hProduct : line.2.id = line.1.productID) :
    Guarantees Ledgered (placeOrderItem order line) := by
  intro db _ db' hRound
  rcases commits_placeOrderItem hProduct hRound with
    ⟨inventories, item, log, rfl, hMoved, _, hLine, hQuantity,
      _, _, hLogProduct, hLogChange, hLogBefore, _⟩
  refine Ledgered.of_logged rfl ?_ ?_
  · rw [hLogProduct, hLogChange]
    exact hMoved.stockOf
  · rw [hLogBefore, hLogProduct]

theorem placeOrder_ledgered
    {view : DB}
    {now nextAttemptAt : Time}
    {userID : Int}
    {idempotencyKey : String}
    {items : List CreateOrderItemRequest}
    {ids : GeneratedIDs} :
    Guarantees Ledgered
      (placeOrder view now nextAttemptAt userID idempotencyKey
        items ids) := by
  unfold placeOrder
  refine Guarantees.bind ?_ ?_
  · intro db lines db' hLoad
    rw [(commits_loadProducts hLoad).1]
    exact refl_of Ledgered db
  intro _ lines _ hLoad
  refine Guarantees.bind (Guarantees.check _ _) ?_
  rintro _ ⟨hTotal⟩ _ -
  refine Guarantees.bind ?_ ?_
  · exact Dao.createOrder_guarantees fun db orders _ =>
      Ledgered.of_same rfl fun _ => rfl
  intro _ _ _ _
  refine Guarantees.bind ?_ ?_
  · apply Guarantees.forM
    intro line hLine
    exact placeOrderItem_ledgered (Table.key_of_find?
      ((commits_loadProducts hLoad).2.2 line hLine).1)
  intro _ _ _ _
  refine Guarantees.bind ?_ ?_
  · apply Guarantees.onError
    exact Dao.completeOrderIdempotencyKey_guarantees
      fun db record _ => Ledgered.of_same rfl fun _ => rfl
  intro _ rowsAffected _ _
  refine Guarantees.bind (Guarantees.ensure _ _) ?_
  intro _ _ _ _
  refine Guarantees.bind ?_ ?_
  · exact Dao.createOrderTimeoutOutbox_guarantees
      fun db rows _ => Ledgered.of_same rfl fun _ => rfl
  intro _ _ _ _
  exact Guarantees.pure _

/- A replay only reads. -/
theorem replayOrder_ledgered
    {view : DB}
    {userID : Int}
    {idempotencyKey requestHash : String} :
    Guarantees Ledgered
      (replayOrder view userID idempotencyKey requestHash) := by
  unfold replayOrder
  refine Guarantees.bind (Guarantees.fetch _ _) ?_
  intro _ record _ _
  refine Guarantees.bind (Guarantees.ensure _ _) ?_
  intro _ _ _ _
  cases record.status with
  | orderBeingCreated => exact Guarantees.throw _
  | orderAlreadyCreated =>
      refine Guarantees.bind (Guarantees.fetch _ _) ?_
      intro _ _ _ _
      exact Guarantees.fetch _ _

theorem createOrder_ledgered
    {view : DB}
    {now nextAttemptAt : Time}
    {userID : Int}
    {idempotencyKey requestHash : String}
    {items : List CreateOrderItemRequest}
    {ids : GeneratedIDs} :
    Guarantees Ledgered
      (createOrder view now nextAttemptAt userID
        idempotencyKey requestHash items ids) := by
  unfold createOrder
  refine Guarantees.bind ?_ ?_
  · exact Dao.tryCreateOrderIdempotencyKey_guarantees
      fun db keys _ => Ledgered.of_same rfl fun _ => rfl
  intro _ acquired _ _
  apply Guarantees.ite
  · intro _
    refine Guarantees.bind placeOrder_ledgered ?_
    intro _ _ _ _
    exact Guarantees.pure _
  · intro _
    refine Guarantees.bind replayOrder_ledgered ?_
    intro _ _ _ _
    exact Guarantees.pure _

end OrderService

------------------------------------------------------------
-- Cancellation
------------------------------------------------------------

theorem restoreLine_ledgered
    {order : Order}
    {remarkPrefix : String}
    {line : ItemQuantity} :
    Guarantees Ledgered
      (restoreLine order remarkPrefix line) := by
  intro db _ db' hRound
  rcases commits_restoreLine hRound with
    ⟨inventories, log, rfl, hMoved, hLogProduct, hLogChange,
      hLogBefore, _⟩
  refine Ledgered.of_logged rfl ?_ ?_
  · rw [hLogProduct, hLogChange]
    exact hMoved.stockOf
  · rw [hLogBefore, hLogProduct]

theorem cancelPendingOrder_ledgered
    {view : DB}
    {now : Time}
    {order : Order}
    {remarkPrefix : String} :
    Guarantees Ledgered
      (cancelPendingOrder view now order remarkPrefix) := by
  unfold cancelPendingOrder
  refine Guarantees.bind ?_ ?_
  · exact Dao.patchOrderStatus_guarantees
      fun db order _ _ _ => Ledgered.of_same rfl fun _ => rfl
  intro _ rows _ _
  apply Guarantees.ite
  · intro _
    exact Guarantees.pure false
  · intro _
    refine Guarantees.bind ?_ ?_
    · apply Guarantees.forM
      intro line _
      exact restoreLine_ledgered
    intro _ _ _ _
    exact Guarantees.pure true

namespace OrderService

theorem cancelOrder_ledgered
    {view : DB}
    {now : Time}
    {userID orderID : Int} :
    Guarantees Ledgered
      (cancelOrder view now userID orderID) := by
  unfold cancelOrder
  refine Guarantees.bind (Guarantees.fetch _ _) ?_
  intro _ order _ _
  cases order.status with
  | cancelled => exact Guarantees.pure _
  | paid => exact Guarantees.throw _
  | finished => exact Guarantees.throw _
  | pending =>
      refine Guarantees.bind cancelPendingOrder_ledgered ?_
      intro _ cancelled _ _
      refine Guarantees.bind (Guarantees.ensure _ _) ?_
      intro _ _ _ _
      exact Guarantees.pure _

theorem cancelExpiredOrder_ledgered
    {view : DB}
    {now : Time}
    {eventID : String}
    {orderID : Int} :
    Guarantees Ledgered
      (cancelExpiredOrder view now eventID orderID) := by
  unfold cancelExpiredOrder
  cases Dao.getOrderTimeoutOutbox view eventID orderID with
  | none => exact Guarantees.pure _
  | some outbox =>
      refine Guarantees.bind (Guarantees.ensure _ _) ?_
      intro _ _ _ _
      cases Dao.getOrderByIDForSystem view orderID with
      | none => exact Guarantees.pure _
      | some order =>
          dsimp only
          cases order.status with
          | cancelled => exact Guarantees.pure _
          | paid => exact Guarantees.pure _
          | finished => exact Guarantees.pure _
          | pending =>
              refine Guarantees.bind
                cancelPendingOrder_ledgered ?_
              intro _ restored _ _
              apply Guarantees.ite <;> intro _ <;>
                exact Guarantees.pure _

end OrderService

end OrderManagement
