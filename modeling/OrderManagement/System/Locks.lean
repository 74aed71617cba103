import OrderManagement.Library.Locking
import OrderManagement.System.Serial
import Mathlib.Data.Int.ConditionallyCompleteOrder
import Mathlib.Data.Prod.Lex
import Mathlib.Order.ConditionallyCompleteLattice.Indexed

/-
  The rows that the transaction of a call locks, in the order
  of its statements. All calls lock idempotency keys before
  orders, orders before inventories, and inventories by
  ascending product id, so they never deadlock.

  Main declarations:
    * `RowLock` and `Request.locks`
    * `Request.locks_ascending`
    * `Effect.withinLocks`
    * `transactions_deadlock_free`
-/

namespace OrderManagement

------------------------------------------------------------
-- Locks of a Call
------------------------------------------------------------

inductive RowLock
| product (id : Int)
| idempotencyKey (slot : Int × String)
| order (id : Int)
| inventory (productID : Int)
deriving DecidableEq, Repr

/- The kind of a row comes first, and then the product. -/
def RowLock.rank : RowLock → Lex (Nat × Int)
| .product _ => toLex (0, 0)
| .idempotencyKey _ => toLex (0, 0)
| .order _ => toLex (1, 0)
| .inventory productID => toLex (2, productID)

variable [Deployment]

/- The inventories that a payment or a cancellation updates,
   in the order of its loop. -/
def inventoryLocks
    (db : DB)
    (orderID : Int) : List RowLock :=
  (inventoryLines db orderID).map fun line =>
    .inventory line.productID

/-
  The rows that a call locks, given the database from which
  it reads the items of its order. A call that stops early
  takes the first ones only.
-/
def Request.locks
    (db : DB) : Request → List RowLock
| .createProduct _ _ _ _ => []
| .onSaleProduct id => [.product id]
| .offSaleProduct id => [.product id]
| .initInventory productID _ => [.inventory productID]
| .addInventory productID _ => [.inventory productID]
| .createOrder userID req ids =>
    match OrderService.checkCreateOrder userID req with
    | .error _ => []
    | .ok (_, items) =>
        .idempotencyKey
            (idempotencySlot userID req.idempotencyKey) ::
          .order ids.orderID ::
          items.map fun item => .inventory item.productID
| .payOrder _ orderID =>
    .order orderID :: inventoryLocks db orderID
| .finishOrder _ orderID => [.order orderID]
| .cancelOrder _ orderID =>
    .order orderID :: inventoryLocks db orderID
| .cancelExpiredOrder _ orderID =>
    .order orderID :: inventoryLocks db orderID

------------------------------------------------------------
-- Sorted Items
------------------------------------------------------------

omit [Deployment] in
theorem mem_addQuantity
    {line entry : ItemQuantity}
    {entries : List ItemQuantity}
    (hMem : entry ∈ addQuantity line entries) :
    entry.productID = line.productID ∨
      entry.productID ∈
        entries.map ItemQuantity.productID := by
  induction entries with
  | nil =>
      rw [addQuantity, List.mem_singleton] at hMem
      exact Or.inl (hMem ▸ rfl)
  | cons first rest ih =>
      rw [addQuantity] at hMem
      split at hMem
      case isTrue hSame =>
        right
        rcases List.mem_cons.mp hMem with rfl | hRest
        · exact List.mem_cons_self ..
        · exact List.mem_cons_of_mem _
            (List.mem_map_of_mem hRest)
      case isFalse =>
        rcases List.mem_cons.mp hMem with rfl | hRest
        · exact Or.inr (List.mem_cons_self ..)
        · rcases ih hRest with hLine | hOld
          · exact Or.inl hLine
          · exact Or.inr (List.mem_cons_of_mem _ hOld)

omit [Deployment] in
theorem addQuantity_nodup
    (line : ItemQuantity)
    {entries : List ItemQuantity}
    (hNodup : (entries.map ItemQuantity.productID).Nodup) :
    ((addQuantity line entries).map
      ItemQuantity.productID).Nodup := by
  induction entries with
  | nil => simp [addQuantity]
  | cons first rest ih =>
      rw [List.map_cons, List.nodup_cons] at hNodup
      rw [addQuantity]
      split
      case isTrue =>
        rw [List.map_cons, List.nodup_cons]
        exact hNodup
      case isFalse hOther =>
        rw [List.map_cons, List.nodup_cons]
        refine ⟨?_, ih hNodup.2⟩
        intro hMem
        rcases List.mem_map.mp hMem with ⟨entry, hIn, hSame⟩
        rcases mem_addQuantity hIn with hLine | hOld
        · exact hOther (hSame.symm.trans hLine)
        · exact hNodup.1 (hSame ▸ hOld)

omit [Deployment] in
/- The keys of a map are distinct. -/
theorem quantityMap_nodup
    (items : List (Option ItemQuantity)) :
    ((quantityMap items).map
      ItemQuantity.productID).Nodup := by
  unfold quantityMap
  have hStart :
      (([] : List ItemQuantity).map
        ItemQuantity.productID).Nodup := List.nodup_nil
  generalize ([] : List ItemQuantity) = entries at hStart ⊢
  induction items generalizing entries with
  | nil => exact hStart
  | cons item items ih =>
      refine ih _ ?_
      cases item with
      | none => exact hStart
      | some line =>
          rw [enterItem]
          split
          · exact hStart
          · exact addQuantity_nodup line hStart

omit [Deployment] in
theorem pairwise_productID_lt
    {lines : List ItemQuantity}
    (hSorted :
      lines.Pairwise fun a b => a.productID ≤ b.productID)
    (hNodup : (lines.map ItemQuantity.productID).Nodup) :
    lines.Pairwise fun a b => a.productID < b.productID := by
  have hDistinct :
      lines.Pairwise fun a b => a.productID ≠ b.productID :=
    List.pairwise_map.mp hNodup
  refine (hSorted.and hDistinct).imp ?_
  rintro a b ⟨hLE, hNE⟩
  exact lt_of_le_of_ne hLE hNE

omit [Deployment] in
theorem aggregateAndSortOrderItems_ascending
    (items : List (Option ItemQuantity)) :
    (aggregateAndSortOrderItems items).Pairwise
      fun a b => a.productID < b.productID := by
  unfold aggregateAndSortOrderItems
  refine pairwise_productID_lt ?_ ?_
  · exact List.pairwise_insertionSort _ _
  · exact ((List.perm_insertionSort _ _).map _).nodup_iff.mpr
      (quantityMap_nodup items)

omit [Deployment] in
/- In whatever order the loop goes through the map, sorting
   leads to the same list. -/
theorem aggregateAndSortOrderItems_eq
    {items : List (Option ItemQuantity)}
    {entries : List ItemQuantity}
    (hEntries : entries.Perm (quantityMap items)) :
    entries.insertionSort
        (fun a b => a.productID ≤ b.productID) =
      aggregateAndSortOrderItems items := by
  have hPerm :
      (entries.insertionSort fun a b =>
        a.productID ≤ b.productID).Perm
          (aggregateAndSortOrderItems items) :=
    ((List.perm_insertionSort _ _).trans hEntries).trans
      (List.perm_insertionSort _ _).symm
  have hNodup :
      ((entries.insertionSort fun a b =>
        a.productID ≤ b.productID).map
          ItemQuantity.productID).Nodup :=
    (((List.perm_insertionSort _ _).trans hEntries).map
      _).nodup_iff.mpr (quantityMap_nodup items)
  refine hPerm.eq_of_pairwise ?_
    (pairwise_productID_lt (List.pairwise_insertionSort _ _)
      hNodup)
    (aggregateAndSortOrderItems_ascending items)
  intro a b _ _ hLT hGT
  exact absurd hLT (lt_asymm hGT)

omit [Deployment] in
theorem sortedOrderItems_ascending
    {items : List CreateOrderItemRequest}
    (hNodup :
      (items.map CreateOrderItemRequest.productID).Nodup) :
    (sortedOrderItems items).Pairwise
      fun a b => a.productID < b.productID := by
  have hSorted :=
    List.pairwise_insertionSort itemLE items
  have hDistinct :
      (sortedOrderItems items).Pairwise
        fun a b => a.productID ≠ b.productID := by
    refine List.pairwise_map.mp ?_
    exact ((sortedOrderItems_perm items).map _).nodup_iff.mpr
      hNodup
  refine (hSorted.and hDistinct).imp ?_
  rintro a b ⟨hLE, hNE⟩
  exact hLE.resolve_right fun hSame => hNE hSame.1

------------------------------------------------------------
-- The Order of the Locks
------------------------------------------------------------

omit [Deployment] in
theorem ascending_inventory
    {α : Type}
    {productID : α → Int}
    {lines : List α}
    (hLines :
      lines.Pairwise fun a b => productID a < productID b) :
    Locking.Ascending RowLock.rank
      (lines.map fun line => .inventory (productID line)) := by
  refine List.pairwise_map.mpr (hLines.imp ?_)
  intro a b hLT
  exact Prod.Lex.toLex_lt_toLex.mpr (Or.inr ⟨rfl, hLT⟩)

omit [Deployment] in
/- An order comes before the inventories. -/
theorem ascending_order
    {α : Type}
    {productID : α → Int}
    {lines : List α}
    (orderID : Int)
    (hLines :
      lines.Pairwise fun a b => productID a < productID b) :
    Locking.Ascending RowLock.rank
      (.order orderID ::
        lines.map fun line => .inventory (productID line)) := by
  refine List.pairwise_cons.mpr
    ⟨?_, ascending_inventory hLines⟩
  intro lock hMem
  rcases List.mem_map.mp hMem with ⟨line, _, rfl⟩
  exact Prod.Lex.toLex_lt_toLex.mpr
    (Or.inl (Nat.lt_succ_self 1))

omit [Deployment] in
/- An idempotency key comes before an order. -/
theorem ascending_key
    {slot : Int × String}
    {orderID : Int}
    {locks : List RowLock}
    (hLocks :
      Locking.Ascending RowLock.rank (.order orderID :: locks)) :
    Locking.Ascending RowLock.rank
      (.idempotencyKey slot :: .order orderID :: locks) := by
  have hFirst :
      RowLock.rank (.idempotencyKey slot) <
        RowLock.rank (.order orderID) :=
    Prod.Lex.toLex_lt_toLex.mpr (Or.inl Nat.zero_lt_one)
  refine List.pairwise_cons.mpr ⟨?_, hLocks⟩
  intro lock hMem
  rcases List.mem_cons.mp hMem with rfl | hRest
  · exact hFirst
  · exact hFirst.trans
      ((List.pairwise_cons.mp hLocks).1 lock hRest)

/- Every call takes its locks in the order of their ranks. -/
theorem Request.locks_ascending
    (db : DB)
    (request : Request) :
    Locking.Ascending RowLock.rank (request.locks db) := by
  have hOrder :
      ∀ orderID,
        Locking.Ascending RowLock.rank
          (.order orderID :: inventoryLocks db orderID) :=
    fun orderID =>
      ascending_order orderID
        (aggregateAndSortOrderItems_ascending _)
  cases request with
  | createProduct => exact List.Pairwise.nil
  | onSaleProduct | offSaleProduct | initInventory
  | addInventory | finishOrder =>
      exact List.pairwise_singleton ..
  | payOrder userID orderID => exact hOrder orderID
  | cancelOrder userID orderID => exact hOrder orderID
  | cancelExpiredOrder eventID orderID => exact hOrder orderID
  | createOrder userID req ids =>
      simp only [Request.locks]
      split
      case h_1 => exact List.Pairwise.nil
      case h_2 requestHash items hChecked =>
        rcases OrderService.checkCreateOrder_eq_ok_iff.mp
          hChecked with ⟨_, _, _, hNodup, _, rfl⟩
        exact ascending_key
          (ascending_order ids.orderID
            (sortedOrderItems_ascending hNodup))

------------------------------------------------------------
-- Changed Rows
------------------------------------------------------------

/- Only rows among these locks differ. -/
structure WithinLocks
    (locks : List RowLock)
    (db db' : DB) : Prop where
  keys :
    ∀ slot, .idempotencyKey slot ∉ locks →
      db'.orderIdempotencyKeys.find? slot =
        db.orderIdempotencyKeys.find? slot
  orders :
    ∀ id, .order id ∉ locks →
      db'.orders.find? id = db.orders.find? id
  inventories :
    ∀ p, .inventory p ∉ locks →
      db'.inventories.find? p = db.inventories.find? p

theorem WithinLocks.refl
    (locks : List RowLock)
    (db : DB) :
    WithinLocks locks db db where
  keys _ _ := rfl
  orders _ _ := rfl
  inventories _ _ := rfl

omit [Deployment] in
/- An inventory whose counters did not move is the same. -/
theorem InventoriesMoved.find?_eq
    {before after : Table Inventory}
    {stock locked : Int → Int}
    {p : Int}
    (hMoved : InventoriesMoved before after stock locked)
    (hStock : stock p = 0)
    (hLocked : locked p = 0) :
    after.find? p = before.find? p := by
  have hSome := hMoved.isSome p
  have hSameStock := hMoved.stockOf p
  have hSameLocked := hMoved.lockedOf p
  rw [hStock, add_zero] at hSameStock
  rw [hLocked, add_zero] at hSameLocked
  cases hOld : before.find? p with
  | none =>
      rw [hOld] at hSome
      exact Option.not_isSome_iff_eq_none.mp (by simp [hSome])
  | some old =>
      rw [hOld] at hSome
      rcases Option.isSome_iff_exists.mp hSome with
        ⟨new, hNew⟩
      have hKeys :=
        (Table.key_of_find? hNew).trans
          (Table.key_of_find? hOld).symm
      unfold OrderManagement.stockOf at hSameStock
      unfold OrderManagement.lockedOf at hSameLocked
      rw [hNew, hOld] at hSameStock hSameLocked
      rw [hNew]
      cases new
      cases old
      simp_all

/- An order that moves takes the inventories of its lines
   with it. -/
theorem OrderMoved.withinLocks
    {db db' : DB}
    {order : Order}
    {toStatus : OrderStatus}
    {timeField : OrderTimeField}
    {now : Time}
    {stock locked : Int → Int}
    {entries : List (Int × Int × StockBiz × Option Int)}
    {locks : List RowLock}
    (hMoved :
      OrderMoved db db' order toStatus timeField now stock
        locked entries)
    (hOrder : .order order.id ∈ locks)
    (hStill :
      ∀ p, .inventory p ∉ locks → stock p = 0 ∧ locked p = 0) :
    WithinLocks locks db db' where
  keys slot _ := by rw [hMoved.keys]
  orders id hFree := by
    rw [hMoved.orders, Table.find?_update, if_neg]
    rintro rfl
    exact hFree hOrder
  inventories p hFree :=
    hMoved.moved.find?_eq (hStill p hFree).1 (hStill p hFree).2

/- A product without a lock has no line in the order. -/
theorem orderQuantity_of_unlocked
    {db : DB}
    {orderID p : Int}
    (hWellFormed : db.WellFormed)
    (hFree : .inventory p ∉ inventoryLocks db orderID) :
    orderQuantity db.orderItems orderID p = 0 := by
  refine quantityOf_of_not_mem fun hMem => hFree ?_
  have hPerm :=
    (inventoryLines_perm
      (hWellFormed.linesOrderly orderID)).map
        ItemQuantity.productID
  rcases List.mem_map.mp (hPerm.mem_iff.mpr hMem) with
    ⟨line, hLine, rfl⟩
  exact List.mem_map_of_mem hLine

theorem OrderPlaced.withinLocks
    {view : DB}
    {now nextAttemptAt : Time}
    {userID : Int}
    {idempotencyKey requestHash : String}
    {items : List CreateOrderItemRequest}
    {ids : GeneratedIDs}
    {order : Order}
    {db db' : DB}
    (hPlaced :
      OrderPlaced view now nextAttemptAt userID
        idempotencyKey requestHash items ids order db db') :
    WithinLocks
      (.idempotencyKey (idempotencySlot userID idempotencyKey)
        :: .order ids.orderID ::
        items.map fun item => .inventory item.productID)
      db db' where
  keys slot hFree := by
    rw [hPlaced.keys, if_neg]
    rintro rfl
    simp at hFree
  orders id hFree := by
    rw [Table.find?_of_insert? hPlaced.orders, if_neg]
    intro hID
    have hID : order.id = id := hID
    rw [hPlaced.id] at hID
    simp [hID] at hFree
  inventories p hFree := by
    have hNone :
        quantityOf
          (items.map CreateOrderItemRequest.line) p = 0 := by
      refine quantityOf_of_not_mem fun hMem => hFree ?_
      rw [List.map_map] at hMem
      rcases List.mem_map.mp hMem with ⟨item, hItem, rfl⟩
      refine List.mem_cons_of_mem _ (List.mem_cons_of_mem _ ?_)
      exact List.mem_map.mpr ⟨item, hItem, rfl⟩
    refine hPlaced.moved.find?_eq ?_ hNone
    rw [Pi.neg_apply, hNone, neg_zero]

/- A call that commits changes only rows that it locks. -/
theorem Effect.withinLocks
    {view : DB}
    {request : Request}
    {outcome : Outcome}
    {db db' : DB}
    (hWellFormed : db.WellFormed)
    (hEffect : Effect view request outcome db db') :
    WithinLocks (request.locks db) db db' := by
  have hUnlocked :
      ∀ orderID p,
        .inventory p ∉
            .order orderID :: inventoryLocks db orderID →
          orderQuantity db.orderItems orderID p = 0 :=
    fun orderID p hFree =>
      orderQuantity_of_unlocked hWellFormed fun hMem =>
        hFree (List.mem_cons_of_mem _ hMem)
  cases hEffect with
  | productCreated | productStatusSame | productStatusSet
  | orderReplayed | cancelRepeated | expiryRepeated
  | expiryIgnored | expiryLate =>
      exact ⟨fun _ _ => rfl, fun _ _ => rfl, fun _ _ => rfl⟩
  | @inventoryInitialised productID quantity inventory _ _ _ _
      _ hKey _ _ hInsert =>
      refine ⟨fun _ _ => rfl, fun _ _ => rfl, ?_⟩
      intro p hFree
      have hOther : Keyed.key inventory ≠ p := by
        rintro rfl
        simp [Request.locks, hKey] at hFree
      rw [Table.find?_of_insert? hInsert, if_neg hOther]
  | inventoryAdded _ _ hMoved =>
      refine ⟨fun _ _ => rfl, fun _ _ => rfl, ?_⟩
      intro p hFree
      refine hMoved.find?_eq ?_ rfl
      simp [Request.locks] at hFree
      exact Pi.single_eq_of_ne hFree _
  | orderCreated hChecked hPlaced =>
      simp only [Request.locks, hChecked]
      exact hPlaced.withinLocks
  | orderFinished _ hFinished =>
      exact OrderMoved.withinLocks hFinished
        (List.mem_cons_self ..) fun _ _ => ⟨rfl, rfl⟩
  | orderPaid _ hPaid =>
      refine OrderMoved.withinLocks hPaid
        (List.mem_cons_self ..) fun p hFree => ⟨rfl, ?_⟩
      rw [Pi.neg_apply, hUnlocked _ p hFree, neg_zero]
  | orderCancelled _ hCancelled
  | orderExpired _ _ hCancelled =>
      refine OrderMoved.withinLocks hCancelled
        (List.mem_cons_self ..) fun p hFree => ?_
      have hNone := hUnlocked _ p hFree
      exact ⟨hNone, by rw [Pi.neg_apply, hNone, neg_zero]⟩

------------------------------------------------------------
-- Deadlocks
------------------------------------------------------------

/-
  Finitely many calls, each on the database from which it
  reads, in any state that their transactions can reach: no
  transaction waits for itself through others, and while one
  is unfinished, one can take its next step.
-/
theorem transactions_deadlock_free
    {ι : Type}
    [Finite ι]
    [DecidableEq ι]
    (calls : ι → DB × Request)
    {s : ι → Locking.Holder RowLock}
    {ls : List ι}
    (hRun :
      Transition.Run Locking.Step
        (Locking.start fun i => (calls i).2.locks (calls i).1)
        ls s) :
    (∀ i, ¬ Relation.TransGen (Locking.WaitsFor s) i i) ∧
      ((∃ i, Locking.Unfinished s i) →
        ∃ i, Locking.Enabled s i) := by
  have hAscending :
      ∀ i, (s i).Ascending RowLock.rank :=
    Locking.ascending_of_run
      (fun i => Request.locks_ascending _ _) hRun
  exact ⟨Locking.not_waitsFor_self hAscending,
    Locking.exists_enabled hAscending⟩

end OrderManagement

------------------------------------------------------------
-- Crossed Orders
------------------------------------------------------------

namespace OrderManagement

attribute [local instance] sampleDeployment

/- Two users order the same products, in crossed orders. -/
def crossedCalls
    (first : Bool) : DB × Request :=
  if first then
    (DB.empty,
      .createOrder 3 ⟨"k", [⟨1, 4⟩, ⟨2, 1⟩]⟩ sampleIDs)
  else
    (DB.empty,
      .createOrder 4 ⟨"k", [⟨2, 1⟩, ⟨1, 4⟩]⟩
        ⟨8, "ORD8", "E8", sampleSecondID_pos⟩)

def crossedLocks
    (first : Bool) : List RowLock :=
  if first then
    [.idempotencyKey (3, "K"), .order 7, .inventory 1,
      .inventory 2]
  else
    [.idempotencyKey (4, "K"), .order 8, .inventory 1,
      .inventory 2]

theorem crossedCalls_locks :
    (fun i => (crossedCalls i).2.locks (crossedCalls i).1) =
      crossedLocks := by
  funext i
  cases i <;> decide +kernel

/- The states of the two transactions. -/
def holders
    (a b : Locking.Holder RowLock)
    (first : Bool) : Locking.Holder RowLock :=
  if first then a else b

theorem holders_acquire_true
    {held todo : List RowLock}
    {r : RowLock}
    {b : Locking.Holder RowLock}
    (hFree : r ∉ b.held) :
    Locking.Step (holders (.running held (r :: todo)) b) true
      (holders (.running (r :: held) todo) b) := by
  have hStep :
      Locking.Step (holders (.running held (r :: todo)) b) true
        _ :=
    .acquire rfl fun j hOther => by
      cases j with
      | false => exact hFree
      | true => exact absurd rfl hOther
  convert hStep using 1
  funext j
  cases j <;> rfl

theorem holders_acquire_false
    {held todo : List RowLock}
    {r : RowLock}
    {a : Locking.Holder RowLock}
    (hFree : r ∉ a.held) :
    Locking.Step (holders a (.running held (r :: todo))) false
      (holders a (.running (r :: held) todo)) := by
  have hStep :
      Locking.Step (holders a (.running held (r :: todo))) false
        _ :=
    .acquire rfl fun j hOther => by
      cases j with
      | true => exact hFree
      | false => exact absurd rfl hOther
  convert hStep using 1
  funext j
  cases j <;> rfl

/- The first call holds product 1, and the second waits for
   it after it has locked its own key and order. -/
def crossedState : Bool → Locking.Holder RowLock :=
  holders
    (.running
      [.inventory 1, .order 7, .idempotencyKey (3, "K")]
      [.inventory 2])
    (.running [.order 8, .idempotencyKey (4, "K")]
      [.inventory 1, .inventory 2])

theorem crossedState_reached :
    ∃ ls,
      Transition.Run Locking.Step
        (Locking.start fun i =>
          (crossedCalls i).2.locks (crossedCalls i).1)
        ls crossedState := by
  have hStart :
      Locking.start crossedLocks =
        holders (.running [] (crossedLocks true))
          (.running [] (crossedLocks false)) := by
    funext i
    cases i <;> rfl
  rw [crossedCalls_locks, hStart]
  exact ⟨_, (((((Transition.Run.refl _).snoc
    (holders_acquire_true (by decide))).snoc
    (holders_acquire_false (by decide))).snoc
    (holders_acquire_true (by decide))).snoc
    (holders_acquire_false (by decide))).snoc
    (holders_acquire_true (by decide))⟩

theorem transactions_deadlock_free_sample :
    Locking.WaitsFor crossedState false true ∧
      (∀ i, ¬ Relation.TransGen
        (Locking.WaitsFor crossedState) i i) ∧
      ∃ i, Locking.Enabled crossedState i := by
  rcases crossedState_reached with ⟨ls, hRun⟩
  have hFree := transactions_deadlock_free crossedCalls hRun
  refine ⟨⟨by decide, .inventory 1, rfl, ?_⟩, hFree.1,
    hFree.2 ⟨true, _, _, rfl⟩⟩
  exact List.mem_cons_self ..

end OrderManagement
