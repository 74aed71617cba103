import OrderManagement.System.Serial

/-
  Stock is conserved: what was ever put into stock for a
  product is still in stock, is locked by a pending order,
  or was sold.

  Main declarations:
    * `suppliedBy`
    * `Conserved` with `Effect.conserved`
    * `stock_conserved`
-/

namespace OrderManagement

------------------------------------------------------------
-- Supply
------------------------------------------------------------

/- What a committed call has put into stock for a product. -/
def Outcome.supplied
    (p : Int) : Outcome → Int
| .inventoryInitialised productID quantity =>
    if productID = p then quantity else 0
| .inventoryAdded productID quantity _ =>
    if productID = p then quantity else 0
| _ => 0

def OrderStatus.isPending : OrderStatus → Bool
| .pending => true
| _ => false

/- The statuses of an order whose goods have left. -/
def OrderStatus.isSold : OrderStatus → Bool
| .paid => true
| .finished => true
| _ => false

variable [Deployment]

/- What an event has put into stock for a product. -/
def Event.supplied
    (p : Int)
    (e : Event) : Int :=
  match e.response with
  | .ok outcome => outcome.supplied p
  | .error _ => 0

/- What was ever initialised or added for a product. -/
def suppliedBy
    (events : List Event)
    (p : Int) : Int :=
  (events.map (Event.supplied p)).sum

theorem suppliedBy_snoc
    (events : List Event)
    (e : Event)
    (p : Int) :
    suppliedBy (events ++ [e]) p =
      suppliedBy events p + e.supplied p := by
  simp [suppliedBy]

------------------------------------------------------------
-- The Balance of a Product
------------------------------------------------------------

/- The quantity that pending orders have locked. -/
def pendingQuantity
    (db : DB)
    (p : Int) : Int :=
  quantityIn OrderStatus.isPending db.orders db.orderItems p

/- The quantity that paid and finished orders have taken. -/
def soldQuantity
    (db : DB)
    (p : Int) : Int :=
  quantityIn OrderStatus.isSold db.orders db.orderItems p

/- The two counters of a product against its orders. -/
structure Conserved
    (supply : Int → Int)
    (db : DB) : Prop where
  locked :
    ∀ p, lockedOf db.inventories p = pendingQuantity db p
  total :
    ∀ p,
      stockOf db.inventories p + lockedOf db.inventories p +
        soldQuantity db p = supply p

/- Changing the status of an order moves its quantity. -/
theorem OrderMoved.quantityIn
    {db db' : DB}
    {order : Order}
    {toStatus : OrderStatus}
    {timeField : OrderTimeField}
    {now : Time}
    {stock locked : Int → Int}
    {entries : List (Int × Int × StockBiz × Option Int)}
    (hMoved :
      OrderMoved db db' order toStatus timeField now stock
        locked entries)
    (statuses : OrderStatus → Bool)
    (p : Int) :
    quantityIn statuses db'.orders db'.orderItems p =
      quantityIn statuses db.orders db.orderItems p -
        (if statuses order.status then
          orderQuantity db.orderItems order.id p
        else
          0) +
        if statuses toStatus then
          orderQuantity db.orderItems order.id p
        else
          0 := by
  rw [hMoved.orders, hMoved.orderItems]
  exact quantityIn_patch hMoved.find p

/- A placed order adds its requested quantity once. -/
theorem OrderPlaced.quantityIn
    {view : DB}
    {now nextAttemptAt : Time}
    {userID : Int}
    {idempotencyKey requestHash : String}
    {items : List CreateOrderItemRequest}
    {ids : GeneratedIDs}
    {order : Order}
    {db db' : DB}
    (hWellFormed : db.WellFormed)
    (hPlaced :
      OrderPlaced view now nextAttemptAt userID
        idempotencyKey requestHash items ids order db db')
    (statuses : OrderStatus → Bool)
    (p : Int) :
    quantityIn statuses db'.orders db'.orderItems p =
      quantityIn statuses db.orders db.orderItems p +
        if statuses .pending then
          quantityOf (items.map CreateOrderItemRequest.line) p
        else
          0 := by
  rcases hPlaced.placed with
    ⟨newItems, logs, hItems, _, hOwn, hLines, _⟩
  rw [hItems, quantityIn_insert hPlaced.orders
    hWellFormed.itemsOwned hOwn, hPlaced.status, hLines]

/-
  Every committed call keeps the balance of every product,
  with what the call itself has supplied.
-/
theorem Effect.conserved
    {view : DB}
    {request : Request}
    {outcome : Outcome}
    {supply : Int → Int}
    {db db' : DB}
    (hWellFormed : db.WellFormed)
    (hEffect : Effect view request outcome db db')
    (hConserved : Conserved supply db) :
    Conserved (fun p => supply p + outcome.supplied p)
      db' := by
  cases hEffect with
  | @inventoryInitialised productID quantity inventory
      inventories log db _ _ hKey hStock hLocked hInsert _ _ =>
      have hFree :=
        (Table.insert?_eq_some_iff.mp hInsert).1
      rw [key_inventory, hKey] at hFree
      constructor
      · intro p
        refine Eq.trans ?_ (hConserved.locked p)
        unfold lockedOf
        rw [Table.find?_of_insert? hInsert, key_inventory, hKey]
        by_cases hHere : productID = p
        · subst hHere
          simp [hFree, hLocked]
        · simp [hHere]
      · intro p
        have hTotal := hConserved.total p
        unfold stockOf lockedOf at hTotal ⊢
        rw [Table.find?_of_insert? hInsert, key_inventory, hKey]
        by_cases hHere : productID = p
        · subst hHere
          rw [hFree] at hTotal
          simp [hLocked, hStock, Outcome.supplied,
            soldQuantity] at hTotal ⊢
          omega
        · simp [hHere, Outcome.supplied, soldQuantity]
            at hTotal ⊢
          exact hTotal
  | @inventoryAdded productID quantity inventories log db _ _
      hMoved _ _ =>
      constructor
      · intro p
        rw [hMoved.lockedOf, Pi.zero_apply, Int.add_zero]
        exact hConserved.locked p
      · intro p
        have hTotal := hConserved.total p
        rw [hMoved.lockedOf, hMoved.stockOf]
        by_cases hHere : productID = p
        · subst hHere
          simp [Outcome.supplied, soldQuantity] at hTotal ⊢
          omega
        · simp [hHere, Outcome.supplied, soldQuantity]
            at hTotal ⊢
          exact hTotal
  | orderCreated hChecked hPlaced =>
      constructor
      · intro p
        rw [hPlaced.moved.lockedOf, pendingQuantity,
          hPlaced.quantityIn hWellFormed, hConserved.locked p]
        rfl
      · intro p
        have hTotal := hConserved.total p
        rw [hPlaced.moved.lockedOf, hPlaced.moved.stockOf,
          soldQuantity, hPlaced.quantityIn hWellFormed]
        simp [OrderStatus.isSold, Outcome.supplied,
          soldQuantity] at hTotal ⊢
        omega
  | orderPaid hStatus hMoved | orderFinished hStatus hMoved
  | orderCancelled hStatus hMoved
  | orderExpired _ hStatus hMoved =>
      constructor
      · intro p
        have hLocked := hConserved.locked p
        rw [hMoved.moved.lockedOf, pendingQuantity,
          hMoved.quantityIn, hStatus]
        simp [OrderStatus.isPending, pendingQuantity]
          at hLocked ⊢
        omega
      · intro p
        have hTotal := hConserved.total p
        rw [hMoved.moved.lockedOf, hMoved.moved.stockOf,
          soldQuantity, hMoved.quantityIn, hStatus]
        simp [OrderStatus.isSold, Outcome.supplied,
          soldQuantity] at hTotal ⊢
        omega
  | productCreated | productStatusSame | productStatusSet
  | orderReplayed | cancelRepeated | expiryRepeated
  | expiryIgnored | expiryLate =>
      constructor
      · exact hConserved.locked
      · intro p
        change _ = supply p + 0
        rw [Int.add_zero]
        exact hConserved.total p

/- The balance holds in every reachable state. -/
theorem Reaches.conserved
    {events : List Event}
    {s : State}
    (hReaches : Reaches events s) :
    Conserved (suppliedBy events) s.db := by
  refine hReaches.induction
    (P := fun events db => Conserved (suppliedBy events) db)
    ?_ ?_ ?_ ?_
  · exact ⟨fun _ => rfl, fun _ => rfl⟩
  · intro events db db' _ hOld hTouched
    rcases hTouched with ⟨f, _, hKey, rfl⟩
    exact ⟨hOld.locked, hOld.total⟩
  · intro events e outcome view hWellFormed hOld hOk _ hEffect
    have hNew := hEffect.conserved hWellFormed hOld
    have hSupply :
        (fun p => suppliedBy events p + outcome.supplied p) =
          suppliedBy (events ++ [e]) := by
      funext p
      rw [suppliedBy_snoc, Event.supplied, hOk]
    exact hSupply ▸ hNew
  · intro events e err _ hOld hErr _
    have hSupply :
        suppliedBy (events ++ [e]) = suppliedBy events := by
      funext p
      rw [suppliedBy_snoc, Event.supplied, hErr]
      exact Int.add_zero _
    rw [hSupply]
    exact hOld

/-
  In every reachable state, for every product, the counters
  are not negative, exactly the pending orders are locked,
  and nothing that was supplied is lost or sold twice.
-/
theorem stock_conserved
    {events : List Event}
    {s : State}
    (hReaches : Reaches events s)
    (p : Int) :
    0 ≤ stockOf s.db.inventories p ∧
      0 ≤ lockedOf s.db.inventories p ∧
      lockedOf s.db.inventories p = pendingQuantity s.db p ∧
      stockOf s.db.inventories p +
          lockedOf s.db.inventories p +
          soldQuantity s.db p =
        suppliedBy events p := by
  have hConserved := hReaches.conserved
  exact ⟨stockOf_nonneg _ p, lockedOf_nonneg _ p,
    hConserved.locked p, hConserved.total p⟩

end OrderManagement

namespace OrderManagement

attribute [local instance] sampleDeployment

/- The five pieces that were added are still there. -/
theorem stock_conserved_sample :
    suppliedBy (serialEvents DB.empty sampleCalls) 1 = 15 ∧
      stockOf (serialDB DB.empty sampleCalls).inventories 1 +
          lockedOf (serialDB DB.empty sampleCalls).inventories
            1 +
          soldQuantity (serialDB DB.empty sampleCalls) 1 =
        15 := by
  have hSupplied :
      suppliedBy (serialEvents DB.empty sampleCalls) 1 =
        15 := by
    decide +kernel
  have hConserved :=
    stock_conserved (reaches_serial sampleCalls) 1
  dsimp only at hConserved
  exact ⟨hSupplied, hConserved.2.2.2.trans hSupplied⟩

end OrderManagement
