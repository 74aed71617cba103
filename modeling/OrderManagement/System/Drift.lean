import OrderManagement.System.Backing
import Mathlib.Algebra.BigOperators.Group.Multiset.Basic

/-
  How far Redis is from MySQL for a product, once the work
  that is still in progress has been taken into account. No
  step of a call changes this, so that only a quantity which
  is written over a key can.

  Main declarations:
    * `takesStock`, `unmatched`, and `unadded`
    * `Shop.drift`
    * `Shop.Step.drift_eq`
    * `Redis.Nonneg` and `Shop.Step.nonneg`
-/

namespace OrderManagement

variable [Deployment]

------------------------------------------------------------
-- Work in Progress
------------------------------------------------------------

/- Whether the quantities of an order are out of the stock. -/
def takesStock
    (db : DB)
    (orderID : Int) : Bool :=
  match statusOf db orderID with
  | none => false
  | some .cancelled => false
  | some _ => true

/- What is reserved of a product for orders that do not take
   it from the stock: not created yet, or cancelled. -/
def unmatched
    (db : DB)
    (reservations : Table Reservation)
    (p : Int) : Int :=
  reservations.total fun r =>
    if takesStock db r.orderID then 0
    else
      quantityOf (r.items.map CreateOrderItemRequest.line) p

omit [Deployment] in
def FollowUp.added
    (p : Int) : FollowUp → Int
| .incr productID delta _ =>
    if productID = p then delta else 0
| _ => 0

omit [Deployment] in
/- What was added to the stock and not to the key yet. -/
def unadded
    (followUps : Multiset FollowUp)
    (p : Int) : Int :=
  (followUps.map (FollowUp.added p)).sum

/- The excess of the key over the stock of the product. -/
def Shop.drift
    (s : Shop)
    (p : Int) : Int :=
  (s.redis.available p).getD 0 -
      stockOf s.core.db.inventories p +
    unmatched s.core.db s.redis.reservations p +
    unadded s.followUps p

------------------------------------------------------------
-- Sums
------------------------------------------------------------

omit [Deployment] in
@[simp] theorem unadded_zero
    (p : Int) :
    unadded 0 p = 0 := rfl

omit [Deployment] in
theorem unadded_cons
    (command : FollowUp)
    (followUps : Multiset FollowUp)
    (p : Int) :
    unadded (command ::ₘ followUps) p =
      command.added p + unadded followUps p := by
  simp [unadded]

omit [Deployment] in
theorem unadded_add
    (a b : Multiset FollowUp)
    (p : Int) :
    unadded (a + b) p = unadded a p + unadded b p := by
  simp [unadded]

/- What becomes due with an event for a product. -/
theorem unadded_due
    (e : Event)
    (p : Int) :
    unadded (due (some e)) p =
      (e.followUp.map (FollowUp.added p)).getD 0 := by
  unfold due unadded
  rw [Option.bind_some]
  cases e.followUp <;> simp

/- Only the statuses of reserved orders matter. -/
theorem unmatched_congr
    {db db' : DB}
    (hSame : ∀ id, takesStock db' id = takesStock db id)
    (reservations : Table Reservation)
    (p : Int) :
    unmatched db' reservations p =
      unmatched db reservations p := by
  apply Table.total_congr
  intro r _
  rw [hSame]

/- A reserved order that changes its status. -/
theorem unmatched_change
    {db db' : DB}
    {reservations : Table Reservation}
    {id : Int}
    {r : Reservation}
    (hFind : reservations.find? id = some r)
    (hSame :
      ∀ other, other ≠ id →
        takesStock db' other = takesStock db other)
    (p : Int) :
    unmatched db' reservations p =
      unmatched db reservations p -
          (if takesStock db id then 0
          else
            quantityOf
              (r.items.map CreateOrderItemRequest.line) p) +
        if takesStock db' id then 0
        else
          quantityOf
            (r.items.map CreateOrderItemRequest.line) p := by
  have hKey : r.orderID = id := Table.key_of_find? hFind
  subst hKey
  apply Table.total_change hFind
  intro other _ hApart
  rw [key_reservation] at hApart
  rw [hSame _ hApart]

/- A reservation that is stored for a new order. -/
theorem unmatched_put
    {db : DB}
    {reservations : Table Reservation}
    {r : Reservation}
    (hFree : reservations.find? r.orderID = none)
    (hNew : takesStock db r.orderID = false)
    (p : Int) :
    unmatched db (reservations.put r) p =
      unmatched db reservations p +
        quantityOf
          (r.items.map CreateOrderItemRequest.line) p := by
  unfold unmatched
  rw [Table.total_put hFree, hNew]
  rfl

/- A reservation that is taken away. -/
theorem unmatched_erase
    (db : DB)
    (redis : Redis)
    (id p : Int) :
    unmatched db (redis.reservations.erase id) p =
      unmatched db redis.reservations p -
        if takesStock db id then 0
        else redis.reservedOf id p := by
  unfold Redis.reservedOf
  cases hFind : redis.reservations.find? id with
  | none =>
      rw [Table.erase_of_free hFind]
      simp
  | some r =>
      have hKey : r.orderID = id := Table.key_of_find? hFind
      subst hKey
      unfold unmatched
      rw [Table.total_erase hFind]

------------------------------------------------------------
-- Statuses
------------------------------------------------------------

theorem takesStock_of_none
    {db : DB}
    {id : Int}
    (hNone : db.orders.find? id = none) :
    takesStock db id = false := by
  unfold takesStock statusOf
  rw [hNone]
  rfl

theorem soldIn.takesStock
    {db : DB}
    {id : Int}
    (hSold : soldIn db id) :
    takesStock db id = true := by
  rcases hSold with ⟨status, hStatus, hSold⟩
  unfold OrderManagement.takesStock
  rw [hStatus]
  cases status with
  | pending | cancelled => cases hSold
  | paid | finished => rfl

/- A move between statuses that both take stock. -/
theorem OrderMoved.takesStock_eq
    {db db' : DB}
    {order : Order}
    {toStatus : OrderStatus}
    {timeField : OrderTimeField}
    {now : Time}
    {stock locked : Int → Int}
    {entries : List (Int × Int × StockBiz × Option Int)}
    (hMoved :
      OrderMoved db db' order toStatus timeField now stock
        locked entries)
    (id : Int) :
    takesStock db' id =
      if order.id = id then decide (toStatus ≠ .cancelled)
      else takesStock db id := by
  unfold takesStock
  rw [hMoved.statusOf]
  by_cases hHere : order.id = id
  · rw [if_pos hHere, if_pos hHere]
    cases toStatus <;> rfl
  · rw [if_neg hHere, if_neg hHere]

------------------------------------------------------------
-- Transactions
------------------------------------------------------------

/-
  What a committed call without a new order and without a
  new inventory does to the stock: it returns the quantity
  of an order, it adds to a product, or it does nothing.
-/
theorem Effect.stock_cases
    {view : DB}
    {request : Request}
    {outcome : Outcome}
    {db db' : DB}
    (hEffect : Effect view request outcome db db')
    (hNotCreated : ∀ order, outcome ≠ .orderCreated order)
    (hNotInitialised :
      ∀ productID quantity,
        outcome ≠ .inventoryInitialised productID quantity) :
    (∃ order now,
        outcome = .orderCancelled ∧
          order.status = .pending ∧
          OrderCancelled db db' order now) ∨
      (∃ productID quantity after,
        outcome = .inventoryAdded productID quantity after ∧
          InventoriesMoved db.inventories db'.inventories
            (Pi.single productID quantity) 0 ∧
          db'.orders = db.orders) ∨
      (∀ productID quantity after,
          outcome ≠ .inventoryAdded productID quantity after) ∧
        (∀ p,
          stockOf db'.inventories p =
            stockOf db.inventories p) ∧
        ∀ id, takesStock db' id = takesStock db id := by
  cases hEffect with
  | orderCreated => exact absurd rfl (hNotCreated _)
  | inventoryInitialised =>
      exact absurd rfl (hNotInitialised _ _)
  | orderCancelled hPending hMoved
  | orderExpired _ hPending hMoved =>
      exact Or.inl ⟨_, _, rfl, hPending, hMoved⟩
  | inventoryAdded _ _ hMoved =>
      exact Or.inr (Or.inl ⟨_, _, _, rfl, hMoved, rfl⟩)
  | @orderPaid order now db db' hStatus hMoved
  | @orderFinished order now db db' hStatus hMoved =>
      refine Or.inr (Or.inr ⟨by simp, ?_, ?_⟩)
      · intro p
        rw [hMoved.moved.stockOf]
        exact Int.add_zero _
      · intro id
        rw [OrderMoved.takesStock_eq hMoved]
        split
        case isTrue hHere =>
          subst hHere
          unfold takesStock statusOf
          rw [hMoved.find, Option.map_some, hStatus]
          rfl
        case isFalse => rfl
  | productCreated | productStatusSame | productStatusSet
  | orderReplayed | cancelRepeated | expiryRepeated
  | expiryIgnored | expiryLate =>
      exact Or.inr (Or.inr
        ⟨by simp, fun _ => rfl, fun _ => rfl⟩)

/- Only an addition leaves an increment to be done. -/
theorem unadded_due_of_not_added
    {e : Event}
    (hOther :
      ∀ productID quantity after,
        e.response ≠
          .ok (.inventoryAdded productID quantity after))
    (p : Int) :
    unadded (due (some e)) p = 0 := by
  rw [unadded_due]
  cases hFollowUp : e.followUp with
  | none => rfl
  | some command =>
      cases command with
      | release | restore | confirm | set => rfl
      | incr productID delta fallbackQuantity =>
          exact absurd (Event.followUp_incr hFollowUp)
            (hOther _ _ _)

theorem Event.followUp_of_added
    {e : Event}
    {productID quantity after : Int}
    (hOk :
      e.response =
        .ok (.inventoryAdded productID quantity after)) :
    e.followUp = some (.incr productID quantity after) := by
  unfold Event.followUp
  rw [hOk]
  cases e.request <;> rfl

/- A call that ends without a new order. -/
theorem Shop.drift_ended
    {s : Shop}
    {core : State}
    {e : Event}
    (hSound : s.Sound)
    (hBacked : s.Backed)
    (hEvent : e.Sound)
    (hBefore : e.before = s.core.db)
    (hAfter : e.after = core.db)
    (hReliable :
      ∀ productID quantity,
        e.response ≠
          .ok (.inventoryInitialised productID quantity))
    (hOther :
      ∀ order, e.response ≠ .ok (.orderCreated order))
    (p : Int) :
    Shop.drift
        { s with
          core := core
          followUps := due (some e) + s.followUps } p =
      s.drift p := by
  unfold Shop.drift
  simp only [unadded_add, ← hAfter, ← hBefore]
  rcases hEvent.result with
    ⟨outcome, view, hOk, _, _, hEffect⟩ | ⟨err, hErr, hSame⟩
  · rw [hOk] at hReliable hOther
    rcases hEffect.stock_cases
        (fun order hEq => hOther order (congrArg _ hEq))
        (fun productID quantity hEq =>
          hReliable productID quantity (congrArg _ hEq)) with
      ⟨order, now, rfl, hPending, hMoved⟩ |
        ⟨productID, quantity, after, rfl, hMoved, hOrders⟩ |
          ⟨hNotAdded, hStock, hTakes⟩
    · have hNotAdded :
          unadded (due (some e)) p = 0 := by
        apply unadded_due_of_not_added
        rw [hOk]
        simp
      have hStatus :
          statusOf s.core.db order.id = some .pending := by
        rw [← hBefore]
        unfold statusOf
        rw [hMoved.find, Option.map_some, hPending]
      rcases Option.isSome_iff_exists.mp
          (hBacked.pending order.id hStatus) with ⟨r, hFind⟩
      have hQuantity :=
        hSound.ordered order.id r
          (by rw [← hBefore, hMoved.find]; rfl) hFind p
      have hTakes :
          takesStock e.before order.id = true := by
        unfold takesStock
        rw [hBefore, hStatus]
      have hUnmatched :=
        @unmatched_change _ e.before e.after _ _ _ hFind
          (by
            intro other hApart
            rw [OrderMoved.takesStock_eq hMoved,
              if_neg hApart.symm]) p
      rw [hTakes, OrderMoved.takesStock_eq hMoved, if_pos rfl]
        at hUnmatched
      rw [hUnmatched, hMoved.moved.stockOf, hNotAdded, hBefore,
        hQuantity]
      simp
      omega
    · have hAdded :
          unadded (due (some e)) p =
            if productID = p then quantity else 0 := by
        rw [unadded_due, Event.followUp_of_added hOk]
        rfl
      have hUnmatched :
          unmatched e.after s.redis.reservations p =
            unmatched e.before s.redis.reservations p := by
        apply unmatched_congr
        intro id
        unfold takesStock statusOf
        rw [hOrders]
      rw [hAdded, hUnmatched, hMoved.stockOf]
      by_cases hHere : productID = p
      · subst hHere
        simp
        omega
      · rw [Pi.single_eq_of_ne (Ne.symm hHere)]
        simp [hHere]
    · rw [unadded_due_of_not_added, unmatched_congr hTakes,
        hStock]
      · omega
      · intro productID quantity after hEq
        rw [hOk] at hEq
        cases hEq
        exact hNotAdded productID quantity after rfl
  · rw [unadded_due_of_not_added, hSame]
    · omega
    · intro productID quantity after hEq
      rw [hErr] at hEq
      cases hEq

/- A call that ends with a new order. -/
theorem Shop.drift_created
    {s : Shop}
    {core : State}
    {c : Call}
    {view : DB}
    {now nextAttemptAt : Time}
    {userID : Int}
    {req : CreateOrderRequest}
    {ids : GeneratedIDs}
    {requestHash : String}
    {order : Order}
    (hSound : s.Sound)
    (hBacked : s.Backed)
    (hCall : c ∈ s.core.calls)
    (hRequest : c.request = .createOrder userID req ids)
    (hApplied : c.preDeduct = .applied)
    (hPlaced :
      OrderPlaced view now nextAttemptAt userID
        req.idempotencyKey requestHash
        (sortedOrderItems req.items) ids order s.core.db
        core.db)
    (p : Int) :
    Shop.drift { s with core := core } p = s.drift p := by
  have hID : c.newOrderID = some ids.orderID := by
    rw [Call.newOrderID, hRequest]
    rfl
  rcases Option.isSome_iff_exists.mp
      (hBacked.applied c hCall _ hID hApplied) with ⟨r, hFind⟩
  have hItems :=
    hSound.requested c hCall userID req ids hRequest r hFind
  have hUnborn :
      takesStock s.core.db ids.orderID = false := by
    apply takesStock_of_none
    apply hSound.unborn
    apply Multiset.mem_add.mpr
    exact Or.inl ((Multiset.mem_filterMap _ _).mpr
      ⟨c, hCall, hID⟩)
  have hOrder :
      ∀ id,
        takesStock core.db id =
          if ids.orderID = id then true
          else takesStock s.core.db id := by
    intro id
    unfold takesStock statusOf
    rw [Table.find?_of_insert? hPlaced.orders, key_order,
      hPlaced.id]
    by_cases hHere : ids.orderID = id
    · rw [if_pos hHere, if_pos hHere, Option.map_some,
        hPlaced.status]
    · rw [if_neg hHere, if_neg hHere]
  have hUnmatched :=
    @unmatched_change _ s.core.db core.db _ _ _ hFind
      (by
        intro other hApart
        rw [hOrder, if_neg hApart.symm]) p
  rw [hOrder, if_pos rfl, hUnborn, hItems] at hUnmatched
  unfold Shop.drift
  simp only [hUnmatched, hPlaced.moved.stockOf, Pi.neg_apply]
  simp
  omega

theorem Shop.drift_cored
    {s : Shop}
    {core : State}
    {event : Option Event}
    (hSound : s.Sound)
    (hBacked : s.Backed)
    (hStep : OrderManagement.Step s.core event core)
    (hNoArrival : core.calls.card ≤ s.core.calls.card)
    (hReliable : (Action.core event).Reliable)
    (p : Int) :
    Shop.drift
        { s with
          core := core
          followUps := due event + s.followUps } p =
      s.drift p := by
  rcases hSound.core_cases hStep hNoArrival with
    ⟨rfl, hSame, _⟩ | ⟨rfl, _, hTouched⟩ |
      ⟨e, c, rfl, hBefore, hAfter, hCalls, hRequest,
        hPreDeduct, hEnd⟩
  · unfold Shop.drift
    simp [due, hSame]
  · rcases hTouched with ⟨f, _, hKey, hSame⟩
    have hUnmatched :
        unmatched core.db s.redis.reservations p =
          unmatched s.core.db s.redis.reservations p := by
      apply unmatched_congr
      intro id
      unfold takesStock statusOf
      rw [hSame]
    unfold Shop.drift
    simp only [due, hUnmatched]
    simp [hSame]
  · rcases hEnd with
      ⟨view, now, nextAttemptAt, userID, req, ids, order,
        hCreate, hOk, hPlaced⟩ | ⟨hOther, _⟩
    · have hCall : c ∈ s.core.calls := by
        rw [hCalls]
        exact Multiset.mem_cons_self _ _
      have hApplied :=
        hBacked.created_applied hSound.core hStep hCall
          hRequest hPreDeduct hCreate hOk hPlaced
      rw [due_of_created hCreate hOk, zero_add]
      exact Shop.drift_created hSound hBacked hCall
        (hRequest.symm.trans hCreate)
        (hPreDeduct.symm.trans hApplied) hPlaced p
    · exact Shop.drift_ended hSound hBacked
        (hStep.event hSound.core).1 hBefore hAfter
        (hReliable e rfl) hOther p

------------------------------------------------------------
-- Commands
------------------------------------------------------------

/- What is reserved leaves the key, also when the answer of
   the script is lost. -/
theorem Redis.Reserved.drift
    {s : Shop}
    {redis' : Redis}
    {id : Int}
    {items : List CreateOrderItemRequest}
    {p : Int}
    (hReserved : s.redis.Reserved redis' id items)
    (hFree : s.redis.reservations.find? id = none)
    (hUnborn : takesStock s.core.db id = false)
    (hKey : (s.redis.available p).isSome) :
    Shop.drift { s with redis := redis' } p = s.drift p := by
  rcases Option.isSome_iff_exists.mp hKey with ⟨n, hCurrent⟩
  have hUnmatched :=
    @unmatched_put _ s.core.db s.redis.reservations
      ⟨id, items⟩ hFree hUnborn p
  unfold Shop.drift
  simp only [hReserved.available, hReserved.reservations,
    hUnmatched, hCurrent, Option.map_some, Option.getD_some]
  omega

theorem Shop.drift_arrived
    {s : Shop}
    {request : Request}
    {p : Int}
    (delivery : Delivery)
    (hSound : s.Sound)
    (hFresh :
      ∀ id, request.newOrderID = some id → id ∉ s.issued)
    (hKey : (s.redis.available p).isSome) :
    Shop.drift
        { s with
          redis := (request.preDeduct delivery s.redis).2 }
        p =
      s.drift p := by
  have hFree := hSound.unreserved hFresh
  rcases Request.preDeduct_cases delivery hFree with
    ⟨hSkipped, _⟩ | ⟨userID, req, ids, rfl, _, hCases⟩
  · rw [hSkipped]
  · have hUnborn :
        takesStock s.core.db ids.orderID = false := by
      apply takesStock_of_none
      rw [← Option.not_isSome_iff_eq_none]
      intro hSome
      exact hFresh ids.orderID rfl
        (hSound.ordersIssued _ hSome)
    generalize (Request.createOrder userID req ids).preDeduct
      delivery s.redis = reserved at hCases ⊢
    rcases reserved with ⟨answer, redis'⟩
    cases hCases with
    | applied _ _ hReserved | lost _ _ hReserved =>
        exact hReserved.drift (hFree _ rfl) hUnborn hKey
    | insufficient | skipped => rfl

/- Deleting the reservation of an order, with or without
   returning its quantity to the key. -/
theorem Shop.drift_erased
    {s : Shop}
    {redis' : Redis}
    {rest : Multiset FollowUp}
    {command : FollowUp}
    {id p : Int}
    (hDue : s.followUps = command ::ₘ rest)
    (hAdded : command.added p = 0)
    (hKey : (s.redis.available p).isSome)
    (hReservations :
      redis'.reservations = s.redis.reservations.erase id)
    (hAvailable :
      redis'.available p =
        (s.redis.available p).map
          (· + if takesStock s.core.db id then 0
            else s.redis.reservedOf id p)) :
    Shop.drift
        { s with
          redis := redis'
          followUps := rest } p =
      s.drift p := by
  rcases Option.isSome_iff_exists.mp hKey with ⟨n, hCurrent⟩
  unfold Shop.drift
  simp only [hReservations, hAvailable, hDue, unadded_cons,
    hAdded, unmatched_erase, hCurrent, Option.map_some,
    Option.getD_some]
  omega

/- The orders that a release or a restoration is for. -/
theorem Shop.Sound.takesStock_of_released
    {s : Shop}
    {id : Int}
    (hSound : s.Sound)
    (hDue :
      .release id ∈ s.followUps ∨ .restore id ∈ s.followUps) :
    takesStock s.core.db id = false := by
  rcases hDue with hRelease | hRestore
  · apply takesStock_of_none
    apply hSound.unborn
    apply Multiset.mem_add.mpr
    exact Or.inr ((Multiset.mem_filterMap _ _).mpr
      ⟨_, hRelease, rfl⟩)
  · unfold takesStock
    rw [hSound.restored id hRestore]

theorem Shop.drift_followedUp
    {s : Shop}
    {command : FollowUp}
    {rest : Multiset FollowUp}
    {p : Int}
    (hSound : s.Sound)
    (hDue : s.followUps = command ::ₘ rest)
    (hNotSet : ∀ q n, command ≠ .set q n)
    (hKey : (s.redis.available p).isSome) :
    Shop.drift
        { s with
          redis := command.run s.redis
          followUps := rest } p =
      s.drift p := by
  have hMem : command ∈ s.followUps := by
    rw [hDue]
    exact Multiset.mem_cons_self _ _
  cases command with
  | set q n => exact absurd rfl (hNotSet q n)
  | release id | restore id =>
      have hFree : takesStock s.core.db id = false := by
        apply hSound.takesStock_of_released
        first
          | exact Or.inl hMem
          | exact Or.inr hMem
      apply Shop.drift_erased hDue rfl hKey
      · change (InventoryStockGuard.releaseReservation s.redis
          id).reservations = _
        rw [hSound.releaseReservation,
          Redis.releaseInventoryReservationScript_reservations]
      · change (InventoryStockGuard.releaseReservation s.redis
          id).available p = _
        rw [hSound.releaseReservation,
          Redis.releaseInventoryReservationScript_available,
          hFree]
        rfl
  | confirm id =>
      have hSold := (hSound.confirmed id hMem).takesStock
      apply Shop.drift_erased hDue rfl hKey
      · change (InventoryStockGuard.confirmPreDeductedInventory
          s.redis id).reservations = _
        rw [hSound.confirmPreDeductedInventory]
        rfl
      · change (InventoryStockGuard.confirmPreDeductedInventory
          s.redis id).available p = _
        rw [hSound.confirmPreDeductedInventory, hSold]
        simp
  | incr q delta fallbackQuantity =>
      rcases Option.isSome_iff_exists.mp hKey with
        ⟨n, hCurrent⟩
      rcases hSound.followUpsValid _ hMem with
        ⟨hPositive, hDelta, hFallback⟩
      have hAccepted :
          ¬ (q ≤ 0 ∨ delta ≤ 0 ∨ fallbackQuantity < 0) := by
        omega
      unfold Shop.drift FollowUp.run
        InventoryStockGuard.incrInventoryStock
      simp only [if_neg hAccepted, hDue, unadded_cons,
        Redis.incrInventoryStockScript_available,
        Redis.incrInventoryStockScript_reservations,
        FollowUp.added]
      by_cases hHere : q = p
      · subst hHere
        simp [hCurrent]
        omega
      · simp [hHere, Ne.symm hHere]

------------------------------------------------------------
-- Every Step
------------------------------------------------------------

/- Whether a step writes a quantity over the key of p. -/
def Action.writes
    (p : Int) : Action → Prop
| .write q _ delivered => q = p ∧ delivered = true
| .followUp (.set q _) delivered => q = p ∧ delivered = true
| _ => False

/-
  Redis and MySQL drift apart over a reliable step only if
  it writes over the key of the product.
-/
theorem Shop.Step.drift_eq
    {s t : Shop}
    {a : Action}
    {p : Int}
    (hSound : s.Sound)
    (hBacked : s.Backed)
    (hReliable : a.Reliable)
    (hOther : ¬ a.writes p)
    (hKey : (s.redis.available p).isSome)
    (hStep : Shop.Step s a t) :
    t.drift p = s.drift p := by
  cases hStep with
  | arrive request delivery _ hFresh =>
      exact Shop.drift_arrived delivery hSound hFresh hKey
  | core hStep hNoArrival =>
      exact Shop.drift_cored hSound hBacked hStep hNoArrival
        hReliable p
  | followUp command delivered hDue =>
      cases hReliable
      by_cases hSet : ∃ q n, command = .set q n
      · rcases hSet with ⟨q, n, rfl⟩
        have hApart : q ≠ p := fun hEq => hOther ⟨hEq, rfl⟩
        unfold Shop.drift
        simp only [hDue, unadded_cons, if_true, FollowUp.run,
          InventoryStockGuard.setInventoryStock,
          FollowUp.added]
        split <;> simp [Ne.symm hApart]
      · apply Shop.drift_followedUp hSound hDue _ hKey
        intro q n hEq
        exact hSet ⟨q, n, hEq⟩
  | listForRebuild | listForReconcile | compare
  | resyncDone => rfl
  | write q n delivered =>
      cases hReliable
      have hApart : q ≠ p := fun hEq => hOther ⟨hEq, rfl⟩
      unfold Shop.drift
      simp only [if_true,
        InventoryStockGuard.setInventoryStock]
      split <;> simp [Ne.symm hApart]
  | evict | evictReservation => cases hReliable

------------------------------------------------------------
-- Quantities in Redis
------------------------------------------------------------

omit [Deployment] in
/- The key of the product holds no negative quantity. -/
def Redis.Nonneg
    (redis : Redis)
    (p : Int) : Prop :=
  ∀ n, redis.available p = some n → 0 ≤ n

omit [Deployment] in
/- Adding to a key that is there. -/
theorem Redis.nonneg_of_add
    {redis redis' : Redis}
    {p amount : Int}
    (hAvailable :
      redis'.available p =
        (redis.available p).map (· + amount))
    (hEnough :
      ∀ n, redis.available p = some n → 0 ≤ n + amount) :
    redis'.Nonneg p := by
  intro n hAfter
  rw [hAvailable] at hAfter
  rcases Option.map_eq_some_iff.mp hAfter with
    ⟨m, hBefore, rfl⟩
  exact hEnough m hBefore

omit [Deployment] in
theorem Redis.Nonneg.set
    {redis : Redis}
    {productID quantity p : Int}
    (hNonneg : redis.Nonneg p)
    (hQuantity : 0 ≤ quantity) :
    (redis.set productID quantity).Nonneg p := by
  intro n hAfter
  rw [Redis.available_set] at hAfter
  split at hAfter
  · cases hAfter
    exact hQuantity
  · exact hNonneg n hAfter

omit [Deployment] in
/- The script deducts no more than a key holds. -/
theorem Redis.Reserved.nonneg
    {redis redis' : Redis}
    {orderID p : Int}
    {items : List CreateOrderItemRequest}
    (hReserved : redis.Reserved redis' orderID items)
    (hNonneg : redis.Nonneg p)
    (hNodup :
      (items.map CreateOrderItemRequest.productID).Nodup) :
    redis'.Nonneg p := by
  apply Redis.nonneg_of_add (hReserved.available p)
  intro n hBefore
  have hLines :
      ((items.map CreateOrderItemRequest.line).map
        ItemQuantity.productID).Nodup := by
    rw [List.map_map]
    exact hNodup
  by_cases hMem :
      p ∈ (items.map CreateOrderItemRequest.line).map
        ItemQuantity.productID
  · rw [List.map_map] at hMem
    rcases List.mem_map.mp hMem with ⟨item, hItem, rfl⟩
    rcases hReserved.enough item hItem with
      ⟨current, hCurrent, hEnough⟩
    have hOnce : _ = item.quantity :=
      quantityOf_of_mem hLines
        (List.mem_map_of_mem hItem)
    have hSame := hBefore.symm.trans hCurrent
    cases hSame
    change 0 ≤ n + -quantityOf _ item.line.productID
    rw [hOnce]
    omega
  · have hZero := quantityOf_of_not_mem hMem
    have hHere := hNonneg n hBefore
    rw [hZero]
    omega

theorem Shop.Sound.run_nonneg
    {s : Shop}
    {p : Int}
    (hSound : s.Sound)
    (hNonneg : s.redis.Nonneg p)
    (command : FollowUp) :
    (command.run s.redis).Nonneg p := by
  cases command with
  | release id | restore id =>
      change (InventoryStockGuard.releaseReservation s.redis
        id).Nonneg p
      rw [hSound.releaseReservation]
      apply Redis.nonneg_of_add
        (Redis.releaseInventoryReservationScript_available
          s.redis id p)
      intro n hBefore
      have hHere := hNonneg n hBefore
      unfold Redis.reservedOf
      cases hFind : s.redis.reservations.find? id with
      | none => simpa using hHere
      | some r =>
          have hValid := hSound.reservationsValid id r hFind
          have hAmount :
              0 ≤ quantityOf
                (r.items.map CreateOrderItemRequest.line)
                p := by
            apply quantityOf_nonneg
            intro line hLine
            rcases List.mem_map.mp hLine with
              ⟨item, hItem, rfl⟩
            exact hValid.quantityPositive item hItem
          dsimp only
          omega
  | confirm id =>
      change (InventoryStockGuard.confirmPreDeductedInventory
        s.redis id).Nonneg p
      rw [hSound.confirmPreDeductedInventory]
      exact hNonneg
  | set productID quantity =>
      unfold FollowUp.run InventoryStockGuard.setInventoryStock
      dsimp only
      split
      · exact hNonneg
      · apply hNonneg.set
        omega
  | incr productID delta fallbackQuantity =>
      unfold FollowUp.run InventoryStockGuard.incrInventoryStock
      dsimp only
      split
      · exact hNonneg
      · unfold Redis.incrInventoryStockScript
        split
        case isTrue hKey =>
          rcases Option.isSome_iff_exists.mp hKey with
            ⟨n, hCurrent⟩
          unfold Redis.incrBy
          rw [hCurrent, Option.getD_some]
          intro m hAfter
          rw [Redis.available_set] at hAfter
          split at hAfter
          case isTrue hSame =>
            have hHere := hNonneg n (hSame ▸ hCurrent)
            cases hAfter
            omega
          case isFalse => exact hNonneg m hAfter
        case isFalse =>
          apply hNonneg.set
          omega

/- Whatever fails, the key does not become negative. -/
theorem Shop.Step.nonneg
    {s t : Shop}
    {a : Action}
    {p : Int}
    (hSound : s.Sound)
    (hNonneg : s.redis.Nonneg p)
    (hStep : Shop.Step s a t) :
    t.redis.Nonneg p := by
  cases hStep with
  | arrive request delivery _ hFresh =>
      have hFree := hSound.unreserved hFresh
      rcases Request.preDeduct_cases delivery hFree with
        ⟨hSkipped, _⟩ |
          ⟨userID, req, ids, rfl, hChecked, hCases⟩
      · rw [hSkipped]
        exact hNonneg
      · rcases OrderService.checkCreateOrder_eq_ok_iff.mp
            hChecked with ⟨_, _, _, hNodup, _⟩
        have hSorted :=
          ((sortedOrderItems_perm req.items).map
            CreateOrderItemRequest.productID).nodup_iff.mpr
            hNodup
        generalize (Request.createOrder userID req
          ids).preDeduct delivery s.redis = reserved
          at hCases ⊢
        rcases reserved with ⟨answer, redis'⟩
        cases hCases with
        | applied _ _ hReserved | lost _ _ hReserved =>
            exact hReserved.nonneg hNonneg hSorted
        | insufficient | skipped => exact hNonneg
  | core | listForRebuild | listForReconcile | compare
  | resyncDone | evictReservation => exact hNonneg
  | followUp command delivered =>
      cases delivered with
      | false => exact hNonneg
      | true => exact hSound.run_nonneg hNonneg command
  | write productID quantity delivered =>
      cases delivered with
      | false => exact hNonneg
      | true =>
          exact hSound.run_nonneg hNonneg
            (.set productID quantity)
  | evict productID =>
      intro n hAfter
      dsimp only at hAfter
      split at hAfter
      · cases hAfter
      · exact hNonneg n hAfter

end OrderManagement
