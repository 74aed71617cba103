import OrderManagement.System.Serial

/-
  The Redis commands around the transactions: CreateOrder
  pre-deducts before it opens its transaction, and the
  services send one more command after some outcomes.

  Main declarations:
    * `Request.preDeduct`
    * `FollowUp` and `Event.followUp`
    * `GuardedCall` and `GuardedCall.event`
-/

namespace OrderManagement

------------------------------------------------------------
-- Commands after a Transaction
------------------------------------------------------------

/- A command that a service sends when its call has ended. -/
inductive FollowUp
| release (orderID : Int)
| restore (orderID : Int)
| confirm (orderID : Int)
| set (productID quantity : Int)
| incr (productID delta fallbackQuantity : Int)
deriving DecidableEq, Repr

def FollowUp.run
    (redis : Redis) : FollowUp → Redis
| .release orderID =>
    InventoryStockGuard.releaseReservation redis orderID
| .restore orderID =>
    InventoryStockGuard.releaseReservation redis orderID
| .confirm orderID =>
    InventoryStockGuard.confirmPreDeductedInventory redis
      orderID
| .set productID quantity =>
    InventoryStockGuard.setInventoryStock redis productID
      quantity
| .incr productID delta fallbackQuantity =>
    InventoryStockGuard.incrInventoryStock redis productID
      delta fallbackQuantity

/- No such command stores a reservation. -/
theorem FollowUp.run_reservations
    {command : FollowUp}
    {redis : Redis}
    {orderID : Int}
    {r : Reservation}
    (hFind :
      (command.run redis).reservations.find? orderID =
        some r) :
    redis.reservations.find? orderID = some r := by
  have hErased :
      ∀ id,
        (redis.reservations.erase id).find? orderID = some r →
          redis.reservations.find? orderID = some r := by
    intro id hFind
    rw [Table.find?_erase] at hFind
    split at hFind
    · cases hFind
    · exact hFind
  cases command with
  | release id | restore id =>
      unfold run InventoryStockGuard.releaseReservation
        at hFind
      dsimp only at hFind
      split at hFind
      · exact hFind
      · rw [Redis.releaseInventoryReservationScript_reservations]
          at hFind
        exact hErased id hFind
  | confirm id =>
      unfold run
        InventoryStockGuard.confirmPreDeductedInventory at hFind
      dsimp only at hFind
      split at hFind
      · exact hFind
      · exact hErased id hFind
  | set productID quantity =>
      unfold run InventoryStockGuard.setInventoryStock at hFind
      dsimp only at hFind
      split at hFind <;> exact hFind
  | incr productID delta fallbackQuantity =>
      unfold run InventoryStockGuard.incrInventoryStock
        at hFind
      dsimp only at hFind
      split at hFind
      · exact hFind
      · rwa [Redis.incrInventoryStockScript_reservations]
          at hFind

variable [Deployment]

/-
  The command that a call owes to Redis. CreateOrder
  releases when it fails or replays, but only if it was
  told that its pre-deduction applied.
-/
def Event.followUp
    (e : Event) : Option FollowUp :=
  match e.request, e.response with
  | .createOrder _ _ ids, .error _
  | .createOrder _ _ ids, .ok (.orderReplayed _) =>
      if e.preDeduct = .applied then
        some (.release ids.orderID)
      else
        none
  | .payOrder _ orderID, .ok .orderPaid =>
      some (.confirm orderID)
  | .cancelOrder _ orderID, .ok .orderCancelled
  | .cancelOrder _ orderID, .ok .orderAlreadyCancelled
  | .cancelExpiredOrder _ orderID, .ok .orderCancelled
  | .cancelExpiredOrder _ orderID,
      .ok .orderAlreadyCancelled =>
      some (.restore orderID)
  | _, .ok (.inventoryInitialised productID quantity) =>
      some (.set productID quantity)
  | _, .ok (.inventoryAdded productID quantity after) =>
      some (.incr productID quantity after)
  | _, _ => none

/- A release is for the identifier that a call generated. -/
theorem Event.followUp_release
    {e : Event}
    {orderID : Int}
    (hFollowUp : e.followUp = some (.release orderID)) :
    e.preDeduct = .applied ∧
      ∃ userID req ids,
        e.request = .createOrder userID req ids ∧
          ids.orderID = orderID := by
  unfold Event.followUp at hFollowUp
  split at hFollowUp
  case h_1 hRequest _ | h_2 hRequest _ =>
    split at hFollowUp
    case isTrue hApplied =>
      cases hFollowUp
      exact ⟨hApplied, _, _, _, hRequest, rfl⟩
    case isFalse => cases hFollowUp
  all_goals cases hFollowUp

/- A confirmation is for an order that was paid. -/
theorem Event.followUp_confirm
    {e : Event}
    {orderID : Int}
    (hFollowUp : e.followUp = some (.confirm orderID)) :
    e.response = .ok .orderPaid ∧
      ∃ userID, e.request = .payOrder userID orderID := by
  unfold Event.followUp at hFollowUp
  split at hFollowUp
  case h_1 | h_2 => split at hFollowUp <;> cases hFollowUp
  case h_3 hRequest hResponse =>
    cases hFollowUp
    exact ⟨hResponse, _, hRequest⟩
  all_goals cases hFollowUp

/- A restoration is for an order that a call cancelled, or
   found cancelled. -/
theorem Event.followUp_restore
    {e : Event}
    {orderID : Int}
    (hFollowUp : e.followUp = some (.restore orderID)) :
    (e.response = .ok .orderCancelled ∨
        e.response = .ok .orderAlreadyCancelled) ∧
      ((∃ userID, e.request = .cancelOrder userID orderID) ∨
        ∃ eventID,
          e.request = .cancelExpiredOrder eventID orderID) := by
  unfold Event.followUp at hFollowUp
  split at hFollowUp
  case h_1 | h_2 => split at hFollowUp <;> cases hFollowUp
  case h_4 hRequest hResponse =>
    cases hFollowUp
    exact ⟨Or.inl hResponse, Or.inl ⟨_, hRequest⟩⟩
  case h_5 hRequest hResponse =>
    cases hFollowUp
    exact ⟨Or.inr hResponse, Or.inl ⟨_, hRequest⟩⟩
  case h_6 hRequest hResponse =>
    cases hFollowUp
    exact ⟨Or.inl hResponse, Or.inr ⟨_, hRequest⟩⟩
  case h_7 hRequest hResponse =>
    cases hFollowUp
    exact ⟨Or.inr hResponse, Or.inr ⟨_, hRequest⟩⟩
  all_goals cases hFollowUp

/- A quantity is stored for an inventory that was created. -/
theorem Event.followUp_set
    {e : Event}
    {productID quantity : Int}
    (hFollowUp : e.followUp = some (.set productID quantity)) :
    e.response =
      .ok (.inventoryInitialised productID quantity) := by
  unfold Event.followUp at hFollowUp
  split at hFollowUp
  case h_1 | h_2 => split at hFollowUp <;> cases hFollowUp
  case h_8 hResponse =>
    cases hFollowUp
    exact hResponse
  all_goals cases hFollowUp

/- An increment is for an inventory that was added to. -/
theorem Event.followUp_incr
    {e : Event}
    {productID delta fallbackQuantity : Int}
    (hFollowUp :
      e.followUp =
        some (.incr productID delta fallbackQuantity)) :
    e.response =
      .ok (.inventoryAdded productID delta
        fallbackQuantity) := by
  unfold Event.followUp at hFollowUp
  split at hFollowUp
  case h_1 | h_2 => split at hFollowUp <;> cases hFollowUp
  case h_9 hResponse =>
    cases hFollowUp
    exact hResponse
  all_goals cases hFollowUp

/- A CreateOrder call that creates nothing releases what it
   knows to be reserved. -/
theorem Event.followUp_of_not_created
    {e : Event}
    {userID : Int}
    {req : CreateOrderRequest}
    {ids : GeneratedIDs}
    (hRequest : e.request = .createOrder userID req ids)
    (hOther :
      ∀ outcome, e.response = .ok outcome →
        ∃ order, outcome = .orderReplayed order) :
    e.followUp =
      if e.preDeduct = .applied then
        some (.release ids.orderID)
      else
        none := by
  unfold Event.followUp
  rw [hRequest]
  cases hEnd : e.response with
  | error err => rfl
  | ok outcome =>
      rcases hOther outcome hEnd with ⟨order, rfl⟩
      rfl

------------------------------------------------------------
-- The Pre-Deduction
------------------------------------------------------------

/- The identifier that a CreateOrder call has generated. -/
def Request.newOrderID : Request → Option Int
| .createOrder _ _ ids => some ids.orderID
| _ => none

/- The guard is asked for a checked CreateOrder only. -/
def Request.preDeduct
    (delivery : Delivery)
    (redis : Redis) : Request → PreDeduct × Redis
| .createOrder userID req ids =>
    match OrderService.checkCreateOrder userID req with
    | .error _ => (.skipped, redis)
    | .ok (_, items) =>
        InventoryStockGuard.preDeductInventory delivery redis
          ids.orderID items
| _ => (.skipped, redis)

/- A call that fails its checks does not ask the guard. -/
theorem Request.preDeduct_of_error
    {userID : Int}
    {req : CreateOrderRequest}
    {err : Err}
    (hChecked :
      OrderService.checkCreateOrder userID req = .error err)
    (delivery : Delivery)
    (redis : Redis)
    (ids : GeneratedIDs) :
    (Request.createOrder userID req ids).preDeduct delivery
      redis = (.skipped, redis) := by
  simp only [Request.preDeduct, hChecked]

/- What a checked call gets from the guard. -/
theorem Request.preDeducted
    {userID : Int}
    {req : CreateOrderRequest}
    {ids : GeneratedIDs}
    {requestHash : String}
    {items : List CreateOrderItemRequest}
    {redis : Redis}
    (hChecked :
      OrderService.checkCreateOrder userID req =
        .ok (requestHash, items))
    (delivery : Delivery)
    (hFresh :
      redis.reservations.find? ids.orderID = none) :
    PreDeducted delivery redis ids.orderID items
      ((Request.createOrder userID req ids).preDeduct delivery
        redis).1
      ((Request.createOrder userID req ids).preDeduct delivery
        redis).2 := by
  simp only [Request.preDeduct, hChecked]
  apply OrderManagement.preDeducted
  · exact ids.orderIDPositive
  · exact hFresh

/-
  The guard is not asked, for a request that is refused or
  that creates no order; or it is asked with the sorted
  items of the request.
-/
theorem Request.preDeduct_cases
    {request : Request}
    {redis : Redis}
    (delivery : Delivery)
    (hFresh :
      ∀ id, request.newOrderID = some id →
        redis.reservations.find? id = none) :
    (request.preDeduct delivery redis = (.skipped, redis) ∧
        ∀ userID req ids,
          request = .createOrder userID req ids →
            ∃ err,
              OrderService.checkCreateOrder userID req =
                .error err) ∨
      ∃ userID req ids,
        request = .createOrder userID req ids ∧
          OrderService.checkCreateOrder userID req =
            .ok (buildCreateOrderRequestHash req,
              sortedOrderItems req.items) ∧
          PreDeducted delivery redis ids.orderID
            (sortedOrderItems req.items)
            (request.preDeduct delivery redis).1
            (request.preDeduct delivery redis).2 := by
  cases request with
  | createOrder userID req ids =>
      cases hChecked :
          OrderService.checkCreateOrder userID req with
      | error err =>
          refine Or.inl ⟨?_, ?_⟩
          · exact Request.preDeduct_of_error hChecked _ _ _
          · rintro _ _ _ ⟨⟩
            exact ⟨err, hChecked⟩
      | ok checked =>
          rcases checked with ⟨requestHash, items⟩
          rcases OrderService.checkCreateOrder_eq_ok_iff.mp
              hChecked with ⟨_, _, _, _, rfl, rfl⟩
          exact Or.inr ⟨userID, req, ids, rfl, hChecked,
            Request.preDeducted hChecked delivery
              (hFresh ids.orderID rfl)⟩
  | createProduct | onSaleProduct | offSaleProduct
  | initInventory | addInventory | payOrder | finishOrder
  | cancelOrder | cancelExpiredOrder =>
      exact Or.inl ⟨rfl, by rintro _ _ _ ⟨⟩⟩

/- The only reservation that an arriving call can store. -/
theorem Request.preDeduct_reservations
    {request : Request}
    {delivery : Delivery}
    {redis : Redis}
    {orderID : Int}
    {r : Reservation}
    (hFresh :
      ∀ id, request.newOrderID = some id →
        redis.reservations.find? id = none)
    (hFind :
      (request.preDeduct delivery redis).2.reservations.find?
        orderID = some r) :
    redis.reservations.find? orderID = some r ∨
      ∃ userID req ids,
        request = .createOrder userID req ids ∧
          ids.orderID = orderID ∧
          r.items = sortedOrderItems req.items := by
  rcases Request.preDeduct_cases delivery hFresh with
    ⟨hSkipped, _⟩ | ⟨userID, req, ids, hRequest, _, hCases⟩
  · rw [hSkipped] at hFind
    exact Or.inl hFind
  · generalize request.preDeduct delivery redis = reserved
      at hCases hFind
    rcases reserved with ⟨answer, redis'⟩
    cases hCases with
    | applied _ _ hReserved | lost _ _ hReserved =>
        rw [hReserved.reservations, Table.find?_put,
          key_reservation] at hFind
        split at hFind
        case isTrue hHere =>
          cases hFind
          exact Or.inr
            ⟨userID, req, ids, hRequest, hHere, rfl⟩
        case isFalse => exact Or.inl hFind
    | insufficient | skipped => exact Or.inl hFind

/- A call with the fate of its pre-deduction. -/
structure GuardedCall where
  request : Request
  delivery : Delivery
  now : Time
  nextAttemptAt : Time

namespace GuardedCall

/- The event of a call that runs alone, guard included. -/
def event
    (c : GuardedCall)
    (redis : Redis)
    (db : DB) : Event :=
  Invocation.event
    { request := c.request
      preDeduct := (c.request.preDeduct c.delivery redis).1
      now := c.now
      nextAttemptAt := c.nextAttemptAt }
    db

/- What such a call leaves in Redis. -/
def redisAfter
    (c : GuardedCall)
    (redis : Redis)
    (db : DB) : Redis :=
  let reserved := (c.request.preDeduct c.delivery redis).2
  match (c.event redis db).followUp with
  | none => reserved
  | some command => command.run reserved

/- The event tells the request and what the guard answered. -/
theorem event_request
    (c : GuardedCall)
    (redis : Redis)
    (db : DB) :
    (c.event redis db).request = c.request ∧
      (c.event redis db).preDeduct =
        (c.request.preDeduct c.delivery redis).1 := by
  unfold event Invocation.event
  split <;> exact ⟨rfl, rfl⟩

/- The response and the database of a call that runs. -/
theorem event_of_admitted
    {c : GuardedCall}
    {redis : Redis}
    {db : DB}
    (hAdmitted :
      c.request.rejection
        (c.request.preDeduct c.delivery redis).1 = none) :
    ((c.event redis db).response, (c.event redis db).after) =
      c.request.run db c.now c.nextAttemptAt db := by
  unfold event Invocation.event
  simp only [hAdmitted]

/- A call that is turned away leaves the database alone. -/
theorem event_of_rejected
    {c : GuardedCall}
    {redis : Redis}
    {db : DB}
    {err : Err}
    (hRejected :
      c.request.rejection
        (c.request.preDeduct c.delivery redis).1 =
          some err) :
    ((c.event redis db).response, (c.event redis db).after) =
      (.error err, db) := by
  unfold event Invocation.event
  simp only [hRejected]

end GuardedCall

end OrderManagement
