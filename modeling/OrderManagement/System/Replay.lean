import OrderManagement.System.Idempotency
import OrderManagement.System.LuaShop

/-
  Repeating a CreateOrder call. The pre-deduction comes
  before the idempotency lookup, so a repeated call is
  answered by the record only if the guard lets it pass.

  Main declarations:
    * `CreatedBy` and `Reaches.record_of_created`
    * `GuardedCall.luaEvent_eq` and
      `GuardedCall.luaRedisAfter_eq`
    * `replay_law`
-/

namespace OrderManagement

open Transaction

variable [Deployment]

------------------------------------------------------------
-- Records of Created Orders
------------------------------------------------------------

/- A call with this user and request has created the order. -/
def CreatedBy
    (events : List Event)
    (userID : Int)
    (req : CreateOrderRequest)
    (orderID : Int) : Prop :=
  ∃ ids, ∃ e ∈ events,
    e.request = .createOrder userID req ids ∧
      e.created (idempotencySlot userID req.idempotencyKey) =
        some orderID

theorem Event.created_eq_some
    {e : Event}
    {slot : Int × String}
    {orderID : Int}
    (hCreated : e.created slot = some orderID) :
    ∃ order,
      e.response = .ok (.orderCreated order) ∧
        order.id = orderID := by
  unfold Event.created at hCreated
  split at hCreated
  case h_1 order hOk =>
    split at hCreated
    · cases hCreated
      exact ⟨order, hOk, rfl⟩
    · cases hCreated
  case h_2 => cases hCreated

/- The record of a created order, with its current row. -/
theorem Reaches.record_of_created
    {events : List Event}
    {s : State}
    (hReaches : Reaches events s)
    {userID orderID : Int}
    {req : CreateOrderRequest}
    (hCreated : CreatedBy events userID req orderID) :
    ∃ record order,
      s.db.orderIdempotencyKeys.find?
          (idempotencySlot userID req.idempotencyKey) =
            some record ∧
        record.requestHash = buildCreateOrderRequestHash req ∧
        record.status = .orderAlreadyCreated ∧
        record.orderID = some orderID ∧
        s.db.orders.find? orderID = some order ∧
        order.userID = userID := by
  rcases hCreated with ⟨ids, e, hEvent, hRequest, hHere⟩
  rcases Event.created_eq_some hHere with ⟨created, hOk, rfl⟩
  have hReturned : e.returned = some created := by
    unfold Event.returned
    rw [hOk]
  rcases hReaches.event hEvent with ⟨hSound, hLater⟩
  rcases hSound.recorded hRequest hReturned with
    ⟨_, record, hAfter, hOrderID, hHash⟩
  have hRecord := hLater.keys _ record hAfter
  rcases hReaches.keyedOrders.record _ record hRecord with
    ⟨order, req', hKept⟩
  have hSame : order.id = created.id := by
    have hBoth := hKept.orderID
    rw [hOrderID, Option.some.injEq] at hBoth
    exact hBoth.symm
  have hUser : record.userID = userID :=
    congrArg Prod.fst (Table.key_of_find? hRecord)
  exact ⟨record, order, hRecord, hHash, hKept.status,
    hOrderID, hSame ▸ hKept.find, hKept.user.trans hUser⟩

/- A created order has an identifier of the generator, and
   the request that created it was a valid one. -/
theorem Reaches.checked_of_created
    {events : List Event}
    {s : State}
    (hReaches : Reaches events s)
    {userID orderID : Int}
    {req : CreateOrderRequest}
    (hCreated : CreatedBy events userID req orderID) :
    0 < orderID ∧
      OrderService.checkCreateOrder userID req =
        .ok (buildCreateOrderRequestHash req,
          sortedOrderItems req.items) := by
  rcases hCreated with ⟨ids, e, hEvent, hRequest, hHere⟩
  rcases Event.created_eq_some hHere with ⟨created, hOk, rfl⟩
  rcases (hReaches.event hEvent).1.effect hOk with
    ⟨view, _, hEffect⟩
  rw [hRequest] at hEffect
  cases hEffect with
  | orderCreated hChecked hPlaced =>
      rcases OrderService.checkCreateOrder_eq_ok_iff.mp
          hChecked with ⟨_, _, _, _, rfl, rfl⟩
      exact ⟨hPlaced.id ▸ ids.orderIDPositive, hChecked⟩

/- The same key with other items without duplicates. -/
theorem checkCreateOrder_of_items
    {userID : Int}
    {key : String}
    {items items' : List CreateOrderItemRequest}
    {checked : String × List CreateOrderItemRequest}
    (hChecked :
      OrderService.checkCreateOrder userID ⟨key, items⟩ =
        .ok checked)
    (hNodup :
      (items'.map CreateOrderItemRequest.productID).Nodup) :
    OrderService.checkCreateOrder userID ⟨key, items'⟩ =
      .ok (buildCreateOrderRequestHash ⟨key, items'⟩,
        sortedOrderItems items') := by
  rcases checked with ⟨requestHash, sorted⟩
  rcases OrderService.checkCreateOrder_eq_ok_iff.mp
      hChecked with ⟨hUser, hBlank, hLength, _⟩
  exact OrderService.checkCreateOrder_eq_ok_iff.mpr
    ⟨hUser, hBlank, hLength, hNodup, rfl, rfl⟩

------------------------------------------------------------
-- Guarded Calls
------------------------------------------------------------

/-
  A call that does not create an order, and whose guard was
  not cut off from its answer, leaves Redis as it was.
-/
theorem GuardedCall.redisAfter_eq
    {c : GuardedCall}
    {redis : Redis}
    {db : DB}
    {userID : Int}
    {req : CreateOrderRequest}
    {ids : GeneratedIDs}
    (hRequest : c.request = .createOrder userID req ids)
    (hFresh :
      redis.reservations.find? ids.orderID = none)
    (hDelivery : c.delivery ≠ .unanswered)
    (hOther :
      ∀ outcome,
        (c.event redis db).response = .ok outcome →
          ∃ order, outcome = .orderReplayed order) :
    c.redisAfter redis db = redis := by
  have hPositive : ¬ ids.orderID ≤ 0 := by
    have := ids.orderIDPositive
    omega
  have hFollowUp :=
    Event.followUp_of_not_created
      ((c.event_request redis db).1.trans hRequest) hOther
  rw [(c.event_request redis db).2, hRequest] at hFollowUp
  unfold GuardedCall.redisAfter
  rw [hFollowUp, hRequest]
  cases hChecked :
      OrderService.checkCreateOrder userID req with
  | error err =>
      rw [Request.preDeduct_of_error hChecked]
      rfl
  | ok checked =>
      have hCases :=
        Request.preDeducted hChecked c.delivery hFresh
      generalize (Request.createOrder userID req ids).preDeduct
        c.delivery redis = reserved at hCases ⊢
      rcases reserved with ⟨answer, redis'⟩
      cases hCases with
      | applied _ _ hReserved =>
          simp only [if_true, FollowUp.run,
            InventoryStockGuard.releaseReservation,
            if_neg hPositive]
          exact hReserved.release hFresh
      | lost hLost => exact absurd hLost hDelivery
      | insufficient => rfl
      | skipped => rfl

------------------------------------------------------------
-- Exact Quantities
------------------------------------------------------------

variable {host : LuaHost}

theorem GuardedCall.luaEvent_eq
    {c : GuardedCall}
    (hLawful : host.Lawful)
    (hExact : c.request.Exact)
    (redis : Redis)
    (db : DB) :
    c.luaEvent host redis db = c.event redis db := by
  unfold luaEvent event
  rw [Request.luaPreDeduct_eq hLawful c.delivery redis hExact]

/- The only reservation that a creation can release is the
   one that it has stored. -/
theorem GuardedCall.luaRedisAfter_eq
    {c : GuardedCall}
    {redis : Redis}
    {userID : Int}
    {req : CreateOrderRequest}
    {ids : GeneratedIDs}
    (hLawful : host.Lawful)
    (hRequest : c.request = .createOrder userID req ids)
    (hExact : c.request.Exact)
    (hFresh : redis.reservations.find? ids.orderID = none)
    (db : DB) :
    c.luaRedisAfter host redis db = c.redisAfter redis db := by
  have hSame := (c.event_request redis db).1
  unfold luaRedisAfter redisAfter
  rw [luaEvent_eq hLawful hExact,
    Request.luaPreDeduct_eq hLawful c.delivery redis hExact]
  cases hDue : (c.event redis db).followUp with
  | none => rfl
  | some command =>
      cases command with
      | release orderID =>
          apply Lua.releaseReservation_eq hLawful
          intro r hFind
          have hStored :=
            Request.preDeduct_reservations (fun id hID => by
              rw [hRequest] at hID
              cases hID
              exact hFresh) hFind
          rcases Event.followUp_release hDue with
            ⟨_, userID', req', ids', hRequest', rfl⟩
          rw [hSame, hRequest] at hRequest'
          cases hRequest'
          rcases hStored with
            hOld | ⟨_, req'', _, hRequest'', _, hItems⟩
          · rw [hFresh] at hOld
            cases hOld
          · rw [hRequest] at hRequest'' hExact
            cases hRequest''
            intro item hItem
            rw [hItems] at hItem
            exact hExact item
              ((sortedOrderItems_perm req.items).mem_iff.mp
                hItem)
      | restore orderID =>
          rcases (Event.followUp_restore hDue).2 with
            ⟨_, hCancel⟩ | ⟨_, hCancel⟩
          · rw [hSame, hRequest] at hCancel
            cases hCancel
          · rw [hSame, hRequest] at hCancel
            cases hCancel
      | confirm | set | incr => rfl

------------------------------------------------------------
-- The Replay Law
------------------------------------------------------------

/- What the transaction of a call with the key answers, once
   the order is there. -/
theorem Reaches.run_of_created
    {events : List Event}
    {s : State}
    (hReaches : Reaches events s)
    {userID orderID : Int}
    {key : String}
    {items items' : List CreateOrderItemRequest}
    (ids : GeneratedIDs)
    (hCreated :
      CreatedBy events userID ⟨key, items⟩ orderID)
    (hChecked :
      OrderService.checkCreateOrder userID ⟨key, items'⟩ =
        .ok (buildCreateOrderRequestHash ⟨key, items'⟩,
          sortedOrderItems items'))
    (hDigest :
      Set.InjOn Deployment.sha256Hex
        {marshalPayload (sortedOrderItems items),
          marshalPayload (sortedOrderItems items')}) :
    ∃ order,
      s.db.orders.find? orderID = some order ∧
        ∀ now nextAttemptAt,
          (Request.createOrder userID ⟨key, items'⟩ ids).run
              s.db now nextAttemptAt s.db =
            (if items'.Perm items then
              .ok (.orderReplayed order)
            else
              .error .orderIdempotencyConflict, s.db) := by
  rcases hReaches.record_of_created hCreated with
    ⟨record, order, hRecord, hHash, hStatus, hOrderID, hFind,
      hUser⟩
  have hPositive := (hReaches.checked_of_created hCreated).1
  have hID : order.id = orderID := Table.key_of_find? hFind
  have hTaken :
      (s.db.orderIdempotencyKeys.find?
        (idempotencySlot userID key)).isSome := by
    rw [hRecord]
    rfl
  refine ⟨order, hFind, ?_⟩
  intro now nextAttemptAt
  simp only [Request.run, Request.transaction, hChecked]
  by_cases hPerm : items'.Perm items
  · have hSorted := sortedOrderItems_eq_iff_perm.mpr hPerm
    have hReplays :
        Commits
          (OrderService.createOrder s.db now nextAttemptAt
            userID key
            (buildCreateOrderRequestHash ⟨key, items'⟩)
            (sortedOrderItems items') ids)
          s.db (.orderReplayed order) s.db := by
      apply createOrder_replays hTaken hRecord
      · rw [hHash]
        unfold buildCreateOrderRequestHash
        rw [hSorted]
      · exact hStatus
      · rw [hID, hOrderID]
      · rw [hID]
        exact hPositive
      · rw [hID]
        exact hFind
      · exact hUser
    unfold Commits at hReplays
    rw [hReplays, if_pos hPerm]
  · have hConflict :
        Aborts
          (OrderService.createOrder s.db now nextAttemptAt
            userID key
            (buildCreateOrderRequestHash ⟨key, items'⟩)
            (sortedOrderItems items') ids)
          s.db .orderIdempotencyConflict := by
      apply createOrder_conflict hTaken hRecord
      intro hSame
      rw [hHash] at hSame
      apply hPerm
      rw [← marshalPayload_sorted_inj]
      exact hDigest (by simp) (by simp) hSame.symm
    unfold Aborts at hConflict
    rw [hConflict, if_neg hPerm]

/- What a repeated call does on exact quantities. -/
theorem Reaches.replays
    {events : List Event}
    {s : State}
    (hReaches : Reaches events s)
    {userID orderID : Int}
    {key : String}
    {items items' : List CreateOrderItemRequest}
    {ids : GeneratedIDs}
    (hCreated :
      CreatedBy events userID ⟨key, items⟩ orderID)
    (c : GuardedCall)
    (hRequest :
      c.request = .createOrder userID ⟨key, items'⟩ ids)
    (hNodup :
      (items'.map CreateOrderItemRequest.productID).Nodup)
    (hDigest :
      Set.InjOn Deployment.sha256Hex
        {marshalPayload (sortedOrderItems items),
          marshalPayload (sortedOrderItems items')})
    (redis : Redis)
    (hFresh : redis.reservations.find? ids.orderID = none) :
    (c.event redis s.db).after = s.db ∧
      (c.delivery ≠ .unanswered →
        c.redisAfter redis s.db = redis) ∧
      ∃ order,
        s.db.orders.find? orderID = some order ∧
          (c.event redis s.db).response =
            if c.delivery = .answered ∧
                redis.shortage (sortedOrderItems items') =
                  some (-1) then
              .error .insufficientStock
            else if items'.Perm items then
              .ok (.orderReplayed order)
            else
              .error .orderIdempotencyConflict := by
  have hOrigin := (hReaches.checked_of_created hCreated).2
  have hChecked := checkCreateOrder_of_items hOrigin hNodup
  rcases hReaches.run_of_created ids hCreated hChecked
      hDigest with ⟨order, hFind, hRun⟩
  have hRefused :=
    (Request.preDeducted hChecked c.delivery
      hFresh).insufficient_iff
  rw [← hRequest] at hRefused
  have hRejection :
      c.request.rejection
          (c.request.preDeduct c.delivery redis).1 =
        if c.delivery = .answered ∧
            redis.shortage (sortedOrderItems items') =
              some (-1) then
          some .insufficientStock
        else
          none := by
    simp only [← hRefused]
    generalize (c.request.preDeduct c.delivery redis).1 =
      answer
    rw [hRequest]
    simp only [Request.rejection, hChecked]
  have hEnd :
      ((c.event redis s.db).response,
          (c.event redis s.db).after) =
        (if c.delivery = .answered ∧
            redis.shortage (sortedOrderItems items') =
              some (-1) then
          .error .insufficientStock
        else if items'.Perm items then
          .ok (.orderReplayed order)
        else
          .error .orderIdempotencyConflict, s.db) := by
    by_cases hShort :
        c.delivery = .answered ∧
          redis.shortage (sortedOrderItems items') = some (-1)
    · rw [if_pos hShort] at hRejection ⊢
      exact GuardedCall.event_of_rejected hRejection
    · rw [if_neg hShort] at hRejection ⊢
      rw [GuardedCall.event_of_admitted hRejection, hRequest,
        hRun]
  rw [Prod.mk.injEq] at hEnd
  refine ⟨hEnd.2, ?_, order, hFind, hEnd.1⟩
  intro hDelivery
  apply GuardedCall.redisAfter_eq hRequest hFresh hDelivery
  intro outcome hOk
  rw [hEnd.1] at hOk
  split at hOk
  · cases hOk
  · split at hOk
    · cases hOk
      exact ⟨order, rfl⟩
    · cases hOk

/-
  A repeated call with the key of a created order changes
  nothing, in neither store and whatever Redis holds, as
  long as the guard hears what its script did and no
  quantity that is asked for has more than fourteen digits.
  If the guard finds too little stock, the call ends there;
  else it returns the order for the same items in any
  arrangement, and a conflict for other items.
-/
theorem replay_law
    (hLawful : host.Lawful)
    {events : List Event}
    {s : State}
    (hReaches : Reaches events s)
    {userID orderID : Int}
    {key : String}
    {items items' : List CreateOrderItemRequest}
    {ids : GeneratedIDs}
    (hCreated :
      CreatedBy events userID ⟨key, items⟩ orderID)
    (c : GuardedCall)
    (hRequest :
      c.request = .createOrder userID ⟨key, items'⟩ ids)
    (hNodup :
      (items'.map CreateOrderItemRequest.productID).Nodup)
    (hExact : ∀ item ∈ items', item.Exact)
    (hDigest :
      Set.InjOn Deployment.sha256Hex
        {marshalPayload (sortedOrderItems items),
          marshalPayload (sortedOrderItems items')})
    (redis : Redis)
    (hFresh : redis.reservations.find? ids.orderID = none) :
    (c.luaEvent host redis s.db).after = s.db ∧
      (c.delivery ≠ .unanswered →
        c.luaRedisAfter host redis s.db = redis) ∧
      ∃ order,
        s.db.orders.find? orderID = some order ∧
          (c.luaEvent host redis s.db).response =
            if c.delivery = .answered ∧
                redis.shortage (sortedOrderItems items') =
                  some (-1) then
              .error .insufficientStock
            else if items'.Perm items then
              .ok (.orderReplayed order)
            else
              .error .orderIdempotencyConflict := by
  have hExact' : c.request.Exact := by
    rw [hRequest]
    exact hExact
  rw [GuardedCall.luaEvent_eq hLawful hExact',
    GuardedCall.luaRedisAfter_eq hLawful hRequest hExact'
      hFresh]
  exact hReaches.replays hCreated c hRequest hNodup hDigest
    redis hFresh

end OrderManagement

namespace OrderManagement

attribute [local instance] sampleDeployment

/- The sample order again, after its client lost the answer. -/
def sampleReplay : GuardedCall where
  request :=
    .createOrder 3 ⟨"k", [⟨1, 4⟩]⟩
      ⟨8, "ORD8", "E8", sampleSecondID_pos⟩
  delivery := .answered
  now := 0
  nextAttemptAt := 0

/- With ten pieces in Redis it gets its order. -/
theorem replay_law_sample :
    (sampleReplay.luaEvent sampleHost
          ⟨fun _ => some 10, Table.empty⟩
          (serialDB DB.empty sampleCalls)).after =
        serialDB DB.empty sampleCalls ∧
      ∃ order : Order,
        (serialDB DB.empty sampleCalls).orders.find? 7 =
            some order ∧
          (sampleReplay.luaEvent sampleHost
              ⟨fun _ => some 10, Table.empty⟩
              (serialDB DB.empty sampleCalls)).response =
            .ok (.orderReplayed order) := by
  have hCreated :
      CreatedBy (serialEvents DB.empty sampleCalls) 3
        ⟨"k", [⟨1, 4⟩]⟩ 7 := by
    refine ⟨sampleIDs, ?_⟩
    decide +kernel
  rcases replay_law sampleHost_lawful
      (reaches_serial sampleCalls) hCreated sampleReplay rfl
      (by decide) (by decide) sample_sha256Hex_injective.injOn
      ⟨fun _ => some 10, Table.empty⟩ rfl with
    ⟨hAfter, _, order, hFind, hResponse⟩
  dsimp only at hAfter hFind hResponse
  refine ⟨hAfter, order, hFind, ?_⟩
  rw [hResponse]
  rfl

/- With none left it is told that there is no stock. -/
theorem replay_refused :
    createdUnder (serialEvents DB.empty sampleCalls)
          (3, "K") = [7] ∧
      (sampleReplay.luaEvent sampleHost
          ⟨fun _ => some 0, Table.empty⟩
          (serialDB DB.empty sampleCalls)).response =
        .error .insufficientStock := by
  constructor <;> decide +kernel

end OrderManagement
