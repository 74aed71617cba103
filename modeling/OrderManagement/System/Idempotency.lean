import OrderManagement.Service.Orderable
import OrderManagement.System.Serial

/-
  One idempotency key creates at most one order, whatever
  calls compete for it and wherever they fail.

  Main declarations:
    * `orderedItems` and `createdUnder`
    * `CollisionFree`
    * `Effect.creation`
    * `KeyedOrders` with `Reaches.keyedOrders`
    * `AtMostOnce` and `at_most_once`
-/

namespace OrderManagement

open Transaction

------------------------------------------------------------
-- Orders and Keys
------------------------------------------------------------

variable [Deployment]

/- The items of an order, as a request would list them. -/
def orderedItems
    (db : DB)
    (orderID : Int) : List CreateOrderItemRequest :=
  (linesOf db.orderItems orderID).map fun line =>
    ⟨line.productID, line.quantity⟩

/- The order that a call has created under a slot. -/
def Event.created
    (slot : Int × String)
    (e : Event) : Option Int :=
  match e.response with
  | .ok (.orderCreated order) =>
      if e.request.slot = some slot then some order.id
      else none
  | _ => none

/- The orders that were ever created under a slot. -/
def createdUnder
    (events : List Event)
    (slot : Int × String) : List Int :=
  events.filterMap (Event.created slot)

theorem createdUnder_snoc
    (events : List Event)
    (e : Event)
    (slot : Int × String) :
    createdUnder (events ++ [e]) slot =
      createdUnder events slot ++
        (e.created slot).toList := by
  unfold createdUnder
  rw [List.filterMap_append]
  cases hCreated : e.created slot <;> simp [hCreated]

/- The payload that a request hashes. -/
def Request.payload : Request → Option String
| .createOrder _ req _ =>
    some (marshalPayload (sortedOrderItems req.items))
| _ => none

/- The payloads of a run have digests of their own. -/
def CollisionFree
    (events : List Event) : Prop :=
  Set.InjOn Deployment.sha256Hex
    {payload | ∃ e ∈ events, e.request.payload = some payload}

/- Under such digests the hash tells the items apart. -/
theorem CollisionFree.perm
    {events : List Event}
    (hCollisionFree : CollisionFree events)
    {e e' : Event}
    (hEvent : e ∈ events)
    (hEvent' : e' ∈ events)
    {userID userID' : Int}
    {req req' : CreateOrderRequest}
    {ids ids' : GeneratedIDs}
    (hRequest : e.request = .createOrder userID req ids)
    (hRequest' : e'.request = .createOrder userID' req' ids')
    (hHash :
      buildCreateOrderRequestHash req =
        buildCreateOrderRequestHash req') :
    req.items.Perm req'.items := by
  rw [← marshalPayload_sorted_inj]
  apply hCollisionFree _ _ hHash
  · exact ⟨e, hEvent, by rw [hRequest]; rfl⟩
  · exact ⟨e', hEvent', by rw [hRequest']; rfl⟩

------------------------------------------------------------
-- Creations
------------------------------------------------------------

/- A committed call creates an order, or it leaves the keys
   and the set of orders alone. -/
theorem Effect.creation
    {view : DB}
    {request : Request}
    {outcome : Outcome}
    {db db' : DB}
    (hEffect : Effect view request outcome db db') :
    (∃ now nextAttemptAt userID req ids order,
        request = .createOrder userID req ids ∧
          outcome = .orderCreated order ∧
          OrderPlaced view now nextAttemptAt userID
            req.idempotencyKey
            (buildCreateOrderRequestHash req)
            (sortedOrderItems req.items) ids order db db') ∨
      (∀ order, outcome ≠ .orderCreated order) ∧
        db'.orderIdempotencyKeys = db.orderIdempotencyKeys ∧
        ∀ id, (db'.orders.find? id).isSome →
          (db.orders.find? id).isSome := by
  cases hEffect with
  | @orderCreated now nextAttemptAt userID req ids
      requestHash items order db db' hChecked hPlaced =>
      rcases OrderService.checkCreateOrder_eq_ok_iff.mp
          hChecked with ⟨_, _, _, _, rfl, rfl⟩
      exact Or.inl ⟨now, nextAttemptAt, userID, req, ids,
        order, rfl, rfl, hPlaced⟩
  | orderPaid _ hMoved | orderFinished _ hMoved
  | orderCancelled _ hMoved | orderExpired _ _ hMoved =>
      refine Or.inr ⟨by simp, hMoved.keys, ?_⟩
      intro id hFind
      rw [hMoved.orders, Table.find?_update] at hFind
      split at hFind
      · simpa using hFind
      · exact hFind
  | productCreated | productStatusSame | productStatusSet
  | inventoryInitialised | inventoryAdded | orderReplayed
  | cancelRepeated | expiryRepeated | expiryIgnored
  | expiryLate =>
      exact Or.inr ⟨by simp, rfl, fun _ hFind => hFind⟩

theorem Event.created_of_placed
    {e : Event}
    {userID : Int}
    {req : CreateOrderRequest}
    {ids : GeneratedIDs}
    {order : Order}
    (hRequest : e.request = .createOrder userID req ids)
    (hOk : e.response = .ok (.orderCreated order))
    (slot : Int × String) :
    e.created slot =
      if idempotencySlot userID req.idempotencyKey = slot then
        some order.id
      else
        none := by
  unfold Event.created
  rw [hOk, hRequest]
  simp only [Request.slot, Option.some.injEq]

theorem Event.created_eq_none
    {e : Event}
    (hOther :
      ∀ order, e.response ≠ .ok (.orderCreated order))
    (slot : Int × String) :
    e.created slot = none := by
  unfold Event.created
  split
  case h_1 order hOk => exact absurd hOk (hOther order)
  case h_2 => rfl

------------------------------------------------------------
-- The Invariant
------------------------------------------------------------

/-
  What stands behind a committed record: the one order that
  was ever created under its slot, and the call that did.
-/
structure RecordKept
    (events : List Event)
    (db : DB)
    (slot : Int × String)
    (record : OrderIdempotencyKey)
    (order : Order)
    (req : CreateOrderRequest) : Prop where
  status : record.status = .orderAlreadyCreated
  orderID : record.orderID = some order.id
  find : db.orders.find? order.id = some order
  user : order.userID = record.userID
  created : createdUnder events slot = [order.id]
  request :
    ∃ e ∈ events, ∃ ids,
      e.request = .createOrder record.userID req ids
  items : (orderedItems db order.id).Perm req.items
  hash :
    record.requestHash = buildCreateOrderRequestHash req

/- Records, orders, and the calls that created them agree. -/
structure KeyedOrders
    (events : List Event)
    (db : DB) : Prop where
  record :
    ∀ slot record,
      db.orderIdempotencyKeys.find? slot = some record →
        ∃ order req, RecordKept events db slot record order req
  free :
    ∀ slot, db.orderIdempotencyKeys.find? slot = none →
      createdUnder events slot = []
  order :
    ∀ id, (db.orders.find? id).isSome →
      ∃ slot, createdUnder events slot = [id]

/- A record is kept as the database grows. -/
theorem RecordKept.mono
    {events events' : List Event}
    {db db' : DB}
    {slot : Int × String}
    {record : OrderIdempotencyKey}
    {order : Order}
    {req : CreateOrderRequest}
    (hKept : RecordKept events db slot record order req)
    (hGrows : db.Grows db')
    (hEvents : ∀ e ∈ events, e ∈ events')
    (hCreated :
      createdUnder events' slot = createdUnder events slot) :
    ∃ order',
      RecordKept events' db' slot record order' req := by
  rcases hGrows.orders _ order hKept.find with
    ⟨order', hFind, hFollows⟩
  have hID : order'.id = order.id := Table.key_of_find? hFind
  have hLines :=
    hGrows.lines order.id (by simp [hKept.find])
  rcases hKept.request with ⟨e, hEvent, ids, hRequest⟩
  refine ⟨order', {
    status := hKept.status
    orderID := hID ▸ hKept.orderID
    find := hID ▸ hFind
    user := hFollows.userID.trans hKept.user
    created := ?_
    request := ⟨e, hEvents e hEvent, ids, hRequest⟩
    items := ?_
    hash := hKept.hash }⟩
  · rw [hCreated, hKept.created, hID]
  · unfold orderedItems
    rw [hID, ← hLines]
    exact hKept.items

/- A call that creates nothing keeps the invariant. -/
theorem KeyedOrders.mono
    {events events' : List Event}
    {db db' : DB}
    (hKeyed : KeyedOrders events db)
    (hGrows : db.Grows db')
    (hEvents : ∀ e ∈ events, e ∈ events')
    (hCreated :
      ∀ slot,
        createdUnder events' slot = createdUnder events slot)
    (hKeys :
      db'.orderIdempotencyKeys = db.orderIdempotencyKeys)
    (hOrders :
      ∀ id, (db'.orders.find? id).isSome →
        (db.orders.find? id).isSome) :
    KeyedOrders events' db' where
  record slot record hFind := by
    rw [hKeys] at hFind
    rcases hKeyed.record slot record hFind with
      ⟨order, req, hKept⟩
    rcases hKept.mono hGrows hEvents (hCreated slot) with
      ⟨order', hKept'⟩
    exact ⟨order', req, hKept'⟩
  free slot hFind := by
    rw [hKeys] at hFind
    rw [hCreated]
    exact hKeyed.free slot hFind
  order id hFind := by
    rcases hKeyed.order id (hOrders id hFind) with
      ⟨slot, hSlot⟩
    exact ⟨slot, (hCreated slot).trans hSlot⟩

/- The items of a new order are those of the request. -/
theorem OrderPlaced.orderedItems
    {view : DB}
    {now nextAttemptAt : Time}
    {userID : Int}
    {req : CreateOrderRequest}
    {requestHash : String}
    {ids : GeneratedIDs}
    {order : Order}
    {db db' : DB}
    (hPlaced :
      OrderPlaced view now nextAttemptAt userID
        req.idempotencyKey requestHash
        (sortedOrderItems req.items) ids order db db')
    (hWellFormed : db.WellFormed) :
    (OrderManagement.orderedItems db' order.id).Perm
      req.items := by
  have hItems :
      OrderManagement.orderedItems db' order.id =
        sortedOrderItems req.items := by
    unfold OrderManagement.orderedItems
    rw [hPlaced.linesOf hWellFormed, List.map_map]
    apply List.map_id''
    intro item
    rfl
  rw [hItems]
  apply sortedOrderItems_perm

/- A call that creates an order gives it a slot. -/
theorem KeyedOrders.placed
    {events : List Event}
    {e : Event}
    {view : DB}
    {now nextAttemptAt : Time}
    {userID : Int}
    {req : CreateOrderRequest}
    {ids : GeneratedIDs}
    {order : Order}
    (hKeyed : KeyedOrders events e.before)
    (hWellFormed : e.before.WellFormed)
    (hGrows : e.before.Grows e.after)
    (hRequest : e.request = .createOrder userID req ids)
    (hOk : e.response = .ok (.orderCreated order))
    (hPlaced :
      OrderPlaced view now nextAttemptAt userID
        req.idempotencyKey (buildCreateOrderRequestHash req)
        (sortedOrderItems req.items) ids order e.before
        e.after) :
    KeyedOrders (events ++ [e]) e.after := by
  have hCreated := Event.created_of_placed hRequest hOk
  have hHere :
      createdUnder (events ++ [e])
          (idempotencySlot userID req.idempotencyKey) =
        [order.id] := by
    rw [createdUnder_snoc, hKeyed.free _ hPlaced.slotFree,
      hCreated, if_pos rfl]
    rfl
  have hElsewhere :
      ∀ slot,
        ¬ idempotencySlot userID req.idempotencyKey = slot →
          createdUnder (events ++ [e]) slot =
            createdUnder events slot := by
    intro slot hApart
    rw [createdUnder_snoc, hCreated, if_neg hApart]
    apply List.append_nil
  constructor
  · intro slot record hFind
    rw [hPlaced.keys] at hFind
    split at hFind
    case isTrue hSlot =>
      subst hSlot
      cases hFind
      have hStored :=
        Table.find?_of_insert? hPlaced.orders order.id
      rw [key_order, if_pos rfl] at hStored
      exact ⟨order, req, {
        status := rfl
        orderID := rfl
        find := hStored
        user := hPlaced.user
        created := hHere
        request := ⟨e, by simp, ids, hRequest⟩
        items := hPlaced.orderedItems hWellFormed
        hash := rfl }⟩
    case isFalse hApart =>
      rcases hKeyed.record slot record hFind with
        ⟨order', req', hKept⟩
      rcases hKept.mono hGrows
          (fun e' hOld => List.mem_append_left [e] hOld)
          (hElsewhere slot hApart) with ⟨order'', hKept'⟩
      exact ⟨order'', req', hKept'⟩
  · intro slot hFind
    rw [hPlaced.keys] at hFind
    split at hFind
    case isTrue => cases hFind
    case isFalse hApart =>
      rw [hElsewhere slot hApart]
      exact hKeyed.free slot hFind
  · intro id hFind
    rw [Table.find?_of_insert? hPlaced.orders] at hFind
    split at hFind
    case isTrue hSame =>
      refine ⟨_, hHere.trans ?_⟩
      rw [← hSame, key_order]
    case isFalse =>
      rcases hKeyed.order id hFind with ⟨slot, hSlot⟩
      refine ⟨slot, (hElsewhere slot ?_).trans hSlot⟩
      intro hSame
      rw [← hSame, hKeyed.free _ hPlaced.slotFree] at hSlot
      cases hSlot

theorem Reaches.keyedOrders
    {events : List Event}
    {s : State}
    (hReaches : Reaches events s) :
    KeyedOrders events s.db := by
  refine hReaches.induction (P := KeyedOrders) ?_ ?_ ?_ ?_
  · constructor
    · intro slot record hFind
      cases hFind
    · intro slot _
      rfl
    · intro id hFind
      cases hFind
  · intro events db db' _ hOld hTouched
    rcases hTouched with ⟨f, hIdentity, hKey, rfl⟩
    apply hOld.mono
    · exact OutboxTouched.grows ⟨f, hIdentity, hKey, rfl⟩
    · exact fun _ hEvent => hEvent
    · exact fun _ => rfl
    · rfl
    · exact fun _ hFind => hFind
  · intro events e outcome view hWellFormed hOld hOk _ hEffect
    rcases hEffect.creation with
      ⟨now, nextAttemptAt, userID, req, ids, order, hRequest,
        rfl, hPlaced⟩ | ⟨hOther, hKeys, hOrders⟩
    · exact hOld.placed hWellFormed hEffect.grows hRequest hOk
        hPlaced
    · apply hOld.mono hEffect.grows _ _ hKeys hOrders
      · exact fun _ hEvent => List.mem_append_left [e] hEvent
      · intro slot
        rw [createdUnder_snoc, Event.created_eq_none]
        · apply List.append_nil
        · intro order hCreated
          rw [hOk] at hCreated
          cases hCreated
          exact hOther order rfl
  · intro events e err _ hOld hErr _
    apply hOld.mono (DB.Grows.refl _) _ _ rfl
    · exact fun _ hFind => hFind
    · exact fun _ hEvent => List.mem_append_left [e] hEvent
    · intro slot
      rw [createdUnder_snoc, Event.created_eq_none]
      · apply List.append_nil
      · intro order hCreated
        rw [hErr] at hCreated
        cases hCreated

------------------------------------------------------------
-- What Single Calls Return
------------------------------------------------------------

/- The order that a successful CreateOrder call returns. -/
def Event.returned
    (e : Event) : Option Order :=
  match e.response with
  | .ok (.orderCreated order) => some order
  | .ok (.orderReplayed order) => some order
  | _ => none

/- A call that succeeds leaves a record of what it returns. -/
theorem Event.Sound.recorded
    {e : Event}
    (hSound : e.Sound)
    {userID : Int}
    {req : CreateOrderRequest}
    {ids : GeneratedIDs}
    {order : Order}
    (hRequest : e.request = .createOrder userID req ids)
    (hReturned : e.returned = some order) :
    order.userID = userID ∧
      ∃ record,
        e.after.orderIdempotencyKeys.find?
            (idempotencySlot userID req.idempotencyKey) =
              some record ∧
          record.orderID = some order.id ∧
          record.requestHash =
            buildCreateOrderRequestHash req := by
  unfold Event.returned at hReturned
  split at hReturned
  case h_1 created hOk =>
    cases hReturned
    rcases hSound.effect hOk with ⟨view, _, hEffect⟩
    rw [hRequest] at hEffect
    cases hEffect with
    | orderCreated hChecked hPlaced =>
        rcases OrderService.checkCreateOrder_eq_ok_iff.mp
            hChecked with ⟨_, _, _, _, rfl, rfl⟩
        have hKey := hPlaced.keys
          (idempotencySlot userID req.idempotencyKey)
        rw [if_pos rfl] at hKey
        exact ⟨hPlaced.user, _, hKey, rfl, rfl⟩
  case h_2 replayed hOk =>
    cases hReturned
    rcases hSound.effect hOk with ⟨view, hGrows, hEffect⟩
    rw [hRequest] at hEffect
    generalize hEnd : e.after = db' at hEffect ⊢
    generalize hStart : e.before = db at hEffect hGrows
    cases hEffect with
    | orderReplayed hChecked hReplayed =>
        rcases OrderService.checkCreateOrder_eq_ok_iff.mp
            hChecked with ⟨_, _, _, _, rfl, rfl⟩
        rcases hReplayed.record with
          ⟨record, hRecord, hHash, _, hOrderID⟩
        exact ⟨hReplayed.user, record,
          hGrows.keys _ record hRecord, hOrderID, hHash⟩
  case h_3 => cases hReturned

/- Another hash under a recorded key is a conflict. -/
theorem Event.Ran.conflict
    {e : Event}
    {view : DB}
    {now nextAttemptAt : Time}
    (hRan : e.Ran view now nextAttemptAt)
    {userID : Int}
    {req : CreateOrderRequest}
    {ids : GeneratedIDs}
    {record : OrderIdempotencyKey}
    (hRequest : e.request = .createOrder userID req ids)
    (hRecord :
      e.before.orderIdempotencyKeys.find?
          (idempotencySlot userID req.idempotencyKey) =
        some record)
    (hHash :
      record.requestHash ≠ buildCreateOrderRequestHash req) :
    e.response = .error .orderIdempotencyConflict ∧
      e.after = e.before := by
  have hRun := hRan.run
  have hAdmitted := hRan.admitted
  have hSeen :=
    hRan.keySeen
      (idempotencySlot userID req.idempotencyKey)
      (by rw [hRequest]; rfl) (by rw [hRecord]; rfl)
  rcases Option.isSome_iff_exists.mp hSeen with
    ⟨seen, hView⟩
  have hSame := hRan.grows.keys _ seen hView
  rw [hRecord] at hSame
  cases hSame
  rw [hRequest] at hRun hAdmitted
  have hAborts :
      Aborts
        (OrderService.createOrder view now nextAttemptAt
          userID req.idempotencyKey
          (buildCreateOrderRequestHash req)
          (sortedOrderItems req.items) ids)
        e.before .orderIdempotencyConflict := by
    apply createOrder_conflict _ hView hHash
    rw [hRecord]
    rfl
  unfold Aborts at hAborts
  simp only [Request.run,
    Request.transaction_of_admitted hAdmitted, hAborts,
    Prod.mk.injEq] at hRun
  exact ⟨hRun.1.symm, hRun.2.symm⟩

/- A free key creates an order from an orderable request. -/
theorem Invocation.event_created
    {i : Invocation}
    {userID : Int}
    {req : CreateOrderRequest}
    {ids : GeneratedIDs}
    {lines : List OrderService.OrderLine}
    {db : DB}
    (hRequest : i.request = .createOrder userID req ids)
    (hAdmitted : i.request.rejection i.preDeduct = none)
    (hFree :
      db.orderIdempotencyKeys.find?
        (idempotencySlot userID req.idempotencyKey) = none)
    (hLines :
      lines.map Prod.fst = sortedOrderItems req.items)
    (hOrderable : Orderable db lines ids) :
    ∃ order,
      (i.event db).response = .ok (.orderCreated order) := by
  have hCommit :=
    createOrder_commits i.now i.nextAttemptAt
      (buildCreateOrderRequestHash req) hFree hOrderable
  rcases hCommit with ⟨order, db', hCommit⟩
  refine ⟨order, ?_⟩
  unfold Invocation.event
  rw [hAdmitted]
  rw [hRequest] at hAdmitted ⊢
  rw [hLines] at hCommit
  unfold Commits at hCommit
  simp only [Request.run,
    Request.transaction_of_admitted hAdmitted, hCommit]

------------------------------------------------------------
-- At Most Once
------------------------------------------------------------

/- What a run owes to its idempotency keys. -/
structure AtMostOnce
    (events : List Event)
    (s : State) : Prop where
  orderOfKey :
    ∀ slot, (createdUnder events slot).length ≤ 1
  keyOfOrder :
    ∀ id order, s.db.orders.find? id = some order →
      ∃ slot,
        slot.1 = order.userID ∧
          createdUnder events slot = [id]
  record :
    ∀ slot record,
      s.db.orderIdempotencyKeys.find? slot = some record →
        record.status = .orderAlreadyCreated ∧
          ∃ order,
            record.orderID = some order.id ∧
              s.db.orders.find? order.id = some order ∧
              order.userID = record.userID ∧
              createdUnder events slot = [order.id] ∧
              record.requestHash =
                buildCreateOrderRequestHash
                  ⟨record.idempotencyKey,
                    orderedItems s.db order.id⟩
  success :
    ∀ e ∈ events, ∀ userID req ids order,
      e.request = .createOrder userID req ids →
        e.returned = some order →
          createdUnder events
              (idempotencySlot userID req.idempotencyKey) =
                [order.id] ∧
            order.userID = userID ∧
            req.items.Perm (orderedItems s.db order.id)
  conflict :
    ∀ e ∈ events, ∀ userID req ids record orderID,
      e.request = .createOrder userID req ids →
        e.executed = true →
          e.before.orderIdempotencyKeys.find?
              (idempotencySlot userID req.idempotencyKey) =
                some record →
            record.orderID = some orderID →
              ¬ req.items.Perm (orderedItems s.db orderID) →
                e.response =
                    .error .orderIdempotencyConflict ∧
                  e.after = e.before
  failure :
    ∀ e ∈ events, ∀ err, e.response = .error err →
      e.after = e.before
  free :
    ∀ slot, createdUnder events slot = [] →
      s.db.orderIdempotencyKeys.find? slot = none
  retry :
    ∀ (i : Invocation) userID req ids lines,
      i.request = .createOrder userID req ids →
        i.request.rejection i.preDeduct = none →
          createdUnder events
              (idempotencySlot userID req.idempotencyKey) =
                [] →
            (∀ c ∈ s.calls,
              c.lockedSlot ≠
                some (idempotencySlot userID
                  req.idempotencyKey)) →
              lines.map Prod.fst =
                  sortedOrderItems req.items →
                Orderable s.db lines ids →
                  ∃ e s' order,
                    Reaches (events ++ [e]) s' ∧
                      e.request = i.request ∧
                      e.response = .ok (.orderCreated order)

/- A slot has created one order at most, and none if it has
   no record. -/
theorem KeyedOrders.created_le_one
    {events : List Event}
    {db : DB}
    (hKeyed : KeyedOrders events db)
    (slot : Int × String) :
    (createdUnder events slot).length ≤ 1 := by
  cases hFind : db.orderIdempotencyKeys.find? slot with
  | none =>
      rw [hKeyed.free slot hFind]
      exact Nat.zero_le 1
  | some record =>
      rcases hKeyed.record slot record hFind with
        ⟨order, req, hKept⟩
      rw [hKept.created]
      exact Nat.le_refl 1

theorem KeyedOrders.find?_eq_none
    {events : List Event}
    {db : DB}
    {slot : Int × String}
    (hKeyed : KeyedOrders events db)
    (hNil : createdUnder events slot = []) :
    db.orderIdempotencyKeys.find? slot = none := by
  cases hFind : db.orderIdempotencyKeys.find? slot with
  | none => rfl
  | some record =>
      rcases hKeyed.record slot record hFind with
        ⟨order, req, hKept⟩
      rw [hKept.created] at hNil
      cases hNil

/- The hash of a record is that of the items of its order. -/
theorem RecordKept.hash_eq
    {events : List Event}
    {db : DB}
    {slot : Int × String}
    {record : OrderIdempotencyKey}
    {order : Order}
    {req : CreateOrderRequest}
    (hKept : RecordKept events db slot record order req) :
    record.requestHash =
      buildCreateOrderRequestHash
        ⟨record.idempotencyKey, orderedItems db order.id⟩ := by
  have hSorted :
      sortedOrderItems req.items =
        sortedOrderItems (orderedItems db order.id) :=
    sortedOrderItems_eq_iff_perm.mpr hKept.items.symm
  rw [hKept.hash]
  unfold buildCreateOrderRequestHash
  rw [hSorted]

/-
  In every reachable state and for every interleaving of the
  calls, a key has created at most one order, records and
  orders agree, successes return that one order, conflicts
  are refused, and failures leave the key free.
-/
theorem at_most_once
    {events : List Event}
    {s : State}
    (hReaches : Reaches events s)
    (hCollisionFree : CollisionFree events) :
    AtMostOnce events s := by
  have hKeyed := hReaches.keyedOrders
  have hFailure :
      ∀ e ∈ events, ∀ err, e.response = .error err →
        e.after = e.before := by
    intro e hEvent err hErr
    rcases (hReaches.event hEvent).1.result with
      ⟨outcome, _, hOk, _⟩ | ⟨_, _, hSame⟩
    · rw [hErr] at hOk
      cases hOk
    · exact hSame
  constructor
  case orderOfKey =>
    exact hKeyed.created_le_one
  case keyOfOrder =>
    intro id order hFind
    rcases hKeyed.order id (by simp [hFind]) with
      ⟨slot, hSlot⟩
    refine ⟨slot, ?_, hSlot⟩
    cases hRecord : s.db.orderIdempotencyKeys.find? slot with
    | none =>
        rw [hKeyed.free slot hRecord] at hSlot
        cases hSlot
    | some record =>
        rcases hKeyed.record slot record hRecord with
          ⟨order', req, hKept⟩
        rw [hKept.created] at hSlot
        cases hSlot
        have hSame := hKept.find
        rw [hFind] at hSame
        cases hSame
        rw [← Table.key_of_find? hRecord, hKept.user]
        rfl
  case record =>
    intro slot record hFind
    rcases hKeyed.record slot record hFind with
      ⟨order, req, hKept⟩
    exact ⟨hKept.status, order, hKept.orderID, hKept.find,
      hKept.user, hKept.created, hKept.hash_eq⟩
  case success =>
    intro e hEvent userID req ids order hRequest hReturned
    rcases hReaches.event hEvent with ⟨hSound, hLater⟩
    rcases hSound.recorded hRequest hReturned with
      ⟨hUser, record, hRecord, hOrderID, hHash⟩
    rcases hKeyed.record _ record
        (hLater.keys _ record hRecord) with
      ⟨order', req', hKept⟩
    rw [hKept.orderID, Option.some.injEq] at hOrderID
    rcases hKept.request with ⟨e', hEvent', ids', hRequest'⟩
    have hPerm :=
      hCollisionFree.perm hEvent hEvent' hRequest hRequest'
        (hHash.symm.trans hKept.hash)
    rw [← hOrderID]
    exact ⟨hKept.created, hUser, hPerm.trans hKept.items.symm⟩
  case conflict =>
    intro e hEvent userID req ids record orderID hRequest
      hExecuted hRecord hOrderID hApart
    rcases hReaches.event hEvent with ⟨hSound, hLater⟩
    rcases hReaches.ran hEvent hExecuted with
      ⟨view, now, nextAttemptAt, hRan⟩
    rcases hKeyed.record _ record
        (hLater.keys _ record
          (hSound.grows.keys _ record hRecord)) with
      ⟨order', req', hKept⟩
    rw [hKept.orderID, Option.some.injEq] at hOrderID
    apply hRan.conflict hRequest hRecord
    intro hHash
    rcases hKept.request with ⟨e', hEvent', ids', hRequest'⟩
    have hPerm :=
      hCollisionFree.perm hEvent hEvent' hRequest hRequest'
        (hHash.symm.trans hKept.hash)
    apply hApart
    rw [← hOrderID]
    exact hPerm.trans hKept.items.symm
  case failure => exact hFailure
  case free => exact fun _ => hKeyed.find?_eq_none
  case retry =>
    intro i userID req ids lines hRequest hAdmitted hNil
      hUnlocked hLines hOrderable
    rcases Invocation.event_created hRequest hAdmitted
        (hKeyed.find?_eq_none hNil) hLines hOrderable with
      ⟨order, hOk⟩
    have hNext := hReaches.call i (by
      intro slot hSlot
      rw [hRequest] at hSlot
      cases hSlot
      exact hUnlocked)
    refine ⟨_, _, order, hNext, ?_, hOk⟩
    unfold Invocation.event
    rw [hAdmitted]

end OrderManagement

namespace OrderManagement

attribute [local instance] sampleDeployment

/- Two more calls under the key of the sample order, of
   which the second asks for something else. -/
def sampleKeyCalls : List Invocation :=
  sampleCalls ++
    [ sampleCall
        (.createOrder 3 ⟨"K", [⟨1, 4⟩]⟩
          ⟨8, "ORD8", "E8", by decide⟩) 0,
      sampleCall
        (.createOrder 3 ⟨"k", [⟨1, 5⟩]⟩
          ⟨9, "ORD9", "E9", by decide⟩) 0 ]

/- The digest of the sample deployment exchanges texts. -/
theorem sample_sha256Hex_injective :
    Function.Injective
      (Deployment.sha256Hex : String → String) := by
  have hExchange :
      ∀ a b : String,
        Function.Injective fun s => exchanged s a b := by
    intro a b
    have hSwap :
        (fun s => exchanged s a b) = Equiv.swap a b := by
      funext s
      rw [Equiv.swap_apply_def]
      rfl
    rw [hSwap]
    exact (Equiv.swap a b).injective
  change Function.Injective fun s =>
    sampleDigests.foldl
      (fun text pair => exchanged text pair.1 pair.2) s
  generalize sampleDigests = digests
  induction digests with
  | nil => exact Function.injective_id
  | cons pair digests ih =>
      exact ih.comp (hExchange pair.1 pair.2)

/- One order was created, and the last call was refused. -/
theorem at_most_once_sample :
    AtMostOnce (serialEvents DB.empty sampleKeyCalls)
        ⟨serialDB DB.empty sampleKeyCalls, 0⟩ ∧
      createdUnder (serialEvents DB.empty sampleKeyCalls)
          (3, "K") = [7] ∧
      ((serialEvents DB.empty sampleKeyCalls).map
          Event.response).getLast? =
        some (.error .orderIdempotencyConflict) := by
  refine ⟨at_most_once (reaches_serial sampleKeyCalls) ?_,
    ?_, ?_⟩
  · exact sample_sha256Hex_injective.injOn
  · decide +kernel
  · decide +kernel

end OrderManagement
