import OrderManagement.System.Conservation
import OrderManagement.System.Idempotency
import OrderManagement.System.Lifecycle
import OrderManagement.System.Shop
import Mathlib.Algebra.Order.Group.Multiset

/-
  What ties Redis to MySQL in every run of the shop, however
  degraded: an order id has one owner at a time, commands
  are due for orders of the right status, and a reservation
  holds what the items of its order say.

  Main declarations:
    * `Shop.owned`
    * `Shop.Sound` with `Shop.Step.sound`
-/

namespace OrderManagement

variable [Deployment]

------------------------------------------------------------
-- Owners of Identifiers
------------------------------------------------------------

def Call.newOrderID
    (c : Call) : Option Int :=
  c.request.newOrderID

def FollowUp.released : FollowUp → Option Int
| .release orderID => some orderID
| _ => none

/- The identifiers that calls still hold: those of calls in
   flight, and those of calls that have to release. -/
def Shop.owned
    (s : Shop) : Multiset Int :=
  s.core.calls.filterMap Call.newOrderID +
    s.followUps.filterMap FollowUp.released

omit [Deployment] in
/- What the request binding leaves of a reservation. -/
structure Reservation.Valid
    (r : Reservation) : Prop where
  orderIDPositive : 0 < r.orderID
  quantityPositive : ∀ item ∈ r.items, 0 < item.quantity

/- The guard sends these commands on. -/
def FollowUp.Valid : FollowUp → Prop
| .set productID quantity => 0 < productID ∧ 0 ≤ quantity
| .incr productID delta fallbackQuantity =>
    0 < productID ∧ 0 < delta ∧ 0 ≤ fallbackQuantity
| _ => True

/- The order was paid for, and its goods are gone. -/
def soldIn
    (db : DB)
    (orderID : Int) : Prop :=
  ∃ status,
    statusOf db orderID = some status ∧
      status.isSold = true

/-
  What ties Redis to MySQL in every run, however degraded:
  whose an identifier is, what the commands that are due are
  for, and what a reservation holds.
-/
structure Shop.Sound
    (s : Shop) : Prop where
  core : s.core.Sound
  owned : s.owned.Nodup
  ownedIssued : ∀ id ∈ s.owned, id ∈ s.issued
  unborn :
    ∀ id ∈ s.owned, s.core.db.orders.find? id = none
  ordersIssued :
    ∀ id, (s.core.db.orders.find? id).isSome →
      id ∈ s.issued
  reservationsIssued :
    ∀ id, (s.redis.reservations.find? id).isSome →
      id ∈ s.issued
  reservationsValid :
    ∀ id r, s.redis.reservations.find? id = some r →
      r.Valid
  followUpsValid : ∀ f ∈ s.followUps, f.Valid
  restored :
    ∀ id, .restore id ∈ s.followUps →
      statusOf s.core.db id = some .cancelled
  confirmed :
    ∀ id, .confirm id ∈ s.followUps →
      soldIn s.core.db id
  requested :
    ∀ c ∈ s.core.calls, ∀ userID req ids,
      c.request = .createOrder userID req ids →
        ∀ r, s.redis.reservations.find? ids.orderID = some r →
          r.items = sortedOrderItems req.items
  ordered :
    ∀ id r, (s.core.db.orders.find? id).isSome →
      s.redis.reservations.find? id = some r →
        ∀ p,
          quantityOf
              (r.items.map CreateOrderItemRequest.line) p =
            orderQuantity s.core.db.orderItems id p

------------------------------------------------------------
-- Statuses over Steps
------------------------------------------------------------

theorem DB.Grows.statusOf
    {db db' : DB}
    {id : Int}
    {status : OrderStatus}
    (hGrows : db.Grows db')
    (hStatus : OrderManagement.statusOf db id = some status) :
    ∃ status',
      OrderManagement.statusOf db' id = some status' ∧
        status.canBecome status' = true := by
  rcases Option.map_eq_some_iff.mp hStatus with
    ⟨order, hFind, rfl⟩
  rcases hGrows.orders id order hFind with
    ⟨order', hFind', hFollows⟩
  refine ⟨order'.status, ?_, hFollows.status⟩
  unfold OrderManagement.statusOf
  rw [hFind']
  rfl

/- An order that was cancelled or sold remains so. -/
theorem DB.Grows.statusOf_cancelled
    {db db' : DB}
    {id : Int}
    (hGrows : db.Grows db')
    (hStatus :
      OrderManagement.statusOf db id = some .cancelled) :
    OrderManagement.statusOf db' id = some .cancelled := by
  rcases hGrows.statusOf hStatus with ⟨status, hAfter, hNext⟩
  rw [hAfter]
  cases status with
  | cancelled => rfl
  | pending | paid | finished => cases hNext

theorem DB.Grows.soldIn
    {db db' : DB}
    {id : Int}
    (hGrows : db.Grows db')
    (hSold : OrderManagement.soldIn db id) :
    OrderManagement.soldIn db' id := by
  rcases hSold with ⟨status, hStatus, hSold⟩
  rcases hGrows.statusOf hStatus with ⟨status', hAfter, hNext⟩
  refine ⟨status', hAfter, ?_⟩
  revert hSold hNext
  cases status <;> cases status' <;> decide

/- What a restoration that becomes due is for. -/
theorem Event.Sound.restore
    {e : Event}
    (hSound : e.Sound)
    {orderID : Int}
    (hDue : e.followUp = some (.restore orderID)) :
    statusOf e.after orderID = some .cancelled := by
  rcases Event.followUp_restore hDue with
    ⟨hOk | hOk, hRequest⟩
  · have hMark : e.mark orderID = some .cancelled := by
      unfold Event.mark
      rcases hRequest with ⟨_, hCall⟩ | ⟨_, hCall⟩ <;>
        rw [hOk, hCall] <;> exact if_pos rfl
    rcases hSound.advance orderID with
      ⟨hNone, _⟩ | ⟨status, hSome, _, hAfter, _⟩
    · rw [hMark] at hNone
      cases hNone
    · rwa [hAfter, ← hSome]
  · rcases hSound.effect hOk with ⟨view, _, hEffect⟩
    generalize e.after = db' at hEffect ⊢
    generalize e.before = db at hEffect
    rcases hRequest with ⟨userID, hCall⟩ | ⟨eventID, hCall⟩
    · rw [hCall] at hEffect
      cases hEffect with
      | cancelRepeated hFind hCancelled =>
          unfold statusOf
          rw [hFind, ← hCancelled]
          rfl
    · rw [hCall] at hEffect
      cases hEffect with
      | expiryRepeated hFind hCancelled =>
          unfold statusOf
          rw [hFind, ← hCancelled]
          rfl

/- What a confirmation that becomes due is for. -/
theorem Event.Sound.confirm
    {e : Event}
    (hSound : e.Sound)
    {orderID : Int}
    (hDue : e.followUp = some (.confirm orderID)) :
    soldIn e.after orderID := by
  rcases Event.followUp_confirm hDue with
    ⟨hOk, userID, hCall⟩
  have hMark : e.mark orderID = some .paid := by
    unfold Event.mark
    rw [hOk, hCall]
    exact if_pos rfl
  rcases hSound.advance orderID with
    ⟨hNone, _⟩ | ⟨status, hSome, _, hAfter, _⟩
  · rw [hMark] at hNone
    cases hNone
  · rw [hMark] at hSome
    cases hSome
    exact ⟨.paid, hAfter, rfl⟩

/- A command that becomes due is one that the guard sends. -/
theorem Event.Sound.followUp_valid
    {e : Event}
    (hSound : e.Sound)
    {f : FollowUp}
    (hDue : e.followUp = some f) :
    f.Valid := by
  have hPositive := hSound.wellFormed.productIDPositive
  have hOwned := hSound.wellFormed.inventoriesOwned
  cases f with
  | release | restore | confirm => trivial
  | set productID quantity =>
      rcases hSound.effect (Event.followUp_set hDue) with
        ⟨view, hGrows, hEffect⟩
      generalize e.before = db at hEffect hGrows hPositive
      generalize e.after = db' at hEffect
      generalize e.request = request at hEffect
      cases hEffect with
      | inventoryInitialised hQuantity hProduct =>
          exact ⟨hPositive _ (hGrows.products _ hProduct),
            hQuantity⟩
  | incr productID delta fallbackQuantity =>
      rcases hSound.effect (Event.followUp_incr hDue) with
        ⟨view, _, hEffect⟩
      generalize e.before = db at hEffect hPositive hOwned
      generalize e.after = db' at hEffect
      generalize e.request = request at hEffect
      cases hEffect with
      | inventoryAdded hQuantity hInventory =>
          have hStock := stockOf_nonneg db.inventories productID
          exact ⟨hPositive _ (hOwned _ hInventory), hQuantity,
            by omega⟩

------------------------------------------------------------
-- The Invariant over Steps
------------------------------------------------------------

/- Dropping commands and reservations keeps the invariant. -/
theorem Shop.Sound.shrink
    {s t : Shop}
    (hSound : s.Sound)
    (hCore : t.core = s.core)
    (hIssued : t.issued = s.issued)
    (hFollowUps : t.followUps ≤ s.followUps)
    (hReservations :
      ∀ id r, t.redis.reservations.find? id = some r →
        s.redis.reservations.find? id = some r) :
    t.Sound := by
  have hOwned : t.owned ≤ s.owned := by
    unfold Shop.owned
    rw [hCore]
    apply add_le_add (le_refl _)
    exact Multiset.filterMap_le_filterMap _ hFollowUps
  have hMem : ∀ id ∈ t.owned, id ∈ s.owned :=
    fun id hID => Multiset.mem_of_le hOwned hID
  exact {
    core := hCore ▸ hSound.core
    owned := Multiset.nodup_of_le hOwned hSound.owned
    ownedIssued := by
      intro id hID
      rw [hIssued]
      exact hSound.ownedIssued id (hMem id hID)
    unborn := by
      intro id hID
      rw [hCore]
      exact hSound.unborn id (hMem id hID)
    ordersIssued := by
      rw [hCore, hIssued]
      exact hSound.ordersIssued
    reservationsIssued := by
      intro id hSome
      rcases Option.isSome_iff_exists.mp hSome with ⟨r, hFind⟩
      rw [hIssued]
      apply hSound.reservationsIssued
      rw [hReservations id r hFind]
      rfl
    reservationsValid := fun id r hFind =>
      hSound.reservationsValid id r (hReservations id r hFind)
    followUpsValid := fun f hDue =>
      hSound.followUpsValid f
        (Multiset.mem_of_le hFollowUps hDue)
    restored := by
      intro id hDue
      rw [hCore]
      exact hSound.restored id
        (Multiset.mem_of_le hFollowUps hDue)
    confirmed := by
      intro id hDue
      rw [hCore]
      exact hSound.confirmed id
        (Multiset.mem_of_le hFollowUps hDue)
    requested := by
      rw [hCore]
      intro c hCall userID req ids hRequest r hFind
      exact hSound.requested c hCall userID req ids hRequest r
        (hReservations _ r hFind)
    ordered := by
      rw [hCore]
      intro id r hOrder hFind
      exact hSound.ordered id r hOrder
        (hReservations id r hFind) }

/-
  A step of the services that creates no order keeps the
  invariant, if what becomes due is for calls that ended.
-/
theorem Shop.Sound.advance
    {s : Shop}
    {core : State}
    {event : Option Event}
    (hSound : s.Sound)
    (hCore : core.Sound)
    (hGrows : s.core.db.Grows core.db)
    (hOrders :
      ∀ id, (core.db.orders.find? id).isSome →
        (s.core.db.orders.find? id).isSome)
    (hOwned :
      core.calls.filterMap Call.newOrderID +
          (due event).filterMap FollowUp.released ≤
        s.core.calls.filterMap Call.newOrderID)
    (hCalls :
      ∀ c ∈ core.calls,
        ∃ c' ∈ s.core.calls, c'.request = c.request)
    (hValid : ∀ f ∈ due event, f.Valid)
    (hRestored :
      ∀ id, .restore id ∈ due event →
        statusOf core.db id = some .cancelled)
    (hConfirmed :
      ∀ id, .confirm id ∈ due event → soldIn core.db id) :
    Shop.Sound
      { s with
        core := core
        followUps := due event + s.followUps } := by
  have hLess :
      Shop.owned
          { s with
            core := core
            followUps := due event + s.followUps } ≤
        s.owned := by
    unfold Shop.owned
    rw [Multiset.filterMap_add, ← add_assoc]
    exact add_le_add hOwned (le_refl _)
  exact {
    core := hCore
    owned := Multiset.nodup_of_le hLess hSound.owned
    ownedIssued := fun id hID =>
      hSound.ownedIssued id (Multiset.mem_of_le hLess hID)
    unborn := by
      intro id hID
      have hFree :=
        hSound.unborn id (Multiset.mem_of_le hLess hID)
      cases hFind : core.db.orders.find? id with
      | none => rfl
      | some order =>
          have hOld := hOrders id (by rw [hFind]; rfl)
          rw [hFree] at hOld
          cases hOld
    ordersIssued := fun id hSome =>
      hSound.ordersIssued id (hOrders id hSome)
    reservationsIssued := hSound.reservationsIssued
    reservationsValid := hSound.reservationsValid
    followUpsValid := by
      intro f hDue
      rcases Multiset.mem_add.mp hDue with hNew | hOld
      · exact hValid f hNew
      · exact hSound.followUpsValid f hOld
    restored := by
      intro id hDue
      rcases Multiset.mem_add.mp hDue with hNew | hOld
      · exact hRestored id hNew
      · exact hGrows.statusOf_cancelled
          (hSound.restored id hOld)
    confirmed := by
      intro id hDue
      rcases Multiset.mem_add.mp hDue with hNew | hOld
      · exact hConfirmed id hNew
      · exact hGrows.soldIn (hSound.confirmed id hOld)
    requested := by
      intro c hCall userID req ids hRequest r hFind
      rcases hCalls c hCall with ⟨c', hCall', hSame⟩
      exact hSound.requested c' hCall' userID req ids
        (hSame.trans hRequest) r hFind
    ordered := by
      intro id r hOrder hFind p
      have hOld := hOrders id hOrder
      rw [hSound.ordered id r hOld hFind p]
      unfold orderQuantity
      rw [hGrows.lines id hOld] }

/- The identifiers released by what becomes due. -/
theorem due_released_le
    (e : Event) :
    (due (some e)).filterMap FollowUp.released ≤
      (e.request.newOrderID.toList : Multiset Int) := by
  unfold due
  rw [Option.bind_some]
  cases hFollowUp : e.followUp with
  | none => exact Multiset.zero_le _
  | some command =>
      cases command with
      | release id =>
          rcases Event.followUp_release hFollowUp with
            ⟨_, userID, req, ids, hRequest, rfl⟩
          rw [hRequest]
          exact le_refl _
      | restore | confirm | set | incr =>
          exact Multiset.zero_le _

theorem mem_due
    {command : FollowUp}
    {e : Event} :
    command ∈ due (some e) ↔ e.followUp = some command := by
  unfold due
  rw [Option.bind_some]
  simp

/- The identifiers of the calls with one more call. -/
theorem filterMap_newOrderID_cons
    (c : Call)
    (calls : Multiset Call) :
    (c ::ₘ calls).filterMap Call.newOrderID =
      (c.request.newOrderID.toList : Multiset Int) +
        calls.filterMap Call.newOrderID := by
  have hHere : c.newOrderID = c.request.newOrderID := rfl
  cases hID : c.newOrderID with
  | none =>
      rw [Multiset.filterMap_cons_none _ _ hID, ← hHere, hID]
      exact (zero_add _).symm
  | some id =>
      rw [Multiset.filterMap_cons_some _ _ _ hID, ← hHere, hID]
      rfl

/- A call that ends without creating an order. -/
theorem Shop.Sound.ended
    {s : Shop}
    {core : State}
    {e : Event}
    {c : Call}
    (hSound : s.Sound)
    (hCore : core.Sound)
    (hEvent : e.Sound)
    (hBefore : e.before = s.core.db)
    (hAfter : e.after = core.db)
    (hCalls : s.core.calls = c ::ₘ core.calls)
    (hRequest : e.request = c.request)
    (hOrders :
      ∀ id, (core.db.orders.find? id).isSome →
        (s.core.db.orders.find? id).isSome) :
    Shop.Sound
      { s with
        core := core
        followUps := due (some e) + s.followUps } := by
  apply hSound.advance hCore
  · rw [← hBefore, ← hAfter]
    exact hEvent.grows
  · exact hOrders
  · rw [hCalls, filterMap_newOrderID_cons, add_comm,
      ← hRequest]
    apply add_le_add (due_released_le e) (le_refl _)
  · intro other hOther
    refine ⟨other, ?_, rfl⟩
    rw [hCalls]
    exact Multiset.mem_cons_of_mem hOther
  · intro f hDue
    exact hEvent.followUp_valid (mem_due.mp hDue)
  · intro id hDue
    rw [← hAfter]
    exact hEvent.restore (mem_due.mp hDue)
  · intro id hDue
    rw [← hAfter]
    exact hEvent.confirm (mem_due.mp hDue)

/- A call that ends with a new order. -/
theorem Shop.Sound.created
    {s : Shop}
    {core : State}
    {c : Call}
    {view : DB}
    {now nextAttemptAt : Time}
    {userID : Int}
    {req : CreateOrderRequest}
    {requestHash : String}
    {ids : GeneratedIDs}
    {order : Order}
    (hSound : s.Sound)
    (hCore : core.Sound)
    (hGrows : s.core.db.Grows core.db)
    (hCalls : s.core.calls = c ::ₘ core.calls)
    (hRequest : c.request = .createOrder userID req ids)
    (hPlaced :
      OrderPlaced view now nextAttemptAt userID
        req.idempotencyKey requestHash
        (sortedOrderItems req.items) ids order s.core.db
        core.db) :
    Shop.Sound { s with core := core } := by
  have hOwned :
      s.owned =
        ids.orderID ::ₘ
          Shop.owned { s with core := core } := by
    unfold Shop.owned
    have hID : c.newOrderID = some ids.orderID := by
      unfold Call.newOrderID
      rw [hRequest]
      rfl
    rw [hCalls, Multiset.filterMap_cons_some _ _ _ hID,
      Multiset.cons_add]
  have hNodup := hSound.owned
  rw [hOwned, Multiset.nodup_cons] at hNodup
  have hMem :
      ∀ id ∈ Shop.owned { s with core := core },
        id ∈ s.owned := by
    intro id hID
    rw [hOwned]
    exact Multiset.mem_cons_of_mem hID
  have hOrder :
      ∀ id,
        core.db.orders.find? id =
          if ids.orderID = id then some order
          else s.core.db.orders.find? id := by
    intro id
    rw [Table.find?_of_insert? hPlaced.orders, key_order,
      hPlaced.id]
  have hHere : ids.orderID ∈ s.owned := by
    rw [hOwned]
    exact Multiset.mem_cons_self _ _
  exact {
    core := hCore
    owned := hNodup.2
    ownedIssued := fun id hID =>
      hSound.ownedIssued id (hMem id hID)
    unborn := by
      intro id hID
      rw [hOrder, if_neg]
      · exact hSound.unborn id (hMem id hID)
      · rintro rfl
        exact hNodup.1 hID
    ordersIssued := by
      intro id hSome
      rw [hOrder] at hSome
      split at hSome
      case isTrue hSame =>
        exact hSame ▸ hSound.ownedIssued _ hHere
      case isFalse => exact hSound.ordersIssued id hSome
    reservationsIssued := hSound.reservationsIssued
    reservationsValid := hSound.reservationsValid
    followUpsValid := hSound.followUpsValid
    restored := fun id hDue =>
      hGrows.statusOf_cancelled (hSound.restored id hDue)
    confirmed := fun id hDue =>
      hGrows.soldIn (hSound.confirmed id hDue)
    requested := by
      intro c' hCall userID' req' ids' hRequest' r hFind
      refine hSound.requested c' ?_ userID' req' ids' hRequest'
        r hFind
      rw [hCalls]
      exact Multiset.mem_cons_of_mem hCall
    ordered := by
      intro id r hSome hFind p
      rw [hOrder] at hSome
      unfold orderQuantity
      split at hSome
      case isTrue hSame =>
        subst hSame
        have hItems :=
          hSound.requested c (by rw [hCalls]; simp) userID req
            ids hRequest r hFind
        rw [hItems, ← hPlaced.id,
          hPlaced.linesOf hSound.core.wellFormed]
      case isFalse =>
        rw [hSound.ordered id r hSome hFind p, orderQuantity,
          hGrows.lines id hSome] }

/- Nothing is reserved for an id that was never issued. -/
theorem Shop.Sound.unreserved
    {s : Shop}
    {request : Request}
    (hSound : s.Sound)
    (hFresh :
      ∀ id, request.newOrderID = some id → id ∉ s.issued) :
    ∀ id, request.newOrderID = some id →
      s.redis.reservations.find? id = none := by
  intro id hID
  cases hFind : s.redis.reservations.find? id with
  | none => rfl
  | some r =>
      refine absurd ?_ (hFresh id hID)
      apply hSound.reservationsIssued
      rw [hFind]
      rfl

/- What a call that arrives adds to the owned ids. -/
theorem owned_arrived
    {s : Shop}
    {request : Request}
    {answer : PreDeduct}
    {redis : Redis}
    {issued : List Int} :
    Shop.owned
        { s with
          core := { s.core with
            calls :=
              ⟨request, answer, .arrived⟩ ::ₘ s.core.calls }
          redis := redis
          issued := issued } =
      (request.newOrderID.toList : Multiset Int) +
        s.owned := by
  unfold Shop.owned
  rw [filterMap_newOrderID_cons, add_assoc]

/- A reservation under a new id is that of its call. -/
theorem Shop.Sound.requested_arrived
    {s : Shop}
    {request : Request}
    (delivery : Delivery)
    (hSound : s.Sound)
    (hFresh :
      ∀ id, request.newOrderID = some id → id ∉ s.issued) :
    ∀ c ∈
        (⟨request, (request.preDeduct delivery s.redis).1,
          .arrived⟩ ::ₘ s.core.calls : Multiset Call),
      ∀ userID req ids,
        c.request = .createOrder userID req ids →
          ∀ r,
            (request.preDeduct delivery
                s.redis).2.reservations.find? ids.orderID =
                  some r →
              r.items = sortedOrderItems req.items := by
  intro c hCall userID req ids hRequest r hFind
  have hUnreserved := hSound.unreserved hFresh
  rcases Request.preDeduct_reservations hUnreserved hFind with
    hOld | ⟨userID', req', ids', rfl, hSame, hItems⟩
  · rcases Multiset.mem_cons.mp hCall with rfl | hCall
    · change request = _ at hRequest
      have hNone := hUnreserved ids.orderID (by
        rw [hRequest]
        rfl)
      rw [hOld] at hNone
      cases hNone
    · exact hSound.requested c hCall userID req ids hRequest r
        hOld
  · rcases Multiset.mem_cons.mp hCall with rfl | hCall
    · cases hRequest
      exact hItems
    · refine absurd ?_ (hFresh ids.orderID ?_)
      · apply hSound.ownedIssued
        apply Multiset.mem_add.mpr
        refine Or.inl ((Multiset.mem_filterMap _ _).mpr
          ⟨c, hCall, ?_⟩)
        unfold Call.newOrderID
        rw [hRequest]
        rfl
      · rw [← hSame]
        rfl

/- A call that arrives. -/
theorem Shop.Sound.arrived
    {s : Shop}
    {request : Request}
    (delivery : Delivery)
    (hSound : s.Sound)
    (hBound : request.Bound)
    (hFresh :
      ∀ id, request.newOrderID = some id → id ∉ s.issued) :
    Shop.Sound
      { s with
        core := { s.core with
          calls :=
            ⟨request, (request.preDeduct delivery s.redis).1,
              .arrived⟩ ::ₘ s.core.calls }
        redis := (request.preDeduct delivery s.redis).2
        issued := request.newOrderID.toList ++ s.issued } := by
  have hUnreserved := hSound.unreserved hFresh
  have hReserved :
      ∀ id r,
        (request.preDeduct delivery
            s.redis).2.reservations.find? id = some r →
          s.redis.reservations.find? id = some r ∨
            ∃ userID req ids,
              request = .createOrder userID req ids ∧
                ids.orderID = id ∧
                r.items = sortedOrderItems req.items :=
    fun id r hFind =>
      Request.preDeduct_reservations hUnreserved hFind
  have hNewIssued :
      ∀ id ∈ (request.newOrderID.toList : Multiset Int),
        request.newOrderID = some id := by
    intro id hID
    simpa using hID
  exact {
    core :=
      (OrderManagement.Step.arrive s.core request _).sound
        hSound.core
    owned := by
      rw [owned_arrived, Multiset.nodup_add]
      refine ⟨?_, hSound.owned, ?_⟩
      · cases request.newOrderID <;> simp
      · rw [Multiset.disjoint_left]
        intro id hNew hOld
        exact hFresh id (hNewIssued id hNew)
          (hSound.ownedIssued id hOld)
    ownedIssued := by
      intro id hID
      rw [owned_arrived] at hID
      rw [List.mem_append]
      rcases Multiset.mem_add.mp hID with hNew | hOld
      · exact Or.inl (by simpa using hNew)
      · exact Or.inr (hSound.ownedIssued id hOld)
    unborn := by
      intro id hID
      rw [owned_arrived] at hID
      rcases Multiset.mem_add.mp hID with hNew | hOld
      · cases hFind : s.core.db.orders.find? id with
        | none => rfl
        | some order =>
            refine absurd ?_ (hFresh id (hNewIssued id hNew))
            apply hSound.ordersIssued
            rw [hFind]
            rfl
      · exact hSound.unborn id hOld
    ordersIssued := fun id hSome =>
      List.mem_append_right _ (hSound.ordersIssued id hSome)
    reservationsIssued := by
      intro id hSome
      rcases Option.isSome_iff_exists.mp hSome with ⟨r, hFind⟩
      rw [List.mem_append]
      rcases hReserved id r hFind with
        hOld | ⟨userID, req, ids, rfl, rfl, _⟩
      · refine Or.inr (hSound.reservationsIssued id ?_)
        rw [hOld]
        rfl
      · exact Or.inl (by simp [Request.newOrderID])
    reservationsValid := by
      intro id r hFind
      rcases hReserved id r hFind with
        hOld | ⟨userID, req, ids, rfl, rfl, hItems⟩
      · exact hSound.reservationsValid id r hOld
      · constructor
        · have hKey := Table.key_of_find? hFind
          rw [key_reservation] at hKey
          rw [hKey]
          exact ids.orderIDPositive
        · intro item hItem
          rw [hItems] at hItem
          exact (hBound.2.2.2 item
            ((sortedOrderItems_perm req.items).mem_iff.mp
              hItem)).2
    followUpsValid := hSound.followUpsValid
    restored := hSound.restored
    confirmed := hSound.confirmed
    requested := hSound.requested_arrived delivery hFresh
    ordered := by
      intro id r hSome hFind
      rcases hReserved id r hFind with
        hOld | ⟨userID, req, ids, rfl, rfl, _⟩
      · exact hSound.ordered id r hSome hOld
      · exact absurd (hSound.ordersIssued _ hSome)
          (hFresh _ rfl) }

/-
  How the services of the shop move on: a call that goes on,
  the outbox worker, a call that ends without a new order,
  or a call that creates one.
-/
theorem Shop.Sound.core_cases
    {s : Shop}
    {core : State}
    {event : Option Event}
    (hSound : s.Sound)
    (hStep : OrderManagement.Step s.core event core)
    (hNoArrival : core.calls.card ≤ s.core.calls.card) :
    (event = none ∧ core.db = s.core.db ∧
        ∃ c stage rest,
          s.core.calls = c ::ₘ rest ∧
            core.calls = { c with stage := stage } ::ₘ rest) ∨
      (event = none ∧ core.calls = s.core.calls ∧
        OutboxTouched s.core.db core.db) ∨
      ∃ e c,
        event = some e ∧
          e.before = s.core.db ∧ e.after = core.db ∧
          s.core.calls = c ::ₘ core.calls ∧
          e.request = c.request ∧
          e.preDeduct = c.preDeduct ∧
          ((∃ view now nextAttemptAt userID req ids order,
              e.request = .createOrder userID req ids ∧
                e.response = .ok (.orderCreated order) ∧
                OrderPlaced view now nextAttemptAt userID
                  req.idempotencyKey
                  (buildCreateOrderRequestHash req)
                  (sortedOrderItems req.items) ids order
                  s.core.db core.db) ∨
            (∀ order, e.response ≠ .ok (.orderCreated order)) ∧
              ∀ id, (core.db.orders.find? id).isSome →
                (s.core.db.orders.find? id).isSome) := by
  rcases hStep.calls with
    ⟨request, preDeduct, _, _, hCalls⟩ |
      ⟨c, stage, rest, hNone, hSame, hCalls, hCalls'⟩ |
        ⟨e, c, rfl, hCalls, hRequest, hPreDeduct⟩ |
          ⟨hNone, hCalls, hTouched⟩
  · rw [hCalls, Multiset.card_cons] at hNoArrival
    omega
  · exact Or.inl
      ⟨hNone, hSame, c, stage, rest, hCalls, hCalls'⟩
  · refine Or.inr (Or.inr ?_)
    rcases hStep.effect hSound.core with
      ⟨hNone, _⟩ | ⟨e', hEvent, hBefore, hAfter, hResult⟩
    · cases hNone
    cases hEvent
    refine ⟨e, c, rfl, hBefore, hAfter, hCalls, hRequest,
      hPreDeduct, ?_⟩
    rcases hResult with
      ⟨outcome, view, hOk, _, _, hEffect⟩ | ⟨err, hErr, hSame⟩
    · rcases hEffect.creation with
        ⟨now, nextAttemptAt, userID, req, ids, order,
          hCreate, rfl, hPlaced⟩ | ⟨hOther, _, hOrders⟩
      · exact Or.inl ⟨view, now, nextAttemptAt, userID, req,
          ids, order, hCreate, hOk, hPlaced⟩
      · refine Or.inr ⟨?_, hOrders⟩
        intro order hCreated
        rw [hOk] at hCreated
        cases hCreated
        exact hOther order rfl
    · refine Or.inr ⟨?_, ?_⟩
      · intro order hCreated
        rw [hErr] at hCreated
        cases hCreated
      · intro id hSome
        rwa [hSame] at hSome
  · exact Or.inr (Or.inl ⟨hNone, hCalls, hTouched⟩)

/- A created order leaves nothing to be done in Redis. -/
theorem due_of_created
    {e : Event}
    {userID : Int}
    {req : CreateOrderRequest}
    {ids : GeneratedIDs}
    {order : Order}
    (hRequest : e.request = .createOrder userID req ids)
    (hOk : e.response = .ok (.orderCreated order)) :
    due (some e) = 0 := by
  unfold due
  rw [Option.bind_some]
  unfold Event.followUp
  rw [hRequest, hOk]
  rfl

theorem Shop.Sound.cored
    {s : Shop}
    {core : State}
    {event : Option Event}
    (hSound : s.Sound)
    (hStep : OrderManagement.Step s.core event core)
    (hNoArrival : core.calls.card ≤ s.core.calls.card) :
    Shop.Sound
      { s with
        core := core
        followUps := due event + s.followUps } := by
  have hCore := hStep.sound hSound.core
  have hGrows := hStep.grows hSound.core
  rcases hSound.core_cases hStep hNoArrival with
    ⟨rfl, hSame, c, stage, rest, hCalls, hCalls'⟩ |
      ⟨rfl, hCalls, hTouched⟩ |
        ⟨e, c, rfl, hBefore, hAfter, hCalls, hRequest, _,
          hEnd⟩
  · apply hSound.advance hCore hGrows
    · intro id hSome
      rwa [hSame] at hSome
    · rw [hCalls, hCalls', filterMap_newOrderID_cons,
        filterMap_newOrderID_cons]
      exact (add_zero _).le
    · intro c' hCall
      rw [hCalls'] at hCall
      rw [hCalls]
      rcases Multiset.mem_cons.mp hCall with rfl | hRest
      · exact ⟨c, Multiset.mem_cons_self _ _, rfl⟩
      · exact ⟨c', Multiset.mem_cons_of_mem hRest, rfl⟩
    · intro f hDue
      simp [due] at hDue
    · intro id hDue
      simp [due] at hDue
    · intro id hDue
      simp [due] at hDue
  · apply hSound.advance hCore hGrows
    · intro id hSome
      rcases hTouched with ⟨f, _, hKey, hSame⟩
      rwa [hSame] at hSome
    · rw [hCalls]
      exact (add_zero _).le
    · intro c hCall
      rw [hCalls] at hCall
      exact ⟨c, hCall, rfl⟩
    · intro f hDue
      simp [due] at hDue
    · intro id hDue
      simp [due] at hDue
    · intro id hDue
      simp [due] at hDue
  · rcases hEnd with
      ⟨view, now, nextAttemptAt, userID, req, ids, order,
        hCreate, hOk, hPlaced⟩ | ⟨_, hOrders⟩
    · rw [due_of_created hCreate hOk, zero_add]
      exact hSound.created hCore hGrows hCalls
        (hRequest.symm.trans hCreate) hPlaced
    · exact hSound.ended hCore (hStep.event hSound.core).1
        hBefore hAfter hCalls hRequest hOrders

/- Every step of the shop keeps the invariant. -/
theorem Shop.Step.sound
    {s t : Shop}
    {a : Action}
    (hSound : s.Sound)
    (hStep : Shop.Step s a t) :
    t.Sound := by
  cases hStep with
  | arrive request delivery hBound hFresh =>
      exact hSound.arrived delivery hBound hFresh
  | core hStep hNoArrival =>
      exact hSound.cored hStep hNoArrival
  | followUp command delivered hDue =>
      refine hSound.shrink rfl rfl ?_ ?_
      · rw [hDue]
        exact Multiset.le_cons_self _ _
      · intro id r hFind
        cases delivered with
        | false => exact hFind
        | true => exact FollowUp.run_reservations hFind
  | listForRebuild | listForReconcile | compare
  | resyncDone | evict =>
      exact hSound.shrink rfl rfl (le_refl _)
        fun _ _ hFind => hFind
  | write productID quantity delivered =>
      refine hSound.shrink rfl rfl (le_refl _) ?_
      intro id r hFind
      cases delivered with
      | false => exact hFind
      | true =>
          exact @FollowUp.run_reservations
            (.set productID quantity) _ _ _ hFind
  | evictReservation orderID =>
      refine hSound.shrink rfl rfl (le_refl _) ?_
      intro id r hFind
      rw [Redis.reservations_delReservation,
        Table.find?_erase] at hFind
      split at hFind
      · cases hFind
      · exact hFind

end OrderManagement
