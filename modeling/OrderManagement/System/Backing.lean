import OrderManagement.System.Ownership

/-
  The shop while Redis answers every command and loses no
  key. Every pending order then has its reservation, and
  every reservation has somebody who will take it away.

  Main declarations:
    * `Action.Reliable`
    * `Shop.Accounted` and `Shop.Backed`
    * `Shop.Step.backed`
-/

namespace OrderManagement

variable [Deployment]

------------------------------------------------------------
-- Reliable Steps
------------------------------------------------------------

/- Redis answers every command and keeps every key, and no
   inventory is initialised. -/
def Action.Reliable : Action → Prop
| .arrive _ delivery => delivery = .answered
| .core event =>
    ∀ e, event = some e →
      ∀ productID quantity,
        e.response ≠
          .ok (.inventoryInitialised productID quantity)
| .followUp _ delivered => delivered = true
| .write _ _ delivered => delivered = true
| .evict _ => False
| .evictReservation _ => False
| _ => True

/- Whether a call has created the row of an inventory. -/
def Event.initialises
    (e : Event) : Bool :=
  match e.response with
  | .ok (.inventoryInitialised _ _) => true
  | _ => false

theorem Event.initialises_eq_false_iff
    {e : Event} :
    e.initialises = false ↔
      ∀ productID quantity,
        e.response ≠
          .ok (.inventoryInitialised productID quantity) := by
  unfold Event.initialises
  split
  case h_1 hResponse => simp [hResponse]
  case h_2 hOther =>
    simpa using fun productID quantity hEq =>
      hOther productID quantity hEq

instance
    (a : Action) :
    Decidable a.Reliable :=
  match a with
  | .core none => isTrue (by rintro e ⟨⟩)
  | .core (some e) =>
      decidable_of_iff (e.initialises = false) (by
        rw [Event.initialises_eq_false_iff]
        constructor
        · rintro hOther _ ⟨⟩
          exact hOther
        · exact fun hReliable => hReliable e rfl)
  | .arrive _ delivery =>
      inferInstanceAs (Decidable (delivery = .answered))
  | .followUp _ delivered =>
      inferInstanceAs (Decidable (delivered = true))
  | .write _ _ delivered =>
      inferInstanceAs (Decidable (delivered = true))
  | .evict _ | .evictReservation _ =>
      inferInstanceAs (Decidable False)
  | .listForRebuild | .listForReconcile | .compare
  | .resyncDone => inferInstanceAs (Decidable True)

------------------------------------------------------------
-- Reservations and Their Orders
------------------------------------------------------------

/- What stands behind a reservation: a call, an order that
   is pending, or a command that will delete it. -/
inductive Shop.Accounted
    (s : Shop)
    (id : Int) : Prop
| inFlight
    {c : Call}
    (hCall : c ∈ s.core.calls)
    (hID : c.newOrderID = some id)
    (hApplied : c.preDeduct = .applied)
| pending (hPending : statusOf s.core.db id = some .pending)
| releasing (hDue : .release id ∈ s.followUps)
| restoring (hDue : .restore id ∈ s.followUps)
| confirming (hDue : .confirm id ∈ s.followUps)

/- Every inventory has its key, every pending order and every
   call with a pre-deduction has its reservation, and a call
   goes without one only if it will not create an order. -/
structure Shop.Backed
    (s : Shop) : Prop where
  keys :
    ∀ p, (s.core.db.inventories.find? p).isSome →
      (s.redis.available p).isSome
  applied :
    ∀ c ∈ s.core.calls, ∀ id,
      c.newOrderID = some id → c.preDeduct = .applied →
        (s.redis.reservations.find? id).isSome
  skipped :
    ∀ c ∈ s.core.calls, ∀ userID req ids,
      c.request = .createOrder userID req ids →
      c.preDeduct = .skipped →
        (∃ err,
          OrderService.checkCreateOrder userID req =
            .error err) ∨
          ∃ item ∈ req.items,
            s.core.db.inventories.find? item.productID = none
  pending :
    ∀ id, statusOf s.core.db id = some .pending →
      (s.redis.reservations.find? id).isSome
  accounted :
    ∀ id, (s.redis.reservations.find? id).isSome →
      s.Accounted id

/- With nothing in progress only pending orders are left. -/
theorem Shop.Backed.pending_iff
    {s : Shop}
    (hBacked : s.Backed)
    (hCalls : s.core.calls = 0)
    (hFollowUps : s.followUps = 0)
    (id : Int) :
    (s.redis.reservations.find? id).isSome ↔
      statusOf s.core.db id = some .pending := by
  constructor
  · intro hReserved
    cases hBacked.accounted id hReserved with
    | inFlight hCall =>
        rw [hCalls] at hCall
        exact absurd hCall (Multiset.notMem_zero _)
    | pending hPending => exact hPending
    | releasing hDue | restoring hDue | confirming hDue =>
        rw [hFollowUps] at hDue
        exact absurd hDue (Multiset.notMem_zero _)
  · exact hBacked.pending id

------------------------------------------------------------
-- What Events Leave Behind
------------------------------------------------------------

/- Only InitInventory adds the row of a product. -/
theorem Effect.inventories_isSome
    {view : DB}
    {request : Request}
    {outcome : Outcome}
    {db db' : DB}
    (hEffect : Effect view request outcome db db')
    (hOther :
      ∀ productID quantity,
        outcome ≠ .inventoryInitialised productID quantity)
    (p : Int) :
    (db'.inventories.find? p).isSome =
      (db.inventories.find? p).isSome := by
  cases hEffect with
  | inventoryInitialised => exact absurd rfl (hOther _ _)
  | inventoryAdded _ _ hMoved => exact hMoved.isSome p
  | orderCreated _ hPlaced => exact hPlaced.moved.isSome p
  | orderPaid _ hMoved | orderFinished _ hMoved
  | orderCancelled _ hMoved | orderExpired _ _ hMoved =>
      exact hMoved.moved.isSome p
  | productCreated | productStatusSame | productStatusSet
  | orderReplayed | cancelRepeated | expiryRepeated
  | expiryIgnored | expiryLate => rfl

theorem Event.Sound.inventories_isSome
    {e : Event}
    (hSound : e.Sound)
    (hOther :
      ∀ productID quantity,
        e.response ≠
          .ok (.inventoryInitialised productID quantity))
    (p : Int) :
    (e.after.inventories.find? p).isSome =
      (e.before.inventories.find? p).isSome := by
  rcases hSound.result with
    ⟨outcome, view, hOk, _, _, hEffect⟩ | ⟨_, _, hSame⟩
  · apply hEffect.inventories_isSome
    rintro productID quantity rfl
    exact hOther productID quantity hOk
  · rw [hSame]

/- A payment confirms, and a cancellation restores. -/
theorem Event.followUp_of_mark
    {e : Event}
    {id : Int}
    {status : OrderStatus}
    (hMark : e.mark id = some status)
    (hAdvance : Advance (some .pending) status) :
    e.followUp = some (.confirm id) ∨
      e.followUp = some (.restore id) := by
  rcases Event.ok_of_mark hMark with ⟨outcome, hOk, hMove⟩
  unfold Event.followUp
  unfold moveOf at hMove
  split at hMove
  case h_6 => cases hMove
  all_goals
    rename_i hRequest
    rw [Option.ite_none_right_eq_some] at hMove
    rcases hMove with ⟨rfl, hStatus⟩
    cases hStatus
    cases hAdvance <;> simp_all

/- An order ceases to be pending with a command to follow. -/
theorem Event.Sound.pending_ends
    {e : Event}
    (hSound : e.Sound)
    {id : Int}
    (hPending : statusOf e.before id = some .pending) :
    statusOf e.after id = some .pending ∨
      e.followUp = some (.confirm id) ∨
      e.followUp = some (.restore id) := by
  rcases hSound.advance id with
    ⟨_, _, hSame⟩ | ⟨status, hMark, _, _, hAdvance⟩
  · exact Or.inl (hSame.trans hPending)
  · rw [hPending] at hAdvance
    exact Or.inr (Event.followUp_of_mark hMark hAdvance)

/- Only a created order becomes pending. -/
theorem Event.Sound.pending_begins
    {e : Event}
    (hSound : e.Sound)
    (hOther :
      ∀ id, (e.after.orders.find? id).isSome →
        (e.before.orders.find? id).isSome)
    {id : Int}
    (hPending : statusOf e.after id = some .pending) :
    statusOf e.before id = some .pending := by
  rcases hSound.advance id with
    ⟨_, _, hSame⟩ | ⟨status, _, _, hAfter, hAdvance⟩
  · exact hSame.symm.trans hPending
  · rw [hPending] at hAfter
    cases hAfter
    generalize hBefore : statusOf e.before id = before
      at hAdvance
    cases hAdvance with
    | created =>
        have hOld := hOther id (by
          unfold statusOf at hPending
          rcases Option.map_eq_some_iff.mp hPending with
            ⟨order, hFind, _⟩
          rw [hFind]
          rfl)
        unfold statusOf at hBefore
        rw [Option.map_eq_none_iff] at hBefore
        rw [hBefore] at hOld
        cases hOld

omit [Deployment] in
theorem Request.newOrderID_eq_some
    {request : Request}
    {id : Int}
    (hID : request.newOrderID = some id) :
    ∃ userID req ids,
      request = .createOrder userID req ids ∧
        ids.orderID = id := by
  cases request with
  | createOrder userID req ids =>
      exact ⟨userID, req, ids, rfl, Option.some.inj hID⟩
  | createProduct | onSaleProduct | offSaleProduct
  | initInventory | addInventory | payOrder | finishOrder
  | cancelOrder | cancelExpiredOrder => cases hID

/- A call that has reserved and creates nothing releases. -/
theorem Event.Sound.releases
    {e : Event}
    (hSound : e.Sound)
    {id : Int}
    (hID : e.request.newOrderID = some id)
    (hApplied : e.preDeduct = .applied)
    (hOther :
      ∀ order, e.response ≠ .ok (.orderCreated order)) :
    e.followUp = some (.release id) := by
  rcases Request.newOrderID_eq_some hID with
    ⟨userID, req, ids, hRequest, rfl⟩
  rw [Event.followUp_of_not_created hRequest, if_pos hApplied]
  intro outcome hOk
  rcases hSound.effect hOk with ⟨view, _, hEffect⟩
  rw [hRequest] at hEffect
  generalize e.after = db' at hEffect
  generalize e.before = db at hEffect
  cases hEffect with
  | orderCreated => exact absurd hOk (hOther _)
  | orderReplayed => exact ⟨_, rfl⟩
  | productStatusSame hCall | productStatusSet hCall =>
      rcases hCall with hCall | hCall <;> cases hCall

------------------------------------------------------------
-- Calls
------------------------------------------------------------

/- A step that leaves Redis alone, judged by what it does to
   the calls, the orders, and the commands that are due. -/
theorem Shop.Backed.transfer
    {s t : Shop}
    (hBacked : s.Backed)
    (hRedis : t.redis = s.redis)
    (hInventories :
      ∀ p,
        (t.core.db.inventories.find? p).isSome =
          (s.core.db.inventories.find? p).isSome)
    (hCalls :
      ∀ c ∈ t.core.calls,
        ∃ c' ∈ s.core.calls,
          c'.request = c.request ∧
            c'.preDeduct = c.preDeduct)
    (hPending :
      ∀ id, statusOf t.core.db id = some .pending →
        (s.redis.reservations.find? id).isSome)
    (hAccounted : ∀ id, s.Accounted id → t.Accounted id) :
    t.Backed where
  keys p hRow := by
    rw [hInventories] at hRow
    rw [hRedis]
    exact hBacked.keys p hRow
  applied c hCall id hID hApplied := by
    rcases hCalls c hCall with
      ⟨c', hCall', hRequest, hPreDeduct⟩
    rw [hRedis]
    apply hBacked.applied c' hCall' id
    · rw [Call.newOrderID, hRequest]
      exact hID
    · exact hPreDeduct.trans hApplied
  skipped c hCall userID req ids hRequest hSkipped := by
    rcases hCalls c hCall with
      ⟨c', hCall', hRequest', hPreDeduct⟩
    rcases hBacked.skipped c' hCall' userID req ids
        (hRequest'.trans hRequest)
        (hPreDeduct.trans hSkipped) with
      hRefused | ⟨item, hItem, hNone⟩
    · exact Or.inl hRefused
    · refine Or.inr ⟨item, hItem, ?_⟩
      have hSame := hInventories item.productID
      rw [hNone] at hSame
      exact Option.not_isSome_iff_eq_none.mp
        (by rw [hSame]; simp)
  pending id hStatus := by
    rw [hRedis]
    exact hPending id hStatus
  accounted id hReserved := by
    rw [hRedis] at hReserved
    exact hAccounted id (hBacked.accounted id hReserved)

/- A call that went on and left the orders alone. -/
theorem Shop.Backed.continued
    {s : Shop}
    {core : State}
    (hBacked : s.Backed)
    (hInventories :
      core.db.inventories = s.core.db.inventories)
    (hOrders : core.db.orders = s.core.db.orders)
    (hCalls :
      ∀ c ∈ core.calls,
        ∃ c' ∈ s.core.calls,
          c'.request = c.request ∧
            c'.preDeduct = c.preDeduct)
    (hKept :
      ∀ c ∈ s.core.calls,
        ∃ c' ∈ core.calls,
          c'.request = c.request ∧
            c'.preDeduct = c.preDeduct) :
    Shop.Backed
      { s with
        core := core
        followUps := due none + s.followUps } := by
  have hStatus :
      ∀ id, statusOf core.db id = statusOf s.core.db id := by
    intro id
    unfold statusOf
    rw [hOrders]
  apply hBacked.transfer
  · rfl
  · intro p
    rw [hInventories]
  · exact hCalls
  · intro id hPending
    rw [hStatus] at hPending
    exact hBacked.pending id hPending
  · intro id hAccounted
    cases hAccounted with
    | @inFlight c hCall hID hApplied =>
        rcases hKept c hCall with
          ⟨c', hCall', hRequest, hPreDeduct⟩
        refine .inFlight hCall' ?_
          (hPreDeduct.trans hApplied)
        rw [Call.newOrderID, hRequest]
        exact hID
    | pending hPending =>
        exact .pending ((hStatus id).trans hPending)
    | releasing hDue =>
        exact .releasing (Multiset.mem_add.mpr (Or.inr hDue))
    | restoring hDue =>
        exact .restoring (Multiset.mem_add.mpr (Or.inr hDue))
    | confirming hDue =>
        exact .confirming (Multiset.mem_add.mpr (Or.inr hDue))

/- A call that ends without a new order. -/
theorem Shop.Backed.ended
    {s : Shop}
    {core : State}
    {e : Event}
    {c : Call}
    (hBacked : s.Backed)
    (hEvent : e.Sound)
    (hBefore : e.before = s.core.db)
    (hAfter : e.after = core.db)
    (hCalls : s.core.calls = c ::ₘ core.calls)
    (hRequest : e.request = c.request)
    (hPreDeduct : e.preDeduct = c.preDeduct)
    (hReliable :
      ∀ productID quantity,
        e.response ≠
          .ok (.inventoryInitialised productID quantity))
    (hOther :
      ∀ order, e.response ≠ .ok (.orderCreated order))
    (hOrders :
      ∀ id, (core.db.orders.find? id).isSome →
        (s.core.db.orders.find? id).isSome) :
    Shop.Backed
      { s with
        core := core
        followUps := due (some e) + s.followUps } := by
  have hDueNew :
      ∀ {command}, e.followUp = some command →
        command ∈ due (some e) + s.followUps :=
    fun hDue => Multiset.mem_add.mpr (Or.inl (mem_due.mpr hDue))
  have hDueOld :
      ∀ {command}, command ∈ s.followUps →
        command ∈ due (some e) + s.followUps :=
    fun hDue => Multiset.mem_add.mpr (Or.inr hDue)
  apply hBacked.transfer
  · rfl
  · intro p
    change (core.db.inventories.find? p).isSome = _
    rw [← hBefore, ← hAfter]
    exact hEvent.inventories_isSome hReliable p
  · intro other hOther
    refine ⟨other, ?_, rfl, rfl⟩
    rw [hCalls]
    exact Multiset.mem_cons_of_mem hOther
  · intro id hPending
    apply hBacked.pending
    rw [← hBefore]
    apply hEvent.pending_begins
    · rw [hBefore, hAfter]
      exact hOrders
    · rw [hAfter]
      exact hPending
  · intro id hAccounted
    cases hAccounted with
    | @inFlight other hCall hID hApplied =>
        rw [hCalls] at hCall
        rcases Multiset.mem_cons.mp hCall with rfl | hRest
        · apply Shop.Accounted.releasing
          apply hDueNew
          apply hEvent.releases _ _ hOther
          · rw [hRequest]
            exact hID
          · exact hPreDeduct.trans hApplied
        · exact .inFlight hRest hID hApplied
    | pending hPending =>
        rw [← hBefore] at hPending
        rcases hEvent.pending_ends hPending with
          hStill | hConfirm | hRestore
        · apply Shop.Accounted.pending
          change statusOf core.db id = _
          rw [← hAfter]
          exact hStill
        · exact .confirming (hDueNew hConfirm)
        · exact .restoring (hDueNew hRestore)
    | releasing hDue => exact .releasing (hDueOld hDue)
    | restoring hDue => exact .restoring (hDueOld hDue)
    | confirming hDue => exact .confirming (hDueOld hDue)

/- A call that creates an order was neither refused by its
   checks nor by the guard. -/
theorem Event.Ran.admitted_createOrder
    {e : Event}
    {view : DB}
    {now nextAttemptAt : Time}
    {userID : Int}
    {req : CreateOrderRequest}
    {ids : GeneratedIDs}
    (hRan : e.Ran view now nextAttemptAt)
    (hRequest : e.request = .createOrder userID req ids) :
    (∃ checked,
        OrderService.checkCreateOrder userID req =
          .ok checked) ∧
      e.preDeduct ≠ .insufficient := by
  have hAdmitted := hRan.admitted
  rw [hRequest] at hAdmitted
  exact (Request.check_of_admitted hAdmitted).imp_left
    fun hChecked => ⟨_, hChecked⟩

/- An order is created with its reservation in Redis. -/
theorem Shop.Backed.created_applied
    {s : Shop}
    {core : State}
    {e : Event}
    {c : Call}
    {view : DB}
    {now nextAttemptAt : Time}
    {userID : Int}
    {req : CreateOrderRequest}
    {ids : GeneratedIDs}
    {requestHash : String}
    {order : Order}
    (hBacked : s.Backed)
    (hSound : s.core.Sound)
    (hStep : OrderManagement.Step s.core (some e) core)
    (hCall : c ∈ s.core.calls)
    (hSame : e.request = c.request)
    (hPreDeduct : e.preDeduct = c.preDeduct)
    (hRequest : e.request = .createOrder userID req ids)
    (hOk : e.response = .ok (.orderCreated order))
    (hPlaced :
      OrderPlaced view now nextAttemptAt userID
        req.idempotencyKey requestHash
        (sortedOrderItems req.items) ids order s.core.db
        core.db) :
    e.preDeduct = .applied := by
  have hExecuted : e.executed = true := by
    rcases (hStep.event hSound).1.result with
      ⟨_, _, _, hExecuted, _, _⟩ | ⟨err, hErr, _⟩
    · exact hExecuted
    · rw [hOk] at hErr
      cases hErr
  rcases hStep.ran hSound hExecuted with ⟨_, _, _, hRan⟩
  rcases hRan.admitted_createOrder hRequest with
    ⟨⟨checked, hChecked⟩, hSufficient⟩
  cases hAnswer : e.preDeduct with
  | applied => rfl
  | insufficient => exact absurd hAnswer hSufficient
  | skipped =>
      rcases hBacked.skipped c hCall userID req ids
          (hSame.symm.trans hRequest)
          (hPreDeduct.symm.trans hAnswer) with
        ⟨err, hErr⟩ | ⟨item, hItem, hNone⟩
      · rw [hChecked] at hErr
        cases hErr
      · have hRow := hPlaced.inventory item
          ((sortedOrderItems_perm req.items).mem_iff.mpr
            hItem)
        rw [hNone] at hRow
        cases hRow

/- A call that ends with a new order. -/
theorem Shop.Backed.created
    {s : Shop}
    {core : State}
    {e : Event}
    {c : Call}
    {view : DB}
    {now nextAttemptAt : Time}
    {userID : Int}
    {req : CreateOrderRequest}
    {ids : GeneratedIDs}
    {requestHash : String}
    {order : Order}
    (hBacked : s.Backed)
    (hSound : s.core.Sound)
    (hStep : OrderManagement.Step s.core (some e) core)
    (hCalls : s.core.calls = c ::ₘ core.calls)
    (hSame : e.request = c.request)
    (hPreDeduct : e.preDeduct = c.preDeduct)
    (hRequest : e.request = .createOrder userID req ids)
    (hOk : e.response = .ok (.orderCreated order))
    (hPlaced :
      OrderPlaced view now nextAttemptAt userID
        req.idempotencyKey requestHash
        (sortedOrderItems req.items) ids order s.core.db
        core.db) :
    Shop.Backed { s with core := core } := by
  have hHere : c ∈ s.core.calls := by
    rw [hCalls]
    exact Multiset.mem_cons_self _ _
  have hID : c.newOrderID = some ids.orderID := by
    rw [Call.newOrderID, ← hSame, hRequest]
    rfl
  have hApplied :=
    hBacked.created_applied hSound hStep hHere hSame
      hPreDeduct hRequest hOk hPlaced
  have hStatus :
      ∀ id,
        statusOf core.db id =
          if ids.orderID = id then some .pending
          else statusOf s.core.db id := by
    intro id
    unfold statusOf
    rw [Table.find?_of_insert? hPlaced.orders, key_order,
      hPlaced.id]
    split
    · rw [← hPlaced.status]
      rfl
    · rfl
  apply hBacked.transfer
  · rfl
  · intro p
    exact hPlaced.moved.isSome p
  · intro other hOther
    refine ⟨other, ?_, rfl, rfl⟩
    rw [hCalls]
    exact Multiset.mem_cons_of_mem hOther
  · intro id hPending
    change statusOf core.db id = _ at hPending
    rw [hStatus] at hPending
    split at hPending
    case isTrue hNew =>
      exact hBacked.applied c hHere id (hNew ▸ hID)
        (hPreDeduct.symm.trans hApplied)
    case isFalse => exact hBacked.pending id hPending
  · intro id hAccounted
    cases hAccounted with
    | @inFlight other hCall hOther hApplied' =>
        rw [hCalls] at hCall
        rcases Multiset.mem_cons.mp hCall with rfl | hRest
        · rw [hID] at hOther
          cases hOther
          apply Shop.Accounted.pending
          exact (hStatus _).trans (if_pos rfl)
        · exact .inFlight hRest hOther hApplied'
    | pending hPending =>
        apply Shop.Accounted.pending
        refine (hStatus id).trans ?_
        split
        · rfl
        · exact hPending
    | releasing hDue => exact .releasing hDue
    | restoring hDue => exact .restoring hDue
    | confirming hDue => exact .confirming hDue

theorem Shop.Backed.cored
    {s : Shop}
    {core : State}
    {event : Option Event}
    (hBacked : s.Backed)
    (hSound : s.Sound)
    (hStep : OrderManagement.Step s.core event core)
    (hNoArrival : core.calls.card ≤ s.core.calls.card)
    (hReliable : (Action.core event).Reliable) :
    Shop.Backed
      { s with
        core := core
        followUps := due event + s.followUps } := by
  rcases hSound.core_cases hStep hNoArrival with
    ⟨rfl, hSame, c, stage, rest, hCalls, hCalls'⟩ |
      ⟨rfl, hCalls, hTouched⟩ |
        ⟨e, c, rfl, hBefore, hAfter, hCalls, hRequest,
          hPreDeduct, hEnd⟩
  · apply hBacked.continued (by rw [hSame]) (by rw [hSame])
    · intro other hOther
      rw [hCalls'] at hOther
      rw [hCalls]
      rcases Multiset.mem_cons.mp hOther with rfl | hRest
      · exact ⟨c, Multiset.mem_cons_self _ _, rfl, rfl⟩
      · exact ⟨other, Multiset.mem_cons_of_mem hRest, rfl,
          rfl⟩
    · intro other hOther
      rw [hCalls] at hOther
      rw [hCalls']
      rcases Multiset.mem_cons.mp hOther with rfl | hRest
      · exact ⟨_, Multiset.mem_cons_self _ _, rfl, rfl⟩
      · exact ⟨other, Multiset.mem_cons_of_mem hRest, rfl,
          rfl⟩
  · rcases hTouched with ⟨f, _, hKey, hSame⟩
    apply hBacked.continued (by rw [hSame]) (by rw [hSame])
    · intro c hCall
      exact ⟨c, hCalls ▸ hCall, rfl, rfl⟩
    · intro c hCall
      exact ⟨c, hCalls ▸ hCall, rfl, rfl⟩
  · rcases hEnd with
      ⟨view, now, nextAttemptAt, userID, req, ids, order,
        hCreate, hOk, hPlaced⟩ | ⟨hOther, hOrders⟩
    · rw [due_of_created hCreate hOk, zero_add]
      exact hBacked.created hSound.core hStep hCalls hRequest
        hPreDeduct hCreate hOk hPlaced
    · exact hBacked.ended (hStep.event hSound.core).1 hBefore
        hAfter hCalls hRequest hPreDeduct (hReliable e rfl)
        hOther hOrders

------------------------------------------------------------
-- Arrivals
------------------------------------------------------------

/- What a call knows about Redis when the answer of the
   script has come back. -/
structure Answered
    (request : Request)
    (redis : Redis)
    (answer : PreDeduct)
    (redis' : Redis) : Prop where
  keys :
    ∀ p,
      (redis'.available p).isSome =
        (redis.available p).isSome
  kept :
    ∀ id, (redis.reservations.find? id).isSome →
      (redis'.reservations.find? id).isSome
  reserved :
    ∀ id, (redis'.reservations.find? id).isSome →
      (redis.reservations.find? id).isSome ∨
        request.newOrderID = some id ∧ answer = .applied
  applied :
    ∀ id, request.newOrderID = some id → answer = .applied →
      (redis'.reservations.find? id).isSome
  skipped :
    ∀ userID req ids,
      request = .createOrder userID req ids →
      answer = .skipped →
        (∃ err,
          OrderService.checkCreateOrder userID req =
            .error err) ∨
          ∃ item ∈ req.items,
            redis.available item.productID = none

/- An answer that comes without any change in Redis. -/
theorem Answered.unchanged
    {request : Request}
    {redis : Redis}
    {answer : PreDeduct}
    (hOther : answer ≠ .applied)
    (hSkipped :
      ∀ userID req ids,
        request = .createOrder userID req ids →
        answer = .skipped →
          (∃ err,
            OrderService.checkCreateOrder userID req =
              .error err) ∨
            ∃ item ∈ req.items,
              redis.available item.productID = none) :
    Answered request redis answer redis where
  keys _ := rfl
  kept _ hReserved := hReserved
  reserved _ hReserved := Or.inl hReserved
  applied _ _ hApplied := absurd hApplied hOther
  skipped := hSkipped

theorem Request.preDeduct_answered
    {request : Request}
    {redis : Redis}
    (hBound : request.Bound)
    (hFresh :
      ∀ id, request.newOrderID = some id →
        redis.reservations.find? id = none) :
    Answered request redis
      (request.preDeduct .answered redis).1
      (request.preDeduct .answered redis).2 := by
  rcases Request.preDeduct_cases .answered hFresh with
    ⟨hSkipped, hRefused⟩ |
      ⟨userID, req, ids, rfl, _, hCases⟩
  · rw [hSkipped]
    apply Answered.unchanged
    · simp
    · intro userID req ids hRequest _
      exact Or.inl (hRefused userID req ids hRequest)
  · have hMem :
        ∀ item, item ∈ sortedOrderItems req.items →
          item ∈ req.items :=
      fun item => (sortedOrderItems_perm req.items).mem_iff.mp
    generalize (Request.createOrder userID req ids).preDeduct
      .answered redis = reserved at hCases ⊢
    rcases reserved with ⟨answer, redis'⟩
    cases hCases with
    | lost hDelivery => cases hDelivery
    | insufficient =>
        apply Answered.unchanged
        · simp
        · intro _ _ _ _ hSkipped
          cases hSkipped
    | skipped hReason =>
        apply Answered.unchanged
        · simp
        rintro _ _ _ ⟨⟩ _
        rcases hReason with
          hNil | hUnsent | ⟨hUnanswered, _⟩ | ⟨_, hZero⟩
        · have hPerm := sortedOrderItems_perm req.items
          rw [hNil] at hPerm
          exact absurd hPerm.nil_eq.symm hBound.2.2.1
        · cases hUnsent
        · cases hUnanswered
        · rcases Redis.shortage_eq_zero hZero with
            ⟨item, hItem, hNone⟩
          exact Or.inr ⟨item, hMem item hItem, hNone⟩
    | applied _ _ hReserved =>
        have hFind :
            ∀ id,
              redis'.reservations.find? id =
                if ids.orderID = id then
                  some ⟨ids.orderID,
                    sortedOrderItems req.items⟩
                else
                  redis.reservations.find? id := by
          intro id
          rw [hReserved.reservations, Table.find?_put]
          rfl
        exact {
          keys := by
            intro p
            rw [hReserved.available, Option.isSome_map]
          kept := by
            intro id hOld
            rw [hFind]
            split
            · rfl
            · exact hOld
          reserved := by
            intro id hNew
            rw [hFind] at hNew
            split at hNew
            case isTrue hHere =>
              exact Or.inr ⟨congrArg some hHere, rfl⟩
            case isFalse => exact Or.inl hNew
          applied := by
            intro id hID _
            rw [hFind, if_pos (Option.some.inj hID)]
            rfl
          skipped := by
            intro _ _ _ _ hSkipped
            cases hSkipped }

theorem Shop.Backed.arrived
    {s : Shop}
    {request : Request}
    (hBacked : s.Backed)
    (hSound : s.Sound)
    (hBound : request.Bound)
    (hFresh :
      ∀ id, request.newOrderID = some id → id ∉ s.issued) :
    Shop.Backed
      { s with
        core := { s.core with
          calls :=
            ⟨request, (request.preDeduct .answered s.redis).1,
              .arrived⟩ ::ₘ s.core.calls }
        redis := (request.preDeduct .answered s.redis).2
        issued := request.newOrderID.toList ++ s.issued } := by
  have hAnswered :=
    Request.preDeduct_answered hBound
      (hSound.unreserved hFresh)
  generalize request.preDeduct .answered s.redis = reserved
    at hAnswered ⊢
  rcases reserved with ⟨answer, redis'⟩
  exact {
    keys := by
      intro p hRow
      exact (hAnswered.keys p).trans (hBacked.keys p hRow)
    applied := by
      intro c hCall id hID hApplied
      rcases Multiset.mem_cons.mp hCall with rfl | hOld
      · exact hAnswered.applied id hID hApplied
      · exact hAnswered.kept id
          (hBacked.applied c hOld id hID hApplied)
    skipped := by
      intro c hCall userID req ids hRequest hSkipped
      rcases Multiset.mem_cons.mp hCall with rfl | hOld
      · rcases hAnswered.skipped userID req ids hRequest
            hSkipped with hRefused | ⟨item, hItem, hNone⟩
        · exact Or.inl hRefused
        · refine Or.inr ⟨item, hItem, ?_⟩
          rw [← Option.not_isSome_iff_eq_none]
          intro hRow
          have hKey := hBacked.keys item.productID hRow
          rw [hNone] at hKey
          cases hKey
      · exact hBacked.skipped c hOld userID req ids hRequest
          hSkipped
    pending := by
      intro id hPending
      exact hAnswered.kept id (hBacked.pending id hPending)
    accounted := by
      intro id hReserved
      rcases hAnswered.reserved id hReserved with
        hOld | ⟨hID, hApplied⟩
      · cases hBacked.accounted id hOld with
        | inFlight hCall hID hApplied =>
            exact .inFlight (Multiset.mem_cons_of_mem hCall)
              hID hApplied
        | pending hPending => exact .pending hPending
        | releasing hDue => exact .releasing hDue
        | restoring hDue => exact .restoring hDue
        | confirming hDue => exact .confirming hDue
      · exact .inFlight (Multiset.mem_cons_self _ _) hID
          hApplied }

------------------------------------------------------------
-- Commands
------------------------------------------------------------

omit [Deployment] in
/- The order whose reservation a command takes away. -/
def FollowUp.target : FollowUp → Option Int
| .release orderID | .restore orderID | .confirm orderID =>
    some orderID
| .set _ _ | .incr _ _ _ => none

omit [Deployment] in
/- No command deletes the key of a product. -/
theorem FollowUp.run_keys
    {redis : Redis}
    {p : Int}
    (command : FollowUp)
    (hKey : (redis.available p).isSome) :
    ((command.run redis).available p).isSome := by
  cases command with
  | release id | restore id =>
      unfold run InventoryStockGuard.releaseReservation
      dsimp only
      split
      · exact hKey
      · rwa [Redis.releaseInventoryReservationScript_available,
          Option.isSome_map]
  | confirm id =>
      unfold run InventoryStockGuard.confirmPreDeductedInventory
      dsimp only
      split <;> exact hKey
  | set productID quantity =>
      unfold run InventoryStockGuard.setInventoryStock
      dsimp only
      split
      · exact hKey
      · rw [Redis.available_set]
        split
        · rfl
        · exact hKey
  | incr productID delta fallbackQuantity =>
      unfold run InventoryStockGuard.incrInventoryStock
      dsimp only
      split
      · exact hKey
      · rw [Redis.incrInventoryStockScript_available]
        split
        · rfl
        · exact hKey

/- Reservations are for positive order ids. -/
theorem Shop.Sound.unreserved_of_nonpos
    {s : Shop}
    {id : Int}
    (hSound : s.Sound)
    (hNegative : id ≤ 0) :
    s.redis.reservations.find? id = none := by
  cases hFind : s.redis.reservations.find? id with
  | none => rfl
  | some r =>
      have hPositive :=
        (hSound.reservationsValid id r hFind).orderIDPositive
      have hKey : r.orderID = id := Table.key_of_find? hFind
      omega

/- The checks of the guard let every release through. -/
theorem Shop.Sound.releaseReservation
    {s : Shop}
    (hSound : s.Sound)
    (id : Int) :
    InventoryStockGuard.releaseReservation s.redis id =
      s.redis.releaseInventoryReservationScript id := by
  unfold InventoryStockGuard.releaseReservation
  split
  case isTrue hNegative =>
    unfold Redis.releaseInventoryReservationScript
    rw [hSound.unreserved_of_nonpos hNegative]
  case isFalse => rfl

theorem Shop.Sound.confirmPreDeductedInventory
    {s : Shop}
    (hSound : s.Sound)
    (id : Int) :
    InventoryStockGuard.confirmPreDeductedInventory s.redis
      id = s.redis.delReservation id := by
  unfold InventoryStockGuard.confirmPreDeductedInventory
  split
  case isTrue hNegative =>
    unfold Redis.delReservation
    rw [Table.erase_of_free
      (hSound.unreserved_of_nonpos hNegative)]
  case isFalse => rfl

/- A command takes away the reservation of its target. -/
theorem Shop.Sound.run_reservations
    {s : Shop}
    (hSound : s.Sound)
    (command : FollowUp)
    (id : Int) :
    (command.run s.redis).reservations.find? id =
      if command.target = some id then none
      else s.redis.reservations.find? id := by
  cases command with
  | release id' | restore id' =>
      simp only [FollowUp.run, hSound.releaseReservation,
        Redis.releaseInventoryReservationScript_reservations,
        Table.find?_erase, FollowUp.target,
        Option.some.injEq]
  | confirm id' =>
      simp only [FollowUp.run,
        hSound.confirmPreDeductedInventory,
        Redis.reservations_delReservation,
        Table.find?_erase, FollowUp.target,
        Option.some.injEq]
  | set productID quantity =>
      unfold FollowUp.run InventoryStockGuard.setInventoryStock
      dsimp only
      split <;> rfl
  | incr productID delta fallbackQuantity =>
      unfold FollowUp.run InventoryStockGuard.incrInventoryStock
      dsimp only
      split
      · rfl
      · rw [Redis.incrInventoryStockScript_reservations]
        rfl

/- The target of a command that is due is not pending, and
   no call in flight has generated it. -/
theorem Shop.Sound.target_settled
    {s : Shop}
    {command : FollowUp}
    {id : Int}
    (hSound : s.Sound)
    (hDue : command ∈ s.followUps)
    (hTarget : command.target = some id) :
    (∀ c ∈ s.core.calls, c.newOrderID ≠ some id) ∧
      statusOf s.core.db id ≠ some .pending := by
  have hUnborn :
      ∀ {status},
        statusOf s.core.db id = some status →
          ∀ c ∈ s.core.calls, c.newOrderID ≠ some id := by
    intro status hStatus c hCall hID
    have hNone := hSound.unborn id (Multiset.mem_add.mpr
      (Or.inl ((Multiset.mem_filterMap _ _).mpr
        ⟨c, hCall, hID⟩)))
    unfold statusOf at hStatus
    rw [hNone] at hStatus
    cases hStatus
  cases command with
  | release id' =>
      cases hTarget
      have hReleased :
          id ∈ s.followUps.filterMap FollowUp.released :=
        (Multiset.mem_filterMap _ _).mpr ⟨_, hDue, rfl⟩
      constructor
      · intro c hCall hID
        have hDisjoint :=
          (Multiset.nodup_add.mp hSound.owned).2.2
        exact Multiset.disjoint_left.mp hDisjoint
          ((Multiset.mem_filterMap _ _).mpr ⟨c, hCall, hID⟩)
          hReleased
      · intro hPending
        have hNone := hSound.unborn id
          (Multiset.mem_add.mpr (Or.inr hReleased))
        unfold statusOf at hPending
        rw [hNone] at hPending
        cases hPending
  | restore id' =>
      cases hTarget
      have hCancelled := hSound.restored id hDue
      refine ⟨hUnborn hCancelled, ?_⟩
      rw [hCancelled]
      simp
  | confirm id' =>
      cases hTarget
      rcases hSound.confirmed id hDue with
        ⟨status, hStatus, hSold⟩
      refine ⟨hUnborn hStatus, ?_⟩
      rw [hStatus]
      rintro ⟨⟩
      cases hSold
  | set | incr => cases hTarget

theorem Shop.Backed.followedUp
    {s : Shop}
    {command : FollowUp}
    {rest : Multiset FollowUp}
    (hBacked : s.Backed)
    (hSound : s.Sound)
    (hDue : s.followUps = command ::ₘ rest) :
    Shop.Backed
      { s with
        redis := command.run s.redis
        followUps := rest } := by
  have hMem : command ∈ s.followUps := by
    rw [hDue]
    exact Multiset.mem_cons_self _ _
  have hKept :
      ∀ id, command.target ≠ some id →
        (s.redis.reservations.find? id).isSome →
          ((command.run s.redis).reservations.find?
            id).isSome := by
    intro id hOther hReserved
    rwa [hSound.run_reservations, if_neg hOther]
  have hRest :
      ∀ {other : FollowUp} {id : Int},
        other.target = some id →
        command.target ≠ some id →
        other ∈ s.followUps → other ∈ rest := by
    intro other id hTarget hOther hOld
    rw [hDue] at hOld
    rcases Multiset.mem_cons.mp hOld with rfl | hRest
    · exact absurd hTarget hOther
    · exact hRest
  exact {
    keys := fun p hRow => command.run_keys (hBacked.keys p hRow)
    applied := by
      intro c hCall id hID hApplied
      apply hKept
      · intro hTarget
        exact (hSound.target_settled hMem hTarget).1 c hCall hID
      · exact hBacked.applied c hCall id hID hApplied
    skipped := hBacked.skipped
    pending := by
      intro id hPending
      apply hKept
      · intro hTarget
        exact (hSound.target_settled hMem hTarget).2 hPending
      · exact hBacked.pending id hPending
    accounted := by
      intro id hReserved
      change ((command.run s.redis).reservations.find?
        id).isSome at hReserved
      rw [hSound.run_reservations] at hReserved
      split at hReserved
      · cases hReserved
      case isFalse hOther =>
        cases hBacked.accounted id hReserved with
        | inFlight hCall hID hApplied =>
            exact .inFlight hCall hID hApplied
        | pending hPending => exact .pending hPending
        | releasing hOld =>
            exact .releasing (hRest rfl hOther hOld)
        | restoring hOld =>
            exact .restoring (hRest rfl hOther hOld)
        | confirming hOld =>
            exact .confirming (hRest rfl hOther hOld) }

------------------------------------------------------------
-- Every Step
------------------------------------------------------------

/- Steps that change neither the database nor the calls. -/
theorem Shop.Backed.resynced
    {s : Shop}
    (hBacked : s.Backed)
    (resyncs : Multiset Resync)
    {redis : Redis}
    (hKeys :
      ∀ p, (s.redis.available p).isSome →
        (redis.available p).isSome)
    (hReservations :
      redis.reservations = s.redis.reservations) :
    Shop.Backed
      { s with
        redis := redis
        resyncs := resyncs } where
  keys p hRow := hKeys p (hBacked.keys p hRow)
  applied := by
    simp only [hReservations]
    exact hBacked.applied
  skipped := hBacked.skipped
  pending := by
    simp only [hReservations]
    exact hBacked.pending
  accounted id hReserved := by
    change (redis.reservations.find? id).isSome at hReserved
    rw [hReservations] at hReserved
    cases hBacked.accounted id hReserved with
    | inFlight hCall hID hApplied =>
        exact .inFlight hCall hID hApplied
    | pending hPending => exact .pending hPending
    | releasing hDue => exact .releasing hDue
    | restoring hDue => exact .restoring hDue
    | confirming hDue => exact .confirming hDue

theorem Shop.Step.backed
    {s t : Shop}
    {a : Action}
    (hSound : s.Sound)
    (hBacked : s.Backed)
    (hReliable : a.Reliable)
    (hStep : Shop.Step s a t) :
    t.Backed := by
  cases hStep with
  | arrive request delivery hBound hFresh =>
      cases hReliable
      exact hBacked.arrived hSound hBound hFresh
  | core hStep hNoArrival =>
      exact hBacked.cored hSound hStep hNoArrival hReliable
  | followUp command delivered hDue =>
      cases hReliable
      exact hBacked.followedUp hSound hDue
  | listForRebuild | listForReconcile | compare
  | resyncDone =>
      exact hBacked.resynced _ (fun _ hKey => hKey) rfl
  | write productID quantity delivered =>
      cases hReliable
      apply hBacked.resynced
      · intro p hKey
        exact FollowUp.run_keys (.set productID quantity) hKey
      · simp only [if_true]
        unfold InventoryStockGuard.setInventoryStock
        split <;> rfl
  | evict | evictReservation => cases hReliable

end OrderManagement
