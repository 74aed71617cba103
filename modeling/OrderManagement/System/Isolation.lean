import OrderManagement.Service.UserView
import OrderManagement.System.Restoration

/-
  Users are isolated from each other. A call of one user
  leaves alone what belongs to any other user, in every run
  of the shop; and what a user is answered does not depend
  on the rows of others.

  Main declarations:
    * `UserCall` and `UserCall.reply`
    * `Issued` and `Shop.Attributed`
    * `Shop.StepOf` and `Shop.Untouched`
    * `user_isolation`
-/

namespace OrderManagement

open Transaction

------------------------------------------------------------
-- Calls of a User
------------------------------------------------------------

/- What a user may ask for. -/
inductive UserCall
| createOrder
    (req : CreateOrderRequest)
    (ids : GeneratedIDs)
| payOrder (orderID : Int)
| finishOrder (orderID : Int)
| cancelOrder (orderID : Int)
| getOrderByID (id : Int)
| listOrders (page pageSize : Int)

/- What a user is told. -/
inductive Reply
| outcome (response : Except Err Outcome)
| order (response : Except Err (Order × List OrderItem))
| orders (response : Except Err (List Order × Nat))

/- The user on whose behalf a call runs, if it has one. -/
def Request.user : Request → Option Int
| .createOrder userID _ _ => some userID
| .payOrder userID _ => some userID
| .finishOrder userID _ => some userID
| .cancelOrder userID _ => some userID
| _ => none

variable [Deployment]

/- The response of a call: of its checks and of its guard,
   or of its transaction. -/
def Request.answer
    (delivery : Delivery)
    (redis : Redis)
    (view db : DB)
    (now nextAttemptAt : Time)
    (request : Request) : Except Err Outcome :=
  match request.rejection
      (request.preDeduct delivery redis).1 with
  | some e => .error e
  | none => (request.run view now nextAttemptAt db).1

/-
  The reply to a call of a user. A transaction reads from
  `view` and acts on `db`; a query answers from both.
-/
def UserCall.reply
    (userID : Int)
    (delivery : Delivery)
    (redis : Redis)
    (view db : DB)
    (now nextAttemptAt : Time) : UserCall → Reply
| .createOrder req ids =>
    .outcome
      ((Request.createOrder userID req ids).answer delivery
        redis view db now nextAttemptAt)
| .payOrder orderID =>
    .outcome
      ((Request.payOrder userID orderID).answer delivery redis
        view db now nextAttemptAt)
| .finishOrder orderID =>
    .outcome
      ((Request.finishOrder userID orderID).answer delivery
        redis view db now nextAttemptAt)
| .cancelOrder orderID =>
    .outcome
      ((Request.cancelOrder userID orderID).answer delivery
        redis view db now nextAttemptAt)
| .getOrderByID id =>
    .order (OrderService.getOrderByID view db userID id)
| .listOrders page pageSize =>
    .orders
      (OrderService.listOrders view db userID page pageSize)

/- A call that runs alone responds so. -/
theorem GuardedCall.event_response
    (c : GuardedCall)
    (redis : Redis)
    (db : DB) :
    (c.event redis db).response =
      c.request.answer c.delivery redis db db c.now
        c.nextAttemptAt := by
  unfold Request.answer
  cases hRejection :
      c.request.rejection
        (c.request.preDeduct c.delivery redis).1 with
  | some e =>
      exact congrArg Prod.fst (event_of_rejected hRejection)
  | none =>
      exact congrArg Prod.fst (event_of_admitted hRejection)

/- What a CreateOrder call generates is fresh. -/
def UserCall.Fresh
    (redis : Redis)
    (db : DB) : UserCall → Prop
| .createOrder _ ids =>
    ids.Unused db.orders db.orderTimeoutOutbox ∧
      redis.reservations.find? ids.orderID = none
| _ => True

------------------------------------------------------------
-- Noninterference
------------------------------------------------------------

/- Transactions that end alike respond alike. -/
theorem Request.run_eq_of_alike
    {request : Request}
    {view view' : DB}
    {now nextAttemptAt : Time}
    {R : DB → DB → Prop}
    {db db' : DB}
    (hAlike :
      EndsAlike R
        (request.transaction view now nextAttemptAt) db
        (request.transaction view' now nextAttemptAt) db') :
    (request.run view now nextAttemptAt db).1 =
      (request.run view' now nextAttemptAt db').1 := by
  unfold Request.run
  cases hAlike with
  | commits hFirst hSecond _ =>
      unfold Commits at hFirst hSecond
      rw [hFirst, hSecond]
  | aborts hFirst hSecond =>
      unfold Aborts at hFirst hSecond
      rw [hFirst, hSecond]

/- The guard reads the available quantities, and finds no
   reservation under a fresh identifier. -/
theorem Request.preDeduct_answer_eq
    {userID : Int}
    {req : CreateOrderRequest}
    {ids : GeneratedIDs}
    {delivery : Delivery}
    {redis redis' : Redis}
    (hAvailable : redis.available = redis'.available)
    (hFresh : redis.reservations.find? ids.orderID = none)
    (hFresh' :
      redis'.reservations.find? ids.orderID = none) :
    ((Request.createOrder userID req ids).preDeduct delivery
        redis).1 =
      ((Request.createOrder userID req ids).preDeduct delivery
        redis').1 := by
  have hShortage :
      ∀ items, redis.shortage items = redis'.shortage items := by
    intro items
    induction items with
    | nil => rfl
    | cons item items ih =>
        unfold Redis.shortage
        rw [hAvailable, ih]
  have hScript :
      ∀ items,
        (redis.preDeductInventoryScript ids.orderID items).1 =
          (redis'.preDeductInventoryScript ids.orderID
            items).1 := by
    intro items
    unfold Redis.preDeductInventoryScript
    rw [hFresh, hFresh', hShortage]
    cases redis'.shortage items <;> rfl
  unfold Request.preDeduct
    InventoryStockGuard.preDeductInventory
  dsimp only
  cases OrderService.checkCreateOrder userID req with
  | error e => rfl
  | ok checked =>
      dsimp only
      split
      · rfl
      cases delivery with
      | unsent => rfl
      | unanswered => rfl
      | answered =>
          simp only [apply_ite Prod.fst, hScript]

/-
  A user is answered the same in two states that agree on
  what the user may see, on all products and inventories,
  and on the quantities in Redis.
-/
theorem UserCall.reply_eq
    {userID : Int}
    {call : UserCall}
    {delivery : Delivery}
    {redis redis' : Redis}
    {view view' db db' : DB}
    {now nextAttemptAt : Time}
    (hView : view.AgreeFor userID view')
    (hGrows : view.Grows db)
    (hDB : db.AgreeFor userID db')
    (hAvailable : redis.available = redis'.available)
    (hFresh : call.Fresh redis db)
    (hFresh' : call.Fresh redis' db') :
    call.reply userID delivery redis view db now
        nextAttemptAt =
      call.reply userID delivery redis' view' db' now
        nextAttemptAt := by
  have hStart :
      Indistinct userID
        (fun id => (Dao.getOrderByID db userID id).isSome)
        (fun _ _ => True) db db' :=
    hDB.indistinct trivial trivial
  cases call with
  | createOrder req ids =>
      have hSame :=
        hDB.indistinct (P := ids.Unused) hFresh.1 hFresh'.1
      refine congrArg Reply.outcome ?_
      unfold Request.answer
      rw [Request.preDeduct_answer_eq hAvailable hFresh.2
        hFresh'.2]
      split
      · rfl
      refine Request.run_eq_of_alike
        (R := fun _ _ => True) ?_
      simp only [Request.transaction]
      cases OrderService.checkCreateOrder userID req with
      | error e => exact .throw e
      | ok checked =>
          exact OrderService.createOrder_alike hView hSame
  | payOrder orderID =>
      exact congrArg Reply.outcome (Request.run_eq_of_alike
        (OrderService.payOrder_alike hView hGrows.ownOrder
          hStart))
  | finishOrder orderID =>
      exact congrArg Reply.outcome (Request.run_eq_of_alike
        (OrderService.finishOrder_alike hView hStart))
  | cancelOrder orderID =>
      exact congrArg Reply.outcome (Request.run_eq_of_alike
        (OrderService.cancelOrder_alike hView hStart))
  | getOrderByID id =>
      exact congrArg Reply.order
        (OrderService.getOrderByID_eq hView hDB hGrows id)
  | listOrders page pageSize =>
      exact congrArg Reply.orders
        (OrderService.listOrders_eq hView hDB page pageSize)

------------------------------------------------------------
-- Owners of Identifiers
------------------------------------------------------------

/- A CreateOrder call of the user has got the identifier. -/
def Issued
    (actions : List Action)
    (userID id : Int) : Prop :=
  ∃ req ids delivery,
    .arrive (.createOrder userID req ids) delivery ∈ actions ∧
      ids.orderID = id

/- The order whose reservation a command is about. -/
def FollowUp.orderID : FollowUp → Option Int
| .release orderID => some orderID
| .restore orderID => some orderID
| .confirm orderID => some orderID
| _ => none

/-
  To whom identifiers belong: each was issued to one user,
  whose call and whose order carry it, and the commands that
  a user's calls owe are about identifiers of that user.
-/
structure Shop.Attributed
    (actions : List Action)
    (s : Shop) : Prop where
  issued :
    ∀ userID id, Issued actions userID id → id ∈ s.issued
  unique :
    ∀ u v id, Issued actions u id → Issued actions v id →
      u = v
  calls :
    ∀ c ∈ s.core.calls, ∀ userID req ids,
      c.request = .createOrder userID req ids →
        Issued actions userID ids.orderID
  orders :
    ∀ id order, s.core.db.orders.find? id = some order →
      Issued actions order.userID id
  commands :
    ∀ e, .core (some e) ∈ actions →
      ∀ userID, e.request.user = some userID →
        ∀ command, e.followUp = some command →
          ∀ id, command.orderID = some id →
            Issued actions userID id

theorem Issued.mono
    {actions actions' : List Action}
    {userID id : Int}
    (hIssued : Issued actions userID id)
    (hMore : actions ⊆ actions') :
    Issued actions' userID id := by
  rcases hIssued with ⟨req, ids, delivery, hMem, hID⟩
  exact ⟨req, ids, delivery, hMore hMem, hID⟩

/- What one more action issues. -/
theorem issued_append
    {actions : List Action}
    {action : Action}
    {userID id : Int} :
    Issued (actions ++ [action]) userID id ↔
      Issued actions userID id ∨
        ∃ req ids delivery,
          action = .arrive (.createOrder userID req ids)
              delivery ∧
            ids.orderID = id := by
  constructor
  · rintro ⟨req, ids, delivery, hMem, hID⟩
    rcases List.mem_append.mp hMem with hOld | hNew
    · exact Or.inl ⟨req, ids, delivery, hOld, hID⟩
    · exact Or.inr ⟨req, ids, delivery,
        (List.mem_singleton.mp hNew).symm, hID⟩
  · rintro (hOld | ⟨req, ids, delivery, rfl, hID⟩)
    · exact hOld.mono (List.subset_append_left _ _)
    · exact ⟨req, ids, delivery, by simp, hID⟩

/- A payment or a cancellation by a user that ends well is
   of an order of that user. -/
theorem Event.Sound.ownOrder
    {e : Event}
    {userID orderID : Int}
    {outcome : Outcome}
    (hSound : e.Sound)
    (hRequest :
      e.request = .payOrder userID orderID ∨
        e.request = .cancelOrder userID orderID)
    (hOk : e.response = .ok outcome) :
    ∃ order,
      e.before.orders.find? orderID = some order ∧
        order.userID = userID := by
  rcases hSound.effect hOk with ⟨view, _, hEffect⟩
  generalize e.request = request at hRequest hEffect
  generalize e.before = db at hEffect ⊢
  generalize e.after = db' at hEffect
  rcases hRequest with rfl | rfl
  · cases hEffect with
    | productStatusSame hOther => simp at hOther
    | productStatusSet hOther => simp at hOther
    | orderPaid _ hPaid => exact ⟨_, hPaid.find, rfl⟩
  · cases hEffect with
    | productStatusSame hOther => simp at hOther
    | productStatusSet hOther => simp at hOther
    | orderCancelled _ hCancelled =>
        exact ⟨_, hCancelled.find, rfl⟩
    | cancelRepeated hFind => exact ⟨_, hFind, rfl⟩

/- The identifier of a command that a user's call owes is
   one of that user. -/
theorem Shop.Attributed.command
    {actions : List Action}
    {s : Shop}
    {e : Event}
    {c : Call}
    {userID id : Int}
    {command : FollowUp}
    (hAttributed : s.Attributed actions)
    (hSound : e.Sound)
    (hBefore : e.before = s.core.db)
    (hCall : c ∈ s.core.calls)
    (hRequest : e.request = c.request)
    (hUser : e.request.user = some userID)
    (hDue : e.followUp = some command)
    (hID : command.orderID = some id) :
    Issued actions userID id := by
  cases command with
  | set | incr => cases hID
  | release =>
      cases hID
      rcases Event.followUp_release hDue with
        ⟨_, v, req, ids, hCreate, rfl⟩
      have hSame : v = userID := by
        rw [hCreate] at hUser
        exact Option.some.inj hUser
      exact hSame ▸ hAttributed.calls c hCall v req ids
        (hRequest ▸ hCreate)
  | confirm =>
      cases hID
      rcases Event.followUp_confirm hDue with
        ⟨hOk, v, hPay⟩
      rcases hSound.ownOrder (Or.inl hPay) hOk with
        ⟨order, hFind, hOwner⟩
      have hSame : v = userID := by
        rw [hPay] at hUser
        exact Option.some.inj hUser
      rw [← hSame, ← hOwner]
      exact hAttributed.orders _ order (hBefore ▸ hFind)
  | restore =>
      cases hID
      rcases Event.followUp_restore hDue with
        ⟨hOk, ⟨v, hCancel⟩ | ⟨eventID, hExpire⟩⟩
      · have hFound :
            ∃ order,
              e.before.orders.find? id = some order ∧
                order.userID = v := by
          rcases hOk with hOk | hOk
          · exact hSound.ownOrder (Or.inr hCancel) hOk
          · exact hSound.ownOrder (Or.inr hCancel) hOk
        rcases hFound with ⟨order, hFind, hOwner⟩
        have hSame : v = userID := by
          rw [hCancel] at hUser
          exact Option.some.inj hUser
        rw [← hSame, ← hOwner]
        exact hAttributed.orders _ order (hBefore ▸ hFind)
      · rw [hExpire] at hUser
        cases hUser

/- A step that issues nothing and ends no call. -/
theorem Shop.Attributed.silent
    {actions : List Action}
    {action : Action}
    {s t : Shop}
    (hAttributed : s.Attributed actions)
    (hNoArrival :
      ∀ request delivery, action ≠ .arrive request delivery)
    (hNoEvent : ∀ e, action ≠ .core (some e))
    (hIssued : t.issued = s.issued)
    (hCalls :
      ∀ c ∈ t.core.calls,
        ∃ c' ∈ s.core.calls, c'.request = c.request)
    (hOrders : t.core.db.orders = s.core.db.orders) :
    t.Attributed (actions ++ [action]) := by
  have hSame :
      ∀ userID id,
        Issued (actions ++ [action]) userID id ↔
          Issued actions userID id := by
    intro userID id
    rw [issued_append]
    refine or_iff_left ?_
    rintro ⟨req, ids, delivery, hArrive, _⟩
    exact hNoArrival _ _ hArrive
  constructor
  · intro userID id hID
    rw [hIssued]
    exact hAttributed.issued userID id ((hSame _ _).mp hID)
  · intro u v id hU hV
    exact hAttributed.unique u v id ((hSame _ _).mp hU)
      ((hSame _ _).mp hV)
  · intro c hCall userID req ids hRequest
    rcases hCalls c hCall with ⟨c', hCall', hEq⟩
    exact (hSame _ _).mpr
      (hAttributed.calls c' hCall' userID req ids
        (hEq.trans hRequest))
  · intro id order hFind
    rw [hOrders] at hFind
    exact (hSame _ _).mpr (hAttributed.orders id order hFind)
  · intro e hEvent userID hUser command hDue id hID
    rcases List.mem_append.mp hEvent with hOld | hNew
    · exact (hSame _ _).mpr
        (hAttributed.commands e hOld userID hUser command hDue
          id hID)
    · exact absurd (List.mem_singleton.mp hNew).symm
        (hNoEvent e)

/- The identifier of a call that arrives is a new one. -/
theorem Shop.Attributed.arrived
    {actions : List Action}
    {request : Request}
    {delivery : Delivery}
    {s t : Shop}
    (hAttributed : s.Attributed actions)
    (hStep : Shop.Step s (.arrive request delivery) t) :
    t.Attributed (actions ++ [.arrive request delivery]) := by
  cases hStep with
  | arrive _ _ hBound hFresh =>
      have hNew :
          ∀ {userID id : Int},
            (∃ req ids delivery',
              Action.arrive request delivery =
                  .arrive (.createOrder userID req ids)
                    delivery' ∧
                ids.orderID = id) →
              request.newOrderID = some id ∧
                request.user = some userID := by
        rintro userID id ⟨req, ids, _, hEq, rfl⟩
        cases hEq
        exact ⟨rfl, rfl⟩
      constructor
      · intro userID id hID
        rcases issued_append.mp hID with hOld | hHere
        · exact List.mem_append_right _
            (hAttributed.issued userID id hOld)
        · exact List.mem_append_left _
            (Option.mem_toList.mpr (hNew hHere).1)
      · intro u v id hU hV
        rcases issued_append.mp hU with hU | hU <;>
          rcases issued_append.mp hV with hV | hV
        · exact hAttributed.unique u v id hU hV
        · exact absurd (hAttributed.issued u id hU)
            (hFresh id (hNew hV).1)
        · exact absurd (hAttributed.issued v id hV)
            (hFresh id (hNew hU).1)
        · exact Option.some.inj
            ((hNew hU).2.symm.trans (hNew hV).2)
      · intro c hCall userID req ids hRequest
        rcases Multiset.mem_cons.mp hCall with rfl | hOld
        · cases hRequest
          exact issued_append.mpr
            (Or.inr ⟨req, ids, delivery, rfl, rfl⟩)
        · exact (hAttributed.calls c hOld userID req ids
            hRequest).mono (List.subset_append_left _ _)
      · intro id order hFind
        exact (hAttributed.orders id order hFind).mono
          (List.subset_append_left _ _)
      · intro e hEvent userID hUser command hDue id hID
        rcases List.mem_append.mp hEvent with hOld | hHere
        · exact (hAttributed.commands e hOld userID hUser
            command hDue id hID).mono
              (List.subset_append_left _ _)
        · cases List.mem_singleton.mp hHere

/- The orders after a call belong to whom they belonged, and
   a new one belongs to the caller. -/
theorem Shop.Attributed.ended
    {actions : List Action}
    {s : Shop}
    {core : State}
    {e : Event}
    (hSound : s.Sound)
    (hAttributed : s.Attributed actions)
    (hStep : OrderManagement.Step s.core (some e) core)
    (hNoArrival : core.calls.card ≤ s.core.calls.card)
    {id : Int}
    {order : Order}
    (hFind : core.db.orders.find? id = some order) :
    Issued actions order.userID id := by
  rcases hSound.core_cases hStep hNoArrival with
    ⟨hNone, _⟩ | ⟨hNone, _⟩ |
      ⟨e', c, hSame, _, _, hCalls, hRequest, _, hOrders⟩
  · cases hNone
  · cases hNone
  cases hSame
  rcases hOrders with
    ⟨_, _, _, userID, req, ids, placed, hCreate, _, hPlaced⟩ |
      ⟨_, hOld⟩
  · rw [Table.find?_of_insert? hPlaced.orders] at hFind
    by_cases hHere : Keyed.key placed = id
    · rw [if_pos hHere] at hFind
      cases hFind
      have hID : ids.orderID = id := hPlaced.id.symm.trans hHere
      rw [hPlaced.user, ← hID]
      refine hAttributed.calls c ?_ userID req ids
        (hRequest ▸ hCreate)
      rw [hCalls]
      exact Multiset.mem_cons_self _ _
    · rw [if_neg hHere] at hFind
      exact hAttributed.orders id order hFind
  · rcases Option.isSome_iff_exists.mp
        (hOld id (by rw [hFind]; rfl)) with ⟨before, hBefore⟩
    rcases (hStep.grows hSound.core).orders id before hBefore
      with ⟨order', hFind', hFollows⟩
    rw [hFind] at hFind'
    cases hFind'
    rw [hFollows.userID]
    exact hAttributed.orders id before hBefore

theorem Shop.Attributed.step
    {actions : List Action}
    {action : Action}
    {s t : Shop}
    (hSound : s.Sound)
    (hAttributed : s.Attributed actions)
    (hStep : Shop.Step s action t) :
    t.Attributed (actions ++ [action]) := by
  cases hStep with
  | followUp | listForRebuild | listForReconcile | compare
  | write | resyncDone | evict | evictReservation =>
      exact hAttributed.silent (by simp) (by simp) rfl
        (fun c hCall => ⟨c, hCall, rfl⟩) rfl
  | arrive request delivery hBound hFresh =>
      exact hAttributed.arrived (.arrive s _ _ hBound hFresh)
  | @core core event hStep hNoArrival =>
      rcases hSound.core_cases hStep hNoArrival with
        ⟨rfl, hSame, c, stage, rest, hCalls, hCalls'⟩ |
          ⟨rfl, hCalls, hTouched⟩ |
          ⟨e, c, rfl, hBefore, hAfter, hCalls, hRequest, _,
            hOrders⟩
      · refine hAttributed.silent (by simp) (by simp) rfl ?_
          (congrArg DB.orders hSame)
        intro other hOther
        rw [hCalls] at *
        rw [hCalls'] at hOther
        rcases Multiset.mem_cons.mp hOther with rfl | hRest
        · exact ⟨c, Multiset.mem_cons_self _ _, rfl⟩
        · exact ⟨other, Multiset.mem_cons_of_mem hRest, rfl⟩
      · rcases hTouched with ⟨f, _, hKey, hSame⟩
        refine hAttributed.silent (by simp) (by simp) rfl ?_
          (by rw [hSame])
        intro other hOther
        exact ⟨other, hCalls ▸ hOther, rfl⟩
      · have hEvent := (hStep.event hSound.core).1
        have hCall : c ∈ s.core.calls := by
          rw [hCalls]
          exact Multiset.mem_cons_self _ _
        have hSame :
            ∀ userID id,
              Issued (actions ++ [.core (some e)]) userID id ↔
                Issued actions userID id := by
          intro userID id
          rw [issued_append]
          refine or_iff_left ?_
          rintro ⟨_, _, _, hEq, _⟩
          cases hEq
        constructor
        · intro userID id hID
          exact hAttributed.issued userID id
            ((hSame _ _).mp hID)
        · intro u v id hU hV
          exact hAttributed.unique u v id
            ((hSame _ _).mp hU) ((hSame _ _).mp hV)
        · intro other hOther userID req ids hCreate
          refine (hSame _ _).mpr (hAttributed.calls other ?_
            userID req ids hCreate)
          rw [hCalls]
          exact Multiset.mem_cons_of_mem hOther
        · intro id order hFind
          exact (hSame _ _).mpr
            (hAttributed.ended hSound hStep hNoArrival hFind)
        · intro e' hMem userID hUser command hDue id hID
          rcases List.mem_append.mp hMem with hOld | hHere
          · exact (hSame _ _).mpr (hAttributed.commands e' hOld
              userID hUser command hDue id hID)
          · cases List.mem_singleton.mp hHere
            exact (hSame _ _).mpr (hAttributed.command hEvent
              hBefore hCall hRequest hUser hDue hID)

theorem Shop.Attributed.of_run
    {actions : List Action}
    {s : Shop}
    (hRun : Transition.Run Shop.Step Shop.initial actions s) :
    s.Attributed actions := by
  have hStart : Shop.initial.Attributed [] := by
    constructor
    · rintro userID id ⟨_, _, _, hMem, _⟩
      cases hMem
    · rintro u v id ⟨_, _, _, hMem, _⟩
      cases hMem
    · intro c hCall
      exact absurd hCall (Multiset.notMem_zero c)
    · intro id order hFind
      cases hFind
    · intro e hMem
      cases hMem
  refine (hRun.history
    (P := fun ls t => t.Sound ∧ t.Attributed ls)
    ⟨Shop.sound_initial, hStart⟩ ?_).2
  intro ls t a u _ hInv hStep
  exact ⟨hStep.sound hInv.1, hInv.2.step hInv.1 hStep⟩

------------------------------------------------------------
-- Frames
------------------------------------------------------------

/- The outbox rows of a user. -/
def DB.outboxOf
    (db : DB)
    (userID : Int) : List OrderTimeoutOutbox :=
  db.orderTimeoutOutbox.rows.filter fun row =>
    row.userID = userID

/- What belongs to a user is the same in both shops. -/
structure Shop.Untouched
    (actions : List Action)
    (userID : Int)
    (s t : Shop) : Prop where
  db : s.core.db.SameFor userID t.core.db
  outbox :
    t.core.db.outboxOf userID = s.core.db.outboxOf userID
  reservations :
    ∀ id, Issued actions userID id →
      t.redis.reservations.find? id =
        s.redis.reservations.find? id

theorem DB.SameFor.refl
    (userID : Int)
    (db : DB) :
    DB.SameFor userID db db where
  orders _ := rfl
  items _ _ := rfl
  keys _ := rfl

/- A status change concerns the owner of the order only. -/
theorem OrderMoved.sameFor
    {db db' : DB}
    {order : Order}
    {toStatus : OrderStatus}
    {timeField : OrderTimeField}
    {now : Time}
    {stock locked : Int → Int}
    {entries : List (Int × Int × StockBiz × Option Int)}
    {userID : Int}
    (hMoved :
      OrderMoved db db' order toStatus timeField now stock
        locked entries)
    (hOther : order.userID ≠ userID) :
    db.SameFor userID db' ∧
      db'.outboxOf userID = db.outboxOf userID := by
  constructor
  · constructor
    · intro id
      unfold Dao.getOrderByID
      rw [hMoved.orders, Table.find?_update]
      by_cases hHere :
          Keyed.key (order.patched toStatus timeField now) = id
      · have hID : order.id = id := hHere
        rw [if_pos hHere, ← hID, hMoved.find]
        simp [Order.patched, Option.filter_some, hOther]
      · rw [if_neg hHere]
    · intro id _
      unfold Dao.listOrderItemsByOrderID
      rw [hMoved.orderItems]
    · intro idempotencyKey
      unfold Dao.getOrderIdempotencyKey
      rw [hMoved.keys]
  · unfold DB.outboxOf
    rw [hMoved.outbox]

/- A creation concerns the caller only. -/
theorem OrderPlaced.sameFor
    {view : DB}
    {now nextAttemptAt : Time}
    {caller userID : Int}
    {idempotencyKey requestHash : String}
    {items : List CreateOrderItemRequest}
    {ids : GeneratedIDs}
    {order : Order}
    {db db' : DB}
    (hPlaced :
      OrderPlaced view now nextAttemptAt caller
        idempotencyKey requestHash items ids order db db')
    (hOther : caller ≠ userID) :
    db.SameFor userID db' ∧
      db'.outboxOf userID = db.outboxOf userID := by
  have hFree : db.orders.find? order.id = none :=
    (Table.insert?_eq_some_iff.mp hPlaced.orders).1
  have hOwner : order.userID ≠ userID := by
    rw [hPlaced.user]
    exact hOther
  constructor
  · constructor
    · intro id
      unfold Dao.getOrderByID
      rw [Table.find?_of_insert? hPlaced.orders]
      by_cases hHere : Keyed.key order = id
      · have hID : order.id = id := hHere
        rw [if_pos hHere, ← hID, hFree]
        simp [Option.filter_some, hOwner]
      · rw [if_neg hHere]
    · intro id hOwn
      rcases hPlaced.placed with
        ⟨newItems, _, hItems, _, hNew, _⟩
      have hElse : order.id ≠ id := by
        rintro rfl
        unfold Dao.getOrderByID at hOwn
        rw [hFree] at hOwn
        cases hOwn
      have hNone :
          newItems.filter (fun item => item.orderID = id) =
            [] := by
        refine List.filter_eq_nil_iff.mpr ?_
        intro item hItem
        simp [hNew item hItem, hElse]
      unfold Dao.listOrderItemsByOrderID
      rw [hItems, List.filter_append, hNone, List.append_nil]
    · intro key
      unfold Dao.getOrderIdempotencyKey
      rw [hPlaced.keys, if_neg]
      intro hSlot
      exact hOther (congrArg Prod.fst hSlot)
  · unfold DB.outboxOf
    rw [(Table.insert?_eq_some_iff.mp hPlaced.outbox).2,
      List.filter_append, List.filter_singleton]
    simp [timeoutRow, hOwner]

/- A transaction of one user leaves the rows of all others
   alone. -/
theorem Effect.sameFor
    {view : DB}
    {request : Request}
    {outcome : Outcome}
    {db db' : DB}
    {caller userID : Int}
    (hEffect : Effect view request outcome db db')
    (hCaller : request.user = some caller)
    (hOther : caller ≠ userID) :
    db.SameFor userID db' ∧
      db'.outboxOf userID = db.outboxOf userID := by
  have hNothing :
      db.SameFor userID db ∧
        db.outboxOf userID = db.outboxOf userID :=
    ⟨DB.SameFor.refl userID db, rfl⟩
  cases hEffect with
  | productCreated | inventoryInitialised | inventoryAdded
  | orderExpired | expiryRepeated | expiryIgnored
  | expiryLate => cases hCaller
  | productStatusSame hRequest => exact hNothing
  | productStatusSet hRequest =>
      rcases hRequest with rfl | rfl <;> cases hCaller
  | orderReplayed | cancelRepeated => exact hNothing
  | orderCreated _ hPlaced =>
      cases hCaller
      exact hPlaced.sameFor hOther
  | orderPaid _ hPaid =>
      cases hCaller
      exact hPaid.sameFor hOther
  | orderFinished _ hFinished =>
      cases hCaller
      exact hFinished.sameFor hOther
  | orderCancelled _ hCancelled =>
      cases hCaller
      exact hCancelled.sameFor hOther

omit [Deployment] in
/- A command touches the reservation of its order only. -/
theorem FollowUp.run_find?
    {command : FollowUp}
    {redis : Redis}
    {id : Int}
    (hOther : command.orderID ≠ some id) :
    (command.run redis).reservations.find? id =
      redis.reservations.find? id := by
  have hErased :
      ∀ orderID, orderID ≠ id →
        (redis.reservations.erase orderID).find? id =
          redis.reservations.find? id := by
    intro orderID hNe
    rw [Table.find?_erase, if_neg hNe]
  cases command with
  | release orderID | restore orderID =>
      have hNe : orderID ≠ id := fun hEq =>
        hOther (congrArg some hEq)
      unfold run InventoryStockGuard.releaseReservation
      dsimp only
      split
      · rfl
      · rw [Redis.releaseInventoryReservationScript_reservations]
        exact hErased orderID hNe
  | confirm orderID =>
      have hNe : orderID ≠ id := fun hEq =>
        hOther (congrArg some hEq)
      unfold run
        InventoryStockGuard.confirmPreDeductedInventory
      dsimp only
      split
      · rfl
      · exact hErased orderID hNe
  | set productID quantity =>
      unfold run InventoryStockGuard.setInventoryStock
      dsimp only
      split <;> rfl
  | incr productID delta fallbackQuantity =>
      unfold run InventoryStockGuard.incrInventoryStock
      dsimp only
      split
      · rfl
      · rw [Redis.incrInventoryStockScript_reservations]

omit [Deployment] in
/- A pre-deduction stores the reservation of its order. -/
theorem PreDeducted.reservations_of_ne
    {delivery : Delivery}
    {redis redis' : Redis}
    {orderID id : Int}
    {items : List CreateOrderItemRequest}
    {answer : PreDeduct}
    (hCases :
      PreDeducted delivery redis orderID items answer redis')
    (hElse : orderID ≠ id) :
    redis'.reservations.find? id =
      redis.reservations.find? id := by
  cases hCases with
  | insufficient | skipped => rfl
  | applied _ _ hReserved | lost _ _ hReserved =>
      rw [hReserved.reservations, Table.find?_put,
        key_reservation, if_neg hElse]

/-
  A step of a call of the user: the call arrives, some call
  in flight goes on, a call of the user ends, or a command
  that such a call owed is sent.
-/
inductive Shop.StepOf
    (actions : List Action)
    (userID : Int)
    (s : Shop)
    (t : Shop) : Prop
| arrives
    {request : Request}
    {delivery : Delivery}
    (hUser : request.user = some userID)
    (hStep : Shop.Step s (.arrive request delivery) t)
| works
    (hWorks : t.core.calls ≠ s.core.calls)
    (hStep : Shop.Step s (.core none) t)
| ends
    {e : Event}
    (hUser : e.request.user = some userID)
    (hStep : Shop.Step s (.core (some e)) t)
| commands
    {e : Event}
    {command : FollowUp}
    {delivered : Bool}
    (hEnded : .core (some e) ∈ actions)
    (hUser : e.request.user = some userID)
    (hDue : e.followUp = some command)
    (hStep : Shop.Step s (.followUp command delivered) t)

/- No step of a user's call touches what is another's. -/
theorem Shop.StepOf.untouched
    {actions : List Action}
    {userID other : Int}
    {s t : Shop}
    (hSound : s.Sound)
    (hAttributed : s.Attributed actions)
    (hStepOf : Shop.StepOf actions userID s t)
    (hOther : userID ≠ other) :
    Shop.Untouched actions other s t := by
  cases hStepOf with
  | @arrives request delivery hUser hStep =>
      cases hStep with
      | arrive _ _ _ hFresh =>
          refine ⟨DB.SameFor.refl other _, rfl, ?_⟩
          intro id hIssued
          have hOld := hAttributed.issued other id hIssued
          rcases Request.preDeduct_cases delivery
              (hSound.unreserved hFresh) with
            ⟨hSkipped, _⟩ |
              ⟨v, req, ids, rfl, _, hPreDeducted⟩
          · rw [hSkipped]
          · have hElse : ids.orderID ≠ id := by
              rintro rfl
              exact hFresh _ rfl hOld
            exact hPreDeducted.reservations_of_ne hElse
  | works hWorks hStep =>
      cases hStep with
      | core hStep hNoArrival =>
          rcases hSound.core_cases hStep hNoArrival with
            ⟨_, hSame, _⟩ | ⟨_, hCalls, _⟩ | ⟨_, _, hSome, _⟩
          · refine ⟨?_, ?_, fun _ _ => rfl⟩
            · rw [hSame]
              exact DB.SameFor.refl other _
            · rw [hSame]
          · exact absurd hCalls hWorks
          · cases hSome
  | ends hUser hStep =>
      cases hStep with
      | core hStep hNoArrival =>
          rcases hStep.effect hSound.core with
            ⟨hNone, _⟩ |
              ⟨e, hSame, _, _, ⟨outcome, view, _, _, _, hEffect⟩ |
                ⟨_, _, hSame'⟩⟩
          · cases hNone
          · cases hSame
            have hDB := hEffect.sameFor hUser hOther
            exact ⟨hDB.1, hDB.2, fun _ _ => rfl⟩
          · refine ⟨?_, ?_, fun _ _ => rfl⟩
            · rw [hSame']
              exact DB.SameFor.refl other _
            · rw [hSame']
  | @commands e command delivered hEnded hUser hDue hStep =>
      cases hStep with
      | followUp _ _ hQueued =>
          refine ⟨DB.SameFor.refl other _, rfl, ?_⟩
          intro id hIssued
          cases delivered with
          | false => rfl
          | true =>
              refine FollowUp.run_find? fun hID => hOther ?_
              exact hAttributed.unique userID other id
                (hAttributed.commands e hEnded userID hUser
                  command hDue id hID) hIssued

/-
  Isolation of users. In every run, a step of a call of one
  user leaves every order, item, idempotency record, outbox
  row, and reservation of any other user as it was. And in
  any two states that agree on the user's own rows, on the
  products, the inventories, and the quantities in Redis,
  every call of the user is answered the same.
-/
theorem user_isolation
    (userID : Int) :
    (∀ actions s t other,
        Transition.Run Shop.Step Shop.initial actions s →
        Shop.StepOf actions userID s t → userID ≠ other →
        Shop.Untouched actions other s t) ∧
      ∀ (call : UserCall) (delivery : Delivery)
        (redis redis' : Redis) (view view' db db' : DB)
        (now nextAttemptAt : Time),
        view.AgreeFor userID view' → view.Grows db →
        db.AgreeFor userID db' →
        redis.available = redis'.available →
        call.Fresh redis db → call.Fresh redis' db' →
        call.reply userID delivery redis view db now
            nextAttemptAt =
          call.reply userID delivery redis' view' db' now
            nextAttemptAt := by
  constructor
  · intro actions s t other hRun hStepOf hOther
    have hSound : s.Sound :=
      Shop.Reachable.sound ⟨actions, hRun⟩
    exact hStepOf.untouched hSound
      (Shop.Attributed.of_run hRun) hOther
  · intro call delivery redis redis' view view' db db' now
      nextAttemptAt hView hGrows hDB hAvailable hFresh hFresh'
    exact UserCall.reply_eq hView hGrows hDB hAvailable hFresh
      hFresh'

end OrderManagement

------------------------------------------------------------
-- A Stranger
------------------------------------------------------------

namespace OrderManagement

section

variable [Deployment]

/- The database without any order. -/
def DB.withoutOrders
    (db : DB) : DB where
  products := db.products
  inventories := db.inventories
  orders := Table.empty
  orderItems := []
  stockLogs := db.stockLogs
  orderIdempotencyKeys := Table.empty
  orderTimeoutOutbox := Table.empty

/- A user without orders cannot tell whether there are any. -/
theorem DB.agreeFor_withoutOrders
    {db : DB}
    {userID : Int}
    (hOrders : ∀ order ∈ db.orders.rows, order.userID ≠ userID)
    (hKeys :
      ∀ record ∈ db.orderIdempotencyKeys.rows,
        record.userID ≠ userID) :
    db.AgreeFor userID db.withoutOrders := by
  have hNone : ∀ id, Dao.getOrderByID db userID id = none := by
    intro id
    unfold Dao.getOrderByID
    rw [Option.filter_eq_none_iff]
    intro order hFind
    simpa using hOrders order (Table.mem_of_find? hFind)
  refine {
    orders := hNone
    items := ?_
    keys := ?_
    products := rfl
    inventories := rfl }
  · intro id hOwn
    rw [hNone] at hOwn
    cases hOwn
  · intro idempotencyKey
    unfold Dao.getOrderIdempotencyKey
    refine Table.find?_eq_none_iff.mpr ?_
    intro hMem
    rcases List.mem_map.mp hMem with ⟨record, hRow, hKey⟩
    exact hKeys record hRow (congrArg Prod.fst hKey)

end

attribute [local instance] sampleDeployment

/- User 5 cancels the order of user 3. -/
def strangerShop : Option (List Action × Desk × Event × Desk) :=
  match
    Desk.initial.play
      (openingMoves true ++
        [ .arrive (.cancelOrder 5 7) .answered,
          .advance 0 0 0 ]) with
  | none => none
  | some (actions, d) =>
      match d.move (.advance 0 0 0) with
      | some (.core (some e), d') => some (actions, d, e, d')
      | _ => none

theorem strangerShop_runs
    {actions : List Action}
    {d d' : Desk}
    {e : Event}
    (hShop : strangerShop = some (actions, d, e, d')) :
    Transition.Run Shop.Step Shop.initial actions d.shop ∧
      Shop.Step d.shop (.core (some e)) d'.shop := by
  unfold strangerShop at hShop
  split at hShop
  case h_1 => cases hShop
  case h_2 actions' mid hPlay =>
    split at hShop
    case h_1 e' last hMove =>
      cases hShop
      exact ⟨Desk.run_of_play hPlay, Desk.step_of_move hMove⟩
    case h_2 => cases hShop

/- The order is not found, its owner loses nothing, and the
   stranger would be told the same without it. -/
theorem user_isolation_sample :
    ∃ actions s t,
      statusOf s.core.db 7 = some .pending ∧
        Shop.Untouched actions 3 s t ∧
        (UserCall.getOrderByID 7).reply 5 .answered s.redis
            s.core.db s.core.db 0 0 =
          (UserCall.getOrderByID 7).reply 5 .answered s.redis
            s.core.db.withoutOrders s.core.db.withoutOrders
            0 0 := by
  have hSome : strangerShop.isSome := by
    decide +kernel
  rcases Option.isSome_iff_exists.mp hSome with
    ⟨⟨actions, d, e, d'⟩, hShop⟩
  have hFacts :
      ∀ run ∈ strangerShop,
        run.2.2.1.request = .cancelOrder 5 7 ∧
          statusOf run.2.1.db 7 = some .pending ∧
          (∀ order ∈ run.2.1.db.orders.rows,
            order.userID ≠ 5) ∧
          ∀ record ∈ run.2.1.db.orderIdempotencyKeys.rows,
            record.userID ≠ 5 := by
    decide +kernel
  rcases hFacts _ hShop with
    ⟨hRequest, hPending, hOrders, hKeys⟩
  rcases strangerShop_runs hShop with ⟨hRun, hStep⟩
  have hAgree : d.db.AgreeFor 5 d.db.withoutOrders :=
    DB.agreeFor_withoutOrders hOrders hKeys
  refine ⟨actions, d.shop, d'.shop, hPending, ?_, ?_⟩
  · exact (user_isolation 5).1 actions d.shop d'.shop 3 hRun
      (.ends (congrArg Request.user hRequest) hStep)
      (by decide)
  · exact (user_isolation 5).2 (.getOrderByID 7) .answered
      d.redis d.redis d.db d.db.withoutOrders d.db
      d.db.withoutOrders 0 0 hAgree (DB.Grows.refl d.db) hAgree
      rfl trivial trivial

end OrderManagement
