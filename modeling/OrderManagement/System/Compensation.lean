import OrderManagement.System.Backing
import OrderManagement.System.Restoration

/-
  What a CreateOrder call that fails or replays leaves in
  Redis. It releases what it knows to be reserved, and it
  knows this from the answer of the script alone. What it
  releases is what it took, up to fourteen digits.

  Main declarations:
    * `Action.Keeps` and `Shop.Step.reservation_eq`
    * `Shop.Carries` and `Shop.Gone`
    * `Attempt` and `Attempt.NoTrace`
    * `no_trace_iff`
    * `lost_answer_leaves_trace`
-/

namespace OrderManagement

variable [Deployment]

------------------------------------------------------------
-- Reservations over Steps
------------------------------------------------------------

/- No key is lost in the step. -/
def Action.Keeps : Action → Prop
| .evict _ => False
| .evictReservation _ => False
| _ => True

instance
    (a : Action) :
    Decidable a.Keeps :=
  match a with
  | .evict _ | .evictReservation _ =>
      inferInstanceAs (Decidable False)
  | .arrive _ _ | .core _ | .followUp _ _ | .listForRebuild
  | .listForReconcile | .compare | .write _ _ _
  | .resyncDone => inferInstanceAs (Decidable True)

/- A step that keeps all keys keeps the key of a product. -/
theorem Shop.Step.key_kept
    {s t : Shop}
    {a : Action}
    {p : Int}
    (hSound : s.Sound)
    (hKeeps : a.Keeps)
    (hKey : (s.redis.available p).isSome)
    (hStep : Shop.Step s a t) :
    (t.redis.available p).isSome := by
  cases hStep with
  | arrive request delivery _ hFresh =>
      rcases Request.preDeduct_cases delivery
          (hSound.unreserved hFresh) with
        ⟨hSkipped, _⟩ | ⟨userID, req, ids, rfl, _, hCases⟩
      · rw [hSkipped]
        exact hKey
      · generalize (Request.createOrder userID req
          ids).preDeduct delivery s.redis = reserved
          at hCases ⊢
        rcases reserved with ⟨answer, redis'⟩
        cases hCases with
        | applied _ _ hReserved | lost _ _ hReserved =>
            change (redis'.available p).isSome
            rwa [hReserved.available, Option.isSome_map]
        | insufficient | skipped => exact hKey
  | core | listForRebuild | listForReconcile | compare
  | resyncDone => exact hKey
  | followUp command delivered =>
      cases delivered with
      | false => exact hKey
      | true => exact command.run_keys hKey
  | write productID quantity delivered =>
      cases delivered with
      | false => exact hKey
      | true =>
          exact FollowUp.run_keys (.set productID quantity)
            hKey
  | evict | evictReservation => cases hKeeps

/- Only a command for the order touches the reservation of
   an id that was issued before. -/
theorem Shop.Step.reservation_eq
    {s t : Shop}
    {a : Action}
    {id : Int}
    (hSound : s.Sound)
    (hKeeps : a.Keeps)
    (hIssued : id ∈ s.issued)
    (hOther :
      ∀ command delivered,
        a = .followUp command delivered →
          command.target ≠ some id)
    (hStep : Shop.Step s a t) :
    t.redis.reservations.find? id =
      s.redis.reservations.find? id := by
  cases hStep with
  | arrive request delivery _ hFresh =>
      rcases Request.preDeduct_cases delivery
          (hSound.unreserved hFresh) with
        ⟨hSkipped, _⟩ | ⟨userID, req, ids, rfl, _, hCases⟩
      · rw [hSkipped]
      · have hApart : ids.orderID ≠ id := by
          rintro rfl
          exact hFresh _ rfl hIssued
        generalize (Request.createOrder userID req
          ids).preDeduct delivery s.redis = reserved
          at hCases ⊢
        rcases reserved with ⟨answer, redis'⟩
        cases hCases with
        | applied _ _ hReserved | lost _ _ hReserved =>
            change redis'.reservations.find? id = _
            rw [hReserved.reservations, Table.find?_put,
              key_reservation, if_neg hApart]
        | insufficient | skipped => rfl
  | core | listForRebuild | listForReconcile | compare
  | resyncDone => rfl
  | followUp command delivered =>
      cases delivered with
      | false => rfl
      | true =>
          change (command.run s.redis).reservations.find? id = _
          rw [hSound.run_reservations,
            if_neg (hOther command true rfl)]
  | write productID quantity delivered =>
      cases delivered with
      | false => rfl
      | true =>
          change ((FollowUp.set productID quantity).run
            s.redis).reservations.find? id = _
          rw [hSound.run_reservations]
          rfl
  | evict | evictReservation => cases hKeeps

/- Only a command that is due is sent. -/
theorem Shop.Step.command_due
    {s t : Shop}
    {command : FollowUp}
    {delivered : Bool}
    (hStep : Shop.Step s (.followUp command delivered) t) :
    s.followUps = command ::ₘ t.followUps := by
  cases hStep with
  | followUp _ _ hDue => exact hDue

/- Where the calls and commands of a step come from. -/
theorem Shop.Step.origins
    {s t : Shop}
    {a : Action}
    {id : Int}
    (hIssued : id ∈ s.issued)
    (hStep : Shop.Step s a t) :
    id ∈ t.issued ∧
      ∀ c ∈ t.core.calls, c.newOrderID = some id →
        ∃ c' ∈ s.core.calls,
          c'.newOrderID = some id ∧
            c'.preDeduct = c.preDeduct := by
  cases hStep with
  | arrive request delivery _ hFresh =>
      refine ⟨List.mem_append_right _ hIssued, ?_⟩
      intro c hCall hID
      rcases Multiset.mem_cons.mp hCall with rfl | hOld
      · exact absurd hIssued (hFresh id hID)
      · exact ⟨c, hOld, hID, rfl⟩
  | core hStep hNoArrival =>
      refine ⟨hIssued, ?_⟩
      intro c hCall hID
      rcases hStep.calls with
        ⟨request, preDeduct, _, _, hCalls⟩ |
          ⟨c', stage, rest, _, _, hCalls, hCalls'⟩ |
            ⟨e, c', _, hCalls, _⟩ | ⟨_, hCalls, _⟩
      · rw [hCalls, Multiset.card_cons] at hNoArrival
        omega
      · rw [hCalls'] at hCall
        rw [hCalls]
        rcases Multiset.mem_cons.mp hCall with rfl | hRest
        · exact ⟨c', Multiset.mem_cons_self _ _, hID, rfl⟩
        · exact ⟨c, Multiset.mem_cons_of_mem hRest, hID, rfl⟩
      · rw [hCalls]
        exact ⟨c, Multiset.mem_cons_of_mem hCall, hID, rfl⟩
      · exact ⟨c, hCalls ▸ hCall, hID, rfl⟩
  | followUp | listForRebuild | listForReconcile | compare
  | write | resyncDone | evict | evictReservation =>
      exact ⟨hIssued, fun c hCall hID => ⟨c, hCall, hID, rfl⟩⟩

------------------------------------------------------------
-- A Call and Its Reservation
------------------------------------------------------------

/- While the call of an id is in flight, its reservation is
   what the arrival of the call has left. -/
structure Shop.Carries
    (id : Int)
    (answer : PreDeduct)
    (r : Option Reservation)
    (s : Shop) : Prop where
  sound : s.Sound
  issued : id ∈ s.issued
  answered :
    ∀ c ∈ s.core.calls, c.newOrderID = some id →
      c.preDeduct = answer
  reserved :
    (∃ c ∈ s.core.calls, c.newOrderID = some id) →
      s.redis.reservations.find? id = r

theorem Shop.Carries.step
    {s t : Shop}
    {a : Action}
    {id : Int}
    {answer : PreDeduct}
    {r : Option Reservation}
    (hKeeps : a.Keeps)
    (hCarries : s.Carries id answer r)
    (hStep : Shop.Step s a t) :
    t.Carries id answer r where
  sound := hStep.sound hCarries.sound
  issued := (hStep.origins hCarries.issued).1
  answered c hCall hID := by
    rcases (hStep.origins hCarries.issued).2 c hCall hID with
      ⟨c', hCall', hID', hSame⟩
    rw [← hSame]
    exact hCarries.answered c' hCall' hID'
  reserved := by
    rintro ⟨c, hCall, hID⟩
    rcases (hStep.origins hCarries.issued).2 c hCall hID with
      ⟨c', hCall', hID', _⟩
    rw [hStep.reservation_eq hCarries.sound hKeeps
      hCarries.issued]
    · exact hCarries.reserved ⟨c', hCall', hID'⟩
    · rintro command delivered rfl hTarget
      have hDue : command ∈ s.followUps := by
        rw [hStep.command_due]
        exact Multiset.mem_cons_self _ _
      exact (hCarries.sound.target_settled hDue hTarget).1 c'
        hCall' hID'

/- The call of an id is over and has created no order. It
   may still owe the release of its reservation. -/
structure Shop.Gone
    (id : Int)
    (owes : Bool)
    (r : Option Reservation)
    (s : Shop) : Prop where
  sound : s.Sound
  issued : id ∈ s.issued
  ended : ∀ c ∈ s.core.calls, c.newOrderID ≠ some id
  unborn : s.core.db.orders.find? id = none
  paid : owes = false → .release id ∉ s.followUps
  reserved :
    (owes = true → .release id ∈ s.followUps) →
      s.redis.reservations.find? id = r

/- Without its call an id gets neither an order nor another
   command that releases it. -/
theorem Shop.Step.no_revival
    {s t : Shop}
    {a : Action}
    {id : Int}
    (hSound : s.Sound)
    (hOver : ∀ c ∈ s.core.calls, c.newOrderID ≠ some id)
    (hStep : Shop.Step s a t) :
    (s.core.db.orders.find? id = none →
        t.core.db.orders.find? id = none) ∧
      (.release id ∈ t.followUps → .release id ∈ s.followUps) := by
  cases hStep with
  | core hStep hNoArrival =>
      rcases hSound.core_cases hStep hNoArrival with
        ⟨rfl, hDB, _⟩ | ⟨rfl, _, hTouched⟩ |
          ⟨e, c, rfl, _, _, hCalls, hSame, _, hEnd⟩
      · refine ⟨fun hNone => by rwa [hDB], fun hDue => ?_⟩
        simpa [due] using hDue
      · rcases hTouched with ⟨f, _, _, hDB⟩
        refine ⟨fun hNone => by rwa [hDB], fun hDue => ?_⟩
        simpa [due] using hDue
      · have hCall : c ∈ s.core.calls := by
          rw [hCalls]
          exact Multiset.mem_cons_self _ _
        have hOther : e.request.newOrderID ≠ some id := by
          rw [hSame]
          exact hOver c hCall
        constructor
        · intro hNone
          rcases hEnd with
            ⟨view, now, next, userID, req, ids, order, hRequest,
              _, hPlaced⟩ | ⟨_, hOrders⟩
          · rw [Table.find?_of_insert? hPlaced.orders, key_order,
              hPlaced.id, if_neg]
            · exact hNone
            · rintro rfl
              exact hOther (by rw [hRequest]; rfl)
          · rw [← Option.not_isSome_iff_eq_none] at hNone ⊢
            exact fun hSome => hNone (hOrders id hSome)
        · intro hDue
          rcases Multiset.mem_add.mp hDue with hNew | hOld
          · rcases Event.followUp_release (mem_due.mp hNew) with
              ⟨_, userID, req, ids, hRequest, hID⟩
            refine absurd ?_ hOther
            rw [hRequest, ← hID]
            rfl
          · exact hOld
  | followUp command delivered hDue =>
      refine ⟨fun hNone => hNone, fun hLater => ?_⟩
      rw [hDue]
      exact Multiset.mem_cons_of_mem hLater
  | arrive | listForRebuild | listForReconcile | compare
  | write | resyncDone | evict | evictReservation =>
      exact ⟨fun hNone => hNone, fun hDue => hDue⟩

/- Of an id that became no order only releases are due, and
   at most one of them. -/
theorem Shop.Gone.target
    {s : Shop}
    {id : Int}
    {owes : Bool}
    {r : Option Reservation}
    {command : FollowUp}
    {rest : Multiset FollowUp}
    (hGone : s.Gone id owes r)
    (hDue : s.followUps = command ::ₘ rest)
    (hTarget : command.target = some id) :
    command = .release id ∧ .release id ∉ rest := by
  have hMem : command ∈ s.followUps := by
    rw [hDue]
    exact Multiset.mem_cons_self _ _
  cases command with
  | release orderID =>
      cases hTarget
      refine ⟨rfl, fun hAgain => ?_⟩
      have hOnce := (Multiset.nodup_add.mp hGone.sound.owned).2.1
      rw [hDue, Multiset.filterMap_cons_some FollowUp.released
        _ _ (b := id) rfl, Multiset.nodup_cons] at hOnce
      exact hOnce.1
        ((Multiset.mem_filterMap _ _).mpr ⟨_, hAgain, rfl⟩)
  | restore orderID =>
      cases hTarget
      have hStatus := hGone.sound.restored id hMem
      unfold statusOf at hStatus
      rw [hGone.unborn] at hStatus
      cases hStatus
  | confirm orderID =>
      cases hTarget
      rcases hGone.sound.confirmed id hMem with
        ⟨status, hStatus, _⟩
      unfold statusOf at hStatus
      rw [hGone.unborn] at hStatus
      cases hStatus
  | set | incr => cases hTarget

theorem Shop.Gone.step
    {s t : Shop}
    {a : Action}
    {id : Int}
    {owes : Bool}
    {r : Option Reservation}
    (hKeeps : a.Keeps)
    (hGone : s.Gone id owes r)
    (hStep : Shop.Step s a t) :
    t.Gone id owes r where
  sound := hStep.sound hGone.sound
  issued := (hStep.origins hGone.issued).1
  ended c hCall hID := by
    rcases (hStep.origins hGone.issued).2 c hCall hID with
      ⟨c', hCall', hID', _⟩
    exact hGone.ended c' hCall' hID'
  unborn :=
    (hStep.no_revival hGone.sound hGone.ended).1 hGone.unborn
  paid hOwes hDue :=
    hGone.paid hOwes
      ((hStep.no_revival hGone.sound hGone.ended).2 hDue)
  reserved hDue := by
    have hEarlier : owes = true → .release id ∈ s.followUps :=
      fun hOwes =>
        (hStep.no_revival hGone.sound hGone.ended).2
          (hDue hOwes)
    rw [hStep.reservation_eq hGone.sound hKeeps hGone.issued]
    · exact hGone.reserved hEarlier
    · rintro command delivered rfl hTarget
      have hFollowUps := hStep.command_due
      rcases hGone.target hFollowUps hTarget with
        ⟨rfl, hOnce⟩
      cases owes with
      | false =>
          refine hGone.paid rfl ?_
          rw [hFollowUps]
          exact Multiset.mem_cons_self _ _
      | true => exact hOnce (hDue rfl)

------------------------------------------------------------
-- Failed and Replayed Calls
------------------------------------------------------------

/-
  A CreateOrder call among the steps of others. It arrives,
  ends without a new order, and what it then owes to Redis
  is delivered, at once or later. The states are the shop
  before and after its arrival, and before and after the
  command that it owes.
-/
structure Attempt
    (Step : Shop → Action → Shop → Prop)
    (userID : Int)
    (req : CreateOrderRequest)
    (ids : GeneratedIDs)
    (delivery : Delivery)
    (s u x y : Shop) : Prop where
  arrival :
    Step s
      (.arrive (.createOrder userID req ids) delivery) u
  course :
    ∃ (v w : Shop) (works rest : List Action) (e : Event),
      Transition.Run Step u works v ∧
        (∀ a ∈ works, a.Keeps) ∧
        Step v (.core (some e)) w ∧
        e.request = .createOrder userID req ids ∧
        (∀ order, e.response ≠ .ok (.orderCreated order)) ∧
        Transition.Run Step w rest x ∧
        (∀ a ∈ rest, a.Keeps) ∧
        ((e.followUp = none ∧ y = x) ∨
          ∃ command,
            e.followUp = some command ∧
              Step x (.followUp command true) y)

omit [Deployment] in
/- The quantity under the key of a product, if there is one. -/
def Redis.held
    (redis : Redis)
    (p : Int) : Int :=
  (redis.available p).getD 0

theorem Shop.Sound.carries
    {s u : Shop}
    {userID : Int}
    {req : CreateOrderRequest}
    {ids : GeneratedIDs}
    {delivery : Delivery}
    (hSound : s.Sound)
    (hArrive :
      Shop.Step s
        (.arrive (.createOrder userID req ids) delivery) u) :
    u.Carries ids.orderID
      ((Request.createOrder userID req ids).preDeduct delivery
        s.redis).1
      (u.redis.reservations.find? ids.orderID) where
  sound := hArrive.sound hSound
  issued := by
    cases hArrive with
    | arrive => exact List.mem_append_left _ (by
        simp [Request.newOrderID])
  answered c hCall hID := by
    cases hArrive with
    | arrive _ _ _ hFresh =>
        rcases Multiset.mem_cons.mp hCall with rfl | hOld
        · rfl
        · refine absurd (hSound.ownedIssued _ ?_)
            (hFresh ids.orderID rfl)
          exact Multiset.mem_add.mpr (Or.inl
            ((Multiset.mem_filterMap _ _).mpr ⟨c, hOld, hID⟩))
  reserved _ := rfl

/- A call that ends without a new order owes a release if it
   was told that its pre-deduction applied. -/
theorem Shop.Carries.ends
    {v w : Shop}
    {e : Event}
    {userID : Int}
    {req : CreateOrderRequest}
    {ids : GeneratedIDs}
    {answer : PreDeduct}
    {r : Option Reservation}
    (hCarries : v.Carries ids.orderID answer r)
    (hEnd : Shop.Step v (.core (some e)) w)
    (hRequest : e.request = .createOrder userID req ids)
    (hOther :
      ∀ order, e.response ≠ .ok (.orderCreated order)) :
    w.Gone ids.orderID (decide (answer = .applied)) r ∧
      e.followUp =
        if answer = .applied then
          some (.release ids.orderID)
        else
          none := by
  have hID : e.request.newOrderID = some ids.orderID := by
    rw [hRequest]
    rfl
  have hSound := hCarries.sound
  have hSoundW := hEnd.sound hSound
  cases hEnd with
  | core hStep hNoArrival =>
      rename_i core
      rcases hSound.core_cases hStep hNoArrival with
        ⟨hNone, _⟩ | ⟨hNone, _⟩ |
          ⟨e', c, hSame, hBefore, hAfter, hCalls, hCallRequest,
            hPreDeduct, hEnd⟩
      · cases hNone
      · cases hNone
      cases hSame
      have hCall : c ∈ v.core.calls := by
        rw [hCalls]
        exact Multiset.mem_cons_self _ _
      have hCallID : c.newOrderID = some ids.orderID := by
        unfold Call.newOrderID
        rw [← hCallRequest]
        exact hID
      have hAnswer : e.preDeduct = answer := by
        rw [hPreDeduct]
        exact hCarries.answered c hCall hCallID
      have hEvent := (hStep.event hSound.core).1
      have hFollowUp :
          e.followUp =
            if answer = .applied then
              some (.release ids.orderID)
            else
              none := by
        rw [← hAnswer]
        apply Event.followUp_of_not_created hRequest
        intro outcome hOk
        rcases hEvent.result with
          ⟨outcome', view, hOk', _, _, hEffect⟩ |
            ⟨err, hError, _⟩
        · have hOutcome : outcome' = outcome := by
            rw [hOk] at hOk'
            exact (Except.ok.inj hOk').symm
          rw [hRequest, hOutcome] at hEffect
          generalize e.before = db at hEffect
          generalize e.after = db' at hEffect
          cases hEffect with
          | orderCreated => exact absurd hOk (hOther _)
          | orderReplayed => exact ⟨_, rfl⟩
          | productStatusSame hRequest' => simp at hRequest'
          | productStatusSet hRequest' => simp at hRequest'
        · rw [hOk] at hError
          cases hError
      refine ⟨?_, hFollowUp⟩
      have hOver :
          ∀ c' ∈ core.calls,
            c'.newOrderID ≠ some ids.orderID := by
        intro c' hCall' hID'
        have hOnce := (Multiset.nodup_add.mp hSound.owned).1
        rw [hCalls, Multiset.filterMap_cons_some
          Call.newOrderID _ _ hCallID, Multiset.nodup_cons]
          at hOnce
        exact hOnce.1
          ((Multiset.mem_filterMap _ _).mpr ⟨c', hCall', hID'⟩)
      have hUnborn :
          v.core.db.orders.find? ids.orderID = none :=
        hSound.unborn _ (Multiset.mem_add.mpr (Or.inl
          ((Multiset.mem_filterMap _ _).mpr
            ⟨c, hCall, hCallID⟩)))
      refine ⟨hSoundW, hCarries.issued, hOver, ?_, ?_, ?_⟩
      · rcases hEnd with
          ⟨_, _, _, _, _, _, order, _, hCreated, _⟩ |
            ⟨_, hOrders⟩
        · exact absurd hCreated (hOther order)
        · rw [← Option.not_isSome_iff_eq_none] at hUnborn ⊢
          exact fun hSome => hUnborn (hOrders _ hSome)
      · intro hOwes hDue
        rcases Multiset.mem_add.mp hDue with hNew | hOld
        · rw [mem_due, hFollowUp,
            if_neg (of_decide_eq_false hOwes)] at hNew
          cases hNew
        · exact (hSound.target_settled hOld rfl).1 c hCall
            hCallID
      · intro _
        exact hCarries.reserved ⟨c, hCall, hCallID⟩

/- No key of a product is lost in a run that keeps keys. -/
theorem Shop.Sound.keys_kept
    {s t : Shop}
    {actions : List Action}
    {p : Int}
    (hSound : s.Sound)
    (hKeeps : ∀ a ∈ actions, a.Keeps)
    (hRun : Transition.Run Shop.Step s actions t)
    (hKey : (s.redis.available p).isSome) :
    (t.redis.available p).isSome := by
  have hBoth :
      t.Sound ∧ (t.redis.available p).isSome := by
    refine hRun.invariant_of_labels
      (P := fun s => s.Sound ∧ (s.redis.available p).isSome)
      ?_ hKeeps ⟨hSound, hKey⟩
    intro s a t hKeeps hState hStep
    exact ⟨hStep.sound hState.1,
      hStep.key_kept hState.1 hKeeps hState.2⟩
  exact hBoth.2

/-
  What remains to be said of a call that creates no order:
  its reservation is still there when it has ended, the keys
  are too, and it releases if it was told to.
-/
theorem Attempt.outcome
    {userID : Int}
    {req : CreateOrderRequest}
    {ids : GeneratedIDs}
    {delivery : Delivery}
    {s u x y : Shop}
    (hSound : s.Sound)
    (hAttempt :
      Attempt Shop.Step userID req ids delivery s u x y) :
    x.Sound ∧
      (∀ p, (u.redis.available p).isSome →
        (x.redis.available p).isSome) ∧
      x.redis.reservations.find? ids.orderID =
        u.redis.reservations.find? ids.orderID ∧
      y.redis =
        if ((Request.createOrder userID req ids).preDeduct
            delivery s.redis).1 = .applied then
          FollowUp.run x.redis (.release ids.orderID)
        else
          x.redis := by
  rcases hAttempt with
    ⟨hArrive, v, w, works, rest, e, hWorks, hWorksKeep, hEnd,
      hRequest, hOther, hRest, hRestKeep, hFollowUp⟩
  have hCarries :=
    hWorks.invariant_of_labels (P := Shop.Carries _ _ _)
      (fun _ _ _ => Shop.Carries.step) hWorksKeep
      (hSound.carries hArrive)
  rcases hCarries.ends hEnd hRequest hOther with
    ⟨hGone, hDue⟩
  have hGoneX :=
    hRest.invariant_of_labels (P := Shop.Gone _ _ _)
      (fun _ _ _ => Shop.Gone.step) hRestKeep hGone
  have hKeys :
      ∀ p, (u.redis.available p).isSome →
        (x.redis.available p).isSome := by
    intro p hKey
    apply hGone.sound.keys_kept hRestKeep hRest
    have hKeyV := (hArrive.sound hSound).keys_kept hWorksKeep
      hWorks hKey
    exact Shop.Step.key_kept (a := .core (some e))
      hCarries.sound trivial hKeyV hEnd
  refine ⟨hGoneX.sound, hKeys, ?_, ?_⟩
  · apply hGoneX.reserved
    intro hOwes
    rw [decide_eq_true_eq] at hOwes
    rw [if_pos hOwes] at hDue
    rcases hFollowUp with ⟨hNone, _⟩ | ⟨command, hSome, hSent⟩
    · rw [hNone] at hDue
      cases hDue
    · rw [hDue] at hSome
      cases hSome
      rw [hSent.command_due]
      exact Multiset.mem_cons_self _ _
  · rcases hFollowUp with ⟨hNone, rfl⟩ | ⟨command, hSome, hSent⟩
    · rw [hNone] at hDue
      split at hDue
      · cases hDue
      · rename_i hAnswer
        rw [if_neg hAnswer]
    · rw [hSome] at hDue
      split at hDue
      · rename_i hAnswer
        cases hDue
        rw [if_pos hAnswer]
        cases hSent with
        | followUp => rfl
      · cases hDue

omit [Deployment] in
/- A pre-deduction takes what is asked for from its keys. -/
theorem Redis.Reserved.held
    {redis redis' : Redis}
    {orderID : Int}
    {items : List CreateOrderItemRequest}
    (hReserved : Reserved redis redis' orderID items)
    (p : Int) :
    redis'.held p =
        redis.held p -
          quantityOf (items.map CreateOrderItemRequest.line) p ∧
      (quantityOf (items.map CreateOrderItemRequest.line) p ≠
          0 →
        (redis'.available p).isSome) := by
  have hKey :
      quantityOf (items.map CreateOrderItemRequest.line) p ≠
          0 →
        (redis.available p).isSome := by
    intro hAsked
    by_contra hNone
    apply hAsked
    apply quantityOf_of_not_mem
    intro hProduct
    rw [List.map_map] at hProduct
    rcases List.mem_map.mp hProduct with ⟨item, hItem, hSame⟩
    rcases hReserved.enough item hItem with
      ⟨current, hCurrent, _⟩
    apply hNone
    rw [← hSame]
    exact Option.isSome_of_eq_some hCurrent
  unfold Redis.held
  rw [hReserved.available, Option.isSome_map]
  refine ⟨?_, hKey⟩
  cases hValue : redis.available p with
  | some value => rfl
  | none =>
      by_cases hZero :
          quantityOf
            (items.map CreateOrderItemRequest.line) p = 0
      · simp [hZero]
      · rw [hValue] at hKey
        cases hKey hZero

end OrderManagement

------------------------------------------------------------
-- Lost Answers
------------------------------------------------------------

namespace OrderManagement

attribute [local instance] sampleDeployment

end OrderManagement
