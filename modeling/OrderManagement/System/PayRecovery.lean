import OrderManagement.System.CancelRecovery

/-
  Payments that the process loses. A later payment of the
  order is told that it was paid and confirms nothing: the
  reservation of a payment that was lost before it confirmed
  stays in Redis.

  Main declarations:
    * `Shop.PayPhase` with `Shop.PayPhase.step`
    * `PaidOnce`
    * `payment_recovers_iff`
    * `payment_leaves_reservation`
-/

namespace OrderManagement

variable [Deployment]

------------------------------------------------------------
-- The One Confirmation
------------------------------------------------------------

/- The order is paid once, and confirmed at most once. The
   labels tell how the confirmation fared. -/
inductive Shop.PayPhase
    (order : Order)
    (s : Shop)
    (ls : List Action)
    (u : Shop) : Prop
| unpaid
    (hStatus : statusOf u.core.db order.id = some .pending)
    (hDue : u.followUps = 0)
    (hRedis : u.redis = s.redis)
    (hNone :
      ∀ command delivered, .followUp command delivered ∉ ls)
| unconfirmed
    (hStatus : statusOf u.core.db order.id = some .paid)
    (hDue : u.followUps = {.confirm order.id})
    (hRedis : u.redis = s.redis)
    (hNone :
      ∀ command delivered, .followUp command delivered ∉ ls)
| confirmed
    {delivered : Bool}
    (hStatus : statusOf u.core.db order.id = some .paid)
    (hDue : u.followUps = 0)
    (hRedis :
      u.redis =
        if delivered then
          (FollowUp.confirm order.id).run s.redis
        else
          s.redis)
    (hSent :
      ∀ delivered',
        .followUp (.confirm order.id) delivered' ∈ ls ↔
          delivered' = delivered)

/- A step that touches neither Redis nor what is due. -/
theorem Shop.PayPhase.keep
    {order : Order}
    {s u t : Shop}
    {ls : List Action}
    {a : Action}
    (hPhase : Shop.PayPhase order s ls u)
    (hStatus :
      statusOf t.core.db order.id =
        statusOf u.core.db order.id)
    (hDue : t.followUps = u.followUps)
    (hRedis : t.redis = u.redis)
    (hOther :
      ∀ command delivered, a ≠ .followUp command delivered) :
    Shop.PayPhase order s (ls ++ [a]) t := by
  have hMem :
      ∀ command delivered,
        .followUp command delivered ∈ ls ++ [a] ↔
          .followUp command delivered ∈ ls := by
    intro command delivered
    rw [List.mem_append, List.mem_singleton]
    exact or_iff_left (hOther command delivered).symm
  cases hPhase with
  | unpaid hPending hNothing hSame hNone =>
      exact Shop.PayPhase.unpaid (hStatus.trans hPending)
        (hDue.trans hNothing) (hRedis.trans hSame)
        (fun command delivered hSent =>
          hNone command delivered ((hMem _ _).mp hSent))
  | unconfirmed hPaid hConfirm hSame hNone =>
      exact Shop.PayPhase.unconfirmed (hStatus.trans hPaid)
        (hDue.trans hConfirm) (hRedis.trans hSame)
        (fun command delivered hSent =>
          hNone command delivered ((hMem _ _).mp hSent))
  | confirmed hPaid hNothing hSame hSent =>
      exact Shop.PayPhase.confirmed (hStatus.trans hPaid)
        (hDue.trans hNothing) (hRedis.trans hSame)
        (fun delivered => (hMem _ _).trans (hSent delivered))

theorem Shop.PayPhase.step
    {order : Order}
    {s u t : Shop}
    {ls : List Action}
    {a : Action}
    (hCloses : s.Closes .payment order u)
    (hAction : a.Closes .payment order.id)
    (hPhase : Shop.PayPhase order s ls u)
    (hStep : Shop.Step u a t) :
    Shop.PayPhase order s (ls ++ [a]) t := by
  cases hStep with
  | arrive request delivery =>
      have hRequest : request.closes .payment order.id = true :=
        hAction
      refine hPhase.keep rfl rfl ?_ (by simp)
      rw [Request.preDeduct_of_closes hRequest]
  | core hStep hNoArrival =>
      rcases hCloses.sound.core_cases hStep hNoArrival with
        ⟨rfl, hDB, _⟩ | ⟨rfl, _, hTouched⟩ |
          ⟨e, c, rfl, hBefore, hAfter, hCalls, hSame, _⟩
      · exact hPhase.keep (by rw [hDB]) (zero_add _) rfl
          (by simp)
      · rcases hTouched with ⟨f, _, _, hDB⟩
        refine hPhase.keep ?_ (zero_add _) rfl (by simp)
        unfold statusOf
        rw [hDB]
      · have hEvent := (hStep.event hCloses.sound.core).1
        have hCallCloses := hCloses.calls c (by
          rw [hCalls]
          exact Multiset.mem_cons_self _ _)
        rcases hEvent.closing (hSame ▸ hCallCloses) with
          ⟨order', now, hID, hPending, hMoves, hDue⟩ |
            ⟨hUnchanged, hDue⟩
        · have hFacts := hMoves.facts
          have hBeforeStatus :
              statusOf u.core.db order.id = some .pending := by
            unfold statusOf
            rw [← hBefore, ← hID, hFacts.1, Option.map_some,
              hPending]
          cases hPhase with
          | unpaid _ hNothing hUntouched hNone =>
              refine Shop.PayPhase.unconfirmed ?_ ?_ hUntouched
                ?_
              · dsimp only
                rw [← hAfter, ← hID]
                exact hFacts.2.2
              · change due (some e) + u.followUps = _
                rw [hNothing, add_zero]
                unfold due
                rw [Option.bind_some, hDue]
                rfl
              · intro command delivered hSent
                rcases List.mem_append.mp hSent with hOld | hNew
                · exact hNone command delivered hOld
                · simp at hNew
          | unconfirmed hPaid | confirmed hPaid =>
              rw [hBeforeStatus] at hPaid
              cases hPaid
        · have hNothing : e.followUp = none := by
            rcases hDue with hNone | ⟨_, hOther, _⟩
            · exact hNone
            · cases hOther
          refine hPhase.keep ?_ ?_ rfl (by simp)
          · dsimp only
            rw [← hAfter, hUnchanged, hBefore]
          · change due (some e) + u.followUps = _
            unfold due
            rw [Option.bind_some, hNothing]
            exact zero_add _
  | followUp command delivered hDue =>
      cases hPhase with
      | unpaid _ hNothing | confirmed _ hNothing =>
          rw [hNothing] at hDue
          exact absurd hDue.symm Multiset.cons_ne_zero
      | unconfirmed hPaid hConfirm hUntouched hNone =>
          rw [hConfirm] at hDue
          rcases Multiset.cons_eq_cons.mp hDue with
            ⟨hCommand, hRest⟩ | ⟨_, _, hRest, _⟩
          · subst hCommand
            have hRedis :
                (if delivered then
                    (FollowUp.confirm order.id).run u.redis
                  else
                    u.redis) =
                  if delivered then
                    (FollowUp.confirm order.id).run s.redis
                  else
                    s.redis := by
              rw [hUntouched]
            refine Shop.PayPhase.confirmed hPaid hRest.symm
              hRedis ?_
            intro delivered'
            rw [List.mem_append, List.mem_singleton]
            constructor
            · rintro (hOld | hNew)
              · exact absurd hOld (hNone _ _)
              · cases hNew
                rfl
            · rintro rfl
              exact Or.inr rfl
          · exact absurd hRest.symm Multiset.cons_ne_zero
  | listForRebuild | listForReconcile | compare | write
  | resyncDone | evict | evictReservation => cases hAction

/- A run keeps the phase and the invariant of its calls. -/
theorem Shop.Sound.payPhase
    {order : Order}
    {s t : Shop}
    {actions : List Action}
    (hSound : s.Sound)
    (hQuiet : s.Quiet)
    (hFind : s.core.db.orders.find? order.id = some order)
    (hPending : order.status = .pending)
    (hRun : Transition.Run Shop.Step s actions t)
    (hActions : ∀ a ∈ actions, a.Closes .payment order.id) :
    Shop.PayPhase order s actions t := by
  have hBoth :
      (∀ a ∈ actions, a.Closes .payment order.id) →
        s.Closes .payment order t ∧
          Shop.PayPhase order s actions t := by
    refine hRun.history
      (P := fun ls u =>
        (∀ a ∈ ls, a.Closes .payment order.id) →
          s.Closes .payment order u ∧
            Shop.PayPhase order s ls u)
      ?_ ?_
    · intro _
      refine ⟨hSound.closes hQuiet .payment order,
        Shop.PayPhase.unpaid ?_ hQuiet.followUps rfl
          (by simp)⟩
      unfold statusOf
      rw [hFind, Option.map_some, hPending]
    · intro ls u a v _ ih hStep hAll
      have hAction := hAll a (by simp)
      rcases ih fun b hMem =>
          hAll b (List.mem_append_left _ hMem) with
        ⟨hCloses, hPhase⟩
      exact ⟨hCloses.step hFind hAction hStep,
        hPhase.step hCloses hAction hStep⟩
  exact (hBoth hActions).2

------------------------------------------------------------
-- Recovery
------------------------------------------------------------

/- The order is paid, its locked quantity was consumed once,
   and it has no reservation any more. -/
structure PaidOnce
    (order : Order)
    (s t : Shop) : Prop where
  status : statusOf t.core.db order.id = some .paid
  stock :
    ∀ p,
      stockOf t.core.db.inventories p =
        stockOf s.core.db.inventories p
  locked :
    ∀ p,
      lockedOf t.core.db.inventories p =
        lockedOf s.core.db.inventories p -
          orderQuantity s.core.db.orderItems order.id p
  unreserved : t.redis.reservations.find? order.id = none

/-
  Payments of one order, of which any may be lost with their
  process, and then at least one retry after the last loss,
  among any others. They leave no reservation exactly if
  there was none, or if no payment was lost between its
  commit and its confirmation.
-/
theorem payment_recovers_iff
    {order : Order}
    {r : Request}
    {delivery : Delivery}
    {s v t : Shop}
    {before after : List Action}
    (hReachable : s.Reachable)
    (hQuiet : s.Quiet)
    (hFind : s.core.db.orders.find? order.id = some order)
    (hPending : order.status = .pending)
    (hBefore : Transition.Run Shop.Step s before v)
    (hLost : ∀ a ∈ before, a.Closes .payment order.id)
    (hAfter : Transition.Run Shop.Step v after t)
    (hRuns :
      ∀ a ∈ after,
        a.Closes .payment order.id ∧ a.Runs .payment r)
    (hRetries : r.retries s.core.db order)
    (hArrives : .arrive r delivery ∈ after)
    (hDone : t.Quiet) :
    PaidOnce order s t ↔
      s.redis.reservations.find? order.id = none ∨
        .followUp (.confirm order.id) false ∉ before := by
  have hSound := hReachable.sound
  have hCloses :=
    hBefore.invariant_of_labels
      (P := Shop.Closes .payment order s)
      (fun _ _ _ => Shop.Closes.step hFind) hLost
      (hSound.closes hQuiet .payment order)
  rcases hCloses.retried_run hFind hPending hRetries hAfter
      hRuns hArrives hDone with ⟨hEnd, hPaid, _⟩
  have hActions :
      ∀ a ∈ before ++ after, a.Closes .payment order.id := by
    intro a hMem
    rcases List.mem_append.mp hMem with hMem | hMem
    · exact hLost a hMem
    · exact (hRuns a hMem).1
  have hConsumed :
      (∀ p,
        stockOf t.core.db.inventories p =
          stockOf s.core.db.inventories p) ∧
        ∀ p,
          lockedOf t.core.db.inventories p =
            lockedOf s.core.db.inventories p -
              orderQuantity s.core.db.orderItems order.id p := by
    cases hEnd.db with
    | pending hSame =>
        unfold statusOf at hPaid
        rw [hSame, hFind, Option.map_some, hPending] at hPaid
        cases hPaid
    | closed hMoves =>
        exact ⟨fun p =>
            (OrderMoved.moved hMoves).stockOf p |>.trans
              (add_zero _),
          fun p => (OrderMoved.moved hMoves).lockedOf p⟩
  have hUnreserved :
      PaidOnce order s t ↔
        t.redis.reservations.find? order.id = none :=
    ⟨PaidOnce.unreserved,
      fun hNone => ⟨hPaid, hConsumed.1, hConsumed.2, hNone⟩⟩
  rw [hUnreserved]
  cases hSound.payPhase hQuiet hFind hPending
      (hBefore.append hAfter) hActions with
  | unpaid hOther =>
      rw [hOther] at hPaid
      cases hPaid
  | unconfirmed _ hDue =>
      rw [hDone.followUps] at hDue
      exact absurd hDue.symm (Multiset.singleton_ne_zero _)
  | @confirmed delivered _ _ hRedis hSent =>
      cases delivered with
      | true =>
          refine iff_of_true ?_ (Or.inr fun hFalse => ?_)
          · rw [hRedis, if_pos rfl]
            change (InventoryStockGuard.confirmPreDeductedInventory
              s.redis order.id).reservations.find? order.id = none
            rw [hSound.confirmPreDeductedInventory,
              Redis.reservations_delReservation,
              Table.find?_erase, if_pos rfl]
          · cases (hSent false).mp
              (List.mem_append_left _ hFalse)
      | false =>
          have hInBefore :
              .followUp (.confirm order.id) false ∈ before := by
            rcases List.mem_append.mp ((hSent false).mpr rfl) with
              hMem | hMem
            · exact hMem
            · cases (hRuns _ hMem).2
          rw [hRedis, if_neg (by simp)]
          exact ⟨Or.inl,
            fun hEither => hEither.resolve_right
              fun hNotIn => hNotIn hInBefore⟩

end OrderManagement

------------------------------------------------------------
-- One Lost Payment
------------------------------------------------------------

namespace OrderManagement

attribute [local instance] sampleDeployment

/- A payment commits, and its confirmation does or does not
   reach Redis. -/
def payMoves
    (delivered : Bool) : List Move :=
  [ .arrive (.payOrder 3 7) .answered,
    .advance 0 0 0,
    .advance 0 0 0,
    .followUp 0 delivered ]

/- The user pays again. -/
def repayMoves : List Move :=
  [.advance 0 0 0, .advance 0 0 0]

/- What the schedules of a payment and its retry give. -/
theorem recoveredShop_facts
    (delivered : Bool) :
    ∃ (order : Order) (d d' d'' : Desk)
      (before after : List Action),
      recoveredShop (.payOrder 3 7) (payMoves delivered)
          repayMoves =
        some (d, before, d', after, d'') ∧
      d.shop.Quiet ∧
      d.shop.core.db.orders.find? order.id = some order ∧
      order.id = 7 ∧ order.userID = 3 ∧
      order.status = .pending ∧
      (∀ a ∈ before, a.Closes .payment order.id) ∧
      (∀ a ∈ after,
        a.Closes .payment order.id ∧
          a.Runs .payment (.payOrder 3 order.id)) ∧
      d''.shop.Quiet ∧
      (d.shop.redis.reservations.find? order.id).isSome ∧
      (d''.shop.redis.reservations.find? order.id).isNone =
        delivered := by
  have hSome :
      (recoveredShop (.payOrder 3 7) (payMoves delivered)
        repayMoves).isSome := by
    cases delivered <;> decide +kernel
  rcases Option.isSome_iff_exists.mp hSome with
    ⟨⟨d, before, d', after, d''⟩, hShop⟩
  have hFacts :
      ∀ run ∈ recoveredShop (.payOrder 3 7)
          (payMoves delivered) repayMoves,
        run.1.calls.length = 0 ∧ run.1.followUps = [] ∧
          run.1.resyncs = [] ∧
          (∃ order ∈ run.1.db.orders.find? 7,
            order.id = 7 ∧ order.userID = 3 ∧
              order.status = .pending) ∧
          (∀ a ∈ run.2.1, a.Closes .payment 7) ∧
          (∀ a ∈ run.2.2.2.1,
            a.Closes .payment 7 ∧
              a.Runs .payment (.payOrder 3 7)) ∧
          run.2.2.2.2.calls.length = 0 ∧
          run.2.2.2.2.followUps = [] ∧
          run.2.2.2.2.resyncs = [] ∧
          (run.1.redis.reservations.find? 7).isSome ∧
          (run.2.2.2.2.redis.reservations.find? 7).isNone =
            delivered := by
    cases delivered <;> decide +kernel
  rcases hFacts _ hShop with
    ⟨hCalls, hFollowUps, hResyncs,
      ⟨order, hFind, hID, hUser, hPending⟩, hLost, hRuns,
      hCalls', hFollowUps', hResyncs', hHeld, hLeft⟩
  refine ⟨order, d, d', d'', before, after, hShop, ?_, ?_,
    hID, hUser, hPending, ?_, ?_, ?_, ?_, ?_⟩
  · exact
      { calls := congrArg _ (List.length_eq_zero_iff.mp hCalls)
        followUps := congrArg _ hFollowUps
        resyncs := congrArg _ hResyncs }
  · rw [hID]
    exact hFind
  · rw [hID]
    exact hLost
  · rw [hID]
    exact hRuns
  · exact
      { calls := congrArg _ (List.length_eq_zero_iff.mp hCalls')
        followUps := congrArg _ hFollowUps'
        resyncs := congrArg _ hResyncs' }
  · rw [hID]
    exact hHeld
  · rw [hID]
    exact hLeft

/- The first confirmation is answered, so the retry finds
   nothing to repair. -/
theorem payment_recovers_iff_sample :
    ∃ (order : Order) (s t : Shop),
      order.id = 7 ∧
        (s.redis.reservations.find? order.id).isSome ∧
        PaidOnce order s t := by
  rcases recoveredShop_facts true with
    ⟨order, d, d', d'', before, after, hShop, hQuiet, hFind,
      hID, hUser, hPending, hLost, hRuns, hDone, hHeld, hLeft⟩
  rcases recoveredShop_runs hShop with
    ⟨hReachable, hBefore, hAfter, hArrives⟩
  refine ⟨order, d.shop, d''.shop, hID, hHeld, ?_⟩
  rw [← hID] at hArrives
  refine (payment_recovers_iff (r := .payOrder 3 order.id)
    hReachable hQuiet hFind hPending hBefore hLost hAfter hRuns
    ⟨hUser.symm, rfl⟩ hArrives hDone).mpr (Or.inr ?_)
  intro hFalse
  have hDelivered :
      ∀ run ∈ recoveredShop (.payOrder 3 7) (payMoves true)
          repayMoves,
        ∀ a ∈ run.2.1, a.Runs .payment (.payOrder 3 7) := by
    decide +kernel
  cases (hDelivered _ hShop _ hFalse)

/- The confirmation is lost, and the retry is told that the
   order is paid: its reservation stays. -/
theorem payment_leaves_reservation :
    ∃ (order : Order) (s v t : Shop)
      (before after : List Action),
      s.Reachable ∧ s.Quiet ∧
        s.core.db.orders.find? order.id = some order ∧
        order.status = .pending ∧
        Transition.Run Shop.Step s before v ∧
        (∀ a ∈ before, a.Closes .payment order.id) ∧
        Transition.Run Shop.Step v after t ∧
        (∀ a ∈ after,
          a.Closes .payment order.id ∧
            a.Runs .payment (.payOrder 3 order.id)) ∧
        (Request.payOrder 3 order.id).retries s.core.db order ∧
        .arrive (.payOrder 3 order.id) .answered ∈ after ∧
        t.Quiet ∧
        t.redis.reservations.find? order.id ≠ none ∧
        ¬ PaidOnce order s t := by
  rcases recoveredShop_facts false with
    ⟨order, d, d', d'', before, after, hShop, hQuiet, hFind,
      hID, hUser, hPending, hLost, hRuns, hDone, _, hLeft⟩
  rcases recoveredShop_runs hShop with
    ⟨hReachable, hBefore, hAfter, hArrives⟩
  have hStays :
      d''.shop.redis.reservations.find? order.id ≠ none := by
    intro hNone
    rw [hNone] at hLeft
    cases hLeft
  rw [← hID] at hArrives
  exact ⟨order, d.shop, d'.shop, d''.shop, before, after,
    hReachable, hQuiet, hFind, hPending, hBefore, hLost,
    hAfter, hRuns, ⟨hUser.symm, rfl⟩, hArrives, hDone, hStays,
    fun hOnce => hStays hOnce.unreserved⟩

end OrderManagement
