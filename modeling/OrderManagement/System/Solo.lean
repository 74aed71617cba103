import OrderManagement.System.Ownership
import OrderManagement.System.Schedule

/-
  A call that runs alone on a quiet shop, from its arrival
  to its command in Redis, while Redis answers.

  Main declarations:
    * `Shop.Quiet` and `Shop.Reachable`
    * `Shop.ServesBy` and `Shop.Serves`
    * `Shop.Serves.outcome`
    * `Desk.serve` with `Desk.serves_of_serve`
-/

namespace OrderManagement

variable [Deployment]

------------------------------------------------------------
-- Quiet Shops
------------------------------------------------------------

/- Nothing is in progress. -/
structure Shop.Quiet
    (s : Shop) : Prop where
  calls : s.core.calls = 0
  followUps : s.followUps = 0
  resyncs : s.resyncs = 0

/- The databases of the migrations and an empty Redis. -/
def Shop.initial : Shop where
  core := State.initial
  redis := Redis.empty
  followUps := 0
  resyncs := 0
  issued := []

/- Whatever failed on the way, some run leads here. -/
def Shop.Reachable
    (s : Shop) : Prop :=
  ∃ actions, Transition.Run Shop.Step Shop.initial actions s

theorem Shop.sound_initial :
    Shop.initial.Sound where
  core := State.sound_initial
  owned := Multiset.nodup_zero
  ownedIssued id hID := absurd hID (Multiset.notMem_zero id)
  unborn id hID := absurd hID (Multiset.notMem_zero id)
  ordersIssued id hSome := by cases hSome
  reservationsIssued id hSome := by cases hSome
  reservationsValid id r hFind := by cases hFind
  followUpsValid f hDue := absurd hDue (Multiset.notMem_zero f)
  restored id hDue := absurd hDue (Multiset.notMem_zero _)
  confirmed id hDue := absurd hDue (Multiset.notMem_zero _)
  requested c hCall := absurd hCall (Multiset.notMem_zero c)
  ordered id r hSome := by cases hSome

theorem Shop.Reachable.sound
    {s : Shop}
    (hReachable : s.Reachable) :
    s.Sound := by
  rcases hReachable with ⟨actions, hRun⟩
  exact hRun.invariant
    (fun _ _ _ hSound hStep => hStep.sound hSound)
    Shop.sound_initial

------------------------------------------------------------
-- A Call Alone
------------------------------------------------------------

/- The call of a request runs alone and ends with an event.
   The command that is then due reaches Redis. -/
inductive Shop.ServesBy
    (Step : Shop → Action → Shop → Prop)
    (s : Shop)
    (request : Request)
    (e : Event)
    (t : Shop) : Prop
| intro
    {u v w : Shop}
    {delivery : Delivery}
    {works : List Action}
    (hArrive : Step s (.arrive request delivery) u)
    (hWork : Transition.Run Step u works v)
    (hWorks : ∀ a ∈ works, a = .core none)
    (hEnd : Step v (.core (some e)) w)
    (hFollowUp :
      (e.followUp = none ∧ t = w) ∨
        ∃ command,
          e.followUp = some command ∧
            Step w (.followUp command true) t)

abbrev Shop.Serves
    (s : Shop)
    (request : Request)
    (e : Event)
    (t : Shop) : Prop :=
  Shop.ServesBy Shop.Step s request e t

/- The shop while the call of a request is being worked on:
   only the outbox may have been touched in between. -/
structure Shop.Working
    (s : Shop)
    (request : Request)
    (redis : Redis)
    (preDeduct : PreDeduct)
    (v : Shop) : Prop where
  db :
    ∃ outbox,
      v.core.db = { s.core.db with
        orderTimeoutOutbox := outbox }
  call :
    ∃ stage, v.core.calls = {⟨request, preDeduct, stage⟩}
  redis : v.redis = redis
  followUps : v.followUps = 0

theorem Shop.Working.run
    {s u v : Shop}
    {request : Request}
    {redis : Redis}
    {preDeduct : PreDeduct}
    {works : List Action}
    (hWorking : s.Working request redis preDeduct u)
    (hWork : Transition.Run Shop.Step u works v)
    (hWorks : ∀ a ∈ works, a = .core none) :
    s.Working request redis preDeduct v := by
  refine hWork.invariant_of_labels
    (P := s.Working request redis preDeduct) ?_ hWorks hWorking
  rintro v _ w rfl hOld hStep
  generalize hLabel : Action.core none = l at hStep
  cases hStep with
  | @core core event hStep hNoArrival =>
      cases hLabel
      rcases hOld.call with ⟨stage, hCall⟩
      rcases hOld.db with ⟨outbox, hDB⟩
      have hFollowUps : due none + v.followUps = 0 := by
        rw [hOld.followUps]
        rfl
      rcases hStep.calls with
        ⟨_, _, _, _, hCalls⟩ |
          ⟨c, stage', rest, _, hSame, hCalls, hCalls'⟩ |
            ⟨e, _, hSome, _⟩ | ⟨_, hCalls, hTouched⟩
      · rw [hCalls, Multiset.card_cons] at hNoArrival
        omega
      · rw [hCall] at hCalls
        rcases Multiset.cons_eq_cons.mp hCalls with
          ⟨rfl, rfl⟩ | ⟨_, other, hMem, _⟩
        · exact {
            db := ⟨outbox, hSame.trans hDB⟩
            call := ⟨stage', hCalls'⟩
            redis := hOld.redis
            followUps := hFollowUps }
        · exact absurd hMem.symm
            (Multiset.cons_ne_zero)
      · cases hSome
      · rcases hTouched with ⟨f, _, hKey, hSame⟩
        exact {
          db := ⟨_, by rw [hSame, hDB]⟩
          call := ⟨stage, hCalls.trans hCall⟩
          redis := hOld.redis
          followUps := hFollowUps }
  | arrive | followUp | listForRebuild | listForReconcile
  | compare | write | resyncDone | evict
  | evictReservation => cases hLabel

/-
  What is known when a call has run alone: its event starts
  from the database before it, up to the outbox, and the
  command that it owes has run on what its pre-deduction
  has left.
-/
theorem Shop.Serves.outcome
    {s t : Shop}
    {request : Request}
    {e : Event}
    (hQuiet : s.Quiet)
    (hSound : s.Sound)
    (hServes : s.Serves request e t) :
    e.Sound ∧
      e.request = request ∧
      (∃ outbox,
        e.before = { s.core.db with
          orderTimeoutOutbox := outbox }) ∧
      e.after = t.core.db ∧
      t.core.calls = 0 ∧
      t.followUps = 0 ∧
      ∃ delivery,
        e.preDeduct =
            (request.preDeduct delivery s.redis).1 ∧
          t.redis =
            match e.followUp with
            | none => (request.preDeduct delivery s.redis).2
            | some command =>
                command.run
                  (request.preDeduct delivery s.redis).2 := by
  rcases hServes with
    ⟨hArrive, hWork, hWorks, hEnd, hFollowUp⟩
  rename_i u v w delivery works
  have hArrived :
      s.Working request (request.preDeduct delivery s.redis).2
        (request.preDeduct delivery s.redis).1 u ∧
        u.Sound := by
    refine ⟨?_, hArrive.sound hSound⟩
    cases hArrive with
    | arrive =>
        exact {
          db := ⟨s.core.db.orderTimeoutOutbox, rfl⟩
          call := ⟨.arrived, by rw [hQuiet.calls]; rfl⟩
          redis := rfl
          followUps := hQuiet.followUps }
  have hWorking := hArrived.1.run hWork hWorks
  have hSoundV : v.Sound :=
    hWork.invariant
      (fun _ _ _ hSound hStep => hStep.sound hSound)
      hArrived.2
  rcases hWorking.call with ⟨stage, hCall⟩
  cases hEnd with
  | @core core event hStep hNoArrival =>
      rcases hStep.event hSoundV.core with
        ⟨hEvent, hBefore, hAfter⟩
      have hCalls :
          core.calls = 0 ∧ e.request = request ∧
            e.preDeduct =
              (request.preDeduct delivery s.redis).1 := by
        rcases hStep.calls with
          ⟨_, _, hNone, _⟩ | ⟨_, _, _, hNone, _⟩ |
            ⟨e', c, hSame, hCalls, hRequest, hPreDeduct⟩ |
              ⟨hNone, _⟩
        · cases hNone
        · cases hNone
        · cases hSame
          rw [hCall] at hCalls
          rcases Multiset.cons_eq_cons.mp hCalls with
            ⟨rfl, hRest⟩ | ⟨_, other, hMem, _⟩
          · exact ⟨hRest.symm, hRequest, hPreDeduct⟩
          · exact absurd hMem.symm Multiset.cons_ne_zero
        · cases hNone
      rcases hCalls with ⟨hRest, hRequest, hPreDeduct⟩
      rcases hWorking.db with ⟨outbox, hDB⟩
      rw [hWorking.followUps] at hFollowUp
      rcases hFollowUp with
        ⟨hNone, rfl⟩ | ⟨command, hSome, hDelivered⟩
      · refine ⟨hEvent, hRequest, ⟨outbox, hBefore.trans hDB⟩,
          hAfter, hRest, ?_, delivery, hPreDeduct, ?_⟩
        · change due (some e) + (0 : Multiset FollowUp) = 0
          unfold due
          rw [Option.bind_some, hNone]
          rfl
        · rw [hNone]
          exact hWorking.redis
      · cases hDelivered with
        | @followUp rest _ _ hDue =>
            have hOnly :
                ({command} : Multiset FollowUp) =
                  command ::ₘ rest := by
              refine Eq.trans ?_ hDue
              change _ = due (some e) + (0 : Multiset FollowUp)
              unfold due
              rw [Option.bind_some, hSome]
              rfl
            refine ⟨hEvent, hRequest,
              ⟨outbox, hBefore.trans hDB⟩, hAfter, hRest, ?_,
              delivery, hPreDeduct, ?_⟩
            · rcases Multiset.cons_eq_cons.mp hOnly with
                ⟨_, hRest⟩ | ⟨hApart, _⟩
              · exact hRest.symm
              · exact absurd rfl hApart
            · rw [hSome]
              simp only [if_true, hWorking.redis]

------------------------------------------------------------
-- Computing a Call
------------------------------------------------------------

namespace Desk

/- Advances the first call to its end, and then delivers the
   command that it owes. -/
def finish
    (now : Time) : Nat → Desk → Option (Event × Desk)
| 0, _ => none
| n + 1, d =>
    match d.move (.advance 0 now now) with
    | some (.core none, d') => finish now n d'
    | some (.core (some e), d') =>
        match e.followUp with
        | none => some (e, d')
        | some command =>
            match d'.move (.followUp 0 true) with
            | some (.followUp command' true, d'') =>
                if command' = command then some (e, d'')
                else none
            | _ => none
    | _ => none

/- Lets a call run alone. -/
def serve
    (d : Desk)
    (request : Request)
    (delivery : Delivery)
    (now : Time) : Option (Event × Desk) :=
  match d.move (.arrive request delivery) with
  | some (.arrive _ _, d') => finish now 3 d'
  | _ => none

theorem finish_run
    {now : Time}
    {n : Nat}
    {d d' : Desk}
    {e : Event}
    (hFinish : finish now n d = some (e, d')) :
    ∃ works v w,
      Transition.Run Shop.Step d.shop works v ∧
        (∀ a ∈ works, a = .core none) ∧
        Shop.Step v (.core (some e)) w ∧
        ((e.followUp = none ∧ d'.shop = w) ∨
          ∃ command,
            e.followUp = some command ∧
              Shop.Step w (.followUp command true)
                d'.shop) := by
  induction n generalizing d with
  | zero => cases hFinish
  | succ n ih =>
      unfold finish at hFinish
      split at hFinish
      case h_1 mid hMove =>
        rcases ih hFinish with
          ⟨works, v, w, hRun, hWorks, hRest⟩
        refine ⟨.core none :: works, v, w, ?_, ?_, hRest⟩
        · exact (Transition.Run.single
            (step_of_move hMove)).append hRun
        · intro a hMem
          rcases List.mem_cons.mp hMem with rfl | hMem
          · rfl
          · exact hWorks a hMem
      case h_2 e' mid hMove =>
        have hEnd := step_of_move hMove
        split at hFinish
        case h_1 hNone =>
          cases hFinish
          exact ⟨[], _, _, Transition.Run.refl _, by simp, hEnd,
            Or.inl ⟨hNone, rfl⟩⟩
        case h_2 command hSome =>
          split at hFinish
          case h_1 command' last hDeliver =>
            split at hFinish
            case isTrue hSame =>
              cases hFinish
              subst hSame
              exact ⟨[], _, _, Transition.Run.refl _, by simp,
                hEnd, Or.inr
                  ⟨_, hSome, step_of_move hDeliver⟩⟩
            case isFalse => cases hFinish
          case h_2 => cases hFinish
      case h_3 => cases hFinish

theorem serves_of_serve
    {d d' : Desk}
    {request : Request}
    {delivery : Delivery}
    {now : Time}
    {e : Event}
    (hServe : d.serve request delivery now = some (e, d')) :
    d.shop.Serves request e d'.shop := by
  unfold serve at hServe
  split at hServe
  case h_1 request' delivery' mid hMove =>
    rcases finish_run hServe with
      ⟨works, v, w, hRun, hWorks, hEnd, hFollowUp⟩
    have hArrive := step_of_move hMove
    have hSame : request' = request ∧ delivery' = delivery := by
      unfold move at hMove
      dsimp only at hMove
      split at hMove
      case isTrue =>
        cases hMove
        exact ⟨rfl, rfl⟩
      case isFalse => cases hMove
    rcases hSame with ⟨rfl, rfl⟩
    exact ⟨hArrive, hRun, hWorks, hEnd, hFollowUp⟩
  case h_2 => cases hServe

/- The desk of the migrations. -/
def initial : Desk where
  db := DB.empty
  calls := []
  redis := Redis.empty
  followUps := []
  resyncs := []
  issued := []

theorem reachable_of_play
    {d : Desk}
    {ms : List Move}
    {actions : List Action}
    (hPlay : initial.play ms = some (actions, d)) :
    d.shop.Reachable :=
  ⟨actions, run_of_play hPlay⟩

end Desk

end OrderManagement
