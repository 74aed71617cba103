import OrderManagement.System.Lifecycle

/-
  What the services record of the status changes of orders,
  beside the changes that their calls commit. A timeout
  cancellation that another call forestalls ends without an
  error and without a flag, and is recorded as a success.

  Main declarations:
    * `classifyOrderTransitionError` and
      `recordedTransition`
    * `transitionsBetween` and `TransitionsCounted`
    * `Request.Late` and `TimelyStep`
    * `transitions_counted_iff`
-/

namespace OrderManagement

open Transaction

------------------------------------------------------------
-- Recorded Results
------------------------------------------------------------

/- `none` is a nil error. -/
def classifyOrderTransitionError : Option Err → String
| none => "success"
| some .orderNotFound => "order_not_found"
| some .orderAlreadyPaid => "already_paid"
| some .orderAlreadyFinished => "already_finished"
| some .orderAlreadyCanceled => "already_cancelled"
| some .orderNotPaid => "not_paid"
| some .orderPayFailed => "state_conflict"
| some .orderCancelFailed => "state_conflict"
| some .orderFinishFailed => "state_conflict"
| some _ => "error"

theorem classifyOrderTransitionError_ne_success
    (e : Err) :
    classifyOrderTransitionError (some e) ≠ "success" := by
  cases e <;> decide

/- The error that a call returns. -/
def errorOf : Except Err Outcome → Option Err
| .ok _ => none
| .error e => some e

/- The action under which a call is recorded. -/
def transitionAction : Request → Option String
| .payOrder _ _ => some "pay"
| .finishOrder _ _ => some "finish"
| .cancelOrder _ _ => some "cancel"
| .cancelExpiredOrder _ _ => some "timeout_cancel"
| _ => none

/- The result that a call records: by its flags, where it
   has one that says so, and else by its error. -/
def transitionResult :
    Request → Except Err Outcome → String
| .cancelOrder _ _, .ok .orderAlreadyCancelled =>
    "idempotent"
| .cancelExpiredOrder _ _, .ok .orderAlreadyCancelled =>
    "already_cancelled"
| .cancelExpiredOrder _ _, .ok .orderIgnored => "ignored"
| _, response =>
    classifyOrderTransitionError (errorOf response)

/- What the call gives to `recordOrderTransition`. -/
def recordedTransition
    (request : Request)
    (response : Except Err Outcome) :
    Option (String × String) :=
  (transitionAction request).map fun action =>
    (action, transitionResult request response)

variable [Deployment]

------------------------------------------------------------
-- Counting
------------------------------------------------------------

/- The number of orders that have another status after a
   call than before it. -/
def transitionsBetween
    (before after : DB) : Nat :=
  (after.orders.rows.filter fun order =>
    statusOf before order.id ≠ some order.status).length

/- How often an action is recorded as a success. -/
def recordedSuccesses
    (action : String)
    (events : List Event) : Nat :=
  events.countP fun e =>
    recordedTransition e.request e.response =
      some (action, "success")

/- The status changes that the calls of an action commit. -/
def committedTransitions
    (action : String)
    (events : List Event) : Nat :=
  ((events.filter fun e =>
    transitionAction e.request = some action).map fun e =>
      transitionsBetween e.before e.after).sum

def TransitionsCounted
    (events : List Event) : Prop :=
  ∀ action ∈ ["pay", "finish", "cancel", "timeout_cancel"],
    recordedSuccesses action events =
      committedTransitions action events

instance
    (events : List Event) :
    Decidable (TransitionsCounted events) :=
  List.decidableBAll _ _

------------------------------------------------------------
-- Late Expiries
------------------------------------------------------------

/-
  The transaction of a timeout cancellation comes late: the
  deadline has passed, and the order is pending in the
  snapshot but not in the database any more.
-/
def Request.Late
    (view : DB)
    (now : Time)
    (db : DB) : Request → Prop
| .cancelExpiredOrder eventID orderID =>
    TimeoutDue view now eventID orderID ∧
      statusOf view orderID = some .pending ∧
      statusOf db orderID ≠ some .pending
| _ => False

/- A step of the system in which no transaction runs late. -/
inductive TimelyStep : State → Option Event → State → Prop
| finish
    {db db' view : DB}
    {rest : Multiset Call}
    {request : Request}
    {preDeduct : PreDeduct}
    {acquired : Bool}
    {now nextAttemptAt : Time}
    {response : Except Err Outcome}
    (hRun :
      request.run view now nextAttemptAt db =
        (response, db'))
    (hTimely : ¬ request.Late view now db) :
    TimelyStep
      ⟨db, ⟨request, preDeduct, .viewed acquired view⟩
        ::ₘ rest⟩
      (some {
        request := request
        preDeduct := preDeduct
        response := response
        executed := true
        before := db
        after := db' })
      ⟨db', rest⟩
| idle
    {s t : State}
    {l : Option Event}
    (hStep : Step s l t)
    (hIdle : ∀ e, l = some e → e.executed = false) :
    TimelyStep s l t

theorem TimelyStep.step
    {s t : State}
    {l : Option Event}
    (hTimely : TimelyStep s l t) :
    Step s l t := by
  cases hTimely with
  | finish hRun hTimely => exact .finish hRun
  | idle hStep hIdle => exact hStep

------------------------------------------------------------
-- One Call
------------------------------------------------------------

theorem transitionsBetween_self
    (db : DB) :
    transitionsBetween db db = 0 := by
  unfold transitionsBetween
  rw [List.length_eq_zero_iff, List.filter_eq_nil_iff]
  intro order hOrder
  have hFind : db.orders.find? order.id = some order :=
    Table.find?_key_of_mem hOrder
  simp [statusOf, hFind]

/- A move of an order to another status is one change. -/
theorem transitionsBetween_of_moved
    {db db' : DB}
    {order : Order}
    {toStatus : OrderStatus}
    {timeField : OrderTimeField}
    {now : Time}
    {stock locked : Int → Int}
    {entries : List (Int × Int × StockBiz × Option Int)}
    (hMoved :
      OrderMoved db db' order toStatus timeField now stock
        locked entries)
    (hStatus : order.status ≠ toStatus) :
    transitionsBetween db db' = 1 := by
  have hBefore : statusOf db order.id = some order.status := by
    simp [statusOf, hMoved.find]
  have hAfter :
      ∀ id,
        statusOf db' id =
          if order.id = id then some toStatus
          else statusOf db id :=
    hMoved.statusOf
  have hMovedTo : statusOf db' order.id = some toStatus := by
    simp [hAfter]
  rcases Option.map_eq_some_iff.mp hMovedTo with
    ⟨row, hRow, hRowStatus⟩
  have hRowID : row.id = order.id := Table.key_of_find? hRow
  have hOnly :
      (db'.orders.rows.filter fun o =>
        statusOf db o.id ≠ some o.status) =
          [row] := by
    apply Table.filter_eq_of_sublist
    · exact List.singleton_sublist.mpr (Table.mem_of_find? hRow)
    · intro r hMem
      have hFind : db'.orders.find? r.id = some r :=
        Table.find?_key_of_mem hMem
      have hHere : statusOf db' r.id = some r.status := by
        simp [statusOf, hFind]
      rw [hAfter] at hHere
      rw [decide_eq_true_eq, List.mem_singleton]
      by_cases hSame : order.id = r.id
      · rw [if_pos hSame, Option.some.injEq] at hHere
        constructor
        · intro _
          rw [← hSame, hRow, Option.some.injEq] at hFind
          exact hFind.symm
        · intro _
          rw [← hSame, hBefore, ← hHere, ne_eq,
            Option.some.injEq]
          exact hStatus
      · rw [if_neg hSame] at hHere
        constructor
        · intro hChanged
          exact absurd hHere hChanged
        · rintro rfl
          exact absurd hRowID.symm hSame
  unfold transitionsBetween
  rw [hOnly]
  rfl

/-
  A success that a call records is the change that it has
  committed, unless an expiry did not restore anything.
-/
theorem Effect.recorded_success
    {view : DB}
    {request : Request}
    {outcome : Outcome}
    {db db' : DB}
    {action : String}
    (hEffect : Effect view request outcome db db')
    (hAction : transitionAction request = some action) :
    (if recordedTransition request (.ok outcome) =
        some (action, "success") then 1 else 0) =
      transitionsBetween db db' +
        if (.ok outcome : Except Err Outcome) =
            .ok .orderNotRestored then 1
        else 0 := by
  have hRecorded :
      recordedTransition request (.ok outcome) =
          some (action, "success") ↔
        transitionResult request (.ok outcome) =
          "success" := by
    simp [recordedTransition, hAction]
  simp only [hRecorded]
  cases hEffect with
  | productCreated | inventoryInitialised | inventoryAdded
  | orderCreated | orderReplayed =>
      cases hAction
  | productStatusSame hRequest | productStatusSet hRequest =>
      rcases hRequest with rfl | rfl
      · cases hAction
      · cases hAction
  | orderPaid hPending hPaid =>
      have hOne := transitionsBetween_of_moved hPaid
        (by rw [hPending]; decide)
      rw [hOne]
      simp [transitionResult, errorOf,
        classifyOrderTransitionError]
  | orderFinished hPaid hFinished =>
      have hOne := transitionsBetween_of_moved hFinished
        (by rw [hPaid]; decide)
      rw [hOne]
      simp [transitionResult, errorOf,
        classifyOrderTransitionError]
  | orderCancelled hPending hCancelled
  | orderExpired _ hPending hCancelled =>
      have hOne := transitionsBetween_of_moved hCancelled
        (by rw [hPending]; decide)
      rw [hOne]
      simp [transitionResult, errorOf,
        classifyOrderTransitionError]
  | cancelRepeated | expiryRepeated | expiryIgnored =>
      rw [transitionsBetween_self]
      simp [transitionResult]
  | expiryLate =>
      rw [transitionsBetween_self]
      simp [transitionResult, errorOf,
        classifyOrderTransitionError]

/- The same for the event of any call. -/
theorem Event.Sound.recorded_success
    {e : Event}
    {action : String}
    (hSound : e.Sound)
    (hAction : transitionAction e.request = some action) :
    (if recordedTransition e.request e.response =
        some (action, "success") then 1 else 0) =
      transitionsBetween e.before e.after +
        if e.response = .ok .orderNotRestored then 1
        else 0 := by
  rcases hSound.result with
    ⟨outcome, view, hOk, _, _, hEffect⟩ |
      ⟨err, hErr, hSame⟩
  · rw [hOk]
    exact hEffect.recorded_success hAction
  · rw [hErr, hSame, transitionsBetween_self]
    have hFailed :
        transitionResult e.request (.error err) =
          classifyOrderTransitionError (some err) := by
      cases e.request <;> rfl
    simp [recordedTransition, hFailed,
      classifyOrderTransitionError_ne_success]

------------------------------------------------------------
-- Late Transactions
------------------------------------------------------------

/- An expiry that does not restore anything has seen the
   order pending, after its deadline. -/
theorem seen_of_notRestored
    {view : DB}
    {now : Time}
    {eventID : String}
    {orderID : Int}
    {db db' : DB}
    (hCommit :
      Commits
        (OrderService.cancelExpiredOrder view now eventID
          orderID) db .orderNotRestored db') :
    TimeoutDue view now eventID orderID ∧
      statusOf view orderID = some .pending := by
  unfold OrderService.cancelExpiredOrder
    Dao.getOrderByIDForSystem at hCommit
  cases hOutbox :
      Dao.getOrderTimeoutOutbox view eventID orderID with
  | none => simp [hOutbox] at hCommit
  | some outbox =>
      simp only [hOutbox, commits_bind,
        commits_ensure] at hCommit
      rcases hCommit with ⟨_, _, ⟨hDue, rfl⟩, hRest⟩
      cases hSeen : view.orders.find? orderID with
      | none => simp [hSeen] at hRest
      | some seen =>
          cases hStatus : seen.status with
          | paid | finished | cancelled =>
              simp [hSeen, hStatus] at hRest
          | pending =>
              refine ⟨⟨outbox, hOutbox, hDue⟩, ?_⟩
              simp [statusOf, hSeen, hStatus]

/- The WHERE clause of its status change fails. -/
theorem commits_of_late
    {view : DB}
    {now : Time}
    {eventID : String}
    {orderID : Int}
    {db : DB}
    (hDue : TimeoutDue view now eventID orderID)
    (hSeen : statusOf view orderID = some .pending)
    (hGone : statusOf db orderID ≠ some .pending) :
    Commits
      (OrderService.cancelExpiredOrder view now eventID
        orderID) db .orderNotRestored db := by
  rcases hDue with ⟨outbox, hOutbox, hPassed⟩
  rcases Option.map_eq_some_iff.mp hSeen with
    ⟨seen, hFind, hPending⟩
  have hID : seen.id = orderID := Table.key_of_find? hFind
  have hNoRow :
      (db.orders.find? seen.id).filter
          (fun order =>
            order.userID = seen.userID ∧
              order.status = .pending) = none := by
    rw [Option.filter_eq_none_iff]
    intro order hOrder hWhere
    apply hGone
    rw [hID] at hOrder
    simp only [decide_eq_true_eq] at hWhere
    simp [statusOf, hOrder, hWhere.2]
  unfold OrderService.cancelExpiredOrder
    Dao.getOrderByIDForSystem
  simp only [hOutbox, commits_bind, commits_ensure]
  refine ⟨⟨⟩, db, ⟨hPassed, rfl⟩, ?_⟩
  simp only [hFind, hPending, commits_bind]
  refine ⟨false, db, ?_, by simp⟩
  unfold cancelPendingOrder Dao.patchOrderStatus
  simp only [commits_bind, commits_get]
  refine ⟨0, db, ⟨db, db, ⟨rfl, rfl⟩, ?_⟩, by simp⟩
  simp only [hNoRow, commits_pure, and_self]

theorem Request.run_of_late
    {request : Request}
    {view : DB}
    {now : Time}
    {db : DB}
    (hLate : request.Late view now db)
    (nextAttemptAt : Time) :
    request.run view now nextAttemptAt db =
      (.ok .orderNotRestored, db) := by
  cases request with
  | cancelExpiredOrder eventID orderID =>
      rcases hLate with ⟨hDue, hSeen, hGone⟩
      have hCommit :
          (Request.transaction view now nextAttemptAt
            (.cancelExpiredOrder eventID orderID)).run db =
              .ok (.orderNotRestored, db) :=
        commits_of_late hDue hSeen hGone
      rw [Request.run, hCommit]
  | _ => cases hLate

/-
  A transaction runs late exactly when it is an expiry that
  ends without an error and without a flag.
-/
theorem Request.late_iff
    {request : Request}
    {view : DB}
    {now nextAttemptAt : Time}
    {db db' : DB}
    {response : Except Err Outcome}
    (hWellFormed : db.WellFormed)
    (hGrows : view.Grows db)
    (hRun :
      request.run view now nextAttemptAt db =
        (response, db')) :
    request.Late view now db ↔
      response = .ok .orderNotRestored := by
  constructor
  · intro hLate
    rw [Request.run_of_late hLate] at hRun
    exact (Prod.mk.inj hRun).1.symm
  · rintro rfl
    rcases Request.run_eq hRun with
      ⟨outcome, hOk, hCommit⟩ | ⟨e, hError, _⟩
    · cases hOk
      have hEffect :=
        effect_of_commits hWellFormed hGrows hCommit
      cases hEffect with
      | expiryLate hFind hStatus =>
          rcases seen_of_notRestored hCommit with
            ⟨hDue, hSeen⟩
          refine ⟨hDue, hSeen, ?_⟩
          simpa [statusOf, hFind] using hStatus
    · cases hError

------------------------------------------------------------
-- Whole Runs
------------------------------------------------------------

/- How often an expiry of an action restores nothing. -/
def unrestored
    (action : String)
    (events : List Event) : Nat :=
  events.countP fun e =>
    transitionAction e.request = some action ∧
      e.response = .ok .orderNotRestored

/- The successes that are recorded are the changes that are
   committed and the expiries that restore nothing. -/
theorem recordedSuccesses_eq
    {action : String}
    {events : List Event}
    (hSound : ∀ e ∈ events, e.Sound) :
    recordedSuccesses action events =
      committedTransitions action events +
        unrestored action events := by
  induction events with
  | nil => rfl
  | cons e events ih =>
      have hRest := ih fun e' hMem =>
        hSound e' (List.mem_cons_of_mem e hMem)
      unfold recordedSuccesses committedTransitions unrestored
        at hRest ⊢
      rw [List.countP_cons, List.countP_cons, hRest]
      by_cases hAction :
          transitionAction e.request = some action
      · have hOne :=
          (hSound e List.mem_cons_self).recorded_success
            hAction
        simp only [decide_eq_true_eq, hAction, true_and,
          decide_true, List.filter_cons_of_pos, List.map_cons,
          List.sum_cons, hOne]
        omega
      · have hOther :
            recordedTransition e.request e.response ≠
              some (action, "success") := by
          intro hRecorded
          rcases Option.map_eq_some_iff.mp hRecorded with
            ⟨action', hAction', hPair⟩
          rw [(Prod.mk.inj hPair).1] at hAction'
          exact hAction hAction'
        simp [hAction, hOther]

theorem transitionsCounted_iff_restores
    {events : List Event}
    (hSound : ∀ e ∈ events, e.Sound) :
    TransitionsCounted events ↔
      ∀ e ∈ events, e.response ≠ .ok .orderNotRestored := by
  constructor
  · intro hCounted e hMem hLate
    rcases (hSound e hMem).effect hLate with
      ⟨view, _, hEffect⟩
    have hAction :
        transitionAction e.request = some "timeout_cancel" := by
      generalize e.before = before, e.after = after,
        e.request = request at hEffect
      cases hEffect
      rfl
    have hEqual := hCounted "timeout_cancel" (by simp)
    rw [recordedSuccesses_eq hSound, Nat.add_eq_left,
      unrestored, List.countP_eq_zero] at hEqual
    exact hEqual e hMem (by simp [hAction, hLate])
  · intro hTimely action _
    rw [recordedSuccesses_eq hSound, Nat.add_eq_left,
      unrestored, List.countP_eq_zero]
    intro e hMem
    simp [hTimely e hMem]

/- No call of a timely step is such an expiry. -/
theorem TimelyStep.restores
    {s t : State}
    {e : Event}
    (hSound : s.Sound)
    (hTimely : TimelyStep s (some e) t) :
    e.response ≠ .ok .orderNotRestored := by
  cases hTimely with
  | finish hRun hTimely =>
      have hGrows :=
        (hSound.calls _ (Multiset.mem_cons_self _ _)).grows
          _ _ rfl
      rw [Request.late_iff hSound.wellFormed hGrows hRun]
        at hTimely
      exact hTimely
  | idle hStep hIdle =>
      intro hOk
      rcases (hStep.event hSound).1.result with
        ⟨_, _, _, hExecuted, _⟩ | ⟨_, hError, _⟩
      · rw [hIdle e rfl] at hExecuted
        cases hExecuted
      · rw [hOk] at hError
        cases hError

theorem Step.timely
    {s t : State}
    {l : Option Event}
    (hSound : s.Sound)
    (hStep : Step s l t)
    (hRestores :
      ∀ e, l = some e →
        e.response ≠ .ok .orderNotRestored) :
    TimelyStep s l t := by
  cases hStep with
  | finish hRun =>
      have hGrows :=
        (hSound.calls _ (Multiset.mem_cons_self _ _)).grows
          _ _ rfl
      apply TimelyStep.finish hRun
      rw [Request.late_iff hSound.wellFormed hGrows hRun]
      exact hRestores _ rfl
  | arrive _ request preDeduct =>
      exact .idle (.arrive _ request preDeduct) (by simp)
  | insertKey hSlot hAdmitted hUnlocked =>
      exact .idle (.insertKey hSlot hAdmitted hUnlocked)
        (by simp)
  | openView hSlot => exact .idle (.openView hSlot) (by simp)
  | openKeyedView => exact .idle .openKeyedView (by simp)
  | reject hRejected =>
      exact .idle (.reject hRejected) (by simp)
  | fail c e => exact .idle (.fail c e) (by simp)
  | publish hTouched =>
      exact .idle (.publish hTouched) (by simp)

theorem State.Sound.timely_iff
    {s t : State}
    {ls : List (Option Event)}
    (hSound : s.Sound)
    (hRun : Transition.Run Step s ls t) :
    Transition.Run TimelyStep s ls t ↔
      ∀ e ∈ eventsOf ls,
        e.response ≠ .ok .orderNotRestored := by
  constructor
  · intro hTimely e hMem
    rcases List.mem_filterMap.mp hMem with
      ⟨l, hLabel, hSome⟩
    cases hSome
    rcases hTimely.exists_step_of_mem hLabel with
      ⟨_, _, u, u', _, hBefore, hStep, _⟩
    have hBeforeStep :=
      hBefore.mono fun _ _ _ hStep => hStep.step
    exact hStep.restores (hSound.run hBeforeStep).1
  · intro hRestores
    induction hRun with
    | refl => exact .refl _
    | snoc hRun hLast ih =>
        rw [eventsOf_append] at hRestores
        refine .snoc
          (ih fun e hMem =>
            hRestores e (List.mem_append_left _ hMem))
          (hLast.timely (hSound.run hRun).1 ?_)
        intro e hLabel
        apply hRestores e
        simp [eventsOf, hLabel]

/-
  Along a run the successes that are recorded are the status
  changes that are committed, for each of the four actions,
  exactly when no expiry of the run comes late.
-/
theorem transitions_counted_iff
    {s : State}
    {ls : List (Option Event)}
    (hRun : Transition.Run Step State.initial ls s) :
    TransitionsCounted (eventsOf ls) ↔
      Transition.Run TimelyStep State.initial ls s := by
  have hSound :
      ∀ e ∈ eventsOf ls, e.Sound := fun e hMem =>
    (Reaches.event ⟨ls, rfl, hRun⟩ hMem).1
  rw [transitionsCounted_iff_restores hSound,
    State.sound_initial.timely_iff hRun]

end OrderManagement

------------------------------------------------------------
-- A Small Shop
------------------------------------------------------------

namespace OrderManagement

attribute [local instance] sampleDeployment

/- The order of the sample shop is paid. -/
def payingCalls : List Invocation :=
  sampleCalls ++ [sampleCall (.payOrder 3 7) 60000]

theorem transitions_counted_sample :
    ∃ ls s,
      Transition.Run TimelyStep State.initial ls s ∧
        recordedSuccesses "pay" (eventsOf ls) = 1 := by
  rcases reaches_serial payingCalls with ⟨ls, hEvents, hRun⟩
  refine ⟨ls, _, (transitions_counted_iff hRun).mp ?_, ?_⟩
  · rw [hEvents]
    decide +kernel
  · rw [hEvents]
    decide +kernel

/- The order of the sample shop as an expiry sees it, and
   after its payment. -/
def unpaidShop : DB :=
  serialDB DB.empty sampleCalls

def paidShop : DB :=
  ((sampleCall (.payOrder 3 7) 60000).event unpaidShop).after

theorem expiry_late :
    (Request.cancelExpiredOrder "E7" 7).Late unpaidShop
      1800000 paidShop := by
  have hDue :
      (Dao.getOrderTimeoutOutbox unpaidShop "E7" 7).any
        (fun row => row.timeoutAt ≤ 1800000) = true := by
    decide +kernel
  rcases (Option.any_eq_true _ _).mp hDue with
    ⟨row, hRow, hPassed⟩
  refine ⟨⟨row, hRow, by simpa using hPassed⟩, ?_, ?_⟩
  · decide +kernel
  · decide +kernel

/- The expiry opens its snapshot before the payment, and its
   transaction runs after it. -/
theorem expiry_reached :
    ∃ events s,
      Reaches events s ∧
        s.calls = 0 ∧
        ∃ e ∈ events,
          e.response = .ok .orderNotRestored := by
  rcases reaches_serial sampleCalls with ⟨ls, _, hRun⟩
  have hViewed :
      Transition.Run Step State.initial
        (ls ++ [none] ++ [none])
        ⟨unpaidShop,
          ⟨.cancelExpiredOrder "E7" 7, .skipped,
            .viewed false unpaidShop⟩ ::ₘ 0⟩ :=
    (hRun.snoc
      (.arrive _ (.cancelExpiredOrder "E7" 7)
        .skipped)).snoc (.openView rfl)
  have hPaid :
      ∃ events,
        Reaches events
          ⟨paidShop,
            ⟨.cancelExpiredOrder "E7" 7, .skipped,
              .viewed false unpaidShop⟩ ::ₘ 0⟩ :=
    ⟨_, Reaches.call ⟨_, rfl, hViewed⟩
      (sampleCall (.payOrder 3 7) 60000)
      (by
        intro slot hSlot
        cases hSlot)⟩
  rcases hPaid with ⟨_, ms, _, hPaidRun⟩
  have hFinish :=
    hPaidRun.snoc
      (.finish (Request.run_of_late expiry_late 0))
  refine ⟨_, _, ⟨_, rfl, hFinish⟩, rfl, ?_⟩
  rw [eventsOf_append]
  exact ⟨_, List.mem_append_right _ List.mem_cons_self, rfl⟩

theorem not_transitions_counted :
    ¬ ∀ (events : List Event) (s : State),
      Reaches events s → s.calls = 0 →
        TransitionsCounted events := by
  intro hAll
  rcases expiry_reached with
    ⟨events, s, hReaches, hCalls, e, hMem, hLate⟩
  have hCounted := hAll events s hReaches hCalls
  rw [transitionsCounted_iff_restores fun e hMem =>
    (hReaches.event hMem).1] at hCounted
  exact hCounted e hMem hLate

end OrderManagement
