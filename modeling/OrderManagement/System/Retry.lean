import OrderManagement.Service.Refusals
import OrderManagement.System.Recovery

/-
  Retries of a call that closes an order. A retry that
  arrives after the last loss repairs what a lost call has
  left behind, whatever other calls do at the same time.

  Main declarations:
    * `Request.retries` and `Event.Completed`
    * `Event.Ran.restores` and `Event.Ran.pays`
    * `Step.call_cases`
    * `Shop.Closes.retried_run`
-/

namespace OrderManagement

open Transaction

variable [Deployment]

------------------------------------------------------------
-- Retries
------------------------------------------------------------

/- A call of the owner of the order, or the message that its
   outbox row stands for. -/
def Request.retries
    (db : DB)
    (order : Order) : Request → Prop
| .cancelOrder userID id =>
    userID = order.userID ∧ id = order.id
| .cancelExpiredOrder eventID id =>
    id = order.id ∧
      (Dao.getOrderTimeoutOutbox db eventID id).isSome
| .payOrder userID id =>
    userID = order.userID ∧ id = order.id
| _ => False

/-
  The call ran to its end. It did what it was asked for, or
  it was told that the order had been closed by then; it was
  not cut off by an error of the driver, and its message was
  not early.
-/
def Event.Completed
    (k : Closing)
    (e : Event) : Prop :=
  e.executed = true ∧
    ((∃ outcome, e.response = .ok outcome) ∨
      match k with
      | .cancellation =>
          e.response = .error .orderCancelFailed
      | .payment =>
          e.response = .error .orderPayFailed ∨
            e.response = .error .orderAlreadyPaid)

instance
    (response : Except Err Outcome) :
    Decidable (∃ outcome, response = .ok outcome) :=
  match response with
  | .ok outcome => isTrue ⟨outcome, rfl⟩
  | .error _ => isFalse (by simp)

instance
    (response : Except Err Outcome)
    (err : Err) :
    Decidable (response = .error err) :=
  match response with
  | .ok _ => isFalse (by simp)
  | .error err' => decidable_of_iff (err' = err) (by simp)

instance
    (k : Closing)
    (e : Event) :
    Decidable (e.Completed k) :=
  match k with
  | .cancellation => inferInstanceAs (Decidable (_ ∧ (_ ∨ _)))
  | .payment =>
      inferInstanceAs (Decidable (_ ∧ (_ ∨ (_ ∨ _))))

/- A row that is there is still there in a later database. -/
theorem DB.Grows.getOrderTimeoutOutbox
    {old new : DB}
    {eventID : String}
    {orderID : Int}
    (hGrows : old.Grows new)
    (hSome :
      (Dao.getOrderTimeoutOutbox old eventID
        orderID).isSome) :
    ∃ row,
      Dao.getOrderTimeoutOutbox new eventID orderID =
        some row := by
  rcases Option.isSome_iff_exists.mp hSome with ⟨row, hRow⟩
  unfold Dao.getOrderTimeoutOutbox at hRow ⊢
  rw [Option.filter_eq_some_iff] at hRow
  rcases hGrows.outbox _ _ hRow.1 with
    ⟨row', hFind, hIdentity⟩
  simp only [OrderTimeoutOutbox.identity,
    Prod.mk.injEq] at hIdentity
  refine ⟨row', ?_⟩
  rw [Option.filter_eq_some_iff]
  refine ⟨hFind, ?_⟩
  rw [hIdentity.2.1]
  exact hRow.2

/- A timeout that commits and has its row is not early. -/
theorem OrderService.timeoutDue_of_commits
    {view : DB}
    {now : Time}
    {eventID : String}
    {orderID : Int}
    {row : OrderTimeoutOutbox}
    {outcome : Outcome}
    {db db' : DB}
    (hRow :
      Dao.getOrderTimeoutOutbox view eventID orderID =
        some row)
    (hCommit :
      Commits
        (OrderService.cancelExpiredOrder view now eventID
          orderID) db outcome db') :
    TimeoutDue view now eventID orderID := by
  unfold OrderService.cancelExpiredOrder at hCommit
  rw [hRow] at hCommit
  rcases commits_bind.mp hCommit with ⟨_, _, hEnsure, _⟩
  exact ⟨row, hRow, (commits_ensure.mp hEnsure).1⟩

/- A timeout with its row that sees an order that is not
   sold, and still pending or cancelled by then. -/
theorem OrderService.cancelExpiredOrder_cancels
    {view : DB}
    {now : Time}
    {eventID : String}
    {orderID : Int}
    {row : OrderTimeoutOutbox}
    {seen current : Order}
    {outcome : Outcome}
    {db db' : DB}
    (hRow :
      Dao.getOrderTimeoutOutbox view eventID orderID =
        some row)
    (hSeen : view.orders.find? orderID = some seen)
    (hSold :
      seen.status ≠ .paid ∧ seen.status ≠ .finished)
    (hCurrent : db.orders.find? orderID = some current)
    (hUser : current.userID = seen.userID)
    (hStatus :
      seen.status = .cancelled ∨ current.status = .pending)
    (hSame :
      (view.orders.find? orderID).isSome →
        linesOf view.orderItems orderID =
          linesOf db.orderItems orderID)
    (hOrderly : Orderly (linesOf db.orderItems orderID))
    (hCommit :
      Commits
        (OrderService.cancelExpiredOrder view now eventID
          orderID) db outcome db') :
    outcome = .orderCancelled ∨
      outcome = .orderAlreadyCancelled := by
  have hDue := OrderService.timeoutDue_of_commits hRow hCommit
  by_cases hCancelled : seen.status = .cancelled
  · have hRepeated :=
      OrderService.cancelExpiredOrder_repeated db hDue hSeen
        hCancelled
    exact Or.inr (hCommit.unique hRepeated).1
  · have hPending := hStatus.resolve_left hCancelled
    rcases commits_cancelExpiredOrder hSame hOrderly
        hCommit with
      ⟨rfl, _, hIgnored⟩ | ⟨rfl, _⟩ |
        ⟨rfl, _, seen', hSeen', hLate⟩ | ⟨rfl, _⟩
    · rcases hIgnored with hNone | hNone |
        ⟨seen', hSeen', hOther⟩
      · rw [hRow] at hNone
        cases hNone
      · rw [hSeen] at hNone
        cases hNone
      · rw [hSeen] at hSeen'
        cases hSeen'
        exact (hOther.elim hSold.1 hSold.2).elim
    · exact Or.inr rfl
    · rw [hSeen] at hSeen'
      cases hSeen'
      exact absurd hPending (hLate current hCurrent hUser)
    · exact Or.inl rfl

/-
  What a retried cancellation finds out. If its snapshot
  shows the order cancelled, or the order is still pending,
  it restores.
-/
theorem Event.Ran.restores
    {e : Event}
    {view db : DB}
    {now nextAttemptAt : Time}
    {order : Order}
    (hRan : e.Ran view now nextAttemptAt)
    (hSound : e.Sound)
    (hFind : db.orders.find? order.id = some order)
    (hGrows : db.Grows view)
    (hRetries : e.request.retries db order)
    (hCancels : e.request.cancels order.id = true)
    (hCompleted : e.Completed .cancellation)
    (hSeen :
      statusOf view order.id = some .cancelled ∨
        statusOf e.before order.id = some .pending)
    (hStatus :
      statusOf e.before order.id = some .pending ∨
        statusOf e.before order.id = some .cancelled) :
    e.followUp = some (.restore order.id) := by
  rcases hGrows.orders _ order hFind with
    ⟨seen, hSeenFind, hSeenFollows⟩
  rcases hRan.grows.orders _ seen hSeenFind with
    ⟨current, hCurrent, hFollows⟩
  have hUser : seen.userID = order.userID :=
    hSeenFollows.userID
  have hCurrentUser : current.userID = order.userID :=
    hFollows.userID.trans hUser
  unfold statusOf at hSeen hStatus
  rw [hSeenFind, hCurrent] at hSeen
  rw [hCurrent] at hStatus
  simp only [Option.map_some, Option.some.injEq] at hSeen hStatus
  -- The snapshot shows the order pending or cancelled.
  have hSold :
      seen.status ≠ .paid ∧ seen.status ≠ .finished := by
    have hLater := hFollows.status
    constructor <;> intro hSold <;> rw [hSold] at hLater <;>
      rcases hStatus with hStatus | hStatus <;>
        rw [hStatus] at hLater <;> cases hLater
  rcases Request.run_eq hRan.run with
    ⟨outcome, hOk, hCommit⟩ | ⟨err, hError, _, hAbort⟩
  · rcases hSound.cancellation hCancels hOk with
      ⟨_, hDue, _⟩ | ⟨_, hDue, _⟩ | ⟨hNot, hNotAlready, _⟩
    · exact hDue
    · exact hDue
    exfalso
    cases hRequest : e.request with
    | cancelOrder userID id =>
        rw [hRequest] at hCommit hCancels
        rcases hSound.effect hOk with ⟨_, _, hEffect⟩
        rw [hRequest] at hEffect
        generalize e.before = old at hEffect
        generalize e.after = new at hEffect
        cases hEffect with
        | orderCancelled => exact hNot rfl
        | cancelRepeated => exact hNotAlready rfl
        | productStatusSame hOther
        | productStatusSet hOther => simp at hOther
    | cancelExpiredOrder eventID id =>
        rw [hRequest] at hCommit hRetries
        rcases hRetries with ⟨rfl, hRow⟩
        rcases hGrows.getOrderTimeoutOutbox hRow with
          ⟨row, hRow⟩
        have hOutcome :=
          OrderService.cancelExpiredOrder_cancels hRow
            hSeenFind hSold hCurrent hFollows.userID hSeen
            (hRan.grows.lines order.id)
            (hSound.wellFormed.linesOrderly order.id) hCommit
        exact hOutcome.elim hNot hNotAlready
    | createProduct | onSaleProduct | offSaleProduct
    | initInventory | addInventory | createOrder | payOrder
    | finishOrder =>
        rw [hRequest] at hCancels
        cases hCancels
  · exfalso
    have hFailed : err = .orderCancelFailed := by
      rcases hCompleted.2 with ⟨outcome, hOk⟩ | hFailed
      · rw [hError] at hOk
        cases hOk
      · rw [hError] at hFailed
        exact Except.error.inj hFailed
    subst hFailed
    cases hRequest : e.request with
    | cancelOrder userID id =>
        rw [hRequest] at hAbort hRetries
        rcases hRetries with ⟨rfl, rfl⟩
        rcases hSeen with hCancelled | hPending
        · have hRepeated :=
            OrderService.cancelOrder_repeated e.before now
              hSeenFind hUser hCancelled
          exact nomatch hRepeated.symm.trans hAbort
        · exact OrderService.cancelOrder_failed hAbort current
            hCurrent hCurrentUser hPending
    | cancelExpiredOrder eventID id =>
        rw [hRequest] at hAbort
        have hOther :=
          OrderService.cancelExpiredOrder_raises _ _ hAbort
        simp [InventoryError] at hOther
    | createProduct | onSaleProduct | offSaleProduct
    | initInventory | addInventory | createOrder | payOrder
    | finishOrder =>
        rw [hRequest] at hCancels
        cases hCancels

/- What a retried payment leaves: the order is paid. -/
theorem Event.Ran.pays
    {e : Event}
    {view db : DB}
    {now nextAttemptAt : Time}
    {order : Order}
    (hRan : e.Ran view now nextAttemptAt)
    (hSound : e.Sound)
    (hFind : db.orders.find? order.id = some order)
    (hGrows : db.Grows view)
    (hRequest :
      e.request = .payOrder order.userID order.id)
    (hCompleted : e.Completed .payment)
    (hStatus :
      statusOf e.before order.id = some .pending ∨
        statusOf e.before order.id = some .paid) :
    statusOf e.after order.id = some .paid := by
  rcases hGrows.orders _ order hFind with
    ⟨seen, hSeenFind, hSeenFollows⟩
  rcases hRan.grows.orders _ seen hSeenFind with
    ⟨current, hCurrent, hFollows⟩
  have hCurrentUser : current.userID = order.userID :=
    hFollows.userID.trans hSeenFollows.userID
  rcases hSound.result with
    ⟨outcome, _, hOk, _, _, hEffect⟩ | ⟨err, hError, hSame⟩
  · rw [hRequest] at hEffect
    have hMove := hEffect.payOrder
    rcases hEffect.advance order.id with
      ⟨hNone, _⟩ | ⟨status, hSome, hAfter, _⟩
    · rw [hNone] at hMove
      cases hMove
    · rw [hMove] at hSome
      cases hSome
      exact hAfter
  · rw [hSame]
    refine hStatus.resolve_left ?_
    intro hPending
    unfold statusOf at hPending
    rw [hCurrent, Option.map_some, Option.some.injEq]
      at hPending
    rcases Request.run_eq hRan.run with
      ⟨_, hOk, _⟩ | ⟨err', hError', _, hAbort⟩
    · rw [hError] at hOk
      cases hOk
    rw [hRequest] at hAbort
    have hRefused :
        err' = .orderAlreadyPaid ∨ err' = .orderPayFailed := by
      rcases hCompleted.2 with ⟨_, hOk⟩ | hFailed | hPaid
      · rw [hError] at hOk
        cases hOk
      · rw [hError'] at hFailed
        exact Or.inr (Except.error.inj hFailed)
      · rw [hError'] at hPaid
        exact Or.inl (Except.error.inj hPaid)
    rcases OrderService.payOrder_refused hAbort hRefused with
      ⟨seen', hSeen', hPaid⟩ | hNone
    · rw [hSeenFind] at hSeen'
      cases hSeen'
      have hLater := hFollows.status
      rw [hPaid, hPending] at hLater
      cases hLater
    · exact hNone current hCurrent hCurrentUser hPending

------------------------------------------------------------
-- One Call over a Step
------------------------------------------------------------

/-
  What a step does to one call that needs no key: the call
  stays, opens its snapshot, or ends, and it ends by running
  its transaction or without having run it.
-/
theorem Step.call_cases
    {p q : State}
    {l : Option Event}
    {c : Call}
    (hSound : p.Sound)
    (hStep : Step p l q)
    (hCall : c ∈ p.calls)
    (hSlot : c.request.slot = none)
    (hStage : ∀ acquired, c.stage ≠ .keyed acquired) :
    c ∈ q.calls ∨
      (l = none ∧ c.stage = .arrived ∧ q.db = p.db ∧
        { c with stage := .viewed false p.db } ∈ q.calls) ∨
      ∃ e,
        l = some e ∧ e.request = c.request ∧
          (e.executed = false ∨
            ∃ acquired view now nextAttemptAt,
              c.stage = .viewed acquired view ∧
                e.Ran view now nextAttemptAt) := by
  have hKept :
      ∀ {c' : Call} {rest : Multiset Call},
        c ∈ c' ::ₘ rest → c ≠ c' → c ∈ rest := by
    intro c' rest hMem hApart
    exact (Multiset.mem_cons.mp hMem).resolve_left hApart
  cases hStep with
  | arrive request preDeduct =>
      exact Or.inl (Multiset.mem_cons_of_mem hCall)
  | insertKey hSome =>
      refine Or.inl (Multiset.mem_cons_of_mem (hKept hCall ?_))
      rintro rfl
      rw [hSlot] at hSome
      cases hSome
  | openView hNone =>
      rcases Multiset.mem_cons.mp hCall with rfl | hRest
      · exact Or.inr (Or.inl
          ⟨rfl, rfl, rfl, Multiset.mem_cons_self _ _⟩)
      · exact Or.inl (Multiset.mem_cons_of_mem hRest)
  | openKeyedView =>
      refine Or.inl (Multiset.mem_cons_of_mem (hKept hCall ?_))
      rintro rfl
      exact hStage _ rfl
  | @finish db db' view rest request preDeduct acquired now
      nextAttemptAt response hRun =>
      rcases Multiset.mem_cons.mp hCall with rfl | hRest
      · exact Or.inr (Or.inr ⟨_, rfl, rfl, Or.inr
          ⟨acquired, view, now, nextAttemptAt, rfl,
            hSound.ran hRun⟩⟩)
      · exact Or.inl hRest
  | reject =>
      rcases Multiset.mem_cons.mp hCall with rfl | hRest
      · exact Or.inr (Or.inr ⟨_, rfl, rfl, Or.inl rfl⟩)
      · exact Or.inl hRest
  | fail c' e =>
      rcases Multiset.mem_cons.mp hCall with rfl | hRest
      · exact Or.inr (Or.inr ⟨_, rfl, rfl, Or.inl rfl⟩)
      · exact Or.inl hRest
  | publish => exact Or.inl hCall

------------------------------------------------------------
-- A Retry among Other Calls
------------------------------------------------------------

/- The call has no snapshot yet, or one that shows the order
   closed, or the order is still pending. -/
def Call.Fresh
    (k : Closing)
    (order : Order)
    (s u : Shop)
    (c : Call) : Prop :=
  c.stage = .arrived ∨
    ∃ acquired view,
      c.stage = .viewed acquired view ∧
        s.core.db.Grows view ∧
        (statusOf view order.id = some k.status ∨
          statusOf u.core.db order.id = some .pending)

/- The order is closed, and the reservation of a cancelled
   order has been returned or will be. -/
def Shop.Settles
    (k : Closing)
    (order : Order)
    (s u : Shop) : Prop :=
  statusOf u.core.db order.id = some k.status ∧
    (k = .cancellation →
      k.command order.id ∈ u.followUps ∨
        u.redis = (k.command order.id).run s.redis)

/- A retry is at work, or it is no longer needed. -/
inductive Shop.Retried
    (k : Closing)
    (r : Request)
    (order : Order)
    (s u : Shop) : Prop
| atWork
    {c : Call}
    (hCall : c ∈ u.core.calls)
    (hRequest : c.request = r)
    (hFresh : c.Fresh k order s u)
| settled (hSettles : s.Settles k order u)

/- Nothing is lost any more, and every retry completes. -/
def Action.Runs
    (k : Closing)
    (r : Request) : Action → Prop
| .core event =>
    ∀ e, event = some e → e.request = r → e.Completed k
| .followUp _ delivered => delivered = true
| _ => True

instance
    (k : Closing)
    (r : Request)
    (a : Action) :
    Decidable (a.Runs k r) :=
  match a with
  | .core none => isTrue (by rintro e ⟨⟩)
  | .core (some e) =>
      decidable_of_iff (e.request = r → e.Completed k) (by
        constructor
        · rintro hCompleted _ ⟨⟩
          exact hCompleted
        · exact fun hRuns => hRuns e rfl)
  | .followUp _ delivered =>
      inferInstanceAs (Decidable (delivered = true))
  | .arrive _ _ | .listForRebuild | .listForReconcile
  | .compare | .write _ _ _ | .resyncDone | .evict _
  | .evictReservation _ => inferInstanceAs (Decidable True)

/- The order is pending, or it is closed. -/
theorem Shop.Closes.status
    {k : Closing}
    {order : Order}
    {s u : Shop}
    (hFind : s.core.db.orders.find? order.id = some order)
    (hPending : order.status = .pending)
    (hCloses : s.Closes k order u) :
    statusOf u.core.db order.id = some .pending ∨
      statusOf u.core.db order.id = some k.status := by
  cases hCloses.db with
  | pending hSame =>
      refine Or.inl ?_
      unfold statusOf
      rw [hSame, hFind, Option.map_some, hPending]
  | closed hMoves => exact Or.inr hMoves.facts.2.2

/- It stays closed. -/
theorem Shop.Closes.status_closed
    {k : Closing}
    {order : Order}
    {s t : Shop}
    {db : DB}
    (hFind : s.core.db.orders.find? order.id = some order)
    (hPending : order.status = .pending)
    (hCloses : s.Closes k order t)
    (hGrows : db.Grows t.core.db)
    (hStatus : statusOf db order.id = some k.status) :
    statusOf t.core.db order.id = some k.status := by
  refine (hCloses.status hFind hPending).resolve_left ?_
  intro hLater
  rcases hGrows.statusOf hStatus with ⟨status, hSome, hBecome⟩
  rw [hLater] at hSome
  cases hSome
  cases k <;> cases hBecome

/- An order that a call of the run closes has its command. -/
theorem Event.Sound.closing_due
    {e : Event}
    {k : Closing}
    {id : Int}
    (hSound : e.Sound)
    (hCloses : e.request.closes k id = true)
    (hBefore : statusOf e.before id = some .pending)
    (hAfter : statusOf e.after id = some k.status) :
    e.followUp = some (k.command id) := by
  rcases hSound.closing hCloses with
    ⟨order, now, _, _, _, hDue⟩ | ⟨hSame, _⟩
  · exact hDue
  · rw [hSame, hBefore] at hAfter
    cases k <;> cases hAfter

/- A completed retry leaves nothing to be done. -/
theorem Event.Ran.settles
    {e : Event}
    {view db : DB}
    {now nextAttemptAt : Time}
    {order : Order}
    {k : Closing}
    (hRan : e.Ran view now nextAttemptAt)
    (hSound : e.Sound)
    (hFind : db.orders.find? order.id = some order)
    (hGrows : db.Grows view)
    (hRetries : e.request.retries db order)
    (hCloses : e.request.closes k order.id = true)
    (hCompleted : e.Completed k)
    (hSeen :
      statusOf view order.id = some k.status ∨
        statusOf e.before order.id = some .pending)
    (hStatus :
      statusOf e.before order.id = some .pending ∨
        statusOf e.before order.id = some k.status) :
    statusOf e.after order.id = some k.status ∧
      (k = .cancellation →
        e.followUp = some (k.command order.id)) := by
  cases k with
  | cancellation =>
      have hDue := hRan.restores hSound hFind hGrows hRetries
        hCloses hCompleted hSeen hStatus
      exact ⟨hSound.restore hDue, fun _ => hDue⟩
  | payment =>
      have hRequest :
          e.request = .payOrder order.userID order.id := by
        cases hRequest : e.request with
        | payOrder userID id =>
            rw [hRequest] at hRetries
            rcases hRetries with ⟨rfl, rfl⟩
            rfl
        | createProduct | onSaleProduct | offSaleProduct
        | initInventory | addInventory | createOrder
        | finishOrder | cancelOrder | cancelExpiredOrder =>
            rw [hRequest] at hCloses
            cases hCloses
      exact ⟨hRan.pays hSound hFind hGrows hRequest hCompleted
        hStatus, by simp⟩

/- Only the services change the database. -/
theorem Shop.Step.grows
    {s t : Shop}
    {a : Action}
    (hSound : s.Sound)
    (hStep : Shop.Step s a t) :
    s.core.db.Grows t.core.db := by
  cases hStep with
  | core hStep => exact hStep.grows hSound.core
  | arrive | followUp | listForRebuild | listForReconcile
  | compare | write | resyncDone | evict | evictReservation =>
      exact DB.Grows.refl _

section Runs

variable {k : Closing} {r : Request} {order : Order}
variable {s u t : Shop} {a : Action}

theorem Shop.Settles.step
    (hFind : s.core.db.orders.find? order.id = some order)
    (hPending : order.status = .pending)
    (hCloses : s.Closes k order u)
    (hAction : a.Closes k order.id)
    (hRuns : a.Runs k r)
    (hSettles : s.Settles k order u)
    (hStep : Shop.Step u a t) :
    s.Settles k order t := by
  have hLater := hCloses.step hFind hAction hStep
  refine ⟨hLater.status_closed hFind hPending
    (hStep.grows hCloses.sound) hSettles.1, fun hKind => ?_⟩
  have hDue := hSettles.2 hKind
  cases hStep with
  | arrive request delivery =>
      have hRequest : request.closes k order.id = true :=
        hAction
      rw [Request.preDeduct_of_closes hRequest]
      exact hDue
  | core =>
      exact hDue.imp_left fun hOld =>
        Multiset.mem_add.mpr (Or.inr hOld)
  | followUp command delivered hFollowUps =>
      have hDelivered : delivered = true := hRuns
      subst hDelivered
      have hCommand : command = k.command order.id :=
        hCloses.commands command (by
          rw [hFollowUps]
          exact Multiset.mem_cons_self _ _)
      refine Or.inr ?_
      change command.run u.redis = _
      rw [hCommand]
      rcases hCloses.redis with hSame | hRun
      · rw [hSame]
      · rw [hRun, Closing.run_command_twice]
  | listForRebuild | listForReconcile | compare | write
  | resyncDone | evict | evictReservation => cases hAction

/- The slot of a closing call. -/
theorem Request.slot_of_closes
    {request : Request}
    {id : Int}
    (hCloses : request.closes k id = true) :
    request.slot = none := by
  cases request with
  | createOrder => cases k <;> cases hCloses
  | createProduct | onSaleProduct | offSaleProduct
  | initInventory | addInventory | payOrder | finishOrder
  | cancelOrder | cancelExpiredOrder => rfl

/- With the order closed in a step its command is due. -/
theorem Shop.Closes.closing_due
    {core : State}
    {event : Option Event}
    (hCloses : s.Closes k order u)
    (hBefore : statusOf u.core.db order.id = some .pending)
    (hAfter : statusOf core.db order.id = some k.status)
    (hStep : OrderManagement.Step u.core event core)
    (hNoArrival : core.calls.card ≤ u.core.calls.card) :
    k.command order.id ∈ due event + u.followUps := by
  have hApart : k.status ≠ .pending := by
    cases k <;> simp [Closing.status]
  rcases hCloses.sound.core_cases hStep hNoArrival with
    ⟨rfl, hDB, _⟩ | ⟨rfl, _, hTouched⟩ |
      ⟨e, c, rfl, hEventBefore, hEventAfter, hCalls, hSame, _⟩
  · rw [hDB, hBefore] at hAfter
    exact absurd (Option.some.inj hAfter).symm hApart
  · rcases hTouched with ⟨f, _, _, hDB⟩
    rw [hDB] at hAfter
    exact absurd (Option.some.inj (hBefore.symm.trans
      hAfter)).symm hApart
  · have hEvent := (hStep.event hCloses.sound.core).1
    have hCallCloses := hCloses.calls c (by
      rw [hCalls]
      exact Multiset.mem_cons_self _ _)
    rw [← hEventBefore] at hBefore
    rw [← hEventAfter] at hAfter
    refine Multiset.mem_add.mpr (Or.inl (mem_due.mpr ?_))
    exact hEvent.closing_due (hSame ▸ hCallCloses) hBefore
      hAfter

/- The retry at work over a step of the services. -/
theorem Shop.Retried.cored
    {core : State}
    {event : Option Event}
    {c : Call}
    (hFind : s.core.db.orders.find? order.id = some order)
    (hPending : order.status = .pending)
    (hRetries : r.retries s.core.db order)
    (hCloses : s.Closes k order u)
    (hRuns : (Action.core event).Runs k r)
    (hCall : c ∈ u.core.calls)
    (hRequest : c.request = r)
    (hFresh : c.Fresh k order s u)
    (hStep : OrderManagement.Step u.core event core)
    (hNoArrival : core.calls.card ≤ u.core.calls.card) :
    Shop.Retried k r order s
      { u with
        core := core
        followUps := due event + u.followUps } := by
  have hShopStep : Shop.Step u (.core event) _ :=
    Shop.Step.core hStep hNoArrival
  have hLater :=
    hCloses.step (a := .core event) hFind trivial hShopStep
  have hRequestCloses := hCloses.calls c hCall
  have hStatus := hCloses.status hFind hPending
  have hStage : ∀ acquired, c.stage ≠ .keyed acquired := by
    intro acquired hKeyed
    rcases hFresh with hArrived | ⟨_, _, hViewed, _⟩
    · rw [hKeyed] at hArrived
      cases hArrived
    · rw [hKeyed] at hViewed
      cases hViewed
  rcases hStep.call_cases hCloses.sound.core hCall
      (Request.slot_of_closes hRequestCloses) hStage with
    hKept | ⟨rfl, hArrived, hDB, hOpened⟩ |
      ⟨e, rfl, hSame, hEnd⟩
  · -- Another call, or the worker, has taken a step.
    rcases hLater.status hFind hPending with
      hStill | hClosedNow
    · refine Shop.Retried.atWork hKept hRequest ?_
      rcases hFresh with hArrived |
        ⟨acquired, view, hViewed, hGrows, _⟩
      · exact Or.inl hArrived
      · exact Or.inr
          ⟨acquired, view, hViewed, hGrows, Or.inr hStill⟩
    · rcases hFresh with hArrived |
        ⟨acquired, view, hViewed, hGrows, hSeen | hBefore⟩
      · exact Shop.Retried.atWork hKept hRequest
          (Or.inl hArrived)
      · exact Shop.Retried.atWork hKept hRequest (Or.inr
          ⟨acquired, view, hViewed, hGrows, Or.inl hSeen⟩)
      · refine Shop.Retried.settled
          ⟨hClosedNow, fun _ => Or.inl ?_⟩
        exact hCloses.closing_due hBefore hClosedNow hStep
          hNoArrival
  · refine Shop.Retried.atWork hOpened hRequest (Or.inr
      ⟨false, u.core.db, rfl, hCloses.grows, ?_⟩)
    change _ ∨ statusOf core.db order.id = _
    rw [hDB]
    exact hStatus.symm
  · have hCompleted := hRuns e rfl (hSame.trans hRequest)
    rcases hEnd with hLost |
      ⟨acquired, view, now, next, hViewed, hRan⟩
    · rw [hCompleted.1] at hLost
      cases hLost
    rcases hFresh with hArrived |
      ⟨_, view', hViewed', hGrows, hSeen⟩
    · rw [hViewed] at hArrived
      cases hArrived
    rw [hViewed] at hViewed'
    cases hViewed'
    rcases hStep.event hCloses.sound.core with
      ⟨hSound, hBefore, hAfter⟩
    rw [← hBefore] at hSeen hStatus
    rw [← hSame] at hRequestCloses hRequest
    rcases hRan.settles hSound hFind hGrows
        (hRequest ▸ hRetries) hRequestCloses hCompleted hSeen
        hStatus with ⟨hClosed, hDue⟩
    refine Shop.Retried.settled ⟨?_, fun hKind => Or.inl ?_⟩
    · rw [hAfter] at hClosed
      exact hClosed
    · exact Multiset.mem_add.mpr
        (Or.inl (mem_due.mpr (hDue hKind)))

theorem Shop.Retried.step
    (hFind : s.core.db.orders.find? order.id = some order)
    (hPending : order.status = .pending)
    (hRetries : r.retries s.core.db order)
    (hCloses : s.Closes k order u)
    (hAction : a.Closes k order.id)
    (hRuns : a.Runs k r)
    (hRetried : Shop.Retried k r order s u)
    (hStep : Shop.Step u a t) :
    Shop.Retried k r order s t := by
  cases hRetried with
  | settled hSettles =>
      exact Shop.Retried.settled (hSettles.step hFind hPending
        hCloses hAction hRuns hStep)
  | atWork hCall hRequest hFresh =>
      cases hStep with
      | arrive =>
          exact Shop.Retried.atWork
            (Multiset.mem_cons_of_mem hCall) hRequest hFresh
      | core hStep hNoArrival =>
          exact Shop.Retried.cored hFind hPending hRetries
            hCloses hRuns hCall hRequest hFresh hStep
            hNoArrival
      | followUp =>
          exact Shop.Retried.atWork hCall hRequest hFresh
      | listForRebuild | listForReconcile | compare | write
      | resyncDone | evict | evictReservation => cases hAction

/-
  Whatever was lost before, a retry that arrives when no
  more is lost leaves the order closed, and its reservation
  returned, as soon as nothing is in progress.
-/
theorem Shop.Closes.retried_run
    {v : Shop}
    {actions : List Action}
    {delivery : Delivery}
    (hFind : s.core.db.orders.find? order.id = some order)
    (hPending : order.status = .pending)
    (hRetries : r.retries s.core.db order)
    (hCloses : s.Closes k order v)
    (hRun : Transition.Run Shop.Step v actions t)
    (hActions :
      ∀ a ∈ actions, a.Closes k order.id ∧ a.Runs k r)
    (hArrives : .arrive r delivery ∈ actions)
    (hQuiet : t.Quiet) :
    s.Closes k order t ∧
      statusOf t.core.db order.id = some k.status ∧
      (k = .cancellation →
        t.redis = (k.command order.id).run s.redis) := by
  rcases hRun.exists_step_of_mem hArrives with
    ⟨before, after, u, u', rfl, hBefore, hStep, hAfter⟩
  have hArrived : s.Closes k order u := by
    have hClosing : ∀ a ∈ before, a.Closes k order.id :=
      fun a hMem => (hActions a (List.mem_append_left _ hMem)).1
    exact hBefore.invariant_of_labels (P := Shop.Closes k order s)
      (fun _ _ _ => Shop.Closes.step hFind) hClosing hCloses
  have hAction :=
    (hActions (.arrive r delivery) (by simp)).1
  have hAtWork : Shop.Retried k r order s u' := by
    cases hStep with
    | arrive =>
        exact Shop.Retried.atWork (Multiset.mem_cons_self _ _)
          rfl (Or.inl rfl)
  have hBoth :
      s.Closes k order t ∧ Shop.Retried k r order s t := by
    have hRest :
        ∀ a ∈ after, a.Closes k order.id ∧ a.Runs k r :=
      fun a hMem => hActions a (by simp [hMem])
    refine hAfter.invariant_of_labels
      (P := fun u =>
        s.Closes k order u ∧ Shop.Retried k r order s u)
      ?_ hRest ⟨hArrived.step hFind hAction hStep, hAtWork⟩
    intro u a t hAction hState hStep
    exact ⟨hState.1.step hFind hAction.1 hStep,
      hState.2.step hFind hPending hRetries hState.1
        hAction.1 hAction.2 hStep⟩
  refine ⟨hBoth.1, ?_⟩
  cases hBoth.2 with
  | atWork hCall =>
      rw [hQuiet.calls] at hCall
      cases Multiset.notMem_zero _ hCall
  | settled hSettles =>
      refine ⟨hSettles.1, fun hKind => ?_⟩
      refine (hSettles.2 hKind).resolve_left ?_
      rw [hQuiet.followUps]
      exact Multiset.notMem_zero _

end Runs

end OrderManagement
