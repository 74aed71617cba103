import OrderManagement.System.Dispatch
import OrderManagement.System.Lifecycle

/-
  Pending orders and their timeout messages. A message that
  the broker has stored stays with the broker or a consumer
  until its order is no longer pending or a dead letter was
  written. An order can be stranded in one way only: its row
  was claimed ten times, and never published.

  Main declarations:
    * `Dispatch.held`
    * `Dispatch.Accounted` with `Dispatch.Step.accounted`
    * `Covered` and `pending_covered`
    * `pending_stranded`
-/

namespace OrderManagement

open Transaction

variable [Deployment]

------------------------------------------------------------
-- Messages in the Queues
------------------------------------------------------------

omit [Deployment] in
def publishingsOf
    (queued : Multiset (String × Message)) :
    Multiset Publishing :=
  queued.map fun entry => entry.2.publishing

omit [Deployment] in
@[simp] theorem publishingsOf_cons
    (entry : String × Message)
    (queued : Multiset (String × Message)) :
    publishingsOf (entry ::ₘ queued) =
      entry.2.publishing ::ₘ publishingsOf queued :=
  Multiset.map_cons _ _ _

omit [Deployment] in
@[simp] theorem publishingsOf_add
    (queued queued' : Multiset (String × Message)) :
    publishingsOf (queued + queued') =
      publishingsOf queued + publishingsOf queued' :=
  Multiset.map_add _ _ _

omit [Deployment] in
/- The messages that the broker holds, or that a consumer
   has not acknowledged. -/
def Dispatch.held
    (s : Dispatch) : Multiset Publishing :=
  publishingsOf s.queued +
    s.unacked.map (fun delivery => delivery.1.publishing) +
    s.failing.map Message.publishing

omit [Deployment] in
theorem publishingsOf_cancel
    (m : Message) :
    publishingsOf
        (route productionTopology.cancelRoutingKey m) =
      {m.publishing} := by
  rfl

omit [Deployment] in
theorem publishingsOf_failed
    (m : Message) :
    publishingsOf
        (route productionTopology.failedRoutingKey m) =
      {m.publishing} := by
  rfl

omit [Deployment] in
theorem defaultProductionLadders_ne :
    defaultProductionLadders ≠ [] := by
  decide

omit [Deployment] in
/- A worker chooses the key of one of the ladders. -/
theorem routingKey_of_buildOrderTimeoutPublishing
    {now : Time}
    {event : TimeoutEvent}
    {publishing : Publishing}
    {routingKey : String}
    (hBuild :
      buildOrderTimeoutPublishing now event
        productionTopology = .ok (publishing, routingKey)) :
    ∃ ladder ∈ defaultProductionLadders,
      routingKey = ladder.routingKey := by
  have hNamed :
      ∀ ladder ∈ defaultProductionLadders,
        ladder.routingKey ≠ "" := by
    decide
  exact ⟨_, matchDelayLadder_mem defaultProductionLadders_ne _,
    routingKey_eq_of_buildOrderTimeoutPublishing
      defaultProductionLadders_ne hNamed hBuild⟩

omit [Deployment] in
/- The queue of each ladder is bound under its key. -/
theorem publishingsOf_ladder
    {ladder : DelayLadder}
    (hLadder : ladder ∈ defaultProductionLadders)
    (m : Message) :
    publishingsOf (route ladder.routingKey m) =
      {m.publishing} := by
  simp only [defaultProductionLadders, List.mem_cons,
    List.not_mem_nil, or_false] at hLadder
  rcases hLadder with rfl | rfl | rfl <;> rfl

omit [Deployment] in
/- A delivery that is not acknowledged goes back to a queue
   when it is settled. -/
theorem publishingsOf_settled
    (m : Message)
    {verdict : Verdict}
    (hVerdict : verdict ≠ .ack) :
    publishingsOf (settled m verdict) = {m.publishing} := by
  cases verdict with
  | ack => exact absurd rfl hVerdict
  | requeue => rfl
  | reject => exact publishingsOf_failed _

------------------------------------------------------------
-- Expired Orders
------------------------------------------------------------

/- The order was paid or cancelled, or it was finished. -/
def Settled
    (db : DB)
    (orderID : Int) : Prop :=
  ∃ status,
    statusOf db orderID = some status ∧ status ≠ .pending

theorem Settled.grows
    {db db' : DB}
    {orderID : Int}
    (hSettled : Settled db orderID)
    (hGrows : db.Grows db') :
    Settled db' orderID := by
  rcases hSettled with ⟨status, hStatus, hNot⟩
  rcases Option.map_eq_some_iff.mp hStatus with
    ⟨order, hFind, rfl⟩
  rcases hGrows.orders orderID order hFind with
    ⟨order', hFind', hFollows⟩
  refine ⟨order'.status, ?_, ?_⟩
  · unfold statusOf
    rw [hFind']
    rfl
  · intro hPending
    have hBecame := hFollows.status
    rw [hPending] at hBecame
    cases hOld : order.status <;>
      simp_all [OrderStatus.canBecome]

theorem settled_of_find
    {db : DB}
    {order : Order}
    (hFind : db.orders.find? order.id = some order)
    (hStatus : order.status ≠ .pending) :
    Settled db order.id := by
  refine ⟨order.status, ?_, hStatus⟩
  unfold statusOf
  rw [hFind]
  rfl

theorem OrderCancelled.settled
    {db db' : DB}
    {order : Order}
    {now : Time}
    (hCancelled : OrderCancelled db db' order now) :
    Settled db' order.id := by
  refine ⟨.cancelled, ?_, by decide⟩
  rw [OrderMoved.statusOf hCancelled, if_pos rfl]

/- A snapshot that shows the row of an event shows its order
   too. -/
theorem Known.seen
    {view : DB}
    {event : TimeoutEvent}
    (hKnown : Known view event)
    (hKept : OutboxKept view) :
    Dao.getOrderTimeoutOutbox view event.eventID
        event.orderID ≠ none ∧
      view.orders.find? event.orderID ≠ none := by
  constructor
  · rcases known_iff.mp hKnown with ⟨row, hFind, rfl⟩
    have hOrder : (row.orderID = row.event.orderID) := rfl
    unfold Dao.getOrderTimeoutOutbox
    rw [hFind, Option.filter_some, if_pos (by simp [hOrder])]
    exact Option.some_ne_none row
  · rcases hKnown with ⟨row, hMem, rfl⟩
    exact Option.isSome_iff_ne_none.mp (hKept.ofRow row hMem)

/- A message whose row a call can see leaves no pending order
   behind, unless the call fails. -/
theorem Effect.settles
    {view : DB}
    {event : TimeoutEvent}
    {outcome : Outcome}
    {db db' : DB}
    (hEffect :
      Effect view
        (.cancelExpiredOrder event.eventID event.orderID)
        outcome db db')
    (hKnown : Known view event)
    (hKept : OutboxKept view) :
    Settled db' event.orderID := by
  generalize hEventID : event.eventID = eventID at hEffect
  generalize hOrderID : event.orderID = orderID at hEffect
  have hSeen := hKnown.seen hKept
  rw [hEventID, hOrderID] at hSeen
  generalize hRequest :
    Request.cancelExpiredOrder eventID orderID = request
      at hEffect
  cases hEffect with
  | orderExpired _ _ hCancelled =>
      cases hRequest
      exact hCancelled.settled
  | expiryRepeated hFind hCancelled =>
      cases hRequest
      exact settled_of_find hFind (by simp [hCancelled])
  | expiryIgnored hNone =>
      cases hRequest
      rcases hNone with hRow | hOrder | ⟨order, hFind, hStatus⟩
      · exact absurd hRow hSeen.1
      · exact absurd hOrder hSeen.2
      · refine ⟨order.status, ?_, ?_⟩
        · unfold statusOf
          rw [hFind]
          rfl
        · rcases hStatus with hPaid | hFinished
          · simp [hPaid]
          · simp [hFinished]
  | expiryLate hFind hStatus =>
      cases hRequest
      exact settled_of_find hFind hStatus
  | productStatusSame hOther | productStatusSet hOther =>
      rw [← hRequest] at hOther
      rcases hOther with h | h <;> cases h
  | productCreated | inventoryInitialised | inventoryAdded
  | orderCreated | orderReplayed | orderPaid | orderFinished
  | orderCancelled | cancelRepeated => cases hRequest

------------------------------------------------------------
-- Calls of the Consumers
------------------------------------------------------------

/- A call for a message came from an event of the outbox, and
   its snapshot shows the row. -/
def Call.Genuine
    (db : DB)
    (c : Call) : Prop :=
  ∀ eventID orderID,
    c.request = .cancelExpiredOrder eventID orderID →
      ∃ event,
        event.eventID = eventID ∧ event.orderID = orderID ∧
          Known db event ∧
          ∀ acquired view, c.stage = .viewed acquired view →
            Known view event ∧ OutboxKept view

theorem Call.Genuine.grows
    {db db' : DB}
    {c : Call}
    (hGenuine : c.Genuine db)
    (hGrows : db.Grows db') :
    c.Genuine db' := by
  intro eventID orderID hRequest
  rcases hGenuine eventID orderID hRequest with
    ⟨event, hEventID, hOrderID, hKnown, hView⟩
  exact ⟨event, hEventID, hOrderID, hKnown.grows hGrows,
    hView⟩

/- A call that has no snapshot yet may go on. -/
theorem Call.Genuine.stage
    {db : DB}
    {c : Call}
    {stage : Stage}
    (hGenuine : c.Genuine db)
    (hKept : OutboxKept db)
    (hStage :
      ∀ acquired view, stage = .viewed acquired view →
        view = db) :
    Call.Genuine db { c with stage := stage } := by
  intro eventID orderID hRequest
  rcases hGenuine eventID orderID hRequest with
    ⟨event, hEventID, hOrderID, hKnown, _⟩
  refine ⟨event, hEventID, hOrderID, hKnown, ?_⟩
  intro acquired view hViewed
  rw [hStage acquired view hViewed]
  exact ⟨hKnown, hKept⟩

theorem genuine_cons
    {db : DB}
    {c : Call}
    {rest : Multiset Call}
    (hFirst : c.Genuine db)
    (hRest : ∀ c ∈ rest, c.Genuine db) :
    ∀ other ∈ c ::ₘ rest, other.Genuine db := by
  intro other hMem
  rcases Multiset.mem_cons.mp hMem with rfl | hOld
  · exact hFirst
  · exact hRest other hOld

/- The calls in flight stay genuine when one of them goes on
   or ends. -/
theorem InnerStep.genuine
    {s t : State}
    {l : Option Event}
    (hSound : s.Sound)
    (hKept : OutboxKept s.db)
    (hCalls : ∀ c ∈ s.calls, c.Genuine s.db)
    (hInner : InnerStep s l t) :
    ∀ c ∈ t.calls, c.Genuine t.db := by
  have hGrows := hInner.step.grows hSound
  have hCard := hInner.calls
  cases hInner.step with
  | arrive request preDeduct =>
      rw [Multiset.card_cons] at hCard
      omega
  | @insertKey db rest request preDeduct slot =>
      have hFirst := hCalls _ (Multiset.mem_cons_self ..)
      exact genuine_cons (hFirst.stage hKept nofun)
        fun c hMem => hCalls c (Multiset.mem_cons_of_mem hMem)
  | openView | openKeyedView =>
      have hFirst := hCalls _ (Multiset.mem_cons_self ..)
      refine genuine_cons (hFirst.stage hKept ?_)
        fun c hMem => hCalls c (Multiset.mem_cons_of_mem hMem)
      intro acquired view hStage
      cases hStage
      rfl
  | finish | reject | fail =>
      intro c hMem
      have hOld := hCalls c (Multiset.mem_cons_of_mem hMem)
      exact hOld.grows hGrows
  | publish =>
      exact fun c hMem => (hCalls c hMem).grows hGrows

/- A call for a message that succeeds has settled the order
   of the message. -/
theorem Step.settles
    {s t : State}
    {e : Event}
    {event : TimeoutEvent}
    {outcome : Outcome}
    (hSound : s.Sound)
    (hCalls : ∀ c ∈ s.calls, c.Genuine s.db)
    (hStep : Step s (some e) t)
    (hRequest :
      e.request =
        .cancelExpiredOrder event.eventID event.orderID)
    (hOk : e.response = .ok outcome) :
    Settled t.db event.orderID := by
  cases hStep with
  | @finish db db' view rest request preDeduct acquired now
      nextAttemptAt response hRun =>
      have hRequest :
          request =
            .cancelExpiredOrder event.eventID
              event.orderID := hRequest
      have hHere := Multiset.mem_cons_self
        (⟨request, preDeduct, .viewed acquired view⟩ : Call)
        rest
      rcases hCalls _ hHere _ _ hRequest with
        ⟨known, hEventID, hOrderID, _, hView⟩
      rcases hView acquired view rfl with ⟨hKnown, hKept⟩
      have hGrows :=
        (hSound.calls _ hHere).grows acquired view rfl
      rcases Request.run_eq hRun with
        ⟨outcome, _, hCommit⟩ | ⟨_, hError, _⟩
      · have hEffect :=
          effect_of_commits hSound.wellFormed hGrows hCommit
        rw [hRequest, ← hEventID, ← hOrderID] at hEffect
        rw [← hOrderID]
        exact hEffect.settles hKnown hKept
      · have hOk : response = .ok outcome := hOk
        rw [hError] at hOk
        cases hOk
  | reject => cases hOk
  | fail => cases hOk

------------------------------------------------------------
-- Deliveries
------------------------------------------------------------

/- What a consumer knows of a delivery: the event it has read
   from the body, and that the order is settled when its call
   has succeeded. -/
def Handling.Sound
    (db : DB)
    (m : Message) : Handling → Prop
| .delivered => True
| .cancelling event =>
    decodeEvent m.publishing.body = .ok event
| .cancelled event result =>
    decodeEvent m.publishing.body = .ok event ∧
      ∀ outcome, result = .ok outcome →
        Settled db event.orderID

theorem Handling.Sound.grows
    {db db' : DB}
    {m : Message}
    {handling : Handling}
    (hSound : handling.Sound db m)
    (hGrows : db.Grows db') :
    handling.Sound db' m := by
  cases handling with
  | delivered => trivial
  | cancelling event => exact hSound
  | cancelled event result =>
      exact ⟨hSound.1, fun outcome hOk =>
        (hSound.2 outcome hOk).grows hGrows⟩

omit [Deployment] in
/- Only a call that has succeeded lets a consumer ack. -/
theorem ok_of_settleDelivery
    {body : MessageBody}
    {headers : Option Headers}
    {result : Except Err Outcome}
    (hVerdict :
      settleDelivery body headers result = .ack) :
    ∃ outcome, result = .ok outcome := by
  unfold settleDelivery at hVerdict
  split at hVerdict
  case h_1 => cases hVerdict
  case h_2 =>
    split at hVerdict
    case h_1 outcome => exact ⟨outcome, rfl⟩
    case h_2 => split at hVerdict <;> cases hVerdict

------------------------------------------------------------
-- Stored Messages
------------------------------------------------------------

/- A dead letter was written for a delivery of the message. -/
def Dispatch.Buried
    (s : Dispatch)
    (publishing : Publishing) : Prop :=
  ∃ letter ∈ s.deadLetters,
    ∃ now m,
      letter.1 = deadLetterOf now m ∧
        m.publishing = publishing

/-
  The messages in the system are those of the outbox, and of
  each message that was stored it is known where it is: it is
  held, it was buried, or its order is settled.
-/
structure Dispatch.Accounted
    (s : Dispatch) : Prop where
  published : s.Published
  genuine :
    ∀ publishing ∈ s.held,
      ∃ event,
        Known s.core.db event ∧ Carries publishing event
  calls : ∀ c ∈ s.core.calls, c.Genuine s.core.db
  handled :
    ∀ delivery ∈ s.unacked,
      delivery.2.Sound s.core.db delivery.1
  confirmed :
    ∀ publishing ∈ s.log.confirmed,
      publishing ∈ s.log.stored
  stored :
    ∀ publishing ∈ s.log.stored,
      publishing ∈ s.held ∨ s.Buried publishing ∨
        ∃ event,
          Carries publishing event ∧
            Settled s.core.db event.orderID

theorem Dispatch.accounted_initial :
    Dispatch.initial.Accounted where
  published := Dispatch.published_initial
  genuine publishing hMem := by cases hMem
  calls c hMem := by cases hMem
  handled delivery hMem := by cases hMem
  confirmed publishing hMem := by cases hMem
  stored publishing hMem := by cases hMem

theorem Dispatch.Buried.more
    {s t : Dispatch}
    {publishing : Publishing}
    (hBuried : s.Buried publishing)
    (hLetters :
      ∀ letter ∈ s.deadLetters, letter ∈ t.deadLetters) :
    t.Buried publishing := by
  rcases hBuried with ⟨letter, hMem, hLetter⟩
  exact ⟨letter, hLetters letter hMem, hLetter⟩

/- A step that only moves messages loses none of them. -/
theorem Dispatch.Accounted.moved
    {s t : Dispatch}
    (hOld : s.Accounted)
    (hPublished : t.Published)
    (hGrows : s.core.db.Grows t.core.db)
    (hHeld : t.held = s.held)
    (hLog : t.log.stored = s.log.stored)
    (hConfirmed :
      ∀ publishing ∈ t.log.confirmed,
        publishing ∈ s.log.stored)
    (hLetters :
      ∀ letter ∈ s.deadLetters, letter ∈ t.deadLetters)
    (hCalls : ∀ c ∈ t.core.calls, c.Genuine t.core.db)
    (hHandled :
      ∀ delivery ∈ t.unacked,
        delivery.2.Sound t.core.db delivery.1) :
    t.Accounted where
  published := hPublished
  genuine publishing hMem := by
    rcases hOld.genuine publishing (hHeld ▸ hMem) with
      ⟨event, hKnown, hCarries⟩
    exact ⟨event, hKnown.grows hGrows, hCarries⟩
  calls := hCalls
  handled := hHandled
  confirmed publishing hMem :=
    hLog ▸ hConfirmed publishing hMem
  stored publishing hMem := by
    rcases hOld.stored publishing (hLog ▸ hMem) with
      hHere | hBuried | ⟨event, hCarries, hSettled⟩
    · exact Or.inl (hHeld ▸ hHere)
    · exact Or.inr (Or.inl (hBuried.more hLetters))
    · exact Or.inr (Or.inr
        ⟨event, hCarries, hSettled.grows hGrows⟩)

omit [Deployment] in
theorem Carries.unique
    {publishing : Publishing}
    {event event' : TimeoutEvent}
    (hCarries : Carries publishing event)
    (hDecode : decodeEvent publishing.body = .ok event') :
    event' = event := by
  rw [hCarries.2] at hDecode
  cases hDecode
  rfl

/- The deliveries are handled as before when one of them goes
   on, or away. -/
theorem Dispatch.Accounted.handled_cons
    {s : Dispatch}
    {m : Message}
    {handling handling' : Handling}
    {rest : Multiset (Message × Handling)}
    {db : DB}
    (hOld : s.Accounted)
    (hUnacked : s.unacked = (m, handling) ::ₘ rest)
    (hGrows : s.core.db.Grows db)
    (hHere : handling'.Sound db m) :
    ∀ delivery ∈ (m, handling') ::ₘ rest,
      delivery.2.Sound db delivery.1 := by
  intro delivery hMem
  rcases Multiset.mem_cons.mp hMem with rfl | hRest
  · exact hHere
  · have hOther := hOld.handled delivery
      (hUnacked ▸ Multiset.mem_cons_of_mem hRest)
    exact hOther.grows hGrows

theorem Dispatch.Accounted.handled_rest
    {s : Dispatch}
    {m : Message}
    {handling : Handling}
    {rest : Multiset (Message × Handling)}
    (hOld : s.Accounted)
    (hUnacked : s.unacked = (m, handling) ::ₘ rest) :
    ∀ delivery ∈ rest,
      delivery.2.Sound s.core.db delivery.1 :=
  fun delivery hMem =>
    hOld.handled delivery
      (hUnacked ▸ Multiset.mem_cons_of_mem hMem)

/- A delivery that decodes does so to an event of an order. -/
theorem Dispatch.Accounted.carried
    {s : Dispatch}
    {m : Message}
    {handling : Handling}
    {rest : Multiset (Message × Handling)}
    {event : TimeoutEvent}
    (hOld : s.Accounted)
    (hUnacked : s.unacked = (m, handling) ::ₘ rest)
    (hDecode : decodeEvent m.publishing.body = .ok event) :
    Known s.core.db event ∧ Carries m.publishing event := by
  have hMem : m.publishing ∈ s.held := by
    simp [Dispatch.held, hUnacked]
  rcases hOld.genuine _ hMem with ⟨event', hKnown, hCarries⟩
  rw [hCarries.unique hDecode]
  exact ⟨hKnown, hCarries⟩

/- A message may leave the system when it was buried or when
   its order is settled. -/
theorem Dispatch.Accounted.removed
    {s t : Dispatch}
    (hOld : s.Accounted)
    (gone : Publishing)
    (hPublished : t.Published)
    (hCore : t.core = s.core)
    (hHeld : s.held = gone ::ₘ t.held)
    (hLog : t.log = s.log)
    (hLetters :
      ∀ letter ∈ s.deadLetters, letter ∈ t.deadLetters)
    (hHandled :
      ∀ delivery ∈ t.unacked,
        delivery.2.Sound s.core.db delivery.1)
    (hGone :
      t.Buried gone ∨
        ∃ event,
          Carries gone event ∧
            Settled s.core.db event.orderID) :
    t.Accounted where
  published := hPublished
  genuine publishing hMem := by
    rw [hCore]
    exact hOld.genuine publishing
      (hHeld ▸ Multiset.mem_cons_of_mem hMem)
  calls := hCore ▸ hOld.calls
  handled := hCore ▸ hHandled
  confirmed := hLog ▸ hOld.confirmed
  stored publishing hMem := by
    rw [hCore]
    rcases hOld.stored publishing (hLog ▸ hMem) with
      hHere | hBuried | hSettled
    · rw [hHeld] at hHere
      rcases Multiset.mem_cons.mp hHere with rfl | hStill
      · exact Or.inr hGone
      · exact Or.inl hStill
    · exact Or.inr (Or.inl (hBuried.more hLetters))
    · exact Or.inr (Or.inr hSettled)

/- The broker stores a message of a worker. -/
theorem Dispatch.Accounted.publisher
    {s : Dispatch}
    {config : WorkerConfig}
    {p p' : Publisher}
    {rest : Multiset Publisher}
    {h : Handover}
    {db : DB}
    (hDeployed : config.topology = productionTopology)
    (hPublishers : s.publishers = p ::ₘ rest)
    (hStep : PublisherStep config s.core.db p h db p')
    (hOld : s.Accounted)
    (hPublished :
      Dispatch.Published
        { s with
          core := { s.core with db := db }
          publishers := p' ::ₘ rest
          log := s.log.record h
          queued := h.messages + s.queued }) :
    Dispatch.Accounted
      { s with
        core := { s.core with db := db }
        publishers := p' ::ₘ rest
        log := s.log.record h
        queued := h.messages + s.queued } := by
  have hGrows := hStep.touched.grows
  have hHolds := hOld.published.publishers p
    (hPublishers ▸ Multiset.mem_cons_self p rest)
  have hCalls :
      ∀ c ∈ s.core.calls, c.Genuine db :=
    fun c hMem => (hOld.calls c hMem).grows hGrows
  have hHandled :
      ∀ delivery ∈ s.unacked,
        delivery.2.Sound db delivery.1 :=
    fun delivery hMem =>
      (hOld.handled delivery hMem).grows hGrows
  cases h with
  | none =>
      refine hOld.moved hPublished hGrows ?_ rfl
        hOld.confirmed (fun _ h => h) hCalls hHandled
      simp [Dispatch.held, Handover.messages]
  | confirmed publishing =>
      refine hOld.moved hPublished hGrows ?_ rfl ?_
        (fun _ h => h) hCalls hHandled
      · simp [Dispatch.held, Handover.messages]
      · intro other hMem
        rcases List.mem_cons.mp hMem with rfl | hOther
        · exact hStep.confirmed hHolds
        · exact hOld.confirmed other hOther
  | stored publishing routingKey =>
      rcases hStep.stored hHolds with
        ⟨event, now, hKnown, hCarries, hBuild⟩
      rw [hDeployed] at hBuild
      rcases routingKey_of_buildOrderTimeoutPublishing hBuild
        with ⟨ladder, hLadder, rfl⟩
      have hHeld :
          Dispatch.held
              { s with
                core := { s.core with db := db }
                publishers := p' ::ₘ rest
                log := s.log.record
                  (.stored publishing ladder.routingKey)
                queued :=
                  Handover.messages
                      (.stored publishing ladder.routingKey) +
                    s.queued } =
            publishing ::ₘ s.held := by
        simp [Dispatch.held, Handover.messages,
          publishingsOf_ladder hLadder]
      constructor
      case published => exact hPublished
      case calls => exact hCalls
      case handled => exact hHandled
      case confirmed =>
        exact fun other hMem =>
          List.mem_cons_of_mem _ (hOld.confirmed other hMem)
      case genuine =>
        intro other hMem
        rw [hHeld] at hMem
        rcases Multiset.mem_cons.mp hMem with rfl | hOther
        · exact ⟨event, hKnown.grows hGrows, hCarries⟩
        · rcases hOld.genuine other hOther with
            ⟨event', hKnown', hCarries'⟩
          exact ⟨event', hKnown'.grows hGrows, hCarries'⟩
      case stored =>
        intro other hMem
        rw [hHeld]
        rcases List.mem_cons.mp hMem with rfl | hOther
        · exact Or.inl (Multiset.mem_cons_self _ _)
        · rcases hOld.stored other hOther with
            hHere | hBuried | ⟨event', hCarries', hSettled⟩
          · exact Or.inl (Multiset.mem_cons_of_mem hHere)
          · exact Or.inr (Or.inl hBuried)
          · exact Or.inr (Or.inr
              ⟨event', hCarries', hSettled.grows hGrows⟩)

theorem Dispatch.buried_cons
    {s : Dispatch}
    (now : Time)
    (m : Message)
    (handled : Handled)
    (failing : Multiset Message) :
    Dispatch.Buried
      { s with
        failing := failing
        deadLetters :=
          (deadLetterOf now m, handled) :: s.deadLetters }
      m.publishing :=
  ⟨_, List.mem_cons_self .., now, m, rfl, rfl⟩

theorem Dispatch.Step.accounted
    {s t : Dispatch}
    {l : Option Event}
    (hSound : s.core.Sound)
    (hKept : OutboxKept s.core.db)
    (hOld : s.Accounted)
    (hStep : Dispatch.Step s l t) :
    t.Accounted := by
  have hPublished := hStep.published hSound hOld.published
  have hRefl := DB.Grows.refl s.core.db
  cases hStep with
  | arrive request preDeduct hUser =>
      refine hOld.moved hPublished hRefl rfl rfl hOld.confirmed
        (fun _ h => h) ?_ hOld.handled
      refine genuine_cons ?_ hOld.calls
      exact fun eventID orderID hRequest =>
        absurd hRequest (hUser eventID orderID)
  | service hInner =>
      have hGrows := hInner.step.grows hSound
      refine hOld.moved hPublished hGrows rfl rfl
        hOld.confirmed (fun _ h => h) ?_ ?_
      · exact hInner.genuine hSound hKept hOld.calls
      · exact fun delivery hMem =>
          (hOld.handled delivery hMem).grows hGrows
  | join =>
      exact hOld.moved hPublished hRefl rfl rfl hOld.confirmed
        (fun _ h => h) hOld.calls hOld.handled
  | publisher hDeployed hPublishers hStep =>
      exact hOld.publisher hDeployed hPublishers hStep
        hPublished
  | expire hLadder hQueued =>
      refine hOld.moved hPublished hRefl ?_ rfl hOld.confirmed
        (fun _ h => h) hOld.calls hOld.handled
      simp [Dispatch.held, hQueued, publishingsOf_cancel,
        Message.died]
  | deliver hQueued =>
      refine hOld.moved hPublished hRefl ?_ rfl hOld.confirmed
        (fun _ h => h) hOld.calls ?_
      · simp [Dispatch.held, hQueued]
      · intro delivery hMem
        rcases Multiset.mem_cons.mp hMem with rfl | hRest
        · trivial
        · exact hOld.handled delivery hRest
  | @rejectInvalid m rest e hUnacked hDecode =>
      have hReject : Verdict.reject ≠ .ack := nofun
      refine hOld.moved hPublished hRefl ?_ rfl hOld.confirmed
        (fun _ h => h) hOld.calls (hOld.handled_rest hUnacked)
      simp [Dispatch.held, hUnacked,
        publishingsOf_settled m hReject]
  | @callCanceller m rest event hUnacked hDecode =>
      have hKnown := (hOld.carried hUnacked hDecode).1
      refine hOld.moved hPublished hRefl ?_ rfl hOld.confirmed
        (fun _ h => h) ?_
        (hOld.handled_cons hUnacked hRefl hDecode)
      · simp [Dispatch.held, hUnacked]
      · refine genuine_cons ?_ hOld.calls
        intro eventID orderID hRequest
        cases hRequest
        exact ⟨event, rfl, rfl, hKnown, nofun⟩
  | @answer core m rest event e hUnacked hCore hRequest =>
      have hGrows := hCore.grows hSound
      have hDecode := hOld.handled (m, .cancelling event)
        (hUnacked ▸ Multiset.mem_cons_self ..)
      refine hOld.moved hPublished hGrows ?_ rfl
        hOld.confirmed (fun _ h => h) ?_
        (hOld.handled_cons hUnacked hGrows ⟨hDecode, ?_⟩)
      · simp [Dispatch.held, hUnacked]
      · exact hCore.inner.genuine hSound hKept hOld.calls
      · exact fun outcome hOk =>
          hCore.settles hSound hOld.calls hRequest hOk
  | @settle m rest event result hUnacked =>
      by_cases hAck :
          settleDelivery m.publishing.body m.headers result =
            .ack
      · rcases ok_of_settleDelivery hAck with ⟨outcome, hOk⟩
        have hHandled := hOld.handled
          (m, .cancelled event result)
          (hUnacked ▸ Multiset.mem_cons_self ..)
        have hCarries :=
          (hOld.carried hUnacked hHandled.1).2
        refine hOld.removed m.publishing hPublished rfl ?_
          rfl (fun _ h => h) (hOld.handled_rest hUnacked)
          (Or.inr ⟨event, hCarries, ?_⟩)
        · simp [Dispatch.held, hUnacked, hAck, settled]
        · exact hHandled.2 outcome hOk
      · refine hOld.moved hPublished hRefl ?_ rfl
          hOld.confirmed (fun _ h => h) hOld.calls
          (hOld.handled_rest hUnacked)
        simp [Dispatch.held, hUnacked,
          publishingsOf_settled m hAck]
  | @loseDelivery m handling rest hUnacked =>
      have hRequeue : Verdict.requeue ≠ .ack := nofun
      refine hOld.moved hPublished hRefl ?_ rfl hOld.confirmed
        (fun _ h => h) hOld.calls (hOld.handled_rest hUnacked)
      simp [Dispatch.held, hUnacked,
        publishingsOf_settled m hRequeue]
  | deliverFailed hQueued =>
      refine hOld.moved hPublished hRefl ?_ rfl hOld.confirmed
        (fun _ h => h) hOld.calls hOld.handled
      simp [Dispatch.held, hQueued]
  | @handleFailed m rest now handled acknowledged hFailing =>
      cases acknowledged with
      | false =>
          exact hOld.moved hPublished hRefl rfl rfl
            hOld.confirmed
            (fun _ h => List.mem_cons_of_mem _ h) hOld.calls
            hOld.handled
      | true =>
          refine hOld.removed m.publishing hPublished rfl ?_
            rfl (fun _ h => List.mem_cons_of_mem _ h)
            hOld.handled
            (Or.inl (Dispatch.buried_cons now m handled _))
          simp [Dispatch.held, hFailing]
  | loseFailed hFailing =>
      refine hOld.moved hPublished hRefl ?_ rfl hOld.confirmed
        (fun _ h => h) hOld.calls hOld.handled
      simp [Dispatch.held, hFailing]

------------------------------------------------------------
-- Pending Orders
------------------------------------------------------------

/- A later claim may still select the row. -/
def OrderTimeoutOutbox.Selectable
    (row : OrderTimeoutOutbox) : Prop :=
  row.publishedAt = none ∧
    row.attempts < defaultMaxOutboxAttempts

/- The row was not published by as many claims as there may
   be, and no claim selects it again. -/
def OrderTimeoutOutbox.UsedUp
    (row : OrderTimeoutOutbox) : Prop :=
  row.publishedAt = none ∧
    defaultMaxOutboxAttempts ≤ row.attempts

/- A message of the row is on its way, or it has ended in a
   dead letter. -/
def Dispatch.Tracks
    (s : Dispatch)
    (row : OrderTimeoutOutbox) : Prop :=
  (∃ publishing ∈ s.held, Carries publishing row.event) ∨
    ∃ letter ∈ s.deadLetters,
      letter.1.eventID = row.eventID ∧
        letter.1.orderID = row.orderID

theorem Dispatch.Buried.tracks
    {s : Dispatch}
    {publishing : Publishing}
    {row : OrderTimeoutOutbox}
    (hBuried : s.Buried publishing)
    (hCarries : Carries publishing row.event) :
    s.Tracks row := by
  rcases hBuried with ⟨letter, hMem, now, m, hLetter, rfl⟩
  refine Or.inr ⟨letter, hMem, ?_⟩
  rw [hLetter]
  unfold deadLetterOf
  rw [hCarries.1]
  exact ⟨rfl, rfl⟩

/-
  In every reachable state, a pending order has a row that a
  later claim can select, or its claims are used up, or its
  message is held by the broker or a delivery, or it has a
  dead letter.
-/
theorem pending_covered
    {s : Dispatch}
    (hReachable : s.Reachable)
    {order : Order}
    (hFind : s.core.db.orders.find? order.id = some order)
    (hPending : order.status = .pending) :
    ∃ row,
      outboxOf s.core.db order.id = [row] ∧
        (row.Selectable ∨ row.UsedUp ∨ s.Tracks row) := by
  have hAccounted : s.Accounted :=
    hReachable.invariant Dispatch.accounted_initial
      fun _ _ _ hSound hKept hOld hStep =>
        hStep.accounted hSound hKept hOld
  rcases hReachable.core with ⟨events, hReaches⟩
  rcases hReaches.outboxKept.ofOrder _ _ hFind with
    ⟨row, hRow, _⟩
  have hIn : row ∈ outboxOf s.core.db order.id := by
    simp [hRow]
  have hMem := (List.mem_filter.mp hIn).1
  have hOrder : row.orderID = order.id := by
    simpa using (List.mem_filter.mp hIn).2
  refine ⟨row, hRow, ?_⟩
  cases hPublished : row.publishedAt with
  | none =>
      by_cases hFew : row.attempts < defaultMaxOutboxAttempts
      · exact Or.inl ⟨hPublished, hFew⟩
      · exact Or.inr (Or.inl
          ⟨hPublished, Int.not_lt.mp hFew⟩)
  | some time =>
      right; right
      rcases hAccounted.published.allConfirmed row hMem
          (by simp [hPublished]) with
        ⟨publishing, hConfirmed, hCarries⟩
      rcases hAccounted.stored publishing
          (hAccounted.confirmed publishing hConfirmed) with
        hHeld | hBuried | ⟨event, hOther, hSettled⟩
      · exact Or.inl ⟨publishing, hHeld, hCarries⟩
      · exact hBuried.tracks hCarries
      · have hSame := hOther.unique hCarries.2
        rcases hSettled with ⟨status, hStatus, hNot⟩
        have hID : event.orderID = order.id := by
          rw [← hSame]
          exact hOrder
        unfold statusOf at hStatus
        rw [hID, hFind] at hStatus
        cases hStatus
        exact absurd hPending hNot

end OrderManagement

------------------------------------------------------------
-- A Stranded Order
------------------------------------------------------------

namespace OrderManagement

open Transaction

attribute [local instance] sampleDeployment

/- The database after a worker has claimed its rows. -/
def sampleClaimed
    (now : Time)
    (db : DB) : DB :=
  match (sampleClaim now).run db with
  | .ok (_, db') => db'
  | .error _ => db

/- The worker claims rows and stops at once. -/
theorem sampleDispatch_claimed
    {db : DB}
    (now : Time)
    (hReachable :
      (sampleDispatch db .idle ⟨[], []⟩ 0).Reachable) :
    (sampleDispatch (sampleClaimed now db) .idle ⟨[], []⟩
      0).Reachable := by
  unfold sampleClaimed
  split
  case h_1 events db' hOk =>
    have hHeld := sampleDispatch_step hReachable (.claim hOk)
    have hStopped := sampleDispatch_step hHeld (.stop _ _)
    simpa [Handover.messages, BrokerLog.record]
      using hStopped
  case h_2 => exact hReachable

/- Ten claims, each after the lease of the one before. -/
def sampleClaimTimes : List Time :=
  [0, 30000, 60000, 90000, 120000, 150000, 180000, 210000,
    240000, 270000]

def sampleStranded : DB :=
  sampleClaimTimes.foldl (fun db now => sampleClaimed now db)
    (serialDB DB.empty sampleCalls)

theorem sampleStranded_reachable :
    (sampleDispatch sampleStranded .idle ⟨[], []⟩
      0).Reachable := by
  unfold sampleStranded
  generalize sampleClaimTimes = times
  have hStart := sampleDispatch_reachable
  generalize serialDB DB.empty sampleCalls = db at hStart ⊢
  induction times generalizing db with
  | nil => exact hStart
  | cons now times ih =>
      exact ih _ (sampleDispatch_claimed now hStart)

theorem pending_covered_sample :
    ∃ row,
      outboxOf sampleStranded 7 = [row] ∧
        (row.Selectable ∨ row.UsedUp ∨
          (sampleDispatch sampleStranded .idle ⟨[], []⟩
            0).Tracks row) := by
  have hPending :
      ((sampleStranded.orders.find? 7).map fun order =>
        (order.id, order.status)) = some (7, .pending) := by
    decide +kernel
  rcases Option.map_eq_some_iff.mp hPending with
    ⟨order, hFind, hOrder⟩
  rcases Prod.mk.inj hOrder with ⟨hID, hStatus⟩
  rw [← hID] at hFind ⊢
  exact pending_covered sampleStranded_reachable hFind hStatus

/- The sample order is pending, ten claims of its row were
   lost, and there is no message of it. -/
theorem pending_stranded :
    ∃ s : Dispatch,
      s.Reachable ∧
        statusOf s.core.db 7 = some .pending ∧
        (∀ row ∈ s.core.db.orderTimeoutOutbox.rows,
          ¬ row.Selectable) ∧
        s.held = 0 ∧
        s.deadLetters = [] := by
  refine ⟨_, sampleStranded_reachable, ?_, ?_, rfl, rfl⟩
  · show statusOf sampleStranded 7 = some .pending
    decide +kernel
  · have hUsed :
        ∀ row ∈ sampleStranded.orderTimeoutOutbox.rows,
          defaultMaxOutboxAttempts ≤ row.attempts := by
      decide +kernel
    intro row hMem hSelectable
    exact absurd hSelectable.2
      (Int.not_lt.mpr (hUsed row hMem))

end OrderManagement
