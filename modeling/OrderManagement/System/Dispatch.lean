import OrderManagement.Ordertimeout.Poison
import OrderManagement.Ordertimeout.Publisher
import OrderManagement.System.Outbox
import OrderManagement.System.Serial

/-
  The services together with the workers and the broker. Any
  number of workers publish the rows of the outbox, and the
  consumers hand the messages that come back to the service.
  A worker or a consumer may be lost after any step, and the
  broker may be away for any time.

  Main declarations:
    * `Dispatch` and `Dispatch.Step`
    * `Dispatch.Step.core`
    * `Dispatch.Published` with `Dispatch.Step.published`
    * `outbox_sound`
-/

namespace OrderManagement

open Transaction

variable [Deployment]

------------------------------------------------------------
-- States
------------------------------------------------------------

/- What a consumer has done with a delivery so far. -/
inductive Handling
| delivered
| cancelling (event : TimeoutEvent)
| cancelled
    (event : TimeoutEvent)
    (result : Except Err Outcome)

/- Whether a dead letter was stored, or only logged. -/
inductive Handled
| stored
| fallbackLogged
deriving DecidableEq

/-
  The services, the workers, and the broker: the messages in
  its queues, and those that were delivered from the cancel
  queue and from the failed queue without an ack.
-/
structure Dispatch where
  core : State
  publishers : Multiset Publisher
  log : BrokerLog
  queued : Multiset (String × Message)
  unacked : Multiset (Message × Handling)
  failing : Multiset Message
  deadLetters : List (DeadLetter × Handled)

def Dispatch.initial : Dispatch where
  core := State.initial
  publishers := 0
  log := ⟨[], []⟩
  queued := 0
  unacked := 0
  failing := 0
  deadLetters := []

omit [Deployment] in
/- The messages that the exchange stores in the queues. -/
def route
    (routingKey : String)
    (m : Message) : Multiset (String × Message) :=
  (productionTopology.queuesOf routingKey).map
    fun queue => (queue, m)

omit [Deployment] in
def Handover.messages :
    Handover → Multiset (String × Message)
| .stored publishing routingKey =>
    route routingKey
      { publishing := publishing, headers := Option.none }
| .none | .confirmed _ => 0

omit [Deployment] in
/- A message after it has died in a queue. -/
def Message.died
    (queue reason : String)
    (m : Message) : Message :=
  { m with headers := recordDeath queue reason m.headers }

omit [Deployment] in
/- Where a message goes when its delivery is settled. -/
def settled
    (m : Message) : Verdict → Multiset (String × Message)
| .ack => 0
| .requeue => {(productionTopology.cancelQueue, m)}
| .reject =>
    route productionTopology.failedRoutingKey
      (m.died productionTopology.cancelQueue "rejected")

------------------------------------------------------------
-- Steps
------------------------------------------------------------

/-
  Only the consumers call CancelExpiredOrder. A call whose
  delivery was lost runs on, and no one waits for it.
-/
inductive Dispatch.Step :
    Dispatch → Option Event → Dispatch → Prop
| arrive
    (s : Dispatch)
    (request : Request)
    (preDeduct : PreDeduct)
    (hUser :
      ∀ eventID orderID,
        request ≠ .cancelExpiredOrder eventID orderID) :
    Dispatch.Step s none
      { s with
        core :=
          { s.core with
            calls :=
              ⟨request, preDeduct, .arrived⟩ ::ₘ
                s.core.calls } }
| service
    {s : Dispatch}
    {core : State}
    {l : Option Event}
    (hInner : InnerStep s.core l core) :
    Dispatch.Step s l { s with core := core }
| join
    (s : Dispatch) :
    Dispatch.Step s none
      { s with publishers := .idle ::ₘ s.publishers }
| publisher
    {s : Dispatch}
    {config : WorkerConfig}
    {p p' : Publisher}
    {rest : Multiset Publisher}
    {h : Handover}
    {db : DB}
    (hDeployed : config.topology = productionTopology)
    (hPublishers : s.publishers = p ::ₘ rest)
    (hStep : PublisherStep config s.core.db p h db p') :
    Dispatch.Step s none
      { s with
        core := { s.core with db := db }
        publishers := p' ::ₘ rest
        log := s.log.record h
        queued := h.messages + s.queued }
| expire
    {s : Dispatch}
    {ladder : DelayLadder}
    {m : Message}
    {rest : Multiset (String × Message)}
    (hLadder : ladder ∈ productionTopology.ladders)
    (hQueued : s.queued = (ladder.queueName, m) ::ₘ rest) :
    Dispatch.Step s none
      { s with
        queued :=
          route productionTopology.cancelRoutingKey
              (m.died ladder.queueName "expired") + rest }
| deliver
    {s : Dispatch}
    {m : Message}
    {rest : Multiset (String × Message)}
    (hQueued :
      s.queued =
        (productionTopology.cancelQueue, m) ::ₘ rest) :
    Dispatch.Step s none
      { s with
        queued := rest
        unacked := (m, .delivered) ::ₘ s.unacked }
| rejectInvalid
    {s : Dispatch}
    {m : Message}
    {rest : Multiset (Message × Handling)}
    {e : String}
    (hUnacked : s.unacked = (m, .delivered) ::ₘ rest)
    (hDecode : decodeEvent m.publishing.body = .error e) :
    Dispatch.Step s none
      { s with
        queued := settled m .reject + s.queued
        unacked := rest }
| callCanceller
    {s : Dispatch}
    {m : Message}
    {rest : Multiset (Message × Handling)}
    {event : TimeoutEvent}
    (hUnacked : s.unacked = (m, .delivered) ::ₘ rest)
    (hDecode : decodeEvent m.publishing.body = .ok event) :
    Dispatch.Step s none
      { s with
        core :=
          { s.core with
            calls :=
              ⟨.cancelExpiredOrder event.eventID
                event.orderID, .skipped, .arrived⟩ ::ₘ
                s.core.calls }
        unacked := (m, .cancelling event) ::ₘ rest }
| answer
    {s : Dispatch}
    {core : State}
    {m : Message}
    {rest : Multiset (Message × Handling)}
    {event : TimeoutEvent}
    {e : Event}
    (hUnacked : s.unacked = (m, .cancelling event) ::ₘ rest)
    (hStep : OrderManagement.Step s.core (some e) core)
    (hRequest :
      e.request =
        .cancelExpiredOrder event.eventID event.orderID) :
    Dispatch.Step s (some e)
      { s with
        core := core
        unacked :=
          (m, .cancelled event e.response) ::ₘ rest }
| settle
    {s : Dispatch}
    {m : Message}
    {rest : Multiset (Message × Handling)}
    {event : TimeoutEvent}
    {result : Except Err Outcome}
    (hUnacked :
      s.unacked = (m, .cancelled event result) ::ₘ rest) :
    Dispatch.Step s none
      { s with
        queued :=
          settled m
              (settleDelivery m.publishing.body m.headers
                result) + s.queued
        unacked := rest }
| loseDelivery
    {s : Dispatch}
    {m : Message}
    {handling : Handling}
    {rest : Multiset (Message × Handling)}
    (hUnacked : s.unacked = (m, handling) ::ₘ rest) :
    Dispatch.Step s none
      { s with
        queued := settled m .requeue + s.queued
        unacked := rest }
| deliverFailed
    {s : Dispatch}
    {m : Message}
    {rest : Multiset (String × Message)}
    (hQueued :
      s.queued =
        (productionTopology.failedQueue, m) ::ₘ rest) :
    Dispatch.Step s none
      { s with
        queued := rest
        failing := m ::ₘ s.failing }
| handleFailed
    {s : Dispatch}
    {m : Message}
    {rest : Multiset Message}
    (now : Time)
    (handled : Handled)
    (acknowledged : Bool)
    (hFailing : s.failing = m ::ₘ rest) :
    Dispatch.Step s none
      { s with
        failing := if acknowledged then rest else s.failing
        deadLetters :=
          (deadLetterOf now m, handled) :: s.deadLetters }
| loseFailed
    {s : Dispatch}
    {m : Message}
    {rest : Multiset Message}
    (hFailing : s.failing = m ::ₘ rest) :
    Dispatch.Step s none
      { s with
        queued :=
          (productionTopology.failedQueue, m) ::ₘ s.queued
        failing := rest }

/- To the services, a step is one of theirs, or nothing. -/
theorem Dispatch.Step.core
    {s t : Dispatch}
    {l : Option Event}
    (hStep : Dispatch.Step s l t) :
    l = none ∧ t.core = s.core ∨
      OrderManagement.Step s.core l t.core := by
  cases hStep with
  | arrive request preDeduct =>
      exact Or.inr (.arrive s.core request preDeduct)
  | service hInner => exact Or.inr hInner.step
  | publisher _ _ hStep =>
      exact Or.inr (.publish hStep.touched)
  | callCanceller => exact Or.inr (.arrive s.core _ _)
  | answer _ hStep => exact Or.inr hStep
  | join | expire | deliver | rejectInvalid | settle
  | loseDelivery | deliverFailed | handleFailed
  | loseFailed => exact Or.inl ⟨rfl, rfl⟩

/- A state that a run of the whole system reaches. -/
def Dispatch.Reachable
    (s : Dispatch) : Prop :=
  ∃ ls, Transition.Run Dispatch.Step .initial ls s

theorem Dispatch.Reachable.core
    {s : Dispatch}
    (hReachable : s.Reachable) :
    ∃ events, Reaches events s.core := by
  rcases hReachable with ⟨ls, hRun⟩
  induction hRun with
  | refl => exact ⟨[], [], rfl, .refl _⟩
  | snoc _ hLast ih =>
      rcases ih with ⟨events, ms, rfl, hCore⟩
      rcases hLast.core with ⟨_, hSame⟩ | hStep
      · exact ⟨_, ms, rfl, hSame ▸ hCore⟩
      · exact ⟨_, _, rfl, hCore.snoc hStep⟩

theorem Dispatch.Reachable.step
    {s t : Dispatch}
    {l : Option Event}
    (hReachable : s.Reachable)
    (hStep : Dispatch.Step s l t) :
    t.Reachable := by
  rcases hReachable with ⟨ls, hRun⟩
  exact ⟨_, hRun.snoc hStep⟩

/- To show an invariant, the services are known to be sound
   before each step. -/
theorem Dispatch.Reachable.invariant
    {P : Dispatch → Prop}
    (hStart : P .initial)
    (hStep :
      ∀ s l t, s.core.Sound → OutboxKept s.core.db → P s →
        Dispatch.Step s l t → P t)
    {s : Dispatch}
    (hReachable : s.Reachable) :
    P s := by
  rcases hReachable with ⟨ls, hRun⟩
  induction hRun with
  | refl => exact hStart
  | @snoc t u ms l hRun hLast ih =>
      rcases Dispatch.Reachable.core ⟨ms, hRun⟩ with
        ⟨events, hReaches⟩
      exact hStep _ _ _ hReaches.sound hReaches.outboxKept ih
        hLast

------------------------------------------------------------
-- Published Rows
------------------------------------------------------------

/- What is known of the workers and of the rows that they
   have marked. -/
structure Dispatch.Published
    (s : Dispatch) : Prop where
  publishers : ∀ p ∈ s.publishers, p.Sound s.core.db s.log
  allConfirmed : AllConfirmed s.core.db s.log

/- A call leaves the outbox alone, or it adds a row that is
   still to be published. -/
theorem Effect.allConfirmed
    {view : DB}
    {request : Request}
    {outcome : Outcome}
    {db db' : DB}
    {log : BrokerLog}
    (hEffect : Effect view request outcome db db')
    (hAll : AllConfirmed db log) :
    AllConfirmed db' log := by
  cases hEffect with
  | orderCreated _ hPlaced =>
      intro row hMem hPublished
      rw [(Table.insert?_eq_some_iff.mp hPlaced.outbox).2]
        at hMem
      rcases List.mem_append.mp hMem with hOld | hNew
      · exact hAll row hOld hPublished
      · rw [List.mem_singleton.mp hNew] at hPublished
        cases hPublished
  | orderPaid _ hMoved | orderFinished _ hMoved
  | orderCancelled _ hMoved | orderExpired _ _ hMoved =>
      have hSame := OrderMoved.outbox hMoved
      exact fun row hMem => hAll row (hSame ▸ hMem)
  | productCreated | productStatusSame | productStatusSet
  | inventoryInitialised | inventoryAdded | orderReplayed
  | cancelRepeated | expiryRepeated | expiryIgnored
  | expiryLate => exact hAll

/- A step of the services keeps what is known. -/
theorem Dispatch.Published.service
    {s : Dispatch}
    {core : State}
    {l : Option Event}
    (hSound : s.core.Sound)
    (hPublished : s.Published)
    (hStep : OrderManagement.Step s.core l core)
    (hSilent : l = none → core.db = s.core.db) :
    (∀ p ∈ s.publishers, p.Sound core.db s.log) ∧
      AllConfirmed core.db s.log := by
  constructor
  · exact fun p hMem =>
      (hPublished.publishers p hMem).mono
        (hStep.grows hSound) .none
  · cases l with
    | none => exact hSilent rfl ▸ hPublished.allConfirmed
    | some e =>
        rcases hStep.event hSound with ⟨hEvent, hBefore, hAfter⟩
        rw [← hAfter]
        have hAll := hBefore ▸ hPublished.allConfirmed
        rcases hEvent.result with
          ⟨outcome, view, _, _, _, hEffect⟩ | ⟨_, _, hSame⟩
        · exact hEffect.allConfirmed hAll
        · exact hSame ▸ hAll

theorem Dispatch.Step.published
    {s t : Dispatch}
    {l : Option Event}
    (hSound : s.core.Sound)
    (hPublished : s.Published)
    (hStep : Dispatch.Step s l t) :
    t.Published := by
  cases hStep with
  | service hInner =>
      have hKept :=
        hPublished.service hSound hInner.step hInner.silent
      exact ⟨hKept.1, hKept.2⟩
  | answer _ hCore =>
      have hKept := hPublished.service hSound hCore nofun
      exact ⟨hKept.1, hKept.2⟩
  | join =>
      refine ⟨?_, hPublished.allConfirmed⟩
      intro p hMem
      rcases Multiset.mem_cons.mp hMem with rfl | hOld
      · trivial
      · exact hPublished.publishers p hOld
  | @publisher config p p' rest h db _ hPublishers hStep =>
      have hHeld := hPublished.publishers p
        (hPublishers ▸ Multiset.mem_cons_self p rest)
      refine ⟨?_, hStep.allConfirmed hHeld
        hPublished.allConfirmed⟩
      intro other hMem
      rcases Multiset.mem_cons.mp hMem with rfl | hRest
      · exact hStep.sound hHeld
      · have hOther := hPublished.publishers other
          (hPublishers ▸ Multiset.mem_cons_of_mem hRest)
        exact hOther.mono hStep.touched.grows h
  | arrive | expire | deliver | rejectInvalid
  | callCanceller | settle | loseDelivery | deliverFailed
  | handleFailed | loseFailed =>
      exact ⟨hPublished.publishers, hPublished.allConfirmed⟩

theorem Dispatch.published_initial :
    Dispatch.initial.Published where
  publishers p hMem := by simp [Dispatch.initial] at hMem
  allConfirmed row hMem := by cases hMem

/-
  In every reachable state each order has exactly one row in
  the outbox, with its user and its deadline; each row has
  its order; and for each row that is marked as published,
  the broker has confirmed a message with its event.
-/
theorem outbox_sound
    {s : Dispatch}
    (hReachable : s.Reachable) :
    OutboxKept s.core.db ∧ AllConfirmed s.core.db s.log := by
  have hPublished : s.Published :=
    hReachable.invariant Dispatch.published_initial
      fun _ _ _ hSound _ hPublished hStep =>
        hStep.published hSound hPublished
  rcases hReachable.core with ⟨events, hReaches⟩
  exact ⟨hReaches.outboxKept, hPublished.allConfirmed⟩

------------------------------------------------------------
-- Computed Runs
------------------------------------------------------------

/- The calls in flight go on by themselves. -/
theorem Dispatch.run_service
    (s : Dispatch)
    {core core' : State}
    {ls : List (Option Event)}
    (hRun : Transition.Run InnerStep core ls core') :
    Transition.Run Dispatch.Step { s with core := core } ls
      { s with core := core' } := by
  induction hRun with
  | refl => exact .refl _
  | @snoc t u ms l _ hLast ih =>
      have hInner : InnerStep
          ({ s with core := t } : Dispatch).core l u := hLast
      exact ih.snoc (Dispatch.Step.service hInner)

/- Calls of users, one after the other. -/
theorem Dispatch.Reachable.serial
    {s : Dispatch}
    (hReachable : s.Reachable)
    (is : List Invocation)
    (hUser :
      ∀ i ∈ is, ∀ eventID orderID,
        i.request ≠ .cancelExpiredOrder eventID orderID)
    (hQuiet : s.core.calls = 0) :
    Dispatch.Reachable
      { s with core := ⟨serialDB s.core.db is, 0⟩ } := by
  induction is generalizing s with
  | nil =>
      have hSame : s.core = ⟨s.core.db, 0⟩ := by
        rw [← hQuiet]
      unfold serialDB
      rw [← hSame]
      exact hReachable
  | cons i is ih =>
      rcases hReachable with ⟨ls, hRun⟩
      have hArrived := hRun.snoc
        (.arrive s i.request i.preDeduct
          (hUser i (List.mem_cons_self ..)))
      rcases i.runsAlone s.core.db 0 (by simp) with
        ⟨ms, _, hAlone⟩
      have hDone := s.run_service hAlone
      rw [hQuiet] at hArrived
      exact ih ⟨_, hArrived.append hDone⟩
        (fun j hMem => hUser j (List.mem_cons_of_mem _ hMem))
        rfl

end OrderManagement

------------------------------------------------------------
-- A Published Row
------------------------------------------------------------

namespace OrderManagement

open Transaction

attribute [local instance] sampleDeployment

/- The worker of the sample runs. -/
def sampleWorker : WorkerConfig where
  outboxRetryDelay := 30000
  publishBatchSize := 20
  topology := productionTopology

/- What a worker that finds no locked row claims. -/
def sampleClaim
    (now : Time) : Tx (List OrderTimeoutOutbox) :=
  Dao.claimPendingOrderTimeoutOutbox now
    sampleWorker.publishBatchSize sampleWorker.leaseDuration
    defaultMaxOutboxAttempts fun _ => false

/- Whether a row is marked as published. -/
def hasPublished
    (db : DB) : Bool :=
  db.orderTimeoutOutbox.rows.any fun row =>
    row.publishedAt.isSome

def marksAll
    (events : List OrderTimeoutOutbox)
    (db : DB) : Bool :=
  events.map OrderTimeoutOutbox.event = [poisonEvent] &&
    match
      (Dao.markOrderTimeoutOutboxPublished "E7" 0).run db with
    | .ok (_, db') => hasPublished db'
    | .error _ => false

theorem sampleClaim_marksAll :
    ∃ events db,
      Commits (sampleClaim 0) (serialDB DB.empty sampleCalls)
          events db ∧
        marksAll events db = true := by
  have hRun :
      (match
        (sampleClaim 0).run (serialDB DB.empty sampleCalls)
      with
      | .ok (events, db) => marksAll events db
      | .error _ => false) = true := by
    decide +kernel
  split at hRun
  case h_1 events db hOk => exact ⟨events, db, hOk, hRun⟩
  case h_2 => cases hRun

/- The state of the broker and of a worker, after the calls
   of the sample. -/
def sampleDispatch
    (db : DB)
    (p : Publisher)
    (log : BrokerLog)
    (queued : Multiset (String × Message)) : Dispatch where
  core := ⟨db, 0⟩
  publishers := {p}
  log := log
  queued := queued
  unacked := 0
  failing := 0
  deadLetters := []

theorem sampleDispatch_reachable :
    (sampleDispatch (serialDB DB.empty sampleCalls) .idle
      ⟨[], []⟩ 0).Reachable := by
  have hStart : Dispatch.Reachable .initial := ⟨[], .refl _⟩
  have hCalls := hStart.serial sampleCalls (by
    simp [sampleCalls, sampleCall]) rfl
  exact hCalls.step (Dispatch.Step.join _)

/- The only worker makes a step. -/
theorem sampleDispatch_step
    {db db' : DB}
    {p p' : Publisher}
    {log : BrokerLog}
    {queued : Multiset (String × Message)}
    {h : Handover}
    (hReachable :
      (sampleDispatch db p log queued).Reachable)
    (hStep : PublisherStep sampleWorker db p h db' p') :
    (sampleDispatch db' p' (log.record h)
      (h.messages + queued)).Reachable :=
  hReachable.step
    (Dispatch.Step.publisher rfl
      (Multiset.cons_zero p).symm hStep)

theorem outbox_sound_sample :
    ∃ s : Dispatch,
      hasPublished s.core.db = true ∧
        OutboxKept s.core.db ∧
        AllConfirmed s.core.db s.log := by
  rcases sampleClaim_marksAll with ⟨events, db, hClaim, hAll⟩
  unfold marksAll at hAll
  rw [Bool.and_eq_true, decide_eq_true_eq] at hAll
  rcases hAll with ⟨hEvents, hMark⟩
  rcases List.map_eq_singleton_iff.mp hEvents with
    ⟨outbox, rfl, hEvent⟩
  have hID : outbox.eventID = "E7" :=
    congrArg TimeoutEvent.eventID hEvent
  split at hMark
  case h_2 => cases hMark
  case h_1 _ db' hOk =>
    have hBuild :
        buildOrderTimeoutPublishing 0 outbox.event
            sampleWorker.topology =
          .ok ({
            messageID := "E7"
            timestamp := 0
            body := marshalEvent poisonEvent
            expiration := "" }, "delay.30m") := by
      rw [hEvent]
      rfl
    have hHeld := sampleDispatch_step sampleDispatch_reachable
      (.claim hClaim)
    have hStored := sampleDispatch_step hHeld (.publish hBuild)
    have hConfirmed := sampleDispatch_step hStored
      (.confirm _ _ _ _)
    have hReturned := sampleDispatch_step hConfirmed
      (.acknowledge _ _ _ _ _)
    rw [← hID] at hOk
    have hMarked := sampleDispatch_step hReturned
      (.markPublished hOk)
    exact ⟨_, hMark, outbox_sound hMarked⟩

end OrderManagement
