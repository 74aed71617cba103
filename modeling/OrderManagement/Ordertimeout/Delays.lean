import OrderManagement.Ordertimeout.Worker
import OrderManagement.System.Serial

/-
  When a timeout message reaches the cancel queue: the delay
  that the configuration admits, the ladder that a worker
  chooses at the instant of publishing, and the time that the
  queue of the ladder keeps its messages.

  Instants and durations count nanoseconds here, as those of
  the package time do; only x-message-ttl is in milliseconds.
  No deadline is near the zero instant that a worker refuses,
  and no topology is without ladders.

  Main declarations:
    * `OrderTimeoutConfig.validate`
    * `buildLadderQueueArguments`
    * `TimeoutPublish` and `TimeoutPublish.NotEarly`
    * `MessageTiming` with `message_timing`
-/

namespace OrderManagement

open Transaction

------------------------------------------------------------
-- Configuration
------------------------------------------------------------

def millisecond : Int := 1000000

def minute : Int := 60000 * millisecond

def hour : Int := 60 * minute

def maxOrderTimeoutDelay : Int := 24 * hour

def maxOutboxPollInterval : Int := minute

def maxOutboxRetryDelay : Int := hour

def maxOrderTimeoutBatchSize : Int := 1000

def maxOrderTimeoutPrefetchSize : Int := 1000

structure OrderTimeoutConfig where
  delay : Int
  outboxPollInterval : Int
  outboxRetryDelay : Int
  publishBatchSize : Int
  consumerPrefetch : Int
deriving DecidableEq

def OrderTimeoutConfig.validate
    (c : OrderTimeoutConfig) : Except String Unit :=
  if c.delay ≤ 0 ∨ maxOrderTimeoutDelay < c.delay then
    .error "invalid order timeout delay"
  else if
    c.outboxPollInterval ≤ 0 ∨
      maxOutboxPollInterval < c.outboxPollInterval
  then
    .error "invalid order timeout outbox poll interval"
  else if
    c.outboxRetryDelay ≤ 0 ∨
      maxOutboxRetryDelay < c.outboxRetryDelay
  then
    .error "invalid order timeout outbox retry delay"
  else if
    c.publishBatchSize < 1 ∨
      maxOrderTimeoutBatchSize < c.publishBatchSize
  then
    .error "invalid order timeout publish batch size"
  else if
    c.consumerPrefetch < 1 ∨
      maxOrderTimeoutPrefetchSize < c.consumerPrefetch
  then
    .error "invalid order timeout consumer prefetch"
  else
    .ok ()

/- The ladders of production, their durations as the code
   has them. -/
def nanosecondLadders : List DelayLadder :=
  defaultProductionLadders.map fun ladder =>
    { ladder with duration := ladder.duration * millisecond }

def nanosecondTopology : Topology :=
  { productionTopology with ladders := nanosecondLadders }

------------------------------------------------------------
-- Queues
------------------------------------------------------------

structure QueueArguments where
  deadLetterExchange : String
  deadLetterRoutingKey : String
  messageTTL : Int
deriving DecidableEq

/- `Milliseconds` cuts a duration off towards zero. -/
def milliseconds
    (duration : Int) : Int :=
  duration.tdiv millisecond

def buildLadderQueueArguments
    (ladder : DelayLadder)
    (top : Topology) : QueueArguments where
  deadLetterExchange := top.exchange
  deadLetterRoutingKey := top.cancelRoutingKey
  messageTTL :=
    let ttlMs := milliseconds ladder.duration
    if ttlMs < 1 then 1 else ttlMs

/- The arguments that the queue of a ladder is declared
   with. -/
def Topology.argumentsOf
    (top : Topology)
    (queue : String) : Option QueueArguments :=
  (top.ladders.find? fun ladder => ladder.queueName = queue).map
    fun ladder => buildLadderQueueArguments ladder top

theorem milliseconds_mono
    {d d' : Int}
    (hLe : d ≤ d') :
    milliseconds d ≤ milliseconds d' := by
  unfold milliseconds
  exact Int.tdiv_le_tdiv (by decide) hLe

/- A queue keeps its messages for the whole milliseconds of
   its ladder. -/
theorem milliseconds_le_messageTTL
    (ladder : DelayLadder)
    (top : Topology) :
    milliseconds ladder.duration ≤
      (buildLadderQueueArguments ladder top).messageTTL := by
  unfold buildLadderQueueArguments
  dsimp only
  split
  case isTrue hShort => exact hShort.le
  case isFalse => exact le_rfl

------------------------------------------------------------
-- Publishing in Time
------------------------------------------------------------

/-
  An order is published under a valid configuration, between
  its creation and its deadline. The deadline is the one of
  the row, which has whole milliseconds.
-/
structure TimeoutPublish where
  config : OrderTimeoutConfig
  createdAt : Int
  event : TimeoutEvent
  now : Int
  publishing : Publishing
  routingKey : String
  valid : config.validate = .ok ()
  rounded :
    2 * (event.timeoutAt - (createdAt + config.delay)).natAbs ≤
      1000000
  created : createdAt ≤ now
  pending : now ≤ event.timeoutAt
  built :
    buildOrderTimeoutPublishing now event nanosecondTopology =
      .ok (publishing, routingKey)

namespace TimeoutPublish

/- What is left of the timeout, in milliseconds. -/
def remaining
    (p : TimeoutPublish) : Int :=
  milliseconds (p.event.timeoutAt - p.now)

/- The message goes to one queue, which dead-letters it to
   the cancel queue after some milliseconds. -/
def RoutedFor
    (p : TimeoutPublish)
    (ttl : Int) : Prop :=
  ∃ queue args,
    nanosecondTopology.queuesOf p.routingKey = [queue] ∧
      nanosecondTopology.argumentsOf queue = some args ∧
      nanosecondTopology.queuesOf args.deadLetterRoutingKey =
        [nanosecondTopology.cancelQueue] ∧
      args.messageTTL = ttl

def NotEarly
    (p : TimeoutPublish) : Prop :=
  ∃ ttl, p.RoutedFor ttl ∧ p.remaining ≤ ttl

/- What is left of a timeout is no more than a day, and so is
   a Duration. -/
theorem durationBetween_eq
    (p : TimeoutPublish) :
    durationBetween p.event.timeoutAt p.now =
      p.event.timeoutAt - p.now := by
  apply OrderManagement.durationBetween_eq p.pending
  have hDelay : p.config.delay ≤ maxOrderTimeoutDelay := by
    have hValid := p.valid
    unfold OrderTimeoutConfig.validate at hValid
    split at hValid
    case isTrue => cases hValid
    case isFalse hRange => exact not_lt.mp (not_or.mp hRange).2
  have hRounded := p.rounded
  have hCreated := p.created
  unfold maxOrderTimeoutDelay hour minute millisecond at hDelay
  unfold bigintMax
  omega

/- The queue of each ladder is declared and bound. -/
theorem routedFor_matched
    (p : TimeoutPublish) :
    p.RoutedFor
      (buildLadderQueueArguments
        (matchDelayLadder nanosecondLadders
          (p.event.timeoutAt - p.now))
        nanosecondTopology).messageTTL := by
  have hKey :=
    routingKey_eq_of_buildOrderTimeoutPublishing
      (show nanosecondTopology.ladders ≠ [] by decide)
      (by decide) p.built
  have hMem :=
    matchDelayLadder_mem
      (show nanosecondTopology.ladders ≠ [] by decide)
      (p.event.timeoutAt - p.now)
  have hBound :
      ∀ ladder ∈ nanosecondTopology.ladders,
        nanosecondTopology.queuesOf ladder.routingKey =
            [ladder.queueName] ∧
          nanosecondTopology.argumentsOf ladder.queueName =
            some
              (buildLadderQueueArguments ladder
                nanosecondTopology) ∧
          nanosecondTopology.queuesOf
              (buildLadderQueueArguments ladder
                nanosecondTopology).deadLetterRoutingKey =
            [nanosecondTopology.cancelQueue] := by
    decide
  rcases hBound _ hMem with ⟨hQueue, hArgs, hCancel⟩
  rw [p.durationBetween_eq] at hKey
  rw [← hKey] at hQueue
  exact ⟨_, _, hQueue, hArgs, hCancel, rfl⟩

/- A message has one way to the cancel queue. -/
theorem RoutedFor.unique
    {p : TimeoutPublish}
    {ttl ttl' : Int}
    (hRouted : p.RoutedFor ttl)
    (hRouted' : p.RoutedFor ttl') :
    ttl = ttl' := by
  rcases hRouted with ⟨queue, args, hQueue, hArgs, _, rfl⟩
  rcases hRouted' with ⟨queue', args', hQueue', hArgs', _, rfl⟩
  rw [hQueue] at hQueue'
  cases hQueue'
  rw [hArgs] at hArgs'
  cases hArgs'
  rfl

theorem routedFor_longest
    (p : TimeoutPublish)
    (hLong :
      30 * minute < p.event.timeoutAt - p.now) :
    p.RoutedFor 1800000 := by
  have hLast :
      ∀ ladder ∈ nanosecondLadders,
        ladder.duration ≤ 30 * minute := by
    decide
  have hMatched :=
    matchDelayLadder_of_forall_lt
      (fun ladder hMem => (hLast ladder hMem).trans_lt hLong)
      (show nanosecondLadders ≠ [] by decide)
  have hRouted := p.routedFor_matched
  rw [hMatched] at hRouted
  exact hRouted

theorem notEarly_of_le
    (p : TimeoutPublish)
    (hShort : p.event.timeoutAt - p.now ≤ 30 * minute) :
    p.NotEarly := by
  have hMem :
      (⟨30 * minute, "delay.30m",
        "order.timeout.delay.30m"⟩ : DelayLadder) ∈
          nanosecondLadders := by
    decide
  refine ⟨_, p.routedFor_matched, ?_⟩
  calc
    p.remaining ≤
        milliseconds
          (matchDelayLadder nanosecondLadders
            (p.event.timeoutAt - p.now)).duration :=
      milliseconds_mono
        (le_duration_of_matchDelayLadder hMem hShort)
    _ ≤ _ := milliseconds_le_messageTTL _ _

/- The longest ladder keeps a message for 30 minutes. -/
theorem notEarly_iff_remaining
    (p : TimeoutPublish) :
    p.NotEarly ↔ p.remaining ≤ 1800000 := by
  constructor
  · rintro ⟨ttl, hRouted, hLe⟩
    have hLongest :
        ∀ ladder ∈ nanosecondLadders,
          (buildLadderQueueArguments ladder
            nanosecondTopology).messageTTL ≤ 1800000 := by
      decide
    rw [hRouted.unique p.routedFor_matched] at hLe
    exact hLe.trans
      (hLongest _
        (matchDelayLadder_mem (by decide) _))
  · intro hLe
    by_cases hShort :
        p.event.timeoutAt - p.now ≤ 30 * minute
    · exact p.notEarly_of_le hShort
    · exact ⟨_, p.routedFor_longest (not_le.mp hShort), hLe⟩

end TimeoutPublish

variable [Deployment]

/- A message that comes early has no effect. -/
theorem cancelExpiredOrder_early
    {view db : DB}
    {now : Time}
    {eventID : String}
    {orderID : Int}
    {outbox : OrderTimeoutOutbox}
    (hOutbox :
      Dao.getOrderTimeoutOutbox view eventID orderID =
        some outbox)
    (hEarly : now < outbox.timeoutAt) :
    Aborts
      (OrderService.cancelExpiredOrder view now eventID orderID)
      db .orderTimeoutNotReached := by
  unfold OrderService.cancelExpiredOrder
  rw [hOutbox]
  exact aborts_bind.mpr
    (Or.inl (aborts_ensure (not_le.mpr hEarly)))

/-
  When the message of an order leaves its queue. The longest
  ladder is the limit: an order with more time left than it
  has comes back early, and is refused until its deadline.
-/
structure MessageTiming
    (p : TimeoutPublish) : Prop where
  notEarly_iff : p.NotEarly ↔ p.remaining ≤ 1800000
  configured : p.config.delay ≤ 30 * minute → p.NotEarly
  longest : 1800000 < p.remaining → p.RoutedFor 1800000
  refused :
    ∀ view db outbox now,
      Dao.getOrderTimeoutOutbox view p.event.eventID
          p.event.orderID = some outbox →
        outbox.event = p.event → now < p.event.timeoutAt →
          Aborts
            (OrderService.cancelExpiredOrder view now
              p.event.eventID p.event.orderID)
            db .orderTimeoutNotReached

theorem message_timing
    (p : TimeoutPublish) :
    MessageTiming p := by
  have hMilliseconds :
      p.remaining =
        (p.event.timeoutAt - p.now) / (1000000 : Int) := by
    exact Int.tdiv_eq_ediv_of_nonneg
      (Int.sub_nonneg.mpr p.pending)
  constructor
  · exact p.notEarly_iff_remaining
  · intro hConfigured
    rw [p.notEarly_iff_remaining, hMilliseconds]
    have hRounded := p.rounded
    have hCreated := p.created
    unfold minute millisecond at hConfigured
    omega
  · intro hLong
    refine p.routedFor_longest (lt_of_not_ge fun hShort => ?_)
    exact absurd hLong (not_lt.mpr (milliseconds_mono hShort))
  · intro view db outbox now hOutbox hEvent hEarly
    refine cancelExpiredOrder_early hOutbox ?_
    rw [← hEvent] at hEarly
    exact hEarly

end OrderManagement

------------------------------------------------------------
-- Half an Hour, and an Hour
------------------------------------------------------------

namespace OrderManagement

attribute [local instance] sampleDeployment

def sampleTimeoutConfig
    (delay : Int) : OrderTimeoutConfig where
  delay := delay
  outboxPollInterval := 1000 * millisecond
  outboxRetryDelay := 5000 * millisecond
  publishBatchSize := 100
  consumerPrefetch := 10

def halfHourEvent : TimeoutEvent where
  eventID := "E6"
  orderID := 6
  userID := 3
  timeoutAt := 30 * minute

/- An order with half an hour to pay is published after
   twenty minutes and a nanosecond. -/
def halfHourPublish : TimeoutPublish where
  config := sampleTimeoutConfig (30 * minute)
  createdAt := 0
  event := halfHourEvent
  now := 20 * minute + 1
  publishing := {
    messageID := "E6"
    timestamp := 20 * minute + 1
    body := marshalEvent halfHourEvent
    expiration := "" }
  routingKey := "delay.15m"
  valid := by decide
  rounded := by decide
  created := by decide
  pending := by decide
  built := by decide +kernel

/- Its message waits for the deadline. -/
theorem message_timing_half_hour :
    halfHourPublish.NotEarly ∧
      halfHourPublish.remaining = 599999 :=
  ⟨(message_timing halfHourPublish).configured (by decide),
    by decide⟩

def hourEvent : TimeoutEvent where
  eventID := "E7"
  orderID := 7
  userID := 3
  timeoutAt := hour

/- An order with an hour to pay is published at once. -/
def hourPublish : TimeoutPublish where
  config := sampleTimeoutConfig hour
  createdAt := 0
  event := hourEvent
  now := 0
  publishing := {
    messageID := "E7"
    timestamp := 0
    body := marshalEvent hourEvent
    expiration := "" }
  routingKey := "delay.30m"
  valid := by decide
  rounded := by decide
  created := by decide
  pending := by decide
  built := by decide +kernel

/- Its message comes back half an hour too early. -/
theorem hour_delay_early :
    ¬ ∀ p : TimeoutPublish, p.NotEarly := by
  intro hAll
  have hLe :=
    hourPublish.notEarly_iff_remaining.mp (hAll hourPublish)
  exact absurd hLe (by decide)

end OrderManagement
