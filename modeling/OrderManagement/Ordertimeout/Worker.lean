import OrderManagement.Ordertimeout.Event
import OrderManagement.Service.Order
import Mathlib.Algebra.Order.Ring.Int
import Mathlib.Tactic.Positivity

/-
  What the timeout worker computes: the message that it
  publishes for an outbox row, the pause after a failure,
  the death count of a delivery, and the record of a message
  that ends in the failed queue.

  Main declarations:
    * `Topology` and `productionTopology`
    * `calculateExponentialBackoff` and `matchDelayLadder`
    * `buildOrderTimeoutPublishing`
    * `Field` and `extractDeathCount`
    * `settleDelivery` and `deadLetterOf`
-/

namespace OrderManagement

------------------------------------------------------------
-- Configuration
------------------------------------------------------------

def defaultMaxOutboxAttempts : Int := 10

def maxOutboxBackoffDelay : Time := 600000

def defaultMaxCancelRetries : Int := 3

structure DelayLadder where
  duration : Time
  routingKey : String
  queueName : String
deriving DecidableEq, Repr

def defaultProductionLadders : List DelayLadder :=
  [ ⟨300000, "delay.5m", "order.timeout.delay.5m"⟩,
    ⟨900000, "delay.15m", "order.timeout.delay.15m"⟩,
    ⟨1800000, "delay.30m", "order.timeout.delay.30m"⟩ ]

structure Topology where
  exchange : String
  ladders : List DelayLadder
  delayQueue : String
  cancelQueue : String
  failedQueue : String
  delayRoutingKey : String
  cancelRoutingKey : String
  failedRoutingKey : String
deriving DecidableEq

def productionTopology : Topology where
  exchange := "order.timeout"
  ladders := defaultProductionLadders
  delayQueue := "order.timeout.delay"
  cancelQueue := "order.timeout.cancel"
  failedQueue := "order.timeout.failed"
  delayRoutingKey := "delay"
  cancelRoutingKey := "cancel"
  failedRoutingKey := "failed"

/- The queues that are declared, with the keys that they are
   bound to the exchange under. -/
def declareTopology
    (top : Topology) : List (String × String) :=
  (if top.ladders ≠ [] then
      top.ladders.map fun ladder =>
        (ladder.queueName, ladder.routingKey)
    else if top.delayQueue ≠ "" then
      [(top.delayQueue, top.delayRoutingKey)]
    else
      []) ++
    [ (top.cancelQueue, top.cancelRoutingKey),
      (top.failedQueue, top.failedRoutingKey) ]

/- A direct exchange stores a message in all queues that are
   bound under its key. -/
def Topology.queuesOf
    (top : Topology)
    (routingKey : String) : List String :=
  (declareTopology top).filterMap fun binding =>
    if binding.2 = routingKey then some binding.1 else none

/- The settings of a worker that its loops read. -/
structure WorkerConfig where
  outboxRetryDelay : Time
  publishBatchSize : Int
  topology : Topology

------------------------------------------------------------
-- Publishing
------------------------------------------------------------

/- The pause doubles with each attempt up to a maximum. -/
def calculateExponentialBackoff
    (baseDelay : Time)
    (attempts : Int)
    (maxDelay : Time) : Time :=
  if baseDelay ≤ 0 then
    0
  else
    let maxDelay :=
      if maxDelay ≤ 0 then maxOutboxBackoffDelay else maxDelay
    if attempts ≤ 1 then
      if maxDelay < baseDelay then maxDelay else baseDelay
    else
      let shift := attempts - 1
      if 62 ≤ shift then
        maxDelay
      else
        let multiplier : Int := 2 ^ shift.toNat
        if maxDelay / baseDelay < multiplier then
          maxDelay
        else
          let delay := baseDelay * multiplier
          if maxDelay < delay ∨ delay ≤ 0 then maxDelay
          else delay

/- In range the pause is the doubled delay, cut off at the
   maximum: the division in the code avoids an overflow. -/
theorem calculateExponentialBackoff_eq
    {baseDelay maxDelay : Int}
    (attempts : Int)
    (hBase : 0 < baseDelay)
    (hMax : 0 < maxDelay) :
    calculateExponentialBackoff baseDelay attempts maxDelay =
      if 62 ≤ attempts - 1 then maxDelay
      else
        min maxDelay
          (baseDelay * 2 ^ (attempts - 1).toNat) := by
  unfold calculateExponentialBackoff
  rw [if_neg (not_le.mpr hBase), if_neg (not_le.mpr hMax)]
  by_cases hFirst : attempts ≤ 1
  · have hShift : (attempts - 1).toNat = 0 := by omega
    have hShort : ¬ 62 ≤ attempts - 1 := by omega
    simp only [hFirst, hShort, if_true, if_false]
    rw [hShift, pow_zero, mul_one]
    split
    case isTrue hLess => exact (min_eq_left hLess.le).symm
    case isFalse hNot =>
      exact (min_eq_right (not_lt.mp hNot)).symm
  · rw [if_neg hFirst]
    by_cases hShift : 62 ≤ attempts - 1
    · simp only [hShift, if_true]
    · simp only [hShift, if_false]
      have hFits :
          maxDelay / baseDelay < 2 ^ (attempts - 1).toNat ↔
            maxDelay <
              baseDelay * 2 ^ (attempts - 1).toNat := by
        rw [Int.ediv_lt_iff_lt_mul hBase, mul_comm]
      have hPositive :
          0 < baseDelay * 2 ^ (attempts - 1).toNat :=
        mul_pos hBase (by positivity)
      split
      case isTrue hLess =>
        rw [hFits] at hLess
        exact (min_eq_left hLess.le).symm
      case isFalse hNot =>
        rw [hFits, not_lt] at hNot
        rw [min_eq_right hNot, if_neg]
        exact not_or.mpr ⟨not_lt.mpr hNot, hPositive.not_ge⟩

/- The pause is never shorter than the configured delay. -/
theorem le_calculateExponentialBackoff
    {baseDelay maxDelay : Int}
    (attempts : Int)
    (hBase : 0 < baseDelay)
    (hMax : baseDelay ≤ maxDelay) :
    baseDelay ≤
      calculateExponentialBackoff baseDelay attempts
        maxDelay := by
  rw [calculateExponentialBackoff_eq attempts hBase
    (hBase.trans_le hMax)]
  split
  case isTrue => exact hMax
  case isFalse =>
    refine le_min hMax ?_
    exact le_mul_of_one_le_right hBase.le
      (one_le_pow₀ (by decide))

/- The pause never gets shorter with more attempts. -/
theorem calculateExponentialBackoff_mono
    {baseDelay maxDelay : Int}
    {attempts attempts' : Int}
    (hBase : 0 < baseDelay)
    (hMax : 0 < maxDelay)
    (hMore : attempts ≤ attempts') :
    calculateExponentialBackoff baseDelay attempts maxDelay ≤
      calculateExponentialBackoff baseDelay attempts'
        maxDelay := by
  rw [calculateExponentialBackoff_eq attempts hBase hMax,
    calculateExponentialBackoff_eq attempts' hBase hMax]
  by_cases hLong : 62 ≤ attempts' - 1
  · rw [if_pos hLong]
    split
    case isTrue => exact le_rfl
    case isFalse => exact min_le_left _ _
  · rw [if_neg hLong, if_neg (by omega)]
    refine min_le_min_left maxDelay ?_
    refine mul_le_mul_of_nonneg_left ?_ hBase.le
    exact pow_le_pow_right₀ (by decide) (by omega)

/- The first ladder that is long enough, or the last one. The
   ladder for want of any is given in milliseconds. -/
def matchDelayLadder
    (ladders : List DelayLadder)
    (delay : Time) : DelayLadder :=
  match ladders.find? fun ladder => delay ≤ ladder.duration with
  | some ladder => ladder
  | none =>
      ladders.getLastD
        ⟨1800000, "delay.30m", "order.timeout.delay.30m"⟩

theorem matchDelayLadder_mem
    {ladders : List DelayLadder}
    (hSome : ladders ≠ [])
    (delay : Time) :
    matchDelayLadder ladders delay ∈ ladders := by
  unfold matchDelayLadder
  split
  case h_1 ladder hFind => exact List.mem_of_find?_eq_some hFind
  case h_2 =>
    rw [List.getLastD_eq_getLast?,
      List.getLast?_eq_some_getLast hSome]
    exact List.getLast_mem hSome

/- If any ladder is long enough, the chosen one is. -/
theorem le_duration_of_matchDelayLadder
    {ladders : List DelayLadder}
    {ladder : DelayLadder}
    {delay : Time}
    (hMem : ladder ∈ ladders)
    (hLong : delay ≤ ladder.duration) :
    delay ≤ (matchDelayLadder ladders delay).duration := by
  unfold matchDelayLadder
  split
  case h_1 found hFind => simpa using List.find?_some hFind
  case h_2 hNone =>
    have hShort := List.find?_eq_none.mp hNone ladder hMem
    simp [hLong] at hShort

/- If none is long enough, the last one is chosen. -/
theorem matchDelayLadder_of_forall_lt
    {ladders : List DelayLadder}
    {delay : Time}
    (hShort : ∀ ladder ∈ ladders, ladder.duration < delay)
    (hSome : ladders ≠ []) :
    matchDelayLadder ladders delay = ladders.getLast hSome := by
  unfold matchDelayLadder
  split
  case h_1 found hFind =>
    have hLong := List.find?_some hFind
    have hLess :=
      hShort found (List.mem_of_find?_eq_some hFind)
    simp only [decide_eq_true_eq] at hLong
    exact absurd hLong (Int.not_le.mpr hLess)
  case h_2 =>
    rw [List.getLastD_eq_getLast?,
      List.getLast?_eq_some_getLast hSome]
    rfl

/- `Time.Sub`: a difference of instants is an int64, and is
   cut off where it would not fit. -/
def durationBetween
    (t u : Time) : Time :=
  max (-bigintMax - 1) (min bigintMax (t - u))

theorem durationBetween_eq
    {t u : Int}
    (hOrder : u ≤ t)
    (hNear : t - u ≤ bigintMax) :
    durationBetween t u = t - u := by
  have hLow : -bigintMax - 1 ≤ t - u := by
    unfold bigintMax
    omega
  unfold durationBetween
  rw [min_eq_right hNear, max_eq_right hLow]

structure Publishing where
  messageID : String
  timestamp : Time
  body : MessageBody
  expiration : String
deriving DecidableEq

def expirationMilliseconds
    (now timeoutAt : Time) : String :=
  let remaining := timeoutAt - now
  toString (if remaining < 1 then 1 else remaining)

/- The message for an event and its routing key. -/
def buildOrderTimeoutPublishing
    (now : Time)
    (event : TimeoutEvent)
    (top : Topology) : Except String (Publishing × String) :=
  match encodeEvent event with
  | .error e => .error ("encode order timeout event: " ++ e)
  | .ok body =>
      let delay := durationBetween event.timeoutAt now
      let routingKey :=
        if top.ladders ≠ [] then
          (matchDelayLadder top.ladders delay).routingKey
        else
          top.delayRoutingKey
      let expiration :=
        if top.ladders = [] ∧ top.delayQueue ≠ "" then
          expirationMilliseconds now event.timeoutAt
        else
          ""
      .ok ({
        messageID := event.eventID
        timestamp := now
        body := body
        expiration := expiration },
        if routingKey = "" then top.delayRoutingKey
        else routingKey)

/- The key of a message is that of the matching ladder, if
   that ladder has a key. -/
theorem routingKey_eq_ite_of_buildOrderTimeoutPublishing
    {now : Time}
    {event : TimeoutEvent}
    {top : Topology}
    {publishing : Publishing}
    {routingKey : String}
    (hSome : top.ladders ≠ [])
    (hBuild :
      buildOrderTimeoutPublishing now event top =
        .ok (publishing, routingKey)) :
    routingKey =
      if
        (matchDelayLadder top.ladders
          (durationBetween event.timeoutAt now)).routingKey =
          ""
      then
        top.delayRoutingKey
      else
        (matchDelayLadder top.ladders
          (durationBetween event.timeoutAt now)).routingKey := by
  unfold buildOrderTimeoutPublishing at hBuild
  split at hBuild
  case h_1 => cases hBuild
  case h_2 =>
    simp only [hSome, ne_eq, not_false_eq_true, if_true,
      Except.ok.injEq, Prod.mk.injEq] at hBuild
    exact hBuild.2.symm

theorem routingKey_eq_of_buildOrderTimeoutPublishing
    {now : Time}
    {event : TimeoutEvent}
    {top : Topology}
    {publishing : Publishing}
    {routingKey : String}
    (hSome : top.ladders ≠ [])
    (hNamed : ∀ ladder ∈ top.ladders, ladder.routingKey ≠ "")
    (hBuild :
      buildOrderTimeoutPublishing now event top =
        .ok (publishing, routingKey)) :
    routingKey =
      (matchDelayLadder top.ladders
        (durationBetween event.timeoutAt now)).routingKey := by
  rw [routingKey_eq_ite_of_buildOrderTimeoutPublishing hSome
      hBuild,
    if_neg (hNamed _ (matchDelayLadder_mem hSome _))]

/- The event that `publishEvent` makes of a row. -/
def OrderTimeoutOutbox.event
    (outbox : OrderTimeoutOutbox) : TimeoutEvent where
  eventID := outbox.eventID
  orderID := outbox.orderID
  userID := outbox.userID
  timeoutAt := outbox.timeoutAt

theorem body_of_buildOrderTimeoutPublishing
    {now : Time}
    {event : TimeoutEvent}
    {top : Topology}
    {publishing : Publishing}
    {routingKey : String}
    (hBuild :
      buildOrderTimeoutPublishing now event top =
        .ok (publishing, routingKey)) :
    publishing.body = marshalEvent event ∧
      decodeEvent publishing.body = .ok event := by
  unfold buildOrderTimeoutPublishing at hBuild
  cases hEncode : encodeEvent event with
  | error =>
      rw [hEncode] at hBuild
      cases hBuild
  | ok body =>
      rw [hEncode] at hBuild
      cases hBuild
      exact decodeEvent_of_encodeEvent hEncode

------------------------------------------------------------
-- Headers
------------------------------------------------------------

/- The values of an `amqp.Table`, as far as the worker tells
   their types apart. -/
inductive Field
| null
| int (n : Int)
| int64 (n : Int)
| text (s : String)
| table (fields : List (String × Field))
| map (fields : List (String × Field))
| list (items : List Field)
| tables (items : List (List (String × Field)))
| other

abbrev Headers := List (String × Field)

/- The fallback of `extractDeathCount`. -/
def retryCount
    (headers : Headers) : Option Int :=
  match headers.lookup "retry_count" with
  | some (.int n) => if 0 < n then some n else none
  | some (.int64 n) => if 0 < n then some n else none
  | _ => none

/- What one entry of x-death adds to the total. -/
def countOf
    (fields : Headers) : Int :=
  match fields.lookup "count" with
  | some (.int64 n) => n
  | some (.int n) => n
  | _ => 0

def deathsOf : Field → Int
| .table fields | .map fields => countOf fields
| _ => 0

/- The loop over x-death; an int wraps around. -/
def totalDeaths : Field → Int
| .list deaths =>
    deaths.foldl
      (fun total item => wrap64 (total + deathsOf item)) 0
| .tables deaths =>
    deaths.foldl
      (fun total fields => wrap64 (total + countOf fields)) 0
| _ => 0

def extractDeathCount
    (headers : Option Headers) : Int :=
  match headers with
  | none => 0
  | some headers =>
      match headers.lookup "x-death" with
      | none | some .null => (retryCount headers).getD 0
      | some xDeath =>
          let total := totalDeaths xDeath
          if total = 0 then
            (retryCount headers).getD total
          else
            total

------------------------------------------------------------
-- Settling a Delivery
------------------------------------------------------------

/- Ack, Nack with requeue, and Nack without. -/
inductive Verdict
| ack
| requeue
| reject
deriving DecidableEq

/- How `consumeLoop` settles a delivery, given the answer of
   CancelExpiredOrder to its event. -/
def settleDelivery
    (body : MessageBody)
    (headers : Option Headers)
    (cancelled : Except Err Outcome) : Verdict :=
  match decodeEvent body with
  | .error _ => .reject
  | .ok _ =>
      match cancelled with
      | .ok _ => .ack
      | .error _ =>
          if
            defaultMaxCancelRetries ≤ extractDeathCount headers
          then
            .reject
          else
            .requeue

------------------------------------------------------------
-- Dead Letters
------------------------------------------------------------

structure Message where
  publishing : Publishing
  headers : Option Headers

structure DeadLetter where
  messageID : String
  eventID : String
  orderID : Int
  userID : Int
  retryCount : Int
  reason : String
  payload : MessageBody
  errorDetail : String
  status : String
  createdAt : Time
  updatedAt : Time
deriving DecidableEq

/- The record that `handleFailedDelivery` builds. -/
def deadLetterOf
    (now : Time)
    (delivery : Message) : DeadLetter :=
  let (event, err) := delivery.publishing.body.unmarshalled
  { messageID := delivery.publishing.messageID
    eventID := event.eventID
    orderID := event.orderID
    userID := event.userID
    retryCount := extractDeathCount delivery.headers
    reason :=
      match err with
      | none => "max_retries_exceeded"
      | some _ => "decode_error"
    payload := delivery.publishing.body
    errorDetail :=
      match err with
      | none => "order cancel retry limit exceeded"
      | some e => "decode payload failed: " ++ e
    status := "PENDING"
    createdAt := now
    updatedAt := now }

end OrderManagement
