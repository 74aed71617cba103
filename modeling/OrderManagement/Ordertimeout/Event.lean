import OrderManagement.Model.Schema
import OrderManagement.Service.OrderRequest

/-
  The timeout event that the outbox worker publishes and the
  consumer reads back. A body stands for what the decoders
  of encoding/json read from it.

  Main declarations:
    * `TimeoutEvent` and `TimeoutEvent.validate`
    * `encodeEvent` and `decodeEvent`
    * `decodeEvent_of_encodeEvent`
-/

namespace OrderManagement

structure TimeoutEvent where
  eventID : String
  orderID : Int
  userID : Int
  timeoutAt : Time
deriving DecidableEq, Repr

/- The zero value of `time.Time`. -/
def zeroTime : Time := -62135596800000

namespace TimeoutEvent

/- The zero value of the struct. -/
def zero : TimeoutEvent where
  eventID := ""
  orderID := 0
  userID := 0
  timeoutAt := zeroTime

def validate
    (e : TimeoutEvent) : Except String Unit :=
  if isBlank e.eventID then
    .error "order timeout event ID is required"
  else if e.orderID ≤ 0 then
    .error "order timeout order ID must be positive"
  else if e.userID ≤ 0 then
    .error "order timeout user ID must be positive"
  else if e.timeoutAt = zeroTime then
    .error "order timeout deadline is required"
  else
    .ok ()

end TimeoutEvent

/-
  A message body. `decoded` is the one JSON object without
  unknown fields that it consists of, and `unmarshalled` is
  what `json.Unmarshal` fills in, with its error.
-/
structure MessageBody where
  decoded : Except String TimeoutEvent
  unmarshalled : TimeoutEvent × Option String
deriving DecidableEq

/- `json.Marshal(event)` -/
def marshalEvent
    (event : TimeoutEvent) : MessageBody where
  decoded := .ok event
  unmarshalled := (event, none)

def encodeEvent
    (event : TimeoutEvent) : Except String MessageBody := do
  event.validate
  return marshalEvent event

def decodeEvent
    (body : MessageBody) : Except String TimeoutEvent := do
  let event ← body.decoded
  event.validate
  return event

/- The consumer reads back what the worker has encoded. -/
theorem decodeEvent_of_encodeEvent
    {event : TimeoutEvent}
    {body : MessageBody}
    (hEncode : encodeEvent event = .ok body) :
    body = marshalEvent event ∧ decodeEvent body = .ok event := by
  unfold encodeEvent at hEncode
  cases hValid : event.validate with
  | error =>
      rw [hValid] at hEncode
      cases hEncode
  | ok =>
      rw [hValid] at hEncode
      cases hEncode
      refine ⟨rfl, ?_⟩
      unfold decodeEvent marshalEvent
      simp only [bind, Except.bind, hValid]
      rfl

end OrderManagement
