import OrderManagement.Ordertimeout.Worker

/-
  The two readers of a message body. The consumer reads it
  strictly and checks the event; the worker of the failed
  queue reads it with `json.Unmarshal`, and takes whatever
  that accepts for an event whose retries were exhausted.

  Main declarations:
    * `JsonValue`, `Trailing`, and `JsonBody`
    * `JsonBody.message`
    * `JsonBody.LenientOnly`
    * `dead_letter_classification`
-/

namespace OrderManagement

------------------------------------------------------------
-- Bodies
------------------------------------------------------------

/- What encoding/json notes while it decodes a value: a value
   of a wrong type, or a field that the struct has not. -/
inductive JsonIssue
| mistyped (message : String)
| unknownField (name : String)
deriving DecidableEq

/-
  A JSON value as it is decoded into an Event: the fields
  that are filled in, the issues in their order, and the
  error at which decoding stops, if one does.
-/
structure JsonValue where
  event : TimeoutEvent
  issues : List JsonIssue
  stopped : Option String
deriving DecidableEq

/- What follows the value: nothing but space, an empty
   object, or anything else, each with the error that it
   gives where it is not accepted. -/
inductive Trailing
| nothing
| emptyObject (unmarshalError : String)
| other (decodeError unmarshalError : String)
deriving DecidableEq

/- A body is no JSON, or a value with something behind it. -/
inductive JsonBody
| malformed (decodeError unmarshalError : String)
| value (v : JsonValue) (trailing : Trailing)
deriving DecidableEq

def JsonIssue.mistyped? : JsonIssue → Option String
| .mistyped message => some message
| .unknownField _ => none

def JsonIssue.text : JsonIssue → String
| .mistyped message => message
| .unknownField name =>
    "json: unknown field \"" ++ name ++ "\""

namespace JsonValue

/- An unknown field is no error when it is allowed. -/
def lenientError
    (v : JsonValue) : Option String :=
  v.stopped <|>
    (v.issues.filterMap JsonIssue.mistyped?).head?

def strictError
    (v : JsonValue) : Option String :=
  v.stopped <|> (v.issues.map JsonIssue.text).head?

end JsonValue

namespace JsonBody

/- `json.Unmarshal` looks at the whole body first. -/
def unmarshal : JsonBody → TimeoutEvent × Option String
| .malformed _ e => (TimeoutEvent.zero, some e)
| .value v .nothing => (v.event, v.lenientError)
| .value _ (.emptyObject e) => (TimeoutEvent.zero, some e)
| .value _ (.other _ e) => (TimeoutEvent.zero, some e)

/- A decoder with DisallowUnknownFields, called for the event
   and for the end of the body. -/
def decodeStrict : JsonBody → Except String TimeoutEvent
| .malformed e _ => .error e
| .value v trailing =>
    match v.strictError with
    | some e => .error e
    | none =>
        match trailing with
        | .nothing => .ok v.event
        | .emptyObject _ =>
            .error
              "order timeout event contains multiple JSON values"
        | .other e _ => .error e

/- The body as the consumer and the worker read it. -/
def message
    (body : JsonBody) : MessageBody where
  decoded := body.decodeStrict
  unmarshalled := body.unmarshal

/- A published event is a body of one value. -/
theorem message_of_marshalEvent
    (event : TimeoutEvent) :
    (JsonBody.value ⟨event, [], none⟩ .nothing).message =
      marshalEvent event := rfl

------------------------------------------------------------
-- Agreement
------------------------------------------------------------

/-
  The dead letters of a body say what the consumer made of
  it: a body that it could not decode is a decode error, and
  one that it could decode has run out of retries.
-/
structure Classified
    (body : JsonBody) : Prop where
  refused :
    ∀ e, decodeEvent body.message = .error e →
      ∀ now delivery,
        delivery.publishing.body = body.message →
          (deadLetterOf now delivery).reason = "decode_error"
  accepted :
    ∀ event, decodeEvent body.message = .ok event →
      ∀ now delivery,
        delivery.publishing.body = body.message →
          let letter := deadLetterOf now delivery
          letter.reason = "max_retries_exceeded" ∧
            letter.eventID = event.eventID ∧
            letter.orderID = event.orderID ∧
            letter.userID = event.userID

/- One value that has no error but fields that an Event has
   not, or that makes an event which is not valid. -/
def LenientOnly : JsonBody → Prop
| .value v .nothing =>
    v.lenientError = none ∧
      (v.issues ≠ [] ∨ ∃ e, v.event.validate = .error e)
| _ => False

end JsonBody

/- Without an error when unknown fields are allowed, they are
   the only issues. -/
theorem JsonValue.strictError_eq_none_iff
    {v : JsonValue} :
    v.strictError = none ↔
      v.lenientError = none ∧ v.issues = [] := by
  unfold strictError lenientError
  cases v.stopped with
  | some e => simp
  | none =>
      cases v.issues with
      | nil => simp
      | cons issue issues => simp

/- The record of a body that json.Unmarshal accepts. -/
theorem deadLetterOf_of_unmarshalled
    {delivery : Message}
    {event : TimeoutEvent}
    (hRead :
      delivery.publishing.body.unmarshalled = (event, none))
    (now : Time) :
    (deadLetterOf now delivery).reason =
        "max_retries_exceeded" ∧
      (deadLetterOf now delivery).eventID = event.eventID ∧
      (deadLetterOf now delivery).orderID = event.orderID ∧
      (deadLetterOf now delivery).userID = event.userID := by
  unfold deadLetterOf
  rw [hRead]
  exact ⟨rfl, rfl, rfl, rfl⟩

/- The reason of a body that it refuses. -/
theorem deadLetterOf_of_refused
    {delivery : Message}
    {event : TimeoutEvent}
    {e : String}
    (hRead :
      delivery.publishing.body.unmarshalled = (event, some e))
    (now : Time) :
    (deadLetterOf now delivery).reason = "decode_error" := by
  unfold deadLetterOf
  rw [hRead]

namespace JsonBody

/- Only a single value is accepted, and it is filled in. -/
theorem unmarshal_cases
    (body : JsonBody) :
    (∃ v, body = .value v .nothing ∧
        v.lenientError = none ∧
        body.unmarshal = (v.event, none)) ∨
      ∃ event e, body.unmarshal = (event, some e) := by
  cases body with
  | malformed e e' => exact Or.inr ⟨_, e', rfl⟩
  | value v trailing =>
      cases trailing with
      | emptyObject e => exact Or.inr ⟨_, e, rfl⟩
      | other e e' => exact Or.inr ⟨_, e', rfl⟩
      | nothing =>
          cases hError : v.lenientError with
          | none =>
              refine Or.inl ⟨v, rfl, hError, ?_⟩
              rw [unmarshal, hError]
          | some e =>
              refine Or.inr ⟨v.event, e, ?_⟩
              rw [unmarshal, hError]

/- The strict decoder accepts a single value without any
   issue. -/
theorem decodeStrict_eq_ok_iff
    {body : JsonBody}
    {event : TimeoutEvent} :
    body.decodeStrict = .ok event ↔
      ∃ v, body = .value v .nothing ∧
        v.lenientError = none ∧ v.issues = [] ∧
        v.event = event := by
  constructor
  · intro hOk
    unfold decodeStrict at hOk
    split at hOk
    case h_1 => cases hOk
    case h_2 v trailing =>
      split at hOk
      case h_1 => cases hOk
      case h_2 hNone =>
        split at hOk
        case h_2 => cases hOk
        case h_3 => cases hOk
        case h_1 =>
          rcases JsonValue.strictError_eq_none_iff.mp hNone with
            ⟨hLenient, hIssues⟩
          exact ⟨v, rfl, hLenient, hIssues, Except.ok.inj hOk⟩
  · rintro ⟨v, rfl, hLenient, hIssues, rfl⟩
    have hNone :=
      JsonValue.strictError_eq_none_iff.mpr ⟨hLenient, hIssues⟩
    rw [decodeStrict, hNone]

end JsonBody

/- Decoding reads an event and checks it. -/
theorem decodeEvent_eq_ok_iff
    {body : MessageBody}
    {event : TimeoutEvent} :
    decodeEvent body = .ok event ↔
      body.decoded = .ok event ∧ event.validate = .ok () := by
  unfold decodeEvent
  cases body.decoded with
  | error e => simp [bind, Except.bind]
  | ok read =>
      cases hValid : read.validate with
      | error e =>
          simp only [bind, Except.bind, hValid]
          refine iff_of_false nofun ?_
          rintro ⟨hRead, hOk⟩
          rw [← Except.ok.inj hRead, hValid] at hOk
          cases hOk
      | ok u =>
          simp only [bind, Except.bind, pure, Except.pure,
            hValid]
          refine ⟨fun hRead => ⟨hRead, ?_⟩, And.left⟩
          rw [← Except.ok.inj hRead, hValid]

namespace JsonBody

/- A body that only the lenient decoder takes is one that it
   takes and the consumer does not. -/
theorem lenientOnly_iff
    (body : JsonBody) :
    body.LenientOnly ↔
      (∃ event, body.unmarshal = (event, none)) ∧
        ∃ e, decodeEvent body.message = .error e := by
  have hRefused :
      (∃ e, decodeEvent body.message = .error e) ↔
        ∀ event, decodeEvent body.message ≠ .ok event := by
    cases decodeEvent body.message with
    | error e => simp
    | ok event => simp
  rw [hRefused]
  constructor
  · intro hOnly
    cases body with
    | malformed => exact hOnly.elim
    | value v trailing =>
        cases trailing with
        | emptyObject => exact hOnly.elim
        | other => exact hOnly.elim
        | nothing =>
            rcases hOnly with ⟨hLenient, hStrict⟩
            refine ⟨⟨v.event, ?_⟩, fun event hOk => ?_⟩
            · rw [unmarshal, hLenient]
            · rcases decodeEvent_eq_ok_iff.mp hOk with
                ⟨hDecoded, hValid⟩
              have hStrictOk :
                  decodeStrict (.value v .nothing) =
                    .ok event := hDecoded
              rcases decodeStrict_eq_ok_iff.mp hStrictOk with
                ⟨v', hSame, _, hIssues, rfl⟩
              cases hSame
              rcases hStrict with hSome | ⟨e, hInvalid⟩
              · exact hSome hIssues
              · rw [hInvalid] at hValid
                cases hValid
  · rintro ⟨⟨event, hRead⟩, hNever⟩
    rcases body.unmarshal_cases with
      ⟨v, rfl, hLenient, _⟩ | ⟨_, _, hError⟩
    · refine ⟨hLenient, or_iff_not_imp_left.mpr fun hNone => ?_⟩
      cases hValid : v.event.validate with
      | error e => exact ⟨e, rfl⟩
      | ok u =>
          refine absurd ?_ (hNever v.event)
          exact decodeEvent_eq_ok_iff.mpr
            ⟨decodeStrict_eq_ok_iff.mpr
              ⟨v, rfl, hLenient, not_not.mp hNone, rfl⟩, hValid⟩
    · rw [hError] at hRead
      cases hRead

/- A delivery with this body. -/
def delivered
    (body : JsonBody) : Message where
  publishing := {
    messageID := "E7"
    timestamp := 0
    body := body.message
    expiration := "" }
  headers := none

end JsonBody

/-
  The two readers agree on every body but those that only
  the lenient one takes. These get the reason of exhausted
  retries, although the consumer rejected them at their
  first delivery.
-/
theorem dead_letter_classification
    (body : JsonBody) :
    body.Classified ↔ ¬ body.LenientOnly := by
  constructor
  · intro hClassified hOnly
    rcases body.lenientOnly_iff.mp hOnly with
      ⟨⟨event, hRead⟩, e, hRefused⟩
    have hReason :=
      hClassified.refused e hRefused 0 body.delivered rfl
    have hRecord :=
      @deadLetterOf_of_unmarshalled body.delivered event hRead 0
    rw [hRecord.1] at hReason
    exact absurd hReason (by decide)
  · intro hNot
    rw [body.lenientOnly_iff, not_and_or] at hNot
    constructor
    · intro e hRefused now delivery hBody
      rcases body.unmarshal_cases with
        ⟨v, _, _, hRead⟩ | ⟨event, e', hRead⟩
      · exact absurd hNot
          (not_or.mpr
            ⟨not_not.mpr ⟨_, hRead⟩,
              not_not.mpr ⟨e, hRefused⟩⟩)
      · apply deadLetterOf_of_refused
        rw [hBody]
        exact hRead
    · intro event hAccepted now delivery hBody
      rcases decodeEvent_eq_ok_iff.mp hAccepted with
        ⟨hDecoded, _⟩
      rcases JsonBody.decodeStrict_eq_ok_iff.mp hDecoded with
        ⟨v, rfl, hLenient, _, rfl⟩
      apply deadLetterOf_of_unmarshalled
      rw [hBody]
      change (v.event, v.lenientError) = _
      rw [hLenient]

/- The body "{}": an empty object makes an event without
   an event id, which the consumer refuses. -/
def emptyObjectBody : JsonBody :=
  .value ⟨TimeoutEvent.zero, [], none⟩ .nothing

theorem not_dead_letter_classified :
    ¬ ∀ body : JsonBody, body.Classified := by
  intro hAll
  have hReason :=
    (hAll emptyObjectBody).refused
      "order timeout event ID is required" (by decide +kernel)
      0 emptyObjectBody.delivered rfl
  exact absurd hReason (by decide)

end OrderManagement
