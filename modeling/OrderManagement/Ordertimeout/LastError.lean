import OrderManagement.Library.Utf8
import OrderManagement.Ordertimeout.Publisher
import OrderManagement.System.Serial

/-
  What a worker records about an event that it failed to
  publish. The message of the error is cut after 255 bytes,
  and the database refuses what is then no text.

  Main declarations:
    * `truncateError` and `publishBatchFailed`
    * `publisherStep_publishBatchFailed`
    * `BackoffRecorded` and `backoff_recorded_iff`
-/

namespace OrderManagement

open Transaction

------------------------------------------------------------
-- The Message
------------------------------------------------------------

/- A slice of a Go string, which need not be UTF-8. -/
def truncateError
    (message : String) : ByteArray :=
  Utf8.truncate 255 message

theorem truncateError_eq_cut
    (message : String) :
    truncateError message = Utf8.cut 255 message :=
  Utf8.truncate_eq_cut 255 message

/- What was made of a message is a text of the column that
   begins the message. -/
structure ErrorTruncated
    (message : String) : Prop where
  valid : (truncateError message).IsValidUTF8
  isPrefix :
    ∃ rest : ByteArray,
      truncateError message ++ rest = message.toByteArray
  fits :
    ∃ text : String,
      text.toByteArray = truncateError message ∧
        Utf8.varchar 255 (truncateError message) = some text

theorem errorTruncated_iff
    {message : String} :
    ErrorTruncated message ↔ Utf8.EndsAt 255 message := by
  rw [← Utf8.isValidUTF8_cut_iff]
  constructor
  · intro hTruncated
    rw [← truncateError_eq_cut]
    exact hTruncated.valid
  · intro hValid
    have hStored :=
      Utf8.varchar_cut (Utf8.isValidUTF8_cut_iff.mp hValid)
    rw [← truncateError_eq_cut] at hValid hStored
    exact
      { valid := hValid
        isPrefix :=
          ⟨_, by
            rw [truncateError_eq_cut]
            exact Utf8.cut_append_extract 255 message⟩
        fits := hStored }

------------------------------------------------------------
-- The Failure Path
------------------------------------------------------------

variable [Deployment]

/- The statement with the text as it is sent. The column
   `last_error` is a VARCHAR(255). -/
def Dao.sendOrderTimeoutOutboxFailed
    (eventID : String)
    (lastError : ByteArray)
    (nextAttemptAt : Time) : Tx Unit := do
  let text ← fetch (Utf8.varchar 255 lastError) .database
  Dao.markOrderTimeoutOutboxFailed eventID text nextAttemptAt

/- The pause that is due after an attempt. -/
def WorkerConfig.backoffDelay
    (config : WorkerConfig)
    (outbox : OrderTimeoutOutbox) : Time :=
  calculateExponentialBackoff config.outboxRetryDelay
    outbox.attempts maxOutboxBackoffDelay

/-
  What `publishBatch` does about an error of `publishEvent`.
  It drops the error of its own statement.
-/
def publishBatchFailed
    (config : WorkerConfig)
    (now : Time)
    (outbox : OrderTimeoutOutbox)
    (message : String)
    (db : DB) : DB :=
  match
    (Dao.sendOrderTimeoutOutboxFailed outbox.eventID
      (truncateError message)
      (now + config.backoffDelay outbox)).run db
  with
  | .ok (_, db') => db'
  | .error _ => db

variable
  {config : WorkerConfig}
  {now : Time}
  {outbox : OrderTimeoutOutbox}
  {message : String}
  {db : DB}

/- A text that ends with a character is stored. -/
theorem publishBatchFailed_of_endsAt
    (hEnds : Utf8.EndsAt 255 message) :
    ∃ text : String,
      text.toByteArray = truncateError message ∧
        Commits
          (Dao.markOrderTimeoutOutboxFailed outbox.eventID
            text (now + config.backoffDelay outbox)) db ()
          (publishBatchFailed config now outbox message
            db) := by
  rcases (errorTruncated_iff.mpr hEnds).fits with
    ⟨text, hBytes, hStored⟩
  refine ⟨text, hBytes, ?_⟩
  unfold publishBatchFailed Dao.sendOrderTimeoutOutboxFailed
  rw [hStored]
  rfl

/- Where the cut divides a character, the statement is
   refused and the row stays as it was claimed. -/
theorem publishBatchFailed_of_not_endsAt
    (hDivides : ¬ Utf8.EndsAt 255 message) :
    publishBatchFailed config now outbox message db = db := by
  have hInvalid : ¬ (truncateError message).IsValidUTF8 := by
    rw [truncateError_eq_cut, Utf8.isValidUTF8_cut_iff]
    exact hDivides
  unfold publishBatchFailed Dao.sendOrderTimeoutOutboxFailed
  rw [Utf8.varchar_eq_none hInvalid]
  rfl

/- Either way this is a step of the publishing loop. -/
theorem publisherStep_publishBatchFailed :
    PublisherStep config db (.failed outbox message) .none
      (publishBatchFailed config now outbox message db)
      .idle := by
  by_cases hEnds : Utf8.EndsAt 255 message
  · rcases publishBatchFailed_of_endsAt hEnds with
      ⟨text, _, hMark⟩
    exact .markFailed hMark
  · rw [publishBatchFailed_of_not_endsAt hEnds]
    exact .stop db _

------------------------------------------------------------
-- The Record of a Failure
------------------------------------------------------------

/- Every unpublished row of the event waits for the backoff
   and has the message as far as it was kept. -/
def BackoffRecorded
    (config : WorkerConfig)
    (now : Time)
    (outbox : OrderTimeoutOutbox)
    (message : String)
    (db db' : DB) : Prop :=
  ∀ row ∈ db.orderTimeoutOutbox.rows,
    Dao.isUnpublished outbox.eventID row = true →
      ∃ row' ∈ db'.orderTimeoutOutbox.rows,
        row'.identity = row.identity ∧
          row'.nextAttemptAt =
              now +
                calculateExponentialBackoff
                  config.outboxRetryDelay outbox.attempts
                  maxOutboxBackoffDelay ∧
            row'.lastError.toByteArray = truncateError message

theorem backoffRecorded_of_commits
    {text : String}
    {db' : DB}
    (hBytes : text.toByteArray = truncateError message)
    (hMark :
      Commits
        (Dao.markOrderTimeoutOutboxFailed outbox.eventID text
          (now + config.backoffDelay outbox)) db () db') :
    BackoffRecorded config now outbox message db db' := by
  rcases Dao.commits_markOrderTimeoutOutboxFailed hMark with
    ⟨_, rfl⟩
  intro row hRow hUnpublished
  refine ⟨_, List.mem_map_of_mem hRow, ?_⟩
  rw [if_pos hUnpublished]
  exact ⟨rfl, rfl, hBytes⟩

/-
  The message is cut to a text of the column and the backoff
  is recorded if and only if the cut divides no character.
  Otherwise nothing is recorded.
-/
theorem backoff_recorded_iff
    (config : WorkerConfig)
    (now : Time)
    (outbox : OrderTimeoutOutbox)
    (message : String)
    (db : DB) :
    (ErrorTruncated message ∧
        BackoffRecorded config now outbox message db
          (publishBatchFailed config now outbox message
            db) ↔
      message.utf8ByteSize ≤ 255 ∨
        ∃ t u : String,
          message = t ++ u ∧ t.utf8ByteSize = 255) ∧
    (¬ ErrorTruncated message →
      publishBatchFailed config now outbox message db =
        db) := by
  refine ⟨⟨fun hBoth => errorTruncated_iff.mp hBoth.1, ?_⟩, ?_⟩
  · intro hEnds
    rcases publishBatchFailed_of_endsAt hEnds with
      ⟨text, hBytes, hMark⟩
    exact
      ⟨errorTruncated_iff.mpr hEnds,
        backoffRecorded_of_commits hBytes hMark⟩
  · rw [errorTruncated_iff]
    exact publishBatchFailed_of_not_endsAt

end OrderManagement

------------------------------------------------------------
-- A Divided Character
------------------------------------------------------------

namespace OrderManagement

attribute [local instance] sampleDeployment

def productionConfig : WorkerConfig where
  outboxRetryDelay := 30000
  publishBatchSize := 100
  topology := productionTopology

/- A row under its third lease, which ends in 30 seconds. -/
def leasedRow : OrderTimeoutOutbox where
  eventID := "E7"
  orderID := 7
  userID := 3
  timeoutAt := 1800000
  publishedAt := none
  attempts := 3
  nextAttemptAt := 30000
  lastError := ""

def leasedDB : DB :=
  { DB.empty with
    orderTimeoutOutbox := ⟨[leasedRow], by decide +kernel⟩ }

def reasonText : String :=
  "publish order timeout event: " ++
    String.ofList (List.replicate 225 'x')

/- Its byte 255 is the second one of its last character. -/
def dividedMessage : String :=
  reasonText.push 'é'

theorem dividedMessage_divided :
    ¬ Utf8.EndsAt 255 dividedMessage := by
  have hSize : reasonText.utf8ByteSize = 254 := by
    decide +kernel
  exact Utf8.not_endsAt_push (by omega)
    (by rw [hSize]; decide)

theorem divided_message_lost :
    leasedRow ∈ leasedDB.orderTimeoutOutbox.rows ∧
      Dao.isUnpublished leasedRow.eventID leasedRow = true ∧
        ¬ ErrorTruncated dividedMessage ∧
          publishBatchFailed productionConfig 1000 leasedRow
              dividedMessage leasedDB =
            leasedDB ∧
          ¬ BackoffRecorded productionConfig 1000 leasedRow
              dividedMessage leasedDB
              (publishBatchFailed productionConfig 1000
                leasedRow dividedMessage leasedDB) := by
  have hSame :
      publishBatchFailed productionConfig 1000 leasedRow
          dividedMessage leasedDB =
        leasedDB :=
    publishBatchFailed_of_not_endsAt dividedMessage_divided
  have hRow :
      leasedRow ∈ leasedDB.orderTimeoutOutbox.rows :=
    List.mem_singleton.mpr rfl
  have hUnpublished :
      Dao.isUnpublished leasedRow.eventID leasedRow = true := by
    decide +kernel
  refine
    ⟨hRow, hUnpublished,
      mt errorTruncated_iff.mp dividedMessage_divided, hSame,
      ?_⟩
  rw [hSame]
  intro hRecorded
  rcases hRecorded leasedRow hRow hUnpublished with
    ⟨row, hStored, _, hNext, _⟩
  rw [List.mem_singleton.mp hStored] at hNext
  exact absurd hNext (by decide +kernel)

end OrderManagement
