import OrderManagement.System.Database
import OrderManagement.Ordertimeout.Worker

/-
  The publishing loop of a worker, step by step. A step may
  be the last one: the process may stop after any of them.

  Main declarations:
    * `Publisher` and `PublisherStep`
    * `Publisher.Sound` with `PublisherStep.sound`
    * `AllConfirmed` with `PublisherStep.allConfirmed`
    * `PublisherStep.stored` and `PublisherStep.confirmed`
-/

namespace OrderManagement

open Transaction

variable [Deployment]

------------------------------------------------------------
-- The Loop
------------------------------------------------------------

/-
  How far `publishBatch` has come with the rows that it has
  claimed: it goes on with the first of them, it waits for
  the confirm of a message, which the broker may have stored
  and confirmed, or `publishEvent` has returned.
-/
inductive Publisher
| idle
| claimed (events : List OrderTimeoutOutbox)
| waiting
    (outbox : OrderTimeoutOutbox)
    (publishing : Publishing)
    (stored acknowledged : Bool)
    (events : List OrderTimeoutOutbox)
| published
    (outbox : OrderTimeoutOutbox)
    (events : List OrderTimeoutOutbox)
| failed (outbox : OrderTimeoutOutbox) (err : String)

def WorkerConfig.leaseDuration
    (config : WorkerConfig) : Time :=
  if config.outboxRetryDelay ≤ 0 then 30000
  else config.outboxRetryDelay

/- What a step makes the broker do. -/
inductive Handover
| none
| stored (publishing : Publishing) (routingKey : String)
| confirmed (publishing : Publishing)

/-
  A statement may fail without an effect, and the loop then
  goes on or stops. The broker may lose a message, it may
  store it without ever confirming it, and the worker may
  give up on a confirm that is still to come.
-/
inductive PublisherStep
    (config : WorkerConfig) :
    DB → Publisher → Handover → DB → Publisher → Prop
| claim
    {db db' : DB}
    {now : Time}
    {locked : OrderTimeoutOutbox → Bool}
    {events : List OrderTimeoutOutbox}
    (hClaim :
      Commits
        (Dao.claimPendingOrderTimeoutOutbox now
          config.publishBatchSize config.leaseDuration
          defaultMaxOutboxAttempts locked) db events db') :
    PublisherStep config db .idle .none db' (.claimed events)
| batchDone
    (db : DB) :
    PublisherStep config db (.claimed []) .none db .idle
| refuse
    {db : DB}
    {now : Time}
    {outbox : OrderTimeoutOutbox}
    {events : List OrderTimeoutOutbox}
    {e : String}
    (hBuild :
      buildOrderTimeoutPublishing now outbox.event
        config.topology = .error e) :
    PublisherStep config db (.claimed (outbox :: events)) .none
      db (.failed outbox e)
| publish
    {db : DB}
    {now : Time}
    {outbox : OrderTimeoutOutbox}
    {events : List OrderTimeoutOutbox}
    {publishing : Publishing}
    {routingKey : String}
    (hBuild :
      buildOrderTimeoutPublishing now outbox.event
        config.topology = .ok (publishing, routingKey)) :
    PublisherStep config db (.claimed (outbox :: events))
      (.stored publishing routingKey)
      db (.waiting outbox publishing true false events)
| lose
    {db : DB}
    {now : Time}
    {outbox : OrderTimeoutOutbox}
    {events : List OrderTimeoutOutbox}
    {publishing : Publishing}
    {routingKey : String}
    (hBuild :
      buildOrderTimeoutPublishing now outbox.event
        config.topology = .ok (publishing, routingKey)) :
    PublisherStep config db (.claimed (outbox :: events)) .none
      db (.waiting outbox publishing false false events)
| confirm
    (db : DB)
    (outbox : OrderTimeoutOutbox)
    (publishing : Publishing)
    (events : List OrderTimeoutOutbox) :
    PublisherStep config db
      (.waiting outbox publishing true false events)
      (.confirmed publishing)
      db (.waiting outbox publishing true true events)
| acknowledge
    (db : DB)
    (outbox : OrderTimeoutOutbox)
    (publishing : Publishing)
    (stored : Bool)
    (events : List OrderTimeoutOutbox) :
    PublisherStep config db
      (.waiting outbox publishing stored true events) .none
      db (.published outbox events)
| giveUp
    (db : DB)
    (outbox : OrderTimeoutOutbox)
    (publishing : Publishing)
    (stored acknowledged : Bool)
    (events : List OrderTimeoutOutbox)
    (e : String) :
    PublisherStep config db
      (.waiting outbox publishing stored acknowledged events)
      .none db (.failed outbox e)
| markPublished
    {db db' : DB}
    {now : Time}
    {outbox : OrderTimeoutOutbox}
    {events : List OrderTimeoutOutbox}
    (hMark :
      Commits
        (Dao.markOrderTimeoutOutboxPublished outbox.eventID
          now) db () db') :
    PublisherStep config db (.published outbox events) .none
      db' (.claimed events)
| markFailed
    {db db' : DB}
    {now : Time}
    {outbox : OrderTimeoutOutbox}
    {e lastError : String}
    (hMark :
      Commits
        (Dao.markOrderTimeoutOutboxFailed outbox.eventID
          lastError
          (now +
            calculateExponentialBackoff
              config.outboxRetryDelay outbox.attempts
              maxOutboxBackoffDelay)) db () db') :
    PublisherStep config db (.failed outbox e) .none db' .idle
| stop
    (db : DB)
    (p : Publisher) :
    PublisherStep config db p .none db .idle

variable {config : WorkerConfig}

theorem PublisherStep.touched
    {db db' : DB}
    {p p' : Publisher}
    {h : Handover}
    (hStep : PublisherStep config db p h db' p') :
    OutboxTouched db db' := by
  cases hStep with
  | claim hClaim =>
      exact Dao.claimPendingOrderTimeoutOutbox_touched hClaim
  | markPublished hMark =>
      exact Dao.markOrderTimeoutOutboxPublished_touched hMark
  | markFailed hMark =>
      exact Dao.markOrderTimeoutOutboxFailed_touched hMark
  | batchDone | refuse | publish | lose | confirm
  | acknowledge | giveUp | stop =>
      exact OutboxTouched.refl db

------------------------------------------------------------
-- What the Loop Knows
------------------------------------------------------------

/- The database has the row of this event. -/
def Known
    (db : DB)
    (event : TimeoutEvent) : Prop :=
  ∃ row ∈ db.orderTimeoutOutbox.rows, row.event = event

/- A message is the one of an event, which the consumer can
   read back. -/
def Carries
    (publishing : Publishing)
    (event : TimeoutEvent) : Prop :=
  publishing.body = marshalEvent event ∧
    decodeEvent publishing.body = .ok event

/- All messages that the broker has stored so far, and those
   that it has confirmed. -/
structure BrokerLog where
  stored : List Publishing
  confirmed : List Publishing

def BrokerLog.record
    (log : BrokerLog) : Handover → BrokerLog
| .none => log
| .stored publishing _ =>
    { log with stored := publishing :: log.stored }
| .confirmed publishing =>
    { log with confirmed := publishing :: log.confirmed }

/- The broker has confirmed a message of the event. -/
def BrokerLog.Confirmed
    (log : BrokerLog)
    (event : TimeoutEvent) : Prop :=
  ∃ publishing ∈ log.confirmed, Carries publishing event

/- The rows that a worker holds are rows of the table, and
   what it takes for published was confirmed. -/
def Publisher.Sound
    (db : DB)
    (log : BrokerLog) : Publisher → Prop
| .idle => True
| .claimed events =>
    ∀ outbox ∈ events, Known db outbox.event
| .waiting outbox publishing stored acknowledged events =>
    Known db outbox.event ∧
      (∀ other ∈ events, Known db other.event) ∧
      Carries publishing outbox.event ∧
      (stored = true → publishing ∈ log.stored) ∧
      (acknowledged = true → publishing ∈ log.confirmed)
| .published outbox events =>
    Known db outbox.event ∧
      (∀ other ∈ events, Known db other.event) ∧
      log.Confirmed outbox.event
| .failed outbox _ => Known db outbox.event

omit [Deployment] in
theorem OrderTimeoutOutbox.event_eq_iff
    (row row' : OrderTimeoutOutbox) :
    row.event = row'.event ↔
      row.identity = row'.identity := by
  unfold OrderTimeoutOutbox.event OrderTimeoutOutbox.identity
  simp

/- A row is found under the event id of its event. -/
theorem known_iff
    {db : DB}
    {event : TimeoutEvent} :
    Known db event ↔
      ∃ row,
        db.orderTimeoutOutbox.find?
            (Deployment.collate event.eventID) = some row ∧
          row.event = event := by
  constructor
  · rintro ⟨row, hMem, rfl⟩
    exact ⟨row, Table.find?_key_of_mem hMem, rfl⟩
  · rintro ⟨row, hFind, hEvent⟩
    exact ⟨row, Table.mem_of_find? hFind, hEvent⟩

theorem Known.grows
    {db db' : DB}
    {event : TimeoutEvent}
    (hKnown : Known db event)
    (hGrows : db.Grows db') :
    Known db' event := by
  rw [known_iff] at hKnown ⊢
  rcases hKnown with ⟨row, hFind, rfl⟩
  rcases hGrows.outbox _ row hFind with
    ⟨row', hFind', hIdentity⟩
  exact ⟨row', hFind',
    (OrderTimeoutOutbox.event_eq_iff _ _).mpr hIdentity⟩

omit [Deployment] in
theorem BrokerLog.mem_stored_record
    {log : BrokerLog}
    {publishing : Publishing}
    (h : Handover)
    (hMem : publishing ∈ log.stored) :
    publishing ∈ (log.record h).stored := by
  cases h with
  | stored => exact List.mem_cons_of_mem _ hMem
  | none | confirmed => exact hMem

omit [Deployment] in
theorem BrokerLog.mem_confirmed_record
    {log : BrokerLog}
    {publishing : Publishing}
    (h : Handover)
    (hMem : publishing ∈ log.confirmed) :
    publishing ∈ (log.record h).confirmed := by
  cases h with
  | confirmed => exact List.mem_cons_of_mem _ hMem
  | none | stored => exact hMem

omit [Deployment] in
theorem BrokerLog.Confirmed.record
    {log : BrokerLog}
    {event : TimeoutEvent}
    (hConfirmed : log.Confirmed event)
    (h : Handover) :
    (log.record h).Confirmed event := by
  rcases hConfirmed with ⟨publishing, hMem, hCarries⟩
  exact ⟨publishing, log.mem_confirmed_record h hMem,
    hCarries⟩

/- What a worker knows stays true. -/
theorem Publisher.Sound.mono
    {db db' : DB}
    {log : BrokerLog}
    {p : Publisher}
    (hSound : p.Sound db log)
    (hGrows : db.Grows db')
    (h : Handover) :
    p.Sound db' (log.record h) := by
  cases p with
  | idle => trivial
  | claimed events =>
      exact fun outbox hMem =>
        (hSound outbox hMem).grows hGrows
  | waiting outbox publishing stored acknowledged events =>
      rcases hSound with
        ⟨hKnown, hOthers, hCarries, hStored, hConfirmed⟩
      exact ⟨hKnown.grows hGrows,
        fun other hMem => (hOthers other hMem).grows hGrows,
        hCarries,
        fun hTrue => log.mem_stored_record h (hStored hTrue),
        fun hTrue =>
          log.mem_confirmed_record h (hConfirmed hTrue)⟩
  | published outbox events =>
      rcases hSound with ⟨hKnown, hOthers, hConfirmed⟩
      exact ⟨hKnown.grows hGrows,
        fun other hMem => (hOthers other hMem).grows hGrows,
        hConfirmed.record h⟩
  | failed outbox e => exact Known.grows hSound hGrows

------------------------------------------------------------
-- One Step
------------------------------------------------------------

/- A claimed row is a row of the table. -/
theorem Dao.known_of_claimPendingOrderTimeoutOutbox
    {now : Time}
    {limit leaseDuration maxAttempts : Int}
    {locked : OrderTimeoutOutbox → Bool}
    {events : List OrderTimeoutOutbox}
    {db db' : DB}
    (hCommit :
      Commits
        (Dao.claimPendingOrderTimeoutOutbox now limit
          leaseDuration maxAttempts locked) db events db')
    {outbox : OrderTimeoutOutbox}
    (hMem : outbox ∈ events) :
    Known db outbox.event := by
  unfold Dao.claimPendingOrderTimeoutOutbox at hCommit
  split at hCommit
  case isTrue =>
    rw [commits_pure] at hCommit
    rw [← hCommit.1] at hMem
    cases hMem
  case isFalse =>
    simp only [commits_bind, commits_get, commits_set,
      commits_pure] at hCommit
    rcases hCommit with
      ⟨_, _, ⟨rfl, rfl⟩, _, _, _, hEvents, _⟩
    rw [← hEvents] at hMem
    rcases List.mem_map.mp hMem with ⟨row, hRow, rfl⟩
    unfold Dao.listPendingOrderTimeoutOutbox at hRow
    have hRow := List.mem_of_mem_take hRow
    exact ⟨row, (List.mem_filter.mp hRow).1, rfl⟩

theorem PublisherStep.sound
    {db db' : DB}
    {p p' : Publisher}
    {h : Handover}
    {log : BrokerLog}
    (hStep : PublisherStep config db p h db' p')
    (hSound : p.Sound db log) :
    p'.Sound db' (log.record h) := by
  have hGrows := hStep.touched.grows
  cases hStep with
  | claim hClaim =>
      intro outbox hMem
      exact (Dao.known_of_claimPendingOrderTimeoutOutbox
        hClaim hMem).grows hGrows
  | batchDone | stop => trivial
  | refuse => exact hSound _ (List.mem_cons_self ..)
  | publish hBuild =>
      refine ⟨hSound _ (List.mem_cons_self ..), ?_,
        body_of_buildOrderTimeoutPublishing hBuild,
        fun _ => List.mem_cons_self .., nofun⟩
      exact fun other hMem =>
        hSound other (List.mem_cons_of_mem _ hMem)
  | lose hBuild =>
      refine ⟨hSound _ (List.mem_cons_self ..), ?_,
        body_of_buildOrderTimeoutPublishing hBuild, nofun,
        nofun⟩
      exact fun other hMem =>
        hSound other (List.mem_cons_of_mem _ hMem)
  | confirm outbox publishing events =>
      rcases hSound with
        ⟨hKnown, hOthers, hCarries, hStored, _⟩
      exact ⟨hKnown, hOthers, hCarries, hStored,
        fun _ => List.mem_cons_self ..⟩
  | acknowledge outbox publishing stored events =>
      rcases hSound with
        ⟨hKnown, hOthers, hCarries, _, hConfirmed⟩
      exact ⟨hKnown, hOthers, publishing, hConfirmed rfl,
        hCarries⟩
  | giveUp => exact hSound.1
  | markPublished =>
      exact fun outbox hMem =>
        (hSound.2.1 outbox hMem).grows hGrows
  | markFailed => trivial

/- The message that a step stores is that of a known event,
   and its key is the one that the worker has chosen. -/
theorem PublisherStep.stored
    {db db' : DB}
    {p p' : Publisher}
    {log : BrokerLog}
    {publishing : Publishing}
    {routingKey : String}
    (hStep :
      PublisherStep config db p (.stored publishing routingKey)
        db' p')
    (hSound : p.Sound db log) :
    ∃ event now,
      Known db event ∧ Carries publishing event ∧
        buildOrderTimeoutPublishing now event config.topology =
          .ok (publishing, routingKey) := by
  cases hStep with
  | @publish now outbox events _ _ hBuild =>
      exact ⟨outbox.event, now,
        hSound _ (List.mem_cons_self ..),
        body_of_buildOrderTimeoutPublishing hBuild, hBuild⟩

/- The broker has stored what it confirms. -/
theorem PublisherStep.confirmed
    {db db' : DB}
    {p p' : Publisher}
    {log : BrokerLog}
    {publishing : Publishing}
    (hStep :
      PublisherStep config db p (.confirmed publishing) db' p')
    (hSound : p.Sound db log) :
    publishing ∈ log.stored := by
  cases hStep with
  | confirm outbox publishing events =>
      exact hSound.2.2.2.1 rfl

------------------------------------------------------------
-- Published Rows
------------------------------------------------------------

/- A row that is marked as published has been confirmed. -/
def AllConfirmed
    (db : DB)
    (log : BrokerLog) : Prop :=
  ∀ row ∈ db.orderTimeoutOutbox.rows,
    row.publishedAt.isSome → log.Confirmed row.event

/- A rewriting of the rows marks none of them, except for
   rows whose event was confirmed. -/
theorem AllConfirmed.map
    {db : DB}
    {log : BrokerLog}
    {f : OrderTimeoutOutbox → OrderTimeoutOutbox}
    {hKey : ∀ row, Keyed.key (f row) = Keyed.key row}
    (hAll : AllConfirmed db log)
    (hIdentity : ∀ row, (f row).identity = row.identity)
    (hMarked :
      ∀ row ∈ db.orderTimeoutOutbox.rows,
        (f row).publishedAt = row.publishedAt ∨
          log.Confirmed row.event) :
    AllConfirmed
      { db with
        orderTimeoutOutbox :=
          db.orderTimeoutOutbox.map f hKey } log := by
  intro row' hMem' hPublished
  rcases List.mem_map.mp hMem' with ⟨row, hMem, rfl⟩
  rw [(OrderTimeoutOutbox.event_eq_iff _ _).mpr
    (hIdentity row)]
  rcases hMarked row hMem with hSame | hConfirmed
  · exact hAll row hMem (hSame ▸ hPublished)
  · exact hConfirmed

theorem Dao.claimPendingOrderTimeoutOutbox_confirmed
    {now : Time}
    {limit leaseDuration maxAttempts : Int}
    {locked : OrderTimeoutOutbox → Bool}
    {events : List OrderTimeoutOutbox}
    {db db' : DB}
    {log : BrokerLog}
    (hCommit :
      Commits
        (Dao.claimPendingOrderTimeoutOutbox now limit
          leaseDuration maxAttempts locked) db events db')
    (hAll : AllConfirmed db log) :
    AllConfirmed db' log := by
  unfold Dao.claimPendingOrderTimeoutOutbox at hCommit
  split at hCommit
  case isTrue =>
    rw [commits_pure] at hCommit
    exact hCommit.2 ▸ hAll
  case isFalse =>
    simp only [commits_bind, commits_get, commits_set,
      commits_pure] at hCommit
    rcases hCommit with
      ⟨_, _, ⟨rfl, rfl⟩, _, _, rfl, _, rfl⟩
    refine hAll.map ?_ ?_
    · intro row
      rw [apply_ite OrderTimeoutOutbox.identity]
      exact ite_self _
    · intro row _
      left
      rw [apply_ite OrderTimeoutOutbox.publishedAt]
      exact ite_self _

theorem Dao.markOrderTimeoutOutboxFailed_confirmed
    {eventID lastError : String}
    {nextAttemptAt : Time}
    {r : Unit}
    {db db' : DB}
    {log : BrokerLog}
    (hCommit :
      Commits
        (Dao.markOrderTimeoutOutboxFailed eventID lastError
          nextAttemptAt) db r db')
    (hAll : AllConfirmed db log) :
    AllConfirmed db' log := by
  rcases Dao.commits_markOrderTimeoutOutboxFailed hCommit with
    ⟨_, rfl⟩
  refine hAll.map ?_ ?_
  · intro row
    split <;> rfl
  · intro row _
    left
    split <;> rfl

/- The row that is marked is the one that the worker holds,
   since the event id is a unique key. -/
theorem Dao.markOrderTimeoutOutboxPublished_confirmed
    (event : TimeoutEvent)
    {now : Time}
    {r : Unit}
    {db db' : DB}
    {log : BrokerLog}
    (hCommit :
      Commits
        (Dao.markOrderTimeoutOutboxPublished event.eventID
          now) db r db')
    (hKnown : Known db event)
    (hConfirmed : log.Confirmed event)
    (hAll : AllConfirmed db log) :
    AllConfirmed db' log := by
  rcases Dao.commits_markOrderTimeoutOutboxPublished
      hCommit with ⟨_, rfl⟩
  refine hAll.map ?_ ?_
  · intro row
    split <;> rfl
  · intro row hMem
    split
    case isTrue hNamed =>
      right
      unfold Dao.isUnpublished at hNamed
      simp only [Bool.and_eq_true, decide_eq_true_eq]
        at hNamed
      rcases known_iff.mp hKnown with
        ⟨held, hFind, rfl⟩
      have hRow := Table.find?_key_of_mem hMem
      rw [key_outbox, hNamed.1, hFind] at hRow
      cases hRow
      exact hConfirmed
    case isFalse => exact Or.inl rfl

theorem AllConfirmed.record
    {db : DB}
    {log : BrokerLog}
    (hAll : AllConfirmed db log)
    (h : Handover) :
    AllConfirmed db (log.record h) :=
  fun row hMem hPublished =>
    (hAll row hMem hPublished).record h

theorem PublisherStep.allConfirmed
    {db db' : DB}
    {p p' : Publisher}
    {h : Handover}
    {log : BrokerLog}
    (hStep : PublisherStep config db p h db' p')
    (hSound : p.Sound db log)
    (hAll : AllConfirmed db log) :
    AllConfirmed db' (log.record h) := by
  cases hStep with
  | claim hClaim =>
      exact Dao.claimPendingOrderTimeoutOutbox_confirmed hClaim
        hAll
  | markFailed hMark =>
      exact Dao.markOrderTimeoutOutboxFailed_confirmed hMark
        hAll
  | @markPublished _ _ outbox events hMark =>
      exact Dao.markOrderTimeoutOutboxPublished_confirmed
        outbox.event hMark hSound.1 hSound.2.2 hAll
  | batchDone | refuse | publish | lose | confirm
  | acknowledge | giveUp | stop => exact hAll.record _

end OrderManagement
