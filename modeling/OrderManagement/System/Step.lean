import OrderManagement.Library.Transition
import OrderManagement.Bizcache.InventoryStockGuard
import OrderManagement.System.Requests
import Mathlib.Data.Multiset.Filter

/-
  The services over one database, as a transition system.

  Any number of calls is in flight. A call arrives, opens
  the snapshot that its plain reads answer from, and later
  runs its transaction against the database of that moment.
  A CreateOrder call first inserts its idempotency key, and
  the unique index makes it wait while another transaction
  holds an uncommitted row with the same key. A call may be
  lost to an error of the driver at any point.

  Main declarations:
    * `Call`, `Event`, and `State`
    * `Step`
    * `State.Sound` with `Step.sound`
    * `Step.effect`
-/

namespace OrderManagement

open Transaction

variable [Deployment]

------------------------------------------------------------
-- Calls
------------------------------------------------------------

/- How far a call has come. -/
inductive Stage
| arrived
| keyed (acquired : Bool)
| viewed (acquired : Bool) (view : DB)

/- A call in flight, with the answer its guard gave. -/
structure Call where
  request : Request
  preDeduct : PreDeduct
  stage : Stage

/- A call that has returned. -/
structure Event where
  request : Request
  preDeduct : PreDeduct
  response : Except Err Outcome
  executed : Bool
  before : DB
  after : DB

/- The database and the calls in flight. -/
structure State where
  db : DB
  calls : Multiset Call

/- No call in flight on the database of the migrations. -/
def State.initial : State where
  db := DB.empty
  calls := 0

/- The idempotency slot that a request asks for. -/
def Request.slot : Request → Option (Int × String)
| .createOrder userID req _ =>
    some (idempotencySlot userID req.idempotencyKey)
| _ => none

/- The error of a call that never reaches the database. -/
def Request.rejection
    (preDeduct : PreDeduct) : Request → Option Err
| .createOrder userID req _ =>
    match OrderService.checkCreateOrder userID req with
    | .error e => some e
    | .ok _ =>
        if preDeduct = .insufficient then
          some .insufficientStock
        else
          none
| _ => none

/- A creation that is not rejected runs with the hash and
   the sorted items of its request. -/
theorem Request.check_of_admitted
    {userID : Int}
    {req : CreateOrderRequest}
    {ids : GeneratedIDs}
    {preDeduct : PreDeduct}
    (hAdmitted :
      (createOrder userID req ids).rejection preDeduct =
        none) :
    OrderService.checkCreateOrder userID req =
        .ok
          (buildCreateOrderRequestHash req,
            sortedOrderItems req.items) ∧
      preDeduct ≠ .insufficient := by
  cases hChecked :
      OrderService.checkCreateOrder userID req with
  | error err =>
      simp only [rejection, hChecked] at hAdmitted
      cases hAdmitted
  | ok checked =>
      rcases checked with ⟨requestHash, items⟩
      rcases OrderService.checkCreateOrder_eq_ok_iff.mp
          hChecked with ⟨_, _, _, _, rfl, rfl⟩
      simp only [rejection, hChecked] at hAdmitted
      refine ⟨rfl, ?_⟩
      intro hInsufficient
      rw [if_pos hInsufficient] at hAdmitted
      cases hAdmitted

theorem Request.transaction_of_admitted
    {userID : Int}
    {req : CreateOrderRequest}
    {ids : GeneratedIDs}
    {preDeduct : PreDeduct}
    (hAdmitted :
      (createOrder userID req ids).rejection preDeduct = none)
    (view : DB)
    (now nextAttemptAt : Time) :
    (createOrder userID req ids).transaction view now
        nextAttemptAt =
      OrderService.createOrder view now nextAttemptAt userID
        req.idempotencyKey (buildCreateOrderRequestHash req)
        (sortedOrderItems req.items) ids := by
  have hChecked := (check_of_admitted hAdmitted).1
  simp only [transaction, hChecked]

/- The slot whose uncommitted row a call holds. -/
def Call.lockedSlot
    (c : Call) : Option (Int × String) :=
  match c.stage with
  | .keyed true => c.request.slot
  | .viewed true _ => c.request.slot
  | _ => none

------------------------------------------------------------
-- Steps
------------------------------------------------------------

/- A step carries the event of the call that it ends. -/
inductive Step : State → Option Event → State → Prop
| arrive
    (s : State)
    (request : Request)
    (preDeduct : PreDeduct) :
    Step s none
      { s with
        calls := ⟨request, preDeduct, .arrived⟩ ::ₘ s.calls }
| insertKey
    {db : DB}
    {rest : Multiset Call}
    {request : Request}
    {preDeduct : PreDeduct}
    {slot : Int × String}
    (hSlot : request.slot = some slot)
    (hAdmitted : request.rejection preDeduct = none)
    (hUnlocked : ∀ c ∈ rest, c.lockedSlot ≠ some slot) :
    Step ⟨db, ⟨request, preDeduct, .arrived⟩ ::ₘ rest⟩ none
      ⟨db, ⟨request, preDeduct,
        .keyed (db.orderIdempotencyKeys.find? slot).isNone⟩
          ::ₘ rest⟩
| openView
    {db : DB}
    {rest : Multiset Call}
    {request : Request}
    {preDeduct : PreDeduct}
    (hSlot : request.slot = none) :
    Step ⟨db, ⟨request, preDeduct, .arrived⟩ ::ₘ rest⟩ none
      ⟨db, ⟨request, preDeduct, .viewed false db⟩ ::ₘ rest⟩
| openKeyedView
    {db : DB}
    {rest : Multiset Call}
    {request : Request}
    {preDeduct : PreDeduct}
    {acquired : Bool} :
    Step ⟨db, ⟨request, preDeduct, .keyed acquired⟩ ::ₘ rest⟩
      none
      ⟨db, ⟨request, preDeduct, .viewed acquired db⟩
        ::ₘ rest⟩
| finish
    {db db' view : DB}
    {rest : Multiset Call}
    {request : Request}
    {preDeduct : PreDeduct}
    {acquired : Bool}
    {now nextAttemptAt : Time}
    {response : Except Err Outcome}
    (hRun :
      request.run view now nextAttemptAt db =
        (response, db')) :
    Step
      ⟨db, ⟨request, preDeduct, .viewed acquired view⟩
        ::ₘ rest⟩
      (some {
        request := request
        preDeduct := preDeduct
        response := response
        executed := true
        before := db
        after := db' })
      ⟨db', rest⟩
| reject
    {db : DB}
    {rest : Multiset Call}
    {request : Request}
    {preDeduct : PreDeduct}
    {e : Err}
    (hRejected : request.rejection preDeduct = some e) :
    Step ⟨db, ⟨request, preDeduct, .arrived⟩ ::ₘ rest⟩
      (some {
        request := request
        preDeduct := preDeduct
        response := .error e
        executed := false
        before := db
        after := db })
      ⟨db, rest⟩
| fail
    {db : DB}
    {rest : Multiset Call}
    (c : Call)
    (e : Err) :
    Step ⟨db, c ::ₘ rest⟩
      (some {
        request := c.request
        preDeduct := c.preDeduct
        response := .error e
        executed := false
        before := db
        after := db })
      ⟨db, rest⟩
| publish
    {db db' : DB}
    {calls : Multiset Call}
    (hTouched : OutboxTouched db db') :
    Step ⟨db, calls⟩ none ⟨db', calls⟩

/- The calls of a run that have returned, in order. -/
def eventsOf
    (ls : List (Option Event)) : List Event :=
  ls.filterMap id

@[simp] theorem eventsOf_append
    (ls ms : List (Option Event)) :
    eventsOf (ls ++ ms) = eventsOf ls ++ eventsOf ms := by
  simp [eventsOf]

/- A state that some run reaches after these events. -/
def Reaches
    (events : List Event)
    (s : State) : Prop :=
  ∃ ls, eventsOf ls = events ∧
    Transition.Run Step State.initial ls s

------------------------------------------------------------
-- Responses
------------------------------------------------------------

/- A call ends with an outcome exactly when it commits. -/
theorem Request.run_eq
    {request : Request}
    {view : DB}
    {now nextAttemptAt : Time}
    {db db' : DB}
    {response : Except Err Outcome}
    (hRun :
      request.run view now nextAttemptAt db =
        (response, db')) :
    (∃ outcome,
        response = .ok outcome ∧
          Commits
            (request.transaction view now nextAttemptAt) db
            outcome db') ∨
      ∃ e,
        response = .error e ∧ db' = db ∧
          Aborts
            (request.transaction view now nextAttemptAt) db
            e := by
  unfold Request.run at hRun
  unfold Commits Aborts
  cases hEnd :
      (request.transaction view now nextAttemptAt).run db with
  | error e =>
      rw [hEnd] at hRun
      cases hRun
      exact Or.inr ⟨e, rfl, rfl, rfl⟩
  | ok r =>
      rw [hEnd] at hRun
      cases hRun
      exact Or.inl ⟨r.1, rfl, rfl⟩

------------------------------------------------------------
-- The Invariant of the System
------------------------------------------------------------

/- What a call in flight knows about the database. -/
structure Call.Sound
    (c : Call)
    (db : DB) : Prop where
  grows :
    ∀ acquired view, c.stage = .viewed acquired view →
      view.Grows db
  locked :
    ∀ slot, c.lockedSlot = some slot →
      db.orderIdempotencyKeys.find? slot = none
  keyTaken :
    ∀ slot, c.request.slot = some slot →
      c.stage = .keyed false →
        (db.orderIdempotencyKeys.find? slot).isSome
  keySeen :
    ∀ slot view, c.request.slot = some slot →
      c.stage = .viewed false view →
        (view.orderIdempotencyKeys.find? slot).isSome
  admitted :
    c.stage = .arrived ∨
      c.request.rejection c.preDeduct = none

structure State.Sound
    (s : State) : Prop where
  wellFormed : s.db.WellFormed
  calls : ∀ c ∈ s.calls, c.Sound s.db
  exclusive :
    (s.calls.filterMap Call.lockedSlot).Nodup

theorem State.sound_initial : State.initial.Sound where
  wellFormed := DB.wellFormed_empty
  calls c hCall := by simp [State.initial] at hCall
  exclusive := by simp [State.initial]

/- A later database tells a call no less, if its slot is
   still free. -/
theorem Call.Sound.mono
    {c : Call}
    {db db' : DB}
    (hSound : c.Sound db)
    (hGrows : db.Grows db')
    (hFree :
      ∀ slot, c.lockedSlot = some slot →
        db'.orderIdempotencyKeys.find? slot = none) :
    c.Sound db' where
  grows acquired view hStage :=
    (hSound.grows acquired view hStage).trans hGrows
  locked := hFree
  keyTaken slot hSlot hStage := by
    rcases Option.isSome_iff_exists.mp
        (hSound.keyTaken slot hSlot hStage) with
      ⟨record, hRecord⟩
    simp [hGrows.keys slot record hRecord]
  keySeen := hSound.keySeen
  admitted := hSound.admitted

/- Only a created order adds an idempotency record. -/
theorem Effect.keys
    {view : DB}
    {request : Request}
    {outcome : Outcome}
    {db db' : DB}
    (hEffect : Effect view request outcome db db')
    (slot : Int × String) :
    db'.orderIdempotencyKeys.find? slot =
        db.orderIdempotencyKeys.find? slot ∨
      request.slot = some slot ∧
        db.orderIdempotencyKeys.find? slot = none := by
  cases hEffect with
  | @orderCreated now nextAttemptAt userID req ids
      requestHash items order db db' hChecked hPlaced =>
      rw [hPlaced.keys]
      by_cases hHere :
          idempotencySlot userID req.idempotencyKey = slot
      · exact Or.inr ⟨congrArg some hHere,
          hHere ▸ hPlaced.slotFree⟩
      · exact Or.inl (if_neg hHere)
  | orderPaid _ hMoved | orderFinished _ hMoved
  | orderCancelled _ hMoved | orderExpired _ _ hMoved =>
      exact Or.inl (by rw [OrderMoved.keys hMoved])
  | productCreated | productStatusSame | productStatusSet
  | inventoryInitialised | inventoryAdded | orderReplayed
  | cancelRepeated | expiryRepeated | expiryIgnored
  | expiryLate => exact Or.inl rfl

/-
  What a step does to the database: the worker touches the
  outbox, a call commits an effect, or nothing happens.
-/
theorem Step.effect
    {s t : State}
    {l : Option Event}
    (hSound : s.Sound)
    (hStep : Step s l t) :
    (l = none ∧ OutboxTouched s.db t.db) ∨
      ∃ e,
        l = some e ∧ e.before = s.db ∧ e.after = t.db ∧
          ((∃ outcome view,
              e.response = .ok outcome ∧
                e.executed = true ∧
                view.Grows s.db ∧
                Effect view e.request outcome s.db t.db) ∨
            ∃ err, e.response = .error err ∧ t.db = s.db) := by
  cases hStep with
  | arrive | insertKey | openView | openKeyedView =>
      exact Or.inl ⟨rfl, OutboxTouched.refl _⟩
  | publish hTouched => exact Or.inl ⟨rfl, hTouched⟩
  | reject | fail =>
      exact Or.inr ⟨_, rfl, rfl, rfl, Or.inr ⟨_, rfl, rfl⟩⟩
  | @finish db db' view rest request preDeduct acquired now
      nextAttemptAt response hRun =>
      refine Or.inr ⟨_, rfl, rfl, rfl, ?_⟩
      have hGrows :=
        (hSound.calls _ (Multiset.mem_cons_self _ _)).grows
          acquired view rfl
      rcases Request.run_eq hRun with
        ⟨outcome, rfl, hCommit⟩ | ⟨e, rfl, rfl, _⟩
      · exact Or.inl ⟨outcome, view, rfl, rfl, hGrows,
          effect_of_commits hSound.wellFormed hGrows hCommit⟩
      · exact Or.inr ⟨e, rfl, rfl⟩

/- Every step leads to a later database. -/
theorem Step.grows
    {s t : State}
    {l : Option Event}
    (hSound : s.Sound)
    (hStep : Step s l t) :
    s.db.Grows t.db := by
  rcases hStep.effect hSound with
    ⟨_, hTouched⟩ |
      ⟨e, _, _, _, ⟨_, _, _, _, _, hEffect⟩ | ⟨_, _, hSame⟩⟩
  · exact hTouched.grows
  · exact hEffect.grows
  · exact hSame ▸ DB.Grows.refl s.db

theorem Step.wellFormed
    {s t : State}
    {l : Option Event}
    (hSound : s.Sound)
    (hStep : Step s l t) :
    t.db.WellFormed := by
  rcases hStep.effect hSound with
    ⟨_, hTouched⟩ |
      ⟨e, _, _, _, ⟨_, _, _, _, hGrows, hEffect⟩ |
        ⟨_, _, hSame⟩⟩
  · exact hTouched.wellFormed hSound.wellFormed
  · exact hEffect.wellFormed hGrows hSound.wellFormed
  · exact hSame ▸ hSound.wellFormed

/-
  Replacing one call keeps the invariant, if the new stage
  is sound and the slots stay distinct.
-/
theorem State.Sound.replace
    {db : DB}
    {rest : Multiset Call}
    {c c' : Call}
    (hSound : State.Sound ⟨db, c ::ₘ rest⟩)
    (hNew : c'.Sound db)
    (hSlot :
      c'.lockedSlot = c.lockedSlot ∨
        ∀ slot, c'.lockedSlot = some slot →
          ∀ other ∈ rest, other.lockedSlot ≠ some slot) :
    State.Sound ⟨db, c' ::ₘ rest⟩ where
  wellFormed := hSound.wellFormed
  calls other hOther := by
    rcases Multiset.mem_cons.mp hOther with rfl | hRest
    · exact hNew
    · exact hSound.calls other (Multiset.mem_cons_of_mem hRest)
  exclusive := by
    have hOld := hSound.exclusive
    have hRest :
        (rest.filterMap Call.lockedSlot).Nodup := by
      cases hLocked : c.lockedSlot with
      | none =>
          rwa [Multiset.filterMap_cons_none _ _ hLocked]
            at hOld
      | some slot =>
          rw [Multiset.filterMap_cons_some _ _ _ hLocked]
            at hOld
          exact (Multiset.nodup_cons.mp hOld).2
    rcases hSlot with hSame | hFresh
    · cases hLocked : c'.lockedSlot with
      | none =>
          rwa [Multiset.filterMap_cons_none _ _ hLocked]
      | some slot =>
          rw [Multiset.filterMap_cons_some _ _ _ hLocked]
          rwa [Multiset.filterMap_cons_some _ _ _
            (hSame ▸ hLocked)] at hOld
    · cases hLocked : c'.lockedSlot with
      | none =>
          rwa [Multiset.filterMap_cons_none _ _ hLocked]
      | some slot =>
          rw [Multiset.filterMap_cons_some _ _ _ hLocked,
            Multiset.nodup_cons]
          refine ⟨?_, hRest⟩
          intro hMem
          rcases (Multiset.mem_filterMap _ _).mp hMem with
            ⟨other, hOther, hSame⟩
          exact hFresh slot hLocked other hOther hSame

/- Losing a call keeps the invariant. -/
theorem State.Sound.drop
    {db : DB}
    {rest : Multiset Call}
    {c : Call}
    (hSound : State.Sound ⟨db, c ::ₘ rest⟩) :
    State.Sound ⟨db, rest⟩ where
  wellFormed := hSound.wellFormed
  calls other hOther :=
    hSound.calls other (Multiset.mem_cons_of_mem hOther)
  exclusive := by
    have hOld := hSound.exclusive
    cases hLocked : c.lockedSlot with
    | none =>
        rwa [Multiset.filterMap_cons_none _ _ hLocked] at hOld
    | some slot =>
        rw [Multiset.filterMap_cons_some _ _ _ hLocked] at hOld
        exact (Multiset.nodup_cons.mp hOld).2

/- The slots of other calls are not the one a call holds. -/
theorem State.Sound.lockedSlot_ne
    {db : DB}
    {rest : Multiset Call}
    {c other : Call}
    {slot : Int × String}
    (hSound : State.Sound ⟨db, c ::ₘ rest⟩)
    (hLocked : c.lockedSlot = some slot)
    (hOther : other ∈ rest) :
    other.lockedSlot ≠ some slot := by
  intro hSame
  have hNodup := hSound.exclusive
  rw [Multiset.filterMap_cons_some _ _ _ hLocked,
    Multiset.nodup_cons] at hNodup
  exact hNodup.1
    ((Multiset.mem_filterMap _ _).mpr ⟨other, hOther, hSame⟩)

/-
  A committing call takes no slot that another call holds:
  either it holds the slot itself, or its snapshot shows a
  record under it.
-/
theorem Effect.keys_of_sound
    {db db' view : DB}
    {rest : Multiset Call}
    {request : Request}
    {preDeduct : PreDeduct}
    {acquired : Bool}
    {outcome : Outcome}
    (hSound :
      State.Sound
        ⟨db, ⟨request, preDeduct, .viewed acquired view⟩
          ::ₘ rest⟩)
    (hEffect : Effect view request outcome db db')
    {other : Call}
    {slot : Int × String}
    (hOther : other ∈ rest)
    (hLocked : other.lockedSlot = some slot) :
    db'.orderIdempotencyKeys.find? slot = none := by
  have hFree :=
    (hSound.calls other
      (Multiset.mem_cons_of_mem hOther)).locked slot hLocked
  have hSelf := hSound.calls _ (Multiset.mem_cons_self _ _)
  rcases hEffect.keys slot with hSame | ⟨hSlot, hNone⟩
  · rw [hSame]
    exact hFree
  · cases acquired with
    | true =>
        exact absurd hLocked
          (hSound.lockedSlot_ne hSlot hOther)
    | false =>
        rcases Option.isSome_iff_exists.mp
            (hSelf.keySeen slot view hSlot rfl) with
          ⟨record, hRecord⟩
        have hTaken :=
          (hSelf.grows false view rfl).keys slot record hRecord
        rw [hNone] at hTaken
        cases hTaken

theorem Step.sound
    {s t : State}
    {l : Option Event}
    (hSound : s.Sound)
    (hStep : Step s l t) :
    t.Sound := by
  have hWellFormed := hStep.wellFormed hSound
  have hGrowth := hStep.grows hSound
  cases hStep with
  | arrive s request preDeduct =>
      refine ⟨hSound.wellFormed, ?_, ?_⟩
      · intro c hCall
        rcases Multiset.mem_cons.mp hCall with rfl | hCall
        · constructor <;> simp [Call.lockedSlot]
        · exact hSound.calls c hCall
      · rw [Multiset.filterMap_cons_none _ _ rfl]
        exact hSound.exclusive
  | @insertKey db rest request preDeduct slot hSlot hAdmitted
      hUnlocked =>
      refine hSound.replace ?_ (Or.inr ?_)
      · constructor
        · intro acquired view hStage
          cases hStage
        · intro slot' hLocked
          cases hFind : db.orderIdempotencyKeys.find? slot with
          | none =>
              simp only [Call.lockedSlot, hFind,
                Option.isNone_none, hSlot] at hLocked
              cases hLocked
              exact hFind
          | some record =>
              simp [Call.lockedSlot, hFind] at hLocked
        · intro slot' hSlot' hStage
          rw [hSlot] at hSlot'
          cases hSlot'
          simpa [Option.ne_none_iff_isSome] using hStage
        · intro slot' view _ hStage
          cases hStage
        · exact Or.inr hAdmitted
      · intro slot' hLocked other hOther hSame
        cases hFind : db.orderIdempotencyKeys.find? slot with
        | none =>
            simp only [Call.lockedSlot, hFind,
              Option.isNone_none, hSlot] at hLocked
            cases hLocked
            exact hUnlocked other hOther hSame
        | some record =>
            simp [Call.lockedSlot, hFind] at hLocked
  | @openView db rest request preDeduct hSlot =>
      refine hSound.replace ?_ (Or.inl rfl)
      constructor
      · intro acquired view hStage
        cases hStage
        exact DB.Grows.refl db
      · intro slot hLocked
        cases hLocked
      · intro slot _ hStage
        cases hStage
      · intro slot view hSlot' _
        rw [hSlot] at hSlot'
        cases hSlot'
      · refine Or.inr ?_
        cases request <;> first | rfl | cases hSlot
  | @openKeyedView db rest request preDeduct acquired =>
      have hOld :=
        hSound.calls _ (Multiset.mem_cons_self _ _)
      have hLockedSame :
          (⟨request, preDeduct, .viewed acquired db⟩ :
              Call).lockedSlot =
            (⟨request, preDeduct, .keyed acquired⟩ :
              Call).lockedSlot := by
        cases acquired <;> rfl
      refine hSound.replace ?_ (Or.inl hLockedSame)
      constructor
      · intro acquired' view hStage
        cases hStage
        exact DB.Grows.refl db
      · intro slot hLocked
        exact hOld.locked slot (hLockedSame ▸ hLocked)
      · intro slot _ hStage
        cases hStage
      · intro slot view hSlot hStage
        cases hStage
        exact hOld.keyTaken slot hSlot rfl
      · exact hOld.admitted.imp_left fun hStage => by
          cases hStage
  | @finish db db' view rest request preDeduct acquired now
      nextAttemptAt response hRun =>
      have hSelf := hSound.calls _ (Multiset.mem_cons_self _ _)
      refine ⟨hWellFormed, ?_, hSound.drop.exclusive⟩
      intro other hOther
      have hOld :=
        hSound.calls other (Multiset.mem_cons_of_mem hOther)
      refine hOld.mono hGrowth ?_
      intro slot hLocked
      rcases Request.run_eq hRun with
        ⟨outcome, rfl, hCommit⟩ | ⟨e, rfl, rfl, _⟩
      · have hEffect := effect_of_commits hSound.wellFormed
          (hSelf.grows acquired view rfl) hCommit
        exact hEffect.keys_of_sound hSound hOther hLocked
      · exact hOld.locked slot hLocked
  | reject => exact hSound.drop
  | fail => exact hSound.drop
  | @publish db db' calls hTouched =>
      refine ⟨hWellFormed, ?_, hSound.exclusive⟩
      intro c hCall
      refine (hSound.calls c hCall).mono hGrowth ?_
      intro slot hLocked
      rcases hTouched with ⟨f, _, hKey, rfl⟩
      exact (hSound.calls c hCall).locked slot hLocked

theorem Reaches.sound
    {events : List Event}
    {s : State}
    (hReaches : Reaches events s) :
    s.Sound := by
  rcases hReaches with ⟨ls, _, hRun⟩
  exact hRun.invariant
    (fun _ _ _ hSound hStep => hStep.sound hSound)
    State.sound_initial

------------------------------------------------------------
-- Induction over Reachable States
------------------------------------------------------------

/-
  To relate the events so far to the database, it suffices
  to look at the worker and at the effects of calls.
-/
theorem Reaches.induction
    {P : List Event → DB → Prop}
    (hStart : P [] DB.empty)
    (hPublish :
      ∀ events db db', db.WellFormed → P events db →
        OutboxTouched db db' → P events db')
    (hCommit :
      ∀ events e outcome view, e.before.WellFormed →
        P events e.before → e.response = .ok outcome →
        view.Grows e.before →
        Effect view e.request outcome e.before e.after →
        P (events ++ [e]) e.after)
    (hError :
      ∀ events e err, e.before.WellFormed →
        P events e.before → e.response = .error err →
        e.after = e.before → P (events ++ [e]) e.before)
    {events : List Event}
    {s : State}
    (hReaches : Reaches events s) :
    P events s.db := by
  rcases hReaches with ⟨ls, rfl, hRun⟩
  refine (Transition.Run.history
    (P := fun ls s => s.Sound ∧ P (eventsOf ls) s.db)
    (s := State.initial)
    ⟨State.sound_initial, hStart⟩ ?_ hRun).2
  intro ls t l u _ ⟨hSound, hInv⟩ hStep
  refine ⟨hStep.sound hSound, ?_⟩
  rw [eventsOf_append]
  rcases hStep.effect hSound with
    ⟨rfl, hTouched⟩ |
      ⟨e, rfl, hBefore, hAfter,
        ⟨outcome, view, hOk, _, hGrows, hEffect⟩ |
          ⟨err, hErr, hSame⟩⟩
  · simpa [eventsOf] using
      hPublish _ _ _ hSound.wellFormed hInv hTouched
  · rw [← hBefore] at hGrows hInv
    rw [← hBefore, ← hAfter] at hEffect
    have hNext := hCommit _ e outcome view
      (hBefore ▸ hSound.wellFormed) hInv hOk hGrows hEffect
    rw [hAfter] at hNext
    exact hNext
  · rw [← hBefore] at hInv
    have hNext := hError _ e err
      (hBefore ▸ hSound.wellFormed) hInv hErr
      (hAfter.trans (hSame.trans hBefore.symm))
    rw [hBefore, ← hSame] at hNext
    exact hNext

------------------------------------------------------------
-- Events of a Run
------------------------------------------------------------

/- A call committed an effect, or it changed nothing. -/
structure Event.Sound
    (e : Event) : Prop where
  wellFormed : e.before.WellFormed
  result :
    (∃ outcome view,
        e.response = .ok outcome ∧
          e.executed = true ∧
          view.Grows e.before ∧
          Effect view e.request outcome e.before e.after) ∨
      ∃ err, e.response = .error err ∧ e.after = e.before

/- What is known of a call with a given outcome. -/
theorem Event.Sound.effect
    {e : Event}
    {outcome : Outcome}
    (hSound : e.Sound)
    (hOk : e.response = .ok outcome) :
    ∃ view : DB,
      view.Grows e.before ∧
        Effect view e.request outcome e.before e.after := by
  rcases hSound.result with
    ⟨outcome', view, hOk', _, hGrows, hEffect⟩ |
      ⟨err, hErr, _⟩
  · rw [hOk] at hOk'
    cases hOk'
    exact ⟨view, hGrows, hEffect⟩
  · rw [hOk] at hErr
    cases hErr

theorem Event.Sound.grows
    {e : Event}
    (hSound : e.Sound) :
    e.before.Grows e.after := by
  rcases hSound.result with
    ⟨_, _, _, _, _, hEffect⟩ | ⟨_, _, hSame⟩
  · exact hEffect.grows
  · exact hSame ▸ DB.Grows.refl e.before

/- The event of a step is sound, and tells its databases. -/
theorem Step.event
    {s t : State}
    {e : Event}
    (hSound : s.Sound)
    (hStep : Step s (some e) t) :
    e.Sound ∧ e.before = s.db ∧ e.after = t.db := by
  rcases hStep.effect hSound with
    ⟨hNone, _⟩ | ⟨e', hSame, hStart, hEnd, hResult⟩
  · cases hNone
  · cases hSame
    rw [← hStart, ← hEnd] at hResult
    exact ⟨⟨hStart ▸ hSound.wellFormed, hResult⟩, hStart,
      hEnd⟩

/- Along a run the database only grows. -/
theorem State.Sound.run
    {s t : State}
    {ls : List (Option Event)}
    (hSound : s.Sound)
    (hRun : Transition.Run Step s ls t) :
    t.Sound ∧ s.db.Grows t.db := by
  refine hRun.invariant
    (P := fun t => t.Sound ∧ s.db.Grows t.db) ?_
    ⟨hSound, DB.Grows.refl s.db⟩
  intro t l u ⟨hSound', hGrows⟩ hStep
  exact ⟨hStep.sound hSound',
    hGrows.trans (hStep.grows hSound')⟩

/- Every event of a run is sound, and the state that is
   reached comes after it. -/
theorem Reaches.event
    {events : List Event}
    {s : State}
    (hReaches : Reaches events s)
    {e : Event}
    (hEvent : e ∈ events) :
    e.Sound ∧ e.after.Grows s.db := by
  rcases hReaches with ⟨ls, rfl, hRun⟩
  rcases List.mem_filterMap.mp hEvent with
    ⟨l, hLabel, hSome⟩
  rcases hRun.exists_step_of_mem hLabel with
    ⟨_, _, t, t', _, hBefore, hStep, hAfter⟩
  have hSound := (State.sound_initial.run hBefore).1
  have hGrows := ((hStep.sound hSound).run hAfter).2
  cases hSome
  rcases hStep.event hSound with ⟨hEvent, _, hEnd⟩
  exact ⟨hEvent, hEnd ▸ hGrows⟩

------------------------------------------------------------
-- Calls in Flight
------------------------------------------------------------

/-
  What a step does to the calls in flight: one arrives, one
  goes on, one ends with an event, or none is touched.
-/
theorem Step.calls
    {s t : State}
    {l : Option Event}
    (hStep : Step s l t) :
    (∃ request preDeduct,
        l = none ∧ t.db = s.db ∧
          t.calls =
            ⟨request, preDeduct, .arrived⟩ ::ₘ s.calls) ∨
      (∃ c stage rest,
        l = none ∧ t.db = s.db ∧
          s.calls = c ::ₘ rest ∧
          t.calls = { c with stage := stage } ::ₘ rest) ∨
      (∃ e c,
        l = some e ∧ s.calls = c ::ₘ t.calls ∧
          e.request = c.request ∧
          e.preDeduct = c.preDeduct) ∨
      l = none ∧ t.calls = s.calls ∧
        OutboxTouched s.db t.db := by
  cases hStep with
  | arrive => exact Or.inl ⟨_, _, rfl, rfl, rfl⟩
  | insertKey | openView | openKeyedView =>
      exact Or.inr (Or.inl ⟨_, _, _, rfl, rfl, rfl, rfl⟩)
  | finish | reject | fail =>
      exact Or.inr (Or.inr (Or.inl
        ⟨_, _, rfl, rfl, rfl, rfl⟩))
  | publish hTouched =>
      exact Or.inr (Or.inr (Or.inr ⟨rfl, rfl, hTouched⟩))

------------------------------------------------------------
-- Executed Calls
------------------------------------------------------------

/-
  How an event came about: the call was admitted, its
  snapshot is an earlier database, and a record under its
  key is one that the snapshot shows.
-/
structure Event.Ran
    (e : Event)
    (view : DB)
    (now nextAttemptAt : Time) : Prop where
  admitted : e.request.rejection e.preDeduct = none
  grows : view.Grows e.before
  keySeen :
    ∀ slot, e.request.slot = some slot →
      (e.before.orderIdempotencyKeys.find? slot).isSome →
        (view.orderIdempotencyKeys.find? slot).isSome
  run :
    e.request.run view now nextAttemptAt e.before =
      (e.response, e.after)

/- A call that has opened its snapshot runs on it. -/
theorem State.Sound.ran
    {db db' view : DB}
    {rest : Multiset Call}
    {request : Request}
    {preDeduct : PreDeduct}
    {acquired : Bool}
    {now nextAttemptAt : Time}
    {response : Except Err Outcome}
    (hSound :
      State.Sound
        ⟨db, ⟨request, preDeduct, .viewed acquired view⟩
          ::ₘ rest⟩)
    (hRun :
      request.run view now nextAttemptAt db =
        (response, db')) :
    Event.Ran
      { request := request
        preDeduct := preDeduct
        response := response
        executed := true
        before := db
        after := db' }
      view now nextAttemptAt := by
  have hSelf := hSound.calls _ (Multiset.mem_cons_self _ _)
  refine {
    admitted := ?_
    grows := hSelf.grows acquired view rfl
    keySeen := ?_
    run := hRun }
  · rcases hSelf.admitted with hStage | hAdmitted
    · cases hStage
    · exact hAdmitted
  · intro slot hSlot hTaken
    cases acquired with
    | false => exact hSelf.keySeen slot view hSlot rfl
    | true =>
        have hFree := hSelf.locked slot hSlot
        rw [hFree] at hTaken
        cases hTaken

theorem Step.ran
    {s t : State}
    {e : Event}
    (hSound : s.Sound)
    (hStep : Step s (some e) t)
    (hExecuted : e.executed = true) :
    ∃ view now nextAttemptAt,
      e.Ran view now nextAttemptAt := by
  cases hStep with
  | reject | fail => cases hExecuted
  | finish hRun => exact ⟨_, _, _, hSound.ran hRun⟩

theorem Reaches.ran
    {events : List Event}
    {s : State}
    (hReaches : Reaches events s)
    {e : Event}
    (hEvent : e ∈ events)
    (hExecuted : e.executed = true) :
    ∃ view now nextAttemptAt,
      e.Ran view now nextAttemptAt := by
  rcases hReaches with ⟨ls, rfl, hRun⟩
  rcases List.mem_filterMap.mp hEvent with
    ⟨l, hLabel, rfl⟩
  rcases hRun.exists_step_of_mem hLabel with
    ⟨_, _, t, t', _, hBefore, hStep, _⟩
  exact hStep.ran (State.sound_initial.run hBefore).1
    hExecuted

end OrderManagement
