import OrderManagement.System.Step

/-
  A call that runs from its start to its end without any
  other call in between, and sequences of such calls. They
  are runs of the system, and they can be computed.

  Main declarations:
    * `Invocation` and `Invocation.event`
    * `InnerStep` and `Invocation.runsAlone`
    * `Reaches.call`
    * `serialEvents`, `serialDB`, and `reaches_serial`
-/

namespace OrderManagement

/- A request with its guard answer and clock readings. -/
structure Invocation where
  request : Request
  preDeduct : PreDeduct
  now : Time
  nextAttemptAt : Time

variable [Deployment]

/- The event of a call that runs alone. -/
def Invocation.event
    (i : Invocation)
    (db : DB) : Event :=
  match i.request.rejection i.preDeduct with
  | some e => {
      request := i.request
      preDeduct := i.preDeduct
      response := .error e
      executed := false
      before := db
      after := db }
  | none => {
      request := i.request
      preDeduct := i.preDeduct
      response :=
        (i.request.run db i.now i.nextAttemptAt db).1
      executed := true
      before := db
      after := (i.request.run db i.now i.nextAttemptAt db).2 }

/- A step that a call in flight makes: no call arrives, and
   the database changes only when a call ends. -/
structure InnerStep
    (s : State)
    (l : Option Event)
    (t : State) : Prop where
  step : Step s l t
  calls : t.calls.card ≤ s.calls.card
  silent : l = none → t.db = s.db

/- A step that ends a call. -/
theorem Step.inner
    {s t : State}
    {e : Event}
    (hStep : Step s (some e) t) :
    InnerStep s (some e) t := by
  refine ⟨hStep, ?_, nofun⟩
  cases hStep with
  | finish | reject | fail => simp

/- A call that has arrived can run alone if no other call
   holds the slot of its idempotency key. -/
theorem Invocation.runsAlone
    (i : Invocation)
    (db : DB)
    (rest : Multiset Call)
    (hUnlocked :
      ∀ slot, i.request.slot = some slot →
        ∀ c ∈ rest, c.lockedSlot ≠ some slot) :
    ∃ ls,
      eventsOf ls = [i.event db] ∧
        Transition.Run InnerStep
          ⟨db, ⟨i.request, i.preDeduct, .arrived⟩ ::ₘ rest⟩ ls
          ⟨(i.event db).after, rest⟩ := by
  unfold Invocation.event
  cases hRejection : i.request.rejection i.preDeduct with
  | some e =>
      refine ⟨_, ?_,
        Transition.Run.single
          (Step.reject hRejection).inner⟩
      simp [eventsOf]
  | none =>
      have hEnd :
          i.request.run db i.now i.nextAttemptAt db =
            ((i.request.run db i.now i.nextAttemptAt db).1,
              (i.request.run db i.now i.nextAttemptAt
                db).2) := rfl
      cases hSlot : i.request.slot with
      | none =>
          have hView :
              InnerStep
                ⟨db, ⟨i.request, i.preDeduct, .arrived⟩ ::ₘ
                  rest⟩ none
                ⟨db, ⟨i.request, i.preDeduct,
                  .viewed false db⟩ ::ₘ rest⟩ :=
            ⟨Step.openView hSlot, by simp, fun _ => rfl⟩
          refine ⟨_, ?_,
            (Transition.Run.single hView).snoc
              (Step.finish hEnd).inner⟩
          simp [eventsOf]
      | some slot =>
          have hKey :
              InnerStep
                ⟨db, ⟨i.request, i.preDeduct, .arrived⟩ ::ₘ
                  rest⟩ none
                ⟨db, ⟨i.request, i.preDeduct,
                  .keyed (db.orderIdempotencyKeys.find?
                    slot).isNone⟩ ::ₘ rest⟩ :=
            ⟨Step.insertKey hSlot hRejection
                (hUnlocked slot hSlot), by simp, fun _ => rfl⟩
          have hViewed :=
            (Transition.Run.single hKey).snoc
              ⟨Step.openKeyedView, by simp, fun _ => rfl⟩
          refine ⟨_, ?_,
            hViewed.snoc (Step.finish hEnd).inner⟩
          simp [eventsOf]

theorem Invocation.runs
    (i : Invocation)
    (db : DB)
    (rest : Multiset Call)
    (hUnlocked :
      ∀ slot, i.request.slot = some slot →
        ∀ c ∈ rest, c.lockedSlot ≠ some slot) :
    ∃ ls,
      eventsOf ls = [i.event db] ∧
        Transition.Run Step
          ⟨db, ⟨i.request, i.preDeduct, .arrived⟩ ::ₘ rest⟩ ls
          ⟨(i.event db).after, rest⟩ := by
  rcases i.runsAlone db rest hUnlocked with ⟨ls, hEvents, hRun⟩
  exact ⟨ls, hEvents, hRun.mono fun _ _ _ h => h.step⟩

/-
  A call can run alone in any reachable state in which no
  other call holds the slot of its idempotency key.
-/
theorem Reaches.call
    {events : List Event}
    {s : State}
    (hReaches : Reaches events s)
    (i : Invocation)
    (hUnlocked :
      ∀ slot, i.request.slot = some slot →
        ∀ c ∈ s.calls, c.lockedSlot ≠ some slot) :
    Reaches (events ++ [i.event s.db])
      ⟨(i.event s.db).after, s.calls⟩ := by
  rcases hReaches with ⟨ls, rfl, hRun⟩
  rcases i.runs s.db s.calls hUnlocked with
    ⟨ms, hEvents, hAlone⟩
  refine ⟨_, ?_,
    (hRun.snoc (Step.arrive s i.request i.preDeduct)).append
      hAlone⟩
  rw [eventsOf_append, eventsOf_append, hEvents]
  simp [eventsOf]

/- The database after a sequence of calls. -/
def serialDB
    (db : DB) : List Invocation → DB
| [] => db
| i :: is => serialDB (i.event db).after is

/- The events of a sequence of calls. -/
def serialEvents
    (db : DB) : List Invocation → List Event
| [] => []
| i :: is =>
    i.event db :: serialEvents (i.event db).after is

/- A sequence of calls is a run of the system. -/
theorem reaches_serial
    (is : List Invocation) :
    Reaches (serialEvents DB.empty is)
      ⟨serialDB DB.empty is, 0⟩ := by
  have hFrom :
      ∀ (events : List Event) (db : DB),
        Reaches events ⟨db, 0⟩ →
          Reaches (events ++ serialEvents db is)
            ⟨serialDB db is, 0⟩ := by
    induction is with
    | nil =>
        intro events db hReaches
        simpa [serialEvents, serialDB] using hReaches
    | cons i is ih =>
        intro events db hReaches
        have hNext := hReaches.call i (by simp)
        have hRest := ih _ _ hNext
        simpa [serialEvents, serialDB] using hRest
  have hStart : Reaches [] ⟨DB.empty, 0⟩ :=
    ⟨[], rfl, Transition.Run.refl _⟩
  simpa using hFrom [] DB.empty hStart

end OrderManagement

------------------------------------------------------------
-- A Small Shop
------------------------------------------------------------

namespace OrderManagement

/- The payloads that the computed runs hash, with their
   SHA-256 digests. -/
def sampleDigests : List (String × String) :=
  [ (marshalPayload [⟨1, 4⟩],
      "4919f659b6ab2d7b0e4f7f7c6cea5db44536ff775a5c6cc4c1787851e73f009b"),
    (marshalPayload [⟨1, 5⟩],
      "b6509cf61e01523c96c3008e4b25038dc6ca3164f7b7334bca9ec62c87612760"),
    (marshalPayload [⟨1, 2⟩],
      "1c3de061019b83ed2730c9d5baa52859de3fa690fd8f7a45e80c7f0e2ad3798a"),
    (marshalPayload [⟨1, 123456789012345⟩],
      "4eb61796ee1ba47099d5db7b6ada1b799b110c28404abeb9fdf865ee860d70f9"),
    (marshalPayload [⟨1, 4⟩, ⟨2, 1⟩],
      "64bc773533b5469a5d6935eb148af2135b9c376a7cd54a0d6fdf4e23fcc7c87c") ]

/- The text with one of two texts put for the other. -/
def exchanged
    (s a b : String) : String :=
  if s = a then b
  else if s = b then a
  else s

/-
  A deployment for computed runs. Keys are compared without
  regard to the case of ASCII letters, and the payloads
  above have their real digests.
-/
@[reducible] def sampleDeployment : Deployment where
  collate s := String.ofList (s.toList.map Char.toUpper)
  sha256Hex s :=
    sampleDigests.foldl
      (fun text pair => exchanged text pair.1 pair.2) s
  orderTimeout := 1800000

def sampleIDs : GeneratedIDs where
  orderID := 7
  orderNo := "ORD7"
  eventID := "E7"
  orderIDPositive := by decide

/- A second order of the sample has the identifier 8. -/
theorem sampleSecondID_pos : (0 : Int) < 8 := by decide

/- A call of the sample runs, at a given time. -/
def sampleCall
    (request : Request)
    (now : Time) : Invocation where
  request := request
  preDeduct := .skipped
  now := now
  nextAttemptAt := now

/- An order for four of ten pieces, and five more pieces. -/
def sampleCalls : List Invocation :=
  [ sampleCall (.createProduct 1 "tea" "" 250) 0,
    sampleCall (.onSaleProduct 1) 0,
    sampleCall (.initInventory 1 (some 10)) 0,
    sampleCall
      (.createOrder 3 ⟨"k", [⟨1, 4⟩]⟩ sampleIDs) 0,
    sampleCall (.addInventory 1 5) 0 ]

end OrderManagement
