import Mathlib.Data.Finset.Card
import OrderManagement.Fronted.OrderSubmission
import OrderManagement.System.Idempotency

/-
  A user submits one draft of the web client again and again
  while requests and responses may be lost on their way. The
  client keeps its key until it has seen a response, and the
  server creates one order under a key: a draft has as many
  orders as it has seen errors, and one more.

  Main declarations:
    * `Storefront` and `Storefront.Step`
    * `Event.creation` and `creations_nodup`
    * `Storefront.OneKey` and `Storefront.OneKey.step`
    * `draft_orders_le`
    * `draft_ordered_twice`
-/

namespace OrderManagement

variable [Deployment]

------------------------------------------------------------
-- The Client and the Server
------------------------------------------------------------

/- The page, what is on its way in either direction, and
   the server. An answer carries the key of its request. -/
structure Storefront where
  page : OrdersPage
  requests : Multiset CreateOrderRequest
  answers : Multiset (String × Order)
  core : State

/- What happens in a step. -/
inductive Visit
| submit
    (createKey : String)
    (sent : Option CreateOrderRequest)
| requestLost
| requestArrives
| server (event : Option Event)
| success (order : Order)
| failure
| edit
| reset

/- The answers to a user that a call ends with. -/
def Event.answers
    (userID : Int)
    (e : Event) : List (String × Order) :=
  match e.request, e.response with
  | .createOrder user req _, .ok (.orderCreated order)
  | .createOrder user req _, .ok (.orderReplayed order) =>
      if user = userID then
        [(req.idempotencyKey, order)]
      else
        []
  | _, _ => []

/-
  The server takes its steps for all its callers. A request
  of the page arrives there once or is lost. The page may
  fail while it waits, whatever becomes of its request: the
  browser gives up after ten seconds.
-/
inductive Storefront.Step
    (userID : Int) : Storefront → Visit → Storefront → Prop
| submit
    {s : Storefront}
    {createKey : String}
    {page : OrdersPage}
    {sent : Option CreateOrderRequest}
    (hSubmit :
      s.page.handleCreateOrder createKey = (page, sent)) :
    Storefront.Step userID s (.submit createKey sent)
      { s with
        page := page
        requests := (sent.toList : Multiset _) + s.requests }
| requestLost
    {s : Storefront}
    {request : CreateOrderRequest}
    {rest : Multiset CreateOrderRequest}
    (hSent : s.requests = request ::ₘ rest) :
    Storefront.Step userID s .requestLost
      { s with requests := rest }
| requestArrives
    {s : Storefront}
    {request : CreateOrderRequest}
    {rest : Multiset CreateOrderRequest}
    (ids : GeneratedIDs)
    (preDeduct : PreDeduct)
    (hSent : s.requests = request ::ₘ rest) :
    Storefront.Step userID s .requestArrives
      { s with
        requests := rest
        core := { s.core with
          calls :=
            ⟨.createOrder userID request ids, preDeduct,
              .arrived⟩ ::ₘ s.core.calls } }
| server
    {s : Storefront}
    {event : Option Event}
    {core : State}
    (hStep : OrderManagement.Step s.core event core) :
    Storefront.Step userID s (.server event)
      { s with
        answers :=
          ((event.toList.flatMap (Event.answers userID) :
            List _) : Multiset _) + s.answers
        core := core }
| success
    {s : Storefront}
    {key : String}
    {order : Order}
    (hPending : s.page.mutation = some key)
    (hAnswer : (key, order) ∈ s.answers) :
    Storefront.Step userID s (.success order)
      { s with page := s.page.onSuccess }
| failure
    {s : Storefront}
    (hPending : s.page.isPending = true) :
    Storefront.Step userID s .failure
      { s with page := s.page.onError }
| edit
    (s : Storefront)
    (draft : Option CreateOrderPayload) :
    Storefront.Step userID s .edit
      { s with page := s.page.edit draft }
| reset
    (s : Storefront) :
    Storefront.Step userID s .reset
      { s with page := s.page.handleResetForm }

/- The client has seen no success and the draft is as it
   was. -/
def Visit.keepsDraft : Visit → Bool
| .success _ | .edit | .reset => false
| .submit _ _ | .requestLost | .requestArrives | .server _
| .failure => true

def Visit.event : Visit → Option Event
| .server event => event
| _ => none

def Visit.sentKey : Visit → Option String
| .submit _ (some request) => some request.idempotencyKey
| _ => none

def Visit.isFailure : Visit → Bool
| .failure => true
| _ => false

def sentKeys
    (visits : List Visit) : List String :=
  visits.filterMap Visit.sentKey

def failures
    (visits : List Visit) : Nat :=
  visits.countP Visit.isFailure

------------------------------------------------------------
-- Orders of a Draft
------------------------------------------------------------

/- The slot and the order of a call that creates one. -/
def Event.creation
    (e : Event) : Option ((Int × String) × Int) :=
  match e.request.slot, e.response with
  | some slot, .ok (.orderCreated order) =>
      some (slot, order.id)
  | _, _ => none

/- The orders that the server has created under the keys
   that the page has sent. -/
def draftOrders
    (userID : Int)
    (visits : List Visit) : List ((Int × String) × Int) :=
  ((visits.filterMap Visit.event).filterMap
      Event.creation).filter
    fun creation =>
      creation.1 ∈
        (sentKeys visits).map (idempotencySlot userID)

/- A creation counts for its own slot. -/
theorem count_creations
    (events : List Event)
    (slot : Int × String) :
    ((events.filterMap Event.creation).map
        Prod.fst).count slot =
      (createdUnder events slot).length := by
  have hOne :
      ∀ e : Event,
        (e.creation.toList.map Prod.fst).count slot =
          (e.created slot).toList.length := by
    intro e
    unfold Event.creation Event.created
    cases hResponse : e.response with
    | error => split <;> simp_all
    | ok outcome =>
        cases hSlot : e.request.slot with
        | none => cases outcome <;> simp
        | some slot' =>
            cases outcome with
            | orderCreated order =>
                by_cases hSame : slot' = slot <;>
                  simp [hSame]
            | _ => simp
  induction events with
  | nil => rfl
  | cons e events ih =>
      have hSplit :
          ∀ {α : Type} (f : Event → Option α),
            (e :: events).filterMap f =
              (f e).toList ++ events.filterMap f := by
        intro α f
        cases hValue : f e <;> simp [hValue]
      unfold createdUnder at ih ⊢
      rw [hSplit, hSplit, List.map_append, List.count_append,
        List.length_append, ih, hOne]

/- No two orders of a run have one slot. -/
theorem creations_nodup
    {before events : List Event}
    {s : State}
    (hReaches : Reaches (before ++ events) s) :
    ((events.filterMap Event.creation).map
      Prod.fst).Nodup := by
  rw [List.nodup_iff_count_le_one]
  intro slot
  rw [count_creations]
  have hAll :
      (createdUnder (before ++ events) slot).length ≤ 1 :=
    hReaches.keyedOrders.created_le_one slot
  unfold createdUnder at hAll ⊢
  rw [List.filterMap_append, List.length_append] at hAll
  omega

------------------------------------------------------------
-- Keys of a Draft
------------------------------------------------------------

/-
  The page has sent no more keys than it has seen errors, or
  one more, which it still holds for its draft.
-/
def Storefront.OneKey
    (visits : List Visit)
    (s : Storefront) : Prop :=
  (sentKeys visits).toFinset.card ≤ failures visits ∨
    (sentKeys visits).toFinset.card ≤ failures visits + 1 ∧
      ∃ key ∈ sentKeys visits, s.page.KeyedFor key

theorem Storefront.OneKey.keep
    {visits : List Visit}
    {v : Visit}
    {s t : Storefront}
    (hOneKey : Storefront.OneKey visits s)
    (hSent : v.sentKey = none)
    (hFailure : v.isFailure = false)
    (hPage : t.page = s.page) :
    Storefront.OneKey (visits ++ [v]) t := by
  unfold Storefront.OneKey sentKeys failures at *
  rw [List.filterMap_append, List.countP_append, hPage]
  simpa [hSent, hFailure] using hOneKey

theorem Storefront.OneKey.step
    {userID : Int}
    {visits : List Visit}
    {v : Visit}
    {s t : Storefront}
    (hOneKey : Storefront.OneKey visits s)
    (hDraft : v.keepsDraft = true)
    (hStep : Storefront.Step userID s v t) :
    Storefront.OneKey (visits ++ [v]) t := by
  cases hStep with
  | @submit createKey page sent hSubmit =>
      cases sent with
      | none =>
          exact hOneKey.keep rfl rfl
            (OrdersPage.handleCreateOrder_none hSubmit)
      | some request =>
          rcases OrdersPage.handleCreateOrder_sent hSubmit with
            ⟨hKeyed, hHeld⟩
          have hKeys :
              sentKeys
                  (visits ++
                    [.submit createKey (some request)]) =
                sentKeys visits ++ [request.idempotencyKey] := by
            unfold sentKeys
            rw [List.filterMap_append]
            rfl
          have hFailures :
              failures
                  (visits ++
                    [.submit createKey (some request)]) =
                failures visits := by
            unfold failures
            rw [List.countP_append]
            rfl
          unfold Storefront.OneKey
          rw [hKeys, hFailures]
          refine Or.inr ⟨?_, request.idempotencyKey,
            by simp, hKeyed⟩
          rcases hOneKey with hFew | ⟨hMost, key, hMem, hKey⟩
          · have hOne :=
              Finset.card_union_le (sentKeys visits).toFinset
                {request.idempotencyKey}
            rw [Finset.card_singleton] at hOne
            rw [List.toFinset_append]
            simp only [List.toFinset_cons, List.toFinset_nil,
              insert_empty_eq]
            omega
          · -- the page sends the key that it holds
            rw [hHeld key hKey, List.toFinset_append]
            simpa [hMem] using hMost
  | requestLost | requestArrives | server =>
      exact hOneKey.keep rfl rfl rfl
  | success | edit | reset => cases hDraft
  | failure =>
      unfold Storefront.OneKey sentKeys failures at *
      rw [List.filterMap_append, List.countP_append]
      simp only [List.filterMap_cons, List.filterMap_nil,
        Visit.sentKey, List.append_nil]
      have hCount :
          [Visit.failure].countP Visit.isFailure = 1 := rfl
      rw [hCount]
      refine Or.inl ?_
      rcases hOneKey with hFew | ⟨hMost, _⟩
      · exact Nat.le_succ_of_le hFew
      · exact hMost

------------------------------------------------------------
-- Orders and Errors
------------------------------------------------------------

/- The server's part of a run. -/
theorem Storefront.run_core
    {userID : Int}
    {s t : Storefront}
    {visits : List Visit}
    {events : List Event}
    (hReaches : Reaches events s.core)
    (hRun :
      Transition.Run (Storefront.Step userID) s visits t) :
    Reaches (events ++ visits.filterMap Visit.event) t.core := by
  induction hRun with
  | refl => simpa using hReaches
  | snoc hRun hStep ih =>
      rcases ih with ⟨ls, hEvents, hCore⟩
      rw [List.filterMap_append, ← List.append_assoc,
        ← hEvents]
      cases hStep with
      | submit | requestLost | success | failure | edit
      | reset =>
          refine ⟨ls, ?_, hCore⟩
          simp [Visit.event]
      | requestArrives ids preDeduct =>
          refine ⟨_, ?_, hCore.snoc
            (OrderManagement.Step.arrive _ _ _)⟩
          simp [Visit.event, eventsOf]
      | @server event _ hStep =>
          refine ⟨_, ?_, hCore.snoc hStep⟩
          cases event <;> simp [Visit.event, eventsOf]

/-
  Submits of one draft, each of whose requests may be lost,
  answered, or committed with its response lost or late:
  until the client sees a success or the user touches the
  draft, there is at most one order for every error that the
  client has seen, and one more.
-/
theorem draft_orders_le
    {userID : Int}
    {events : List Event}
    {s t : Storefront}
    {visits : List Visit}
    (hReaches : Reaches events s.core)
    (hRun :
      Transition.Run (Storefront.Step userID) s visits t)
    (hDraft : ∀ v ∈ visits, v.keepsDraft = true) :
    (draftOrders userID visits).length ≤
      failures visits + 1 := by
  have hOneKey :
      (∀ v ∈ visits, v.keepsDraft = true) →
        Storefront.OneKey visits t := by
    refine hRun.history
      (P := fun ls u =>
        (∀ v ∈ ls, v.keepsDraft = true) →
          Storefront.OneKey ls u) ?_ ?_
    · intro _
      exact Or.inl (Nat.le_refl 0)
    · intro ls u v w _ ih hStep hAll
      exact (ih fun b hMem =>
          hAll b (List.mem_append_left _ hMem)).step
        (hAll v (by simp)) hStep
  have hKeys :
      (sentKeys visits).toFinset.card ≤ failures visits + 1 := by
    rcases hOneKey hDraft with hFew | ⟨hMost, _⟩
    · exact Nat.le_succ_of_le hFew
    · exact hMost
  have hNodup :
      ((draftOrders userID visits).map Prod.fst).Nodup := by
    refine List.Nodup.sublist ?_
      (creations_nodup (Storefront.run_core hReaches hRun))
    exact List.filter_sublist.map _
  have hSlots :
      ((draftOrders userID visits).map Prod.fst).toFinset ⊆
        (sentKeys visits).toFinset.image
          (idempotencySlot userID) := by
    intro slot hMem
    rw [List.mem_toFinset, List.mem_map] at hMem
    rcases hMem with ⟨creation, hMem, rfl⟩
    have hSlot := (List.mem_filter.mp hMem).2
    simpa using hSlot
  calc
    (draftOrders userID visits).length =
        ((draftOrders userID visits).map Prod.fst).length :=
      (List.length_map _).symm
    _ = ((draftOrders userID visits).map
          Prod.fst).toFinset.card :=
      (List.toFinset_card_of_nodup hNodup).symm
    _ ≤ ((sentKeys visits).toFinset.image
          (idempotencySlot userID)).card :=
      Finset.card_le_card hSlots
    _ ≤ (sentKeys visits).toFinset.card :=
      Finset.card_image_le
    _ ≤ failures visits + 1 := hKeys

------------------------------------------------------------
-- A Lost Response
------------------------------------------------------------

theorem Storefront.run_server
    (userID : Int)
    (s : Storefront)
    {core : State}
    {ls : List (Option Event)}
    (hRun :
      Transition.Run OrderManagement.Step s.core ls core) :
    ∃ answers,
      Transition.Run (Storefront.Step userID) s
        (ls.map Visit.server)
        { s with
          answers := answers
          core := core } := by
  generalize hStart : s.core = start at hRun
  induction hRun with
  | refl =>
      subst hStart
      exact ⟨s.answers, Transition.Run.refl s⟩
  | snoc hRun hStep ih =>
      rcases ih with ⟨answers, hBefore⟩
      rw [List.map_append]
      exact ⟨_, hBefore.snoc (Storefront.Step.server hStep)⟩

/- A submit whose request the server carries out, while the
   page gives up on it. -/
theorem Storefront.unanswered
    (userID : Int)
    (s : Storefront)
    (page : OrdersPage)
    (createKey : String)
    (request : CreateOrderRequest)
    (ids : GeneratedIDs)
    (i : Invocation)
    (hSubmit :
      s.page.handleCreateOrder createKey =
        (page, some request))
    (hPending : page.isPending = true)
    (hRequests : s.requests = 0)
    (hIdle : s.core.calls = 0)
    (hCall : i.request = .createOrder userID request ids) :
    ∃ visits t,
      Transition.Run (Storefront.Step userID) s visits t ∧
        (∀ v ∈ visits, v.keepsDraft = true) ∧
        visits.filterMap Visit.event = [i.event s.core.db] ∧
        sentKeys visits = [request.idempotencyKey] ∧
        failures visits = 1 ∧
        t.page = page.onError ∧ t.requests = 0 ∧
        t.core = ⟨(i.event s.core.db).after, 0⟩ := by
  have hSubmitted :
      Storefront.Step userID s
        (.submit createKey (some request))
        { s with
          page := page
          requests :=
            ((some request).toList : Multiset _) +
              s.requests } :=
    .submit hSubmit
  have hOne :
      ((some request).toList : Multiset _) + s.requests =
        request ::ₘ 0 := by
    rw [hRequests]
    rfl
  have hArrived :=
    (Transition.Run.single hSubmitted).snoc
      (.requestArrives ids i.preDeduct hOne)
  rcases i.runs s.core.db 0 (by simp) with
    ⟨ls, hEvents, hAlone⟩
  rcases Storefront.run_server userID
      { s with
        page := page
        requests := 0
        core :=
          ⟨s.core.db,
            ⟨i.request, i.preDeduct, .arrived⟩ ::ₘ 0⟩ }
      hAlone with ⟨answers, hServed⟩
  rw [hCall] at hServed
  rw [hIdle] at hArrived
  have hFailed :=
    (hArrived.append hServed).snoc
      (Storefront.Step.failure hPending)
  refine ⟨_, _, hFailed, ?_, ?_, ?_, ?_, rfl, rfl, rfl⟩
  · intro v hMem
    simp only [List.mem_append, List.mem_singleton,
      List.mem_map] at hMem
    rcases hMem with ((rfl | rfl) | ⟨_, _, rfl⟩) | rfl <;> rfl
  · have hServer :
        (ls.map Visit.server).filterMap Visit.event =
          eventsOf ls := by
      rw [List.filterMap_map]
      rfl
    simp only [List.filterMap_append, hServer, hEvents]
    rfl
  · have hServer :
        (ls.map Visit.server).filterMap Visit.sentKey = [] := by
      rw [List.filterMap_map]
      exact List.filterMap_none ls
    simp only [sentKeys, List.filterMap_append, hServer]
    rfl
  · have hServer :
        (ls.map Visit.server).countP Visit.isFailure = 0 := by
      rw [List.countP_map]
      exact congrFun List.countP_false ls
    simp only [failures, List.countP_append, hServer]
    rfl

end OrderManagement

------------------------------------------------------------
-- Two Orders for One Draft
------------------------------------------------------------

namespace OrderManagement

attribute [local instance] sampleDeployment

/- Ten pieces of one product on sale. -/
def saleCalls : List Invocation :=
  [ sampleCall (.createProduct 1 "tea" "" 250) 0,
    sampleCall (.onSaleProduct 1) 0,
    sampleCall (.initInventory 1 (some 10)) 0 ]

/- The form asks for four of them. -/
def filledForm : Storefront where
  page := ⟨some ⟨[⟨1, 4⟩]⟩, none, none⟩
  requests := 0
  answers := 0
  core := ⟨serialDB DB.empty saleCalls, 0⟩

/- The calls of two submits with two keys. -/
def firstSubmit : Invocation :=
  sampleCall (.createOrder 3 ⟨"a", [⟨1, 4⟩]⟩ sampleIDs) 0

def secondSubmit : Invocation :=
  sampleCall
    (.createOrder 3 ⟨"b", [⟨1, 4⟩]⟩
      ⟨8, "ORD8", "E8", sampleSecondID_pos⟩) 0

/- The page gives up on a request that the server commits,
   and the next submit has a new key. -/
theorem twice_submitted :
    ∃ (visits : List Visit) (t : Storefront),
      Transition.Run (Storefront.Step 3) filledForm visits t ∧
        (∀ v ∈ visits, v.keepsDraft = true) ∧
        failures visits = 2 ∧
        (draftOrders 3 visits).length = 2 := by
  rcases Storefront.unanswered 3 filledForm
      ⟨some ⟨[⟨1, 4⟩]⟩,
        some ⟨fingerprintOrder ⟨[⟨1, 4⟩]⟩, "a"⟩, some "a"⟩
      "a" ⟨"a", [⟨1, 4⟩]⟩ sampleIDs firstSubmit
      (by decide +kernel) rfl rfl rfl rfl with
    ⟨visits, t, hRun, hKeeps, hEvents, hKeys, hFailures,
      hPage, hRequests, hCore⟩
  rcases Storefront.unanswered 3 t
      ⟨some ⟨[⟨1, 4⟩]⟩,
        some ⟨fingerprintOrder ⟨[⟨1, 4⟩]⟩, "b"⟩, some "b"⟩
      "b" ⟨"b", [⟨1, 4⟩]⟩ ⟨8, "ORD8", "E8", by decide⟩
      secondSubmit
      (by rw [hPage]; decide +kernel) rfl hRequests
      (by rw [hCore]) rfl with
    ⟨visits', t', hRun', hKeeps', hEvents', hKeys',
      hFailures', _⟩
  refine ⟨visits ++ visits', t', hRun.append hRun', ?_, ?_, ?_⟩
  · intro v hMem
    rcases List.mem_append.mp hMem with hMem | hMem
    · exact hKeeps v hMem
    · exact hKeeps' v hMem
  · unfold failures at *
    rw [List.countP_append, hFailures, hFailures']
  · rw [hCore] at hEvents'
    unfold draftOrders sentKeys at *
    rw [List.filterMap_append, List.filterMap_append, hEvents,
      hEvents', hKeys, hKeys']
    decide +kernel

theorem draft_orders_le_sample :
    ∃ visits : List Visit,
      (draftOrders 3 visits).length = 2 ∧
        (draftOrders 3 visits).length ≤ failures visits + 1 := by
  rcases twice_submitted with
    ⟨visits, t, hRun, hKeeps, _, hOrders⟩
  exact ⟨visits, hOrders,
    draft_orders_le (reaches_serial saleCalls) hRun hKeeps⟩

/- Two orders for a draft that the user has not touched and
   of which no success was seen. -/
theorem draft_ordered_twice :
    ¬ ∀ (userID : Int) (events : List Event)
        (s t : Storefront) (visits : List Visit),
        Reaches events s.core →
        Transition.Run (Storefront.Step userID) s visits t →
        (∀ v ∈ visits, v.keepsDraft = true) →
        (draftOrders userID visits).length ≤ 1 := by
  intro hClaim
  rcases twice_submitted with
    ⟨visits, t, hRun, hKeeps, _, hOrders⟩
  have hOne :=
    hClaim 3 _ filledForm t visits (reaches_serial saleCalls)
      hRun hKeeps
  rw [hOrders] at hOne
  exact absurd hOne (by decide)

end OrderManagement
