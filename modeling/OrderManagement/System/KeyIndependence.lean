import OrderManagement.Service.KeyAnswers
import OrderManagement.System.Replay

/-
  Two idempotency keys of one user. The validation and the
  hash take a key as it is written, the unique index and the
  lookup take it under the collation of the column: a call
  is answered by the record of another key exactly when the
  collation does not tell the two apart.

  Main declarations:
    * `Reaches.key_answer`
    * `KeysIndependent`
    * `keys_independent_iff`
-/

namespace OrderManagement

open Transaction

variable [Deployment]

------------------------------------------------------------
-- Where an Answer Comes From
------------------------------------------------------------

/- A replay, a conflict, or an order in progress is read off
   the record that stands under the slot of the key. -/
theorem Reaches.key_answer
    {events : List Event}
    {s : State}
    (hReaches : Reaches events s)
    {e : Event}
    (hEvent : e ∈ events)
    (hExecuted : e.executed = true)
    {userID : Int}
    {req : CreateOrderRequest}
    {ids : GeneratedIDs}
    (hRequest : e.request = .createOrder userID req ids)
    (hAnswer : IsKeyAnswer e.response) :
    ∃ record,
      e.before.orderIdempotencyKeys.find?
          (idempotencySlot userID req.idempotencyKey) =
            some record ∧
        KeyAnswer record (buildCreateOrderRequestHash req)
          e.response := by
  rcases hReaches.ran hEvent hExecuted with
    ⟨view, now, nextAttemptAt, hRan⟩
  have hAdmitted := hRan.admitted
  have hRun := hRan.run
  rw [hRequest] at hAdmitted hRun
  have hTransaction :=
    Request.transaction_of_admitted hAdmitted view now
      nextAttemptAt
  rcases Request.run_eq hRun with
    ⟨outcome, hOk, hCommit⟩ | ⟨err, hError, _, hAbort⟩
  · rw [hTransaction] at hCommit
    rw [hOk] at hAnswer ⊢
    rcases commits_createOrder hCommit with
      ⟨order, rfl, _⟩ | ⟨order, rfl, _, hReplayed⟩
    · exact absurd hAnswer id
    · rcases hReplayed.record with
        ⟨record, hFind, hSame, _, hOrder⟩
      exact ⟨record, hRan.grows.keys _ record hFind,
        KeyAnswer.replayed hSame hOrder⟩
  · rw [hTransaction] at hAbort
    rw [hError] at hAnswer ⊢
    rcases OrderService.createOrder_aborts hAbort hAnswer
      with ⟨hTaken, hFound⟩
    have hSeen := hRan.keySeen
      (idempotencySlot userID req.idempotencyKey)
      (by rw [hRequest]; rfl) hTaken
    rcases Option.isSome_iff_exists.mp hSeen with
      ⟨record, hView⟩
    exact ⟨record, hRan.grows.keys _ record hView,
      hFound record hView⟩

------------------------------------------------------------
-- Independent Keys
------------------------------------------------------------

/- The keys that CreateOrder does not reject. -/
def KeyAccepted
    (key : String) : Prop :=
  isBlank key = false ∧ key.utf8ByteSize ≤ 128

/-
  In every run, what a call with one key answers about an
  existing order comes from a record that was not stored
  under the other key.
-/
def KeysIndependent
    (userID : Int)
    (key key' : String) : Prop :=
  ∀ events s e req ids,
    Reaches events s →
      e ∈ events →
        e.executed = true →
          e.request = .createOrder userID req ids →
            req.idempotencyKey = key →
              IsKeyAnswer e.response →
                ∃ record,
                  e.before.orderIdempotencyKeys.find?
                      (idempotencySlot userID key) =
                        some record ∧
                    KeyAnswer record
                      (buildCreateOrderRequestHash req)
                      e.response ∧
                    record.idempotencyKey ≠ key'

/- The record of a created order keeps the key as the call
   has written it. -/
theorem Event.Sound.stored_key
    {e : Event}
    (hSound : e.Sound)
    {userID : Int}
    {req : CreateOrderRequest}
    {ids : GeneratedIDs}
    {order : Order}
    (hRequest : e.request = .createOrder userID req ids)
    (hOk : e.response = .ok (.orderCreated order)) :
    ∃ record,
      e.after.orderIdempotencyKeys.find?
          (idempotencySlot userID req.idempotencyKey) =
            some record ∧
        record.idempotencyKey = req.idempotencyKey := by
  rcases hSound.effect hOk with ⟨view, _, hEffect⟩
  rw [hRequest] at hEffect
  generalize e.before = before at hEffect
  generalize hAfter : e.after = after at hEffect
  cases hEffect with
  | orderCreated hChecked hPlaced =>
      refine ⟨_, (hPlaced.keys _).trans (if_pos rfl), rfl⟩

------------------------------------------------------------
-- Two Calls
------------------------------------------------------------

/- One product on sale with some stock. -/
def stockingCalls : List Invocation :=
  let call request : Invocation :=
    ⟨request, .skipped, 0, 0⟩
  [ call (.createProduct 1 "tea" "" 250),
    call (.onSaleProduct 1),
    call (.initInventory 1 (some 10)) ]

omit [Deployment] in
theorem stockedTea_priceFen_pos : (0 : Int) < 250 := by
  decide

def stockedTea : Product where
  id := 1
  name := "tea"
  description := ""
  priceFen := 250
  status := .onSale
  priceFenPositive := stockedTea_priceFen_pos

/- A request for one piece. -/
def orderOnePiece
    (userID : Int)
    (key : String) : Invocation where
  request :=
    .createOrder userID ⟨key, [⟨1, 1⟩]⟩ sampleIDs
  preDeduct := .skipped
  now := 0
  nextAttemptAt := 0

theorem lineAvailable_stocked :
    LineAvailable (serialDB DB.empty stockingCalls)
      (⟨1, 1⟩, stockedTea) := by
  have hStock :
      stockOf (serialDB DB.empty stockingCalls).inventories 1 =
        10 := rfl
  have hLocked :
      lockedOf (serialDB DB.empty stockingCalls).inventories
          1 =
        0 := rfl
  constructor
  case product => rfl
  case onSale => rfl
  case inventory => rfl
  case quantity => decide
  case enough =>
    dsimp only
    rw [hStock]
    decide
  case stockFits =>
    dsimp only
    rw [hStock]
    decide
  case lockedFits =>
    dsimp only
    rw [hLocked]
    decide
  case subtotal => decide

theorem orderable_stocked :
    Orderable (serialDB DB.empty stockingCalls)
      [(⟨1, 1⟩, stockedTea)] sampleIDs where
  distinct := by simp
  available := by
    intro line hLine
    rw [List.mem_singleton.mp hLine]
    exact lineAvailable_stocked
  total := by decide
  orderIDFresh := rfl
  orderNoFresh := by
    intro order hOrder
    cases hOrder
  eventIDFresh := rfl
  outboxFresh := by
    intro row hRow
    cases hRow

/- The check of a request for one piece. -/
theorem check_orderOnePiece
    {userID : Int}
    {key : String}
    (hUser : 0 < userID)
    (hAccepted : KeyAccepted key) :
    OrderService.checkCreateOrder userID
        ⟨key, [⟨1, 1⟩]⟩ =
      .ok (buildCreateOrderRequestHash ⟨key, [⟨1, 1⟩]⟩,
        sortedOrderItems [⟨1, 1⟩]) :=
  OrderService.checkCreateOrder_eq_ok_iff.mpr
    ⟨hUser, hAccepted.1, hAccepted.2, by simp, rfl, rfl⟩

theorem admitted_orderOnePiece
    {userID : Int}
    {key : String}
    (hUser : 0 < userID)
    (hAccepted : KeyAccepted key) :
    (orderOnePiece userID key).request.rejection
      (orderOnePiece userID key).preDeduct = none := by
  have hChecked := check_orderOnePiece hUser hAccepted
  simp [orderOnePiece, Request.rejection, hChecked]

/- The event of an admitted call. -/
theorem Invocation.event_of_admitted
    {i : Invocation}
    (hAdmitted : i.request.rejection i.preDeduct = none)
    (db : DB) :
    (i.event db).request = i.request ∧
      (i.event db).executed = true ∧
      (i.event db).before = db ∧
      (i.event db).response =
        (i.request.run db i.now i.nextAttemptAt db).1 := by
  unfold Invocation.event
  rw [hAdmitted]
  exact ⟨rfl, rfl, rfl, rfl⟩

/- After a call with the one key, a call with an equal key is
   answered with the order of the first. -/
theorem exists_answer_of_equal_key
    {userID : Int}
    {key key' : String}
    (hUser : 0 < userID)
    (hAccepted : KeyAccepted key)
    (hAccepted' : KeyAccepted key')
    (hSame :
      Deployment.collate key = Deployment.collate key') :
    ∃ events s e order record,
      Reaches events s ∧
        e ∈ events ∧
        e.executed = true ∧
        e.request =
          .createOrder userID ⟨key, [⟨1, 1⟩]⟩ sampleIDs ∧
        e.response = .ok (.orderReplayed order) ∧
        e.before.orderIdempotencyKeys.find?
            (idempotencySlot userID key) = some record ∧
        record.idempotencyKey = key' := by
  have hSlot :
      idempotencySlot userID key =
        idempotencySlot userID key' := by
    unfold idempotencySlot
    rw [hSame]
  have hAdmitted :=
    admitted_orderOnePiece hUser hAccepted
  have hAdmitted' :=
    admitted_orderOnePiece hUser hAccepted'
  generalize hOpened :
      serialDB DB.empty stockingCalls = opened
  have hReaches₀ := reaches_serial stockingCalls
  have hOrderable := orderable_stocked
  have hFree :
      (serialDB DB.empty
          stockingCalls).orderIdempotencyKeys.find?
            (idempotencySlot userID key') = none := rfl
  rw [hOpened] at hReaches₀ hOrderable hFree
  -- the first call creates the order
  have hReaches₁ :=
    hReaches₀.call (orderOnePiece userID key') (by simp)
  rcases Invocation.event_created
      (i := orderOnePiece userID key') rfl hAdmitted' hFree
      rfl hOrderable with ⟨order, hCreated⟩
  have hFirst := Invocation.event_of_admitted hAdmitted' opened
  generalize
    (orderOnePiece userID key').event opened = e₁
    at hReaches₁ hCreated hFirst
  have hMem₁ :
      e₁ ∈ serialEvents DB.empty stockingCalls ++ [e₁] := by
    simp
  have hBy :
      CreatedBy (serialEvents DB.empty stockingCalls ++ [e₁])
        userID ⟨key', [⟨1, 1⟩]⟩ order.id := by
    refine ⟨sampleIDs, e₁, hMem₁, hFirst.1, ?_⟩
    unfold Event.created
    rw [hCreated, hFirst.1]
    exact if_pos rfl
  rcases hReaches₁.record_of_created hBy with
    ⟨record, current, hRecord, hHash, hStatus, hOrderID, hFind,
      hOwner⟩
  rcases (hReaches₁.event hMem₁).1.stored_key hFirst.1
      hCreated with ⟨stored, hStored, hKey⟩
  rw [hRecord] at hStored
  cases hStored
  have hCurrent : current.id = order.id :=
    Table.key_of_find? hFind
  -- the second call finds its record
  rw [← hSlot] at hRecord
  have hReplays :
      Commits
        (OrderService.createOrder e₁.after 0 0 userID key
          (buildCreateOrderRequestHash ⟨key, [⟨1, 1⟩]⟩)
          (sortedOrderItems [⟨1, 1⟩]) sampleIDs)
        e₁.after (.orderReplayed current) e₁.after :=
    createOrder_replays (by rw [hRecord]; rfl) hRecord hHash
      hStatus (hCurrent ▸ hOrderID)
      (hCurrent ▸ (hReaches₁.checked_of_created hBy).1)
      (hCurrent ▸ hFind) hOwner
  have hSecond :=
    Invocation.event_of_admitted hAdmitted e₁.after
  have hReaches₂ :=
    hReaches₁.call (orderOnePiece userID key) (by simp)
  refine ⟨_, _, _, current, record, hReaches₂, by simp,
    hSecond.2.1, hSecond.1, ?_, ?_, hKey⟩
  · rw [hSecond.2.2.2]
    unfold Commits at hReplays
    have hChecked := check_orderOnePiece hUser hAccepted
    simp only [orderOnePiece, Request.run,
      Request.transaction, hChecked, hReplays]
  · rw [hSecond.2.2.1]
    exact hRecord

------------------------------------------------------------
-- Main Result
------------------------------------------------------------

theorem keys_independent_iff
    {userID : Int}
    {key key' : String}
    (hUser : 0 < userID)
    (hAccepted : KeyAccepted key)
    (hAccepted' : KeyAccepted key') :
    KeysIndependent userID key key' ↔
      Deployment.collate key ≠ Deployment.collate key' := by
  constructor
  · intro hIndependent hSame
    rcases exists_answer_of_equal_key hUser hAccepted
        hAccepted' hSame with
      ⟨events, s, e, order, record, hReaches, hEvent,
        hExecuted, hRequest, hResponse, hRecord, hKey⟩
    rcases hIndependent events s e _ _ hReaches hEvent
        hExecuted hRequest rfl (by rw [hResponse]; trivial) with
      ⟨found, hFound, _, hOther⟩
    rw [hRecord] at hFound
    cases hFound
    exact hOther hKey
  · intro hApart events s e req ids hReaches hEvent hExecuted
      hRequest hKey hAnswer
    subst hKey
    rcases hReaches.key_answer hEvent hExecuted hRequest hAnswer
      with ⟨record, hRecord, hOwed⟩
    refine ⟨record, hRecord, hOwed, ?_⟩
    rintro rfl
    have hSlot := Table.key_of_find? hRecord
    rw [key_idempotencyKey] at hSlot
    exact hApart (congrArg Prod.snd hSlot).symm

end OrderManagement

/- The sample order was created with the key "k". A second
   order is asked for with the key "K". -/
namespace OrderManagement

attribute [local instance] sampleDeployment

def sampleUpperCase : Invocation :=
  sampleCall
    (.createOrder 3 ⟨"K", [⟨1, 4⟩]⟩
      ⟨8, "ORD8", "E8", sampleSecondID_pos⟩) 0

theorem keys_independent_iff_sample :
    KeysIndependent 3 "k" "q" := by
  refine (keys_independent_iff ?_ ?_ ?_).mpr ?_
  · decide
  · exact ⟨by decide +kernel, by decide +kernel⟩
  · exact ⟨by decide +kernel, by decide +kernel⟩
  · decide +kernel

/- No second order is created, and the answer is the first. -/
theorem upper_case_key_replayed :
    ¬ KeysIndependent 3 "K" "k" := by
  intro hIndependent
  have hReaches :=
    (reaches_serial sampleCalls).call sampleUpperCase
      (by simp)
  have hAdmitted :
      sampleUpperCase.request.rejection
        sampleUpperCase.preDeduct = none := by
    decide +kernel
  have hAnswer :
      ∃ order ∈ (serialDB DB.empty sampleCalls).orders.find? 7,
        (sampleUpperCase.event
            (serialDB DB.empty sampleCalls)).response =
          .ok (.orderReplayed order) := by
    decide +kernel
  have hKey :
      ∀ record ∈
          (serialDB DB.empty
            sampleCalls).orderIdempotencyKeys.find?
              (idempotencySlot 3 "K"),
        record.idempotencyKey = "k" := by
    decide +kernel
  rcases Invocation.event_of_admitted hAdmitted
      (serialDB DB.empty sampleCalls) with
    ⟨hRequest, hExecuted, hBefore, _⟩
  generalize
    sampleUpperCase.event (serialDB DB.empty sampleCalls) = e
    at hReaches hAnswer hRequest hExecuted hBefore
  rcases hAnswer with ⟨order, _, hResponse⟩
  rcases hIndependent _ _ e _ _ hReaches (by simp) hExecuted
      hRequest rfl (by rw [hResponse]; trivial) with
    ⟨record, hRecord, _, hOther⟩
  rw [hBefore] at hRecord
  exact hOther (hKey record hRecord)

end OrderManagement
