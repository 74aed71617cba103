import OrderManagement.Service.Refusals

/-
  What CreateOrder answers on account of its idempotency
  key. Creating an order has errors of its own, so that a
  replay, a conflict, or an order in progress always comes
  from the record that the lookup of the key has found.

  Main declarations:
    * `IsKeyAnswer` and `KeyAnswer`
    * `OrderService.placeOrder_raises`
    * `OrderService.createOrder_aborts`
-/

namespace OrderManagement

open Transaction

------------------------------------------------------------
-- Answers
------------------------------------------------------------

/- The errors that say something about a key. -/
def IsKeyError (e : Err) : Prop :=
  e = .orderIdempotencyConflict ∨ e = .orderBeingCreated

/- The answers of CreateOrder that do not create an order but
   speak about one that exists. -/
def IsKeyAnswer : Except Err Outcome → Prop
| .ok (.orderReplayed _) => True
| .error e => IsKeyError e
| _ => False

/- How a record under a key leads to an answer. -/
inductive KeyAnswer
    (record : OrderIdempotencyKey)
    (requestHash : String) : Except Err Outcome → Prop
| replayed
    {order : Order}
    (hHash : record.requestHash = requestHash)
    (hOrder : record.orderID = some order.id) :
    KeyAnswer record requestHash (.ok (.orderReplayed order))
| conflict
    (hHash : record.requestHash ≠ requestHash) :
    KeyAnswer record requestHash
      (.error .orderIdempotencyConflict)
| inProgress
    (hStatus : record.status = .orderBeingCreated) :
    KeyAnswer record requestHash (.error .orderBeingCreated)

------------------------------------------------------------
-- Errors of a Creation
------------------------------------------------------------

namespace OrderService

/- The errors that say nothing about a key. -/
def NoKeyError (e : Err) : Prop :=
  ¬ IsKeyError e

theorem noKeyError
    {e : Err}
    (hConflict : e ≠ .orderIdempotencyConflict)
    (hCreated : e ≠ .orderBeingCreated) :
    NoKeyError e := by
  rintro (hSame | hSame)
  · exact hConflict hSame
  · exact hCreated hSame

variable [Deployment]

theorem loadProducts_raises
    {view : DB}
    {items : List CreateOrderItemRequest} :
    Raises NoKeyError (loadProducts view items) := by
  induction items with
  | nil => exact Raises.pure _
  | cons item items ih =>
      unfold loadProducts loadProduct
      refine Raises.bind ?_ fun line => ?_
      · refine Raises.bind (Raises.fetch _ ?_)
          fun product => ?_
        · exact noKeyError (by decide) (by decide)
        refine Raises.bind (Raises.ensure _ ?_) fun _ => ?_
        · exact noKeyError (by decide) (by decide)
        exact Raises.pure _
      · exact Raises.bind ih fun lines => Raises.pure _

theorem placeOrderItem_raises
    {order : Order}
    {line : OrderLine} :
    Raises NoKeyError (placeOrderItem order line) := by
  have hDatabase : NoKeyError .database :=
    noKeyError (by decide) (by decide)
  have hStock : NoKeyError .insufficientStock :=
    noKeyError (by decide) (by decide)
  unfold placeOrderItem Dao.getInventoryByProductIDForUpdate
    Dao.createOrderItem
  refine Raises.bind ?_ fun found => ?_
  · exact Raises.bind Raises.get fun db => Raises.pure _
  refine Raises.bind (Raises.fetch _ ?_) fun inv => ?_
  · exact noKeyError (by decide) (by decide)
  refine Raises.bind (Raises.ensure _ hStock) fun _ => ?_
  refine Raises.bind ?_ fun _ => ?_
  · have hReserve :
        Raises
          (fun e =>
            e = .reserveInventoryFailed ∨ e = .database)
          (Dao.reserveInventory line.1.productID
            line.1.quantity) :=
      Dao.moveInventory_raises (Or.inl rfl) (Or.inr rfl)
    refine Raises.onError hReserve ?_
    rintro e (rfl | rfl)
    · exact hStock
    · exact hDatabase
  refine Raises.bind (Raises.check _ hDatabase) fun h => ?_
  refine Raises.bind (Raises.check _ hDatabase) fun h' => ?_
  refine Raises.bind (Raises.check _ hDatabase) fun h'' => ?_
  refine Raises.bind ?_ fun _ => ?_
  · exact Raises.bind Raises.get fun db => Raises.set _
  · refine Raises.onError Dao.createStockLog_raises ?_
    intro _ _
    exact noKeyError (by decide) (by decide)

theorem placeOrder_raises
    {view : DB}
    {now nextAttemptAt : Time}
    {userID : Int}
    {idempotencyKey : String}
    {items : List CreateOrderItemRequest}
    {ids : GeneratedIDs} :
    Raises NoKeyError
      (placeOrder view now nextAttemptAt userID idempotencyKey
        items ids) := by
  have hDatabase : NoKeyError .database :=
    noKeyError (by decide) (by decide)
  have hState : NoKeyError .orderIdempotencyStateInvalid :=
    noKeyError (by decide) (by decide)
  unfold placeOrder Dao.createOrder
    Dao.createOrderTimeoutOutbox
  refine Raises.bind loadProducts_raises fun lines => ?_
  refine Raises.bind (Raises.check _ hDatabase) fun hTotal => ?_
  refine Raises.bind ?_ fun _ => ?_
  · refine Raises.bind Raises.get fun db => ?_
    refine Raises.bind (Raises.ensure _ hDatabase) fun _ => ?_
    refine Raises.bind (Raises.fetch _ hDatabase) fun _ => ?_
    exact Raises.set _
  refine Raises.bind ?_ fun _ => ?_
  · exact Raises.forM fun line _ => placeOrderItem_raises
  refine Raises.bind ?_ fun rows => ?_
  · have hAny :
        Raises (fun _ => True)
          (Dao.completeOrderIdempotencyKey userID
            idempotencyKey ids.orderID) :=
      fun _ _ _ => trivial
    exact Raises.onError hAny fun _ _ => hState
  refine Raises.bind (Raises.ensure _ hState) fun _ => ?_
  refine Raises.bind ?_ fun _ => Raises.pure _
  refine Raises.bind Raises.get fun db => ?_
  refine Raises.bind (Raises.ensure _ hDatabase) fun _ => ?_
  refine Raises.bind (Raises.ensure _ hDatabase) fun _ => ?_
  refine Raises.bind (Raises.fetch _ hDatabase) fun _ => ?_
  exact Raises.set _

------------------------------------------------------------
-- Errors of a Key
------------------------------------------------------------

/- The lookup finds a record that explains the error, or it
   finds none although the key is taken. -/
theorem createOrder_aborts
    {view : DB}
    {now nextAttemptAt : Time}
    {userID : Int}
    {idempotencyKey requestHash : String}
    {items : List CreateOrderItemRequest}
    {ids : GeneratedIDs}
    {db : DB}
    {e : Err}
    (hAbort :
      Aborts
        (createOrder view now nextAttemptAt userID
          idempotencyKey requestHash items ids) db e)
    (hError : IsKeyError e) :
    (db.orderIdempotencyKeys.find?
        (idempotencySlot userID idempotencyKey)).isSome ∧
      ∀ record,
        view.orderIdempotencyKeys.find?
            (idempotencySlot userID idempotencyKey) =
              some record →
          KeyAnswer record requestHash (.error e) := by
  unfold createOrder at hAbort
  rcases aborts_bind.mp hAbort with
    hTry | ⟨acquired, mid, hTry, hRest⟩
  · unfold Dao.tryCreateOrderIdempotencyKey at hTry
    rcases aborts_bind.mp hTry with hGet | ⟨_, _, _, hMatch⟩
    · cases hGet
    · split at hMatch <;> cases hMatch
  cases acquired with
  | true =>
      rw [if_pos rfl] at hRest
      rcases aborts_bind.mp hRest with
        hPlace | ⟨_, _, _, hReturn⟩
      · exact absurd hError (placeOrder_raises _ _ hPlace)
      · cases hReturn
  | false =>
      have hTaken :
          (db.orderIdempotencyKeys.find?
            (idempotencySlot userID idempotencyKey)).isSome := by
        rcases Dao.commits_tryCreateOrderIdempotencyKey.mp
            hTry with ⟨_, _, hTaken⟩ | ⟨hTrue, _⟩
        · exact hTaken
        · cases hTrue
      refine ⟨hTaken, ?_⟩
      intro record hRecord
      rw [if_neg Bool.false_ne_true] at hRest
      rcases aborts_bind.mp hRest with
        hReplay | ⟨_, _, _, hReturn⟩
      case inr => cases hReturn
      unfold replayOrder Dao.getOrderIdempotencyKey at hReplay
      rw [hRecord] at hReplay
      rcases aborts_bind.mp hReplay with
        hFetch | ⟨found, _, hFound, hReplay⟩
      · cases hFetch
      rcases commits_fetch.mp hFound with ⟨hSame, rfl⟩
      cases hSame
      rcases aborts_bind.mp hReplay with
        hEnsure | ⟨_, _, _, hReplay⟩
      · have hNe : record.requestHash ≠ requestHash := by
          intro hSame
          unfold ensure at hEnsure
          rw [if_pos hSame] at hEnsure
          cases hEnsure
        have hConflict : Err.orderIdempotencyConflict = e :=
          Raises.ensure _
            (Eq.refl Err.orderIdempotencyConflict) _ _ hEnsure
        exact hConflict ▸ KeyAnswer.conflict hNe
      · cases hStatus : record.status with
        | orderBeingCreated =>
            rw [hStatus] at hReplay
            rw [← aborts_throw.mp hReplay]
            exact KeyAnswer.inProgress hStatus
        | orderAlreadyCreated =>
            rw [hStatus] at hReplay
            have hInvalid :
                Err.orderIdempotencyStateInvalid = e := by
              refine Raises.bind
                (Raises.fetch _ (Eq.refl _)) (fun _ => ?_) _ _
                hReplay
              exact Raises.fetch _ (Eq.refl _)
            rcases hError with rfl | rfl <;> cases hInvalid

end OrderService

end OrderManagement
