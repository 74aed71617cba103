import OrderManagement.Library.Guarantee
import OrderManagement.Service.TransitionEffects

/-
  Why a call on an order is refused, and what a call answers
  that sees the order closed. The errors by which the loops
  over the inventories give up are kept apart from those by
  which a call reports the status of the order.

  Main declarations:
    * `InventoryError`
    * `OrderService.cancelOrder_failed`
    * `OrderService.payOrder_refused`
-/

namespace OrderManagement

open Transaction

------------------------------------------------------------
-- Errors of the Inventory Loops
------------------------------------------------------------

/- The errors of the statements on inventories and logs. -/
def InventoryError (e : Err) : Prop :=
  e = .recordNotFound ∨ e = .releaseLockedInventoryFailed ∨
    e = .consumeLockedInventoryFailed ∨ e = .database

variable [Deployment]

theorem Dao.moveInventory_raises
    {errors : Err → Prop}
    {productID stockDelta lockedDelta : Int}
    {allowed : Inventory → Bool}
    {failed : Err}
    (hFailed : errors failed)
    (hDatabase : errors .database) :
    Raises errors
      (Dao.moveInventory productID allowed stockDelta
        lockedDelta failed) := by
  unfold Dao.moveInventory Dao.checkedInventory
  refine Raises.bind Raises.get fun db => ?_
  refine Raises.bind (Raises.fetch _ hFailed) fun row => ?_
  refine Raises.bind ?_ fun row' => Raises.set _
  refine Raises.bind (Raises.check _ hDatabase) fun hStock => ?_
  refine Raises.bind (Raises.check _ hDatabase) fun hLocked => ?_
  refine Raises.bind (Raises.ensure _ hDatabase) fun _ => ?_
  refine Raises.bind (Raises.ensure _ hDatabase) fun _ => ?_
  exact Raises.pure _

theorem Dao.createStockLog_raises
    {productID changeQuantity : Int}
    {beforeQuantity afterQuantity : Int}
    {bizType : StockBiz}
    {bizID : Option Int}
    {remark : String} :
    Raises InventoryError
      (Dao.createStockLog productID changeQuantity
        beforeQuantity afterQuantity bizType bizID remark) := by
  have hDatabase : InventoryError .database := by
    simp [InventoryError]
  unfold Dao.createStockLog
  refine Raises.bind Raises.get fun db => ?_
  refine Raises.bind (Raises.check _ hDatabase) fun hBefore => ?_
  refine Raises.bind (Raises.check _ hDatabase) fun hAfter => ?_
  refine Raises.bind (Raises.check _ hDatabase) fun hBalance => ?_
  exact Raises.set _

theorem restoreLine_raises
    {order : Order}
    {remarkPrefix : String}
    {line : ItemQuantity} :
    Raises InventoryError
      (restoreLine order remarkPrefix line) := by
  unfold restoreLine Dao.getInventoryByProductIDForUpdate
  refine Raises.bind ?_ fun found => ?_
  · exact Raises.bind Raises.get fun db => Raises.pure _
  refine Raises.bind (Raises.fetch _ (Or.inl rfl))
    fun inventory => ?_
  refine Raises.bind (Dao.moveInventory_raises ?_ ?_)
    fun _ => ?_
  · exact Or.inr (Or.inl rfl)
  · exact Or.inr (Or.inr (Or.inr rfl))
  exact Dao.createStockLog_raises

theorem Dao.patchOrderStatus_raises
    {userID orderID : Int}
    {fromStatus toStatus : OrderStatus}
    {timeField : OrderTimeField}
    {now : Time} :
    Raises InventoryError
      (Dao.patchOrderStatus userID orderID fromStatus toStatus
        timeField now) := by
  unfold Dao.patchOrderStatus
  refine Raises.bind Raises.get fun db => ?_
  split
  · exact Raises.pure _
  · exact Raises.bind (Raises.set _) fun _ => Raises.pure _

theorem cancelPendingOrder_raises
    {view : DB}
    {now : Time}
    {order : Order}
    {remarkPrefix : String} :
    Raises InventoryError
      (cancelPendingOrder view now order remarkPrefix) := by
  unfold cancelPendingOrder
  refine Raises.bind Dao.patchOrderStatus_raises fun rows => ?_
  split
  · exact Raises.pure _
  · refine Raises.bind ?_ fun _ => Raises.pure _
    exact Raises.forM fun line _ => restoreLine_raises

------------------------------------------------------------
-- Refused Cancellations
------------------------------------------------------------

namespace OrderService

/- A cancellation that sees the order cancelled says so. -/
theorem cancelOrder_repeated
    {view : DB}
    {userID orderID : Int}
    {order : Order}
    (db : DB)
    (now : Time)
    (hFind : view.orders.find? orderID = some order)
    (hUser : order.userID = userID)
    (hCancelled : order.status = .cancelled) :
    Commits (cancelOrder view now userID orderID) db
      .orderAlreadyCancelled db := by
  unfold cancelOrder Dao.getOrderByID
  rw [hFind, Option.filter_some, if_pos (by simp [hUser])]
  simp [hCancelled]

/- A cancellation fails when it sees the order pending, and
   the order is no longer pending. -/
theorem cancelOrder_failed
    {view : DB}
    {now : Time}
    {userID orderID : Int}
    {db : DB}
    (hAbort :
      Aborts (cancelOrder view now userID orderID) db
        .orderCancelFailed) :
    ∀ order, db.orders.find? orderID = some order →
      order.userID = userID → order.status ≠ .pending := by
  unfold cancelOrder at hAbort
  rcases aborts_bind.mp hAbort with
    hFetch | ⟨seen, _, hFetched, hRest⟩
  · have hNotFound : Err.orderNotFound = .orderCancelFailed :=
      Raises.fetch _ (Eq.refl Err.orderNotFound) _ _ hFetch
    cases hNotFound
  rcases commits_fetch.mp hFetched with ⟨hFound, rfl⟩
  rcases Dao.getOrderByID_eq_some hFound with
    ⟨rfl, rfl, hSeen⟩
  cases hStatus : seen.status with
  | paid => simp [hStatus] at hRest
  | finished => simp [hStatus] at hRest
  | cancelled =>
      rw [hStatus] at hRest
      cases hRest
  | pending =>
      rw [hStatus] at hRest
      rcases aborts_bind.mp hRest with
        hCancel | ⟨cancelled, mid, hCancel, hEnsure⟩
      · have hError := cancelPendingOrder_raises _ _ hCancel
        simp [InventoryError] at hError
      · have hFalse : cancelled = false := by
          rw [← Bool.not_eq_true]
          rintro rfl
          cases hEnsure
        subst hFalse
        unfold cancelPendingOrder at hCancel
        rw [commits_bind] at hCancel
        rcases hCancel with ⟨rows, _, hPatch, hLoop⟩
        rcases Dao.commits_patchOrderStatus hPatch with
          ⟨_, _, hNone⟩ | ⟨rfl, _⟩
        · exact hNone
        · rw [if_neg (by omega), commits_bind] at hLoop
          rcases hLoop with ⟨_, _, _, hTrue⟩
          cases (commits_pure.mp hTrue).1

/- A timeout that is due and sees the order cancelled. -/
theorem cancelExpiredOrder_repeated
    {view : DB}
    {now : Time}
    {eventID : String}
    {orderID : Int}
    {order : Order}
    (db : DB)
    (hDue : TimeoutDue view now eventID orderID)
    (hFind : view.orders.find? orderID = some order)
    (hCancelled : order.status = .cancelled) :
    Commits (cancelExpiredOrder view now eventID orderID) db
      .orderAlreadyCancelled db := by
  rcases hDue with ⟨row, hRow, hTime⟩
  unfold cancelExpiredOrder Dao.getOrderByIDForSystem
  rw [hRow, hFind]
  dsimp only
  rw [hCancelled, commits_bind]
  exact ⟨(), db, commits_ensure.mpr ⟨hTime, rfl⟩,
    commits_pure.mpr ⟨rfl, rfl⟩⟩

/- The errors of a timeout do not tell the status. -/
theorem cancelExpiredOrder_raises
    {view : DB}
    {now : Time}
    {eventID : String}
    {orderID : Int} :
    Raises
      (fun e => InventoryError e ∨ e = .orderTimeoutNotReached)
      (cancelExpiredOrder view now eventID orderID) := by
  unfold cancelExpiredOrder
  split
  · exact Raises.pure _
  refine Raises.bind (Raises.ensure _ (Or.inr rfl))
    fun _ => ?_
  split
  · exact Raises.pure _
  split
  · exact Raises.pure _
  · exact Raises.pure _
  · exact Raises.pure _
  refine Raises.bind ?_ fun restored => ?_
  · intro db e hAbort
    exact Or.inl (cancelPendingOrder_raises db e hAbort)
  · split <;> exact Raises.pure _

------------------------------------------------------------
-- Refused Payments
------------------------------------------------------------

/- A payment is refused because it sees the order paid, or
   because the order is no longer pending. -/
theorem payOrder_refused
    {view : DB}
    {now : Time}
    {userID orderID : Int}
    {db : DB}
    {e : Err}
    (hAbort : Aborts (payOrder view now userID orderID) db e)
    (hError : e = .orderAlreadyPaid ∨ e = .orderPayFailed) :
    (∃ seen,
        view.orders.find? orderID = some seen ∧
          seen.status = .paid) ∨
      ∀ order, db.orders.find? orderID = some order →
        order.userID = userID → order.status ≠ .pending := by
  unfold payOrder at hAbort
  rcases aborts_bind.mp hAbort with
    hFetch | ⟨seen, _, hFetched, hRest⟩
  · have hNotFound : Err.orderNotFound = e :=
      Raises.fetch _ (Eq.refl Err.orderNotFound) _ _ hFetch
    rcases hError with rfl | rfl <;> cases hNotFound
  rcases commits_fetch.mp hFetched with ⟨hFound, rfl⟩
  rcases Dao.getOrderByID_eq_some hFound with
    ⟨rfl, rfl, hSeen⟩
  cases hStatus : seen.status with
  | paid => exact Or.inl ⟨seen, hSeen, hStatus⟩
  | finished =>
      rw [hStatus] at hRest
      have hThrown := aborts_throw.mp hRest
      rcases hError with rfl | rfl <;> cases hThrown
  | cancelled =>
      rw [hStatus] at hRest
      have hThrown := aborts_throw.mp hRest
      rcases hError with rfl | rfl <;> cases hThrown
  | pending =>
      rw [hStatus] at hRest
      refine Or.inr ?_
      rcases aborts_bind.mp hRest with
        hPatch | ⟨rows, mid, hPatch, hLoop⟩
      · have hInventory := Dao.patchOrderStatus_raises _ _ hPatch
        rcases hError with rfl | rfl <;>
          simp [InventoryError] at hInventory
      rcases Dao.commits_patchOrderStatus hPatch with
        ⟨_, _, hNone⟩ | ⟨rfl, _⟩
      · exact hNone
      rcases aborts_bind.mp hLoop with
        hEnsure | ⟨_, _, _, hConsume⟩
      · cases hEnsure
      have hInventory : InventoryError e := by
        refine Raises.bind Raises.get (fun current => ?_) _ _
          hConsume
        refine Raises.bind ?_ fun _ => Raises.pure _
        refine Raises.forM fun item _ => ?_
        exact Dao.moveInventory_raises
          (Or.inr (Or.inr (Or.inl rfl)))
          (Or.inr (Or.inr (Or.inr rfl)))
      rcases hError with rfl | rfl <;>
        simp [InventoryError] at hInventory

end OrderService

end OrderManagement
