import OrderManagement.Dao.Order
import OrderManagement.Library.Guarantee

/-
  What each statement of the services may write. A
  transaction guarantees a relation between databases as
  soon as the relation covers the writes of its statements.

  Main declarations:
    * `Dao.createOrder_guarantees` and its siblings, one for
      each writing statement
-/

namespace OrderManagement

open Transaction

variable [Deployment]
variable {R : DB → DB → Prop}

namespace Dao

------------------------------------------------------------
-- Orders
------------------------------------------------------------

theorem createOrder_guarantees
    {order : Order}
    (hWrite :
      ∀ db orders, db.orders.insert? order = some orders →
        R db { db with orders := orders }) :
    Guarantees R (Dao.createOrder order) := by
  intro db a db' hCommit
  unfold Dao.createOrder at hCommit
  simp only [commits_bind, commits_get, commits_ensure,
    commits_fetch, commits_set] at hCommit
  rcases hCommit with
    ⟨_, _, ⟨rfl, rfl⟩, _, _, ⟨_, rfl⟩, orders, _,
      ⟨hInsert, rfl⟩, rfl⟩
  exact hWrite db orders hInsert

theorem patchOrderStatus_guarantees
    [IsPreorder DB R]
    {userID orderID : Int}
    {fromStatus toStatus : OrderStatus}
    {timeField : OrderTimeField}
    {now : Time}
    (hWrite :
      ∀ (db : DB) order,
        db.orders.find? orderID = some order →
        order.userID = userID →
        order.status = fromStatus →
          R db { db with
            orders :=
              db.orders.update
                (order.patched toStatus timeField now) }) :
    Guarantees R
      (Dao.patchOrderStatus userID orderID fromStatus toStatus
        timeField now) := by
  intro db rows db' hCommit
  rcases Dao.commits_patchOrderStatus hCommit with
    ⟨_, rfl, _⟩ | ⟨_, order, hFind, hUser, hStatus, rfl⟩
  · exact refl_of R db'
  · exact hWrite db order hFind hUser hStatus

------------------------------------------------------------
-- Idempotency Keys and Timeout Outbox
------------------------------------------------------------

theorem tryCreateOrderIdempotencyKey_guarantees
    [IsPreorder DB R]
    {userID : Int}
    {idempotencyKey requestHash : String}
    (hWrite :
      ∀ (db : DB) keys,
        db.orderIdempotencyKeys.insert? {
            userID := userID
            idempotencyKey := idempotencyKey
            requestHash := requestHash
            orderID := none
            status := .orderBeingCreated } = some keys →
          R db { db with orderIdempotencyKeys := keys }) :
    Guarantees R
      (Dao.tryCreateOrderIdempotencyKey userID idempotencyKey
        requestHash) := by
  intro db acquired db' hCommit
  rcases commits_tryCreateOrderIdempotencyKey.mp hCommit with
    ⟨_, rfl, _⟩ | ⟨_, keys, hInsert, rfl⟩
  · exact refl_of R db'
  · exact hWrite db keys hInsert

theorem completeOrderIdempotencyKey_guarantees
    [IsPreorder DB R]
    {userID orderID : Int}
    {idempotencyKey : String}
    (hWrite :
      ∀ (db : DB) record,
        db.orderIdempotencyKeys.find?
            (idempotencySlot userID idempotencyKey) =
              some record →
          R db { db with
            orderIdempotencyKeys :=
              db.orderIdempotencyKeys.update
                { record with
                  orderID := some orderID
                  status := .orderAlreadyCreated } }) :
    Guarantees R
      (Dao.completeOrderIdempotencyKey userID idempotencyKey
        orderID) := by
  intro db rows db' hCommit
  rcases commits_completeOrderIdempotencyKey hCommit with
    ⟨_, rfl⟩ | ⟨_, record, hFind, _, rfl⟩
  · exact refl_of R db'
  · exact hWrite db record hFind

theorem createOrderTimeoutOutbox_guarantees
    {outbox : OrderTimeoutOutbox}
    (hWrite :
      ∀ (db : DB) rows,
        db.orderTimeoutOutbox.insert? outbox = some rows →
          R db { db with orderTimeoutOutbox := rows }) :
    Guarantees R (Dao.createOrderTimeoutOutbox outbox) := by
  intro db a db' hCommit
  unfold Dao.createOrderTimeoutOutbox at hCommit
  simp only [commits_bind, commits_get, commits_ensure,
    commits_fetch, commits_set] at hCommit
  rcases hCommit with
    ⟨_, _, ⟨rfl, rfl⟩, _, _, ⟨_, rfl⟩, _, _, ⟨_, rfl⟩, rows, _,
      ⟨hInsert, rfl⟩, rfl⟩
  exact hWrite db rows hInsert

end Dao

end OrderManagement
