import OrderManagement.System.Guarded

/-
  The whole shop: the services over MySQL, the keys in Redis,
  the commands that calls still owe to Redis, and the
  administrative runs that write stock quantities. Every
  command is a step of its own, and any of them may fail.

  Main declarations:
    * `CreateOrderRequest.Bound`
    * `Resync`, `Shop`, and `Action`
    * `Shop.Step`
-/

namespace OrderManagement

------------------------------------------------------------
-- Bindings
------------------------------------------------------------

/- The binding tags of the request, which the handler checks. -/
def CreateOrderRequest.Bound
    (req : CreateOrderRequest) : Prop :=
  req.idempotencyKey ≠ "" ∧
    req.idempotencyKey.length ≤ 128 ∧
    req.items ≠ [] ∧
    ∀ item ∈ req.items,
      0 < item.productID ∧ 0 < item.quantity

def Request.Bound : Request → Prop
| .createOrder _ req _ => req.Bound
| _ => True

------------------------------------------------------------
-- Resynchronisation
------------------------------------------------------------

variable [Deployment]

/-
  What RebuildRedisInventoryStock writes for the inventories
  that it has listed.
-/
def rebuildWrites
    (view : DB) : List (Int × Int) :=
  ((Dao.listAllInventories view).filter fun row =>
    0 < row.productID ∧ 0 ≤ row.stockQuantity).map
      fun row => (row.productID, row.stockQuantity)

/- The quantities that a reconciliation compares. -/
def reconcileRows
    (view : DB) : List (Int × Int) :=
  ((Dao.listAllInventories view).filter fun row =>
    0 < row.productID).map
      fun row => (row.productID, row.stockQuantity)

/- The items of the report: keys missing or mismatched. -/
def reconcileItems
    (redis : Redis)
    (rows : List (Int × Int)) : List (Int × Int) :=
  rows.filter fun row =>
    redis.available row.1 ≠ some row.2

/- How far a rebuild or a reconciliation has come. -/
inductive Resync
| listed (rows : List (Int × Int))
| writing (writes : List (Int × Int))
deriving DecidableEq

------------------------------------------------------------
-- The Shop
------------------------------------------------------------

/- The stores, the work in progress, and the order ids that
   the generator has handed out. -/
structure Shop where
  core : State
  redis : Redis
  followUps : Multiset FollowUp
  resyncs : Multiset Resync
  issued : List Int

/- What happens in a step, and how a command fares. -/
inductive Action
| arrive (request : Request) (delivery : Delivery)
| core (event : Option Event)
| followUp (command : FollowUp) (delivered : Bool)
| listForRebuild
| listForReconcile
| compare
| write (productID quantity : Int) (delivered : Bool)
| resyncDone
| evict (productID : Int)
| evictReservation (orderID : Int)

/- The command that becomes due with the end of a call. -/
def due
    (event : Option Event) : Multiset FollowUp :=
  ((event.bind Event.followUp).toList : List FollowUp)

namespace Shop

inductive Step : Shop → Action → Shop → Prop
| arrive
    (s : Shop)
    (request : Request)
    (delivery : Delivery)
    (hBound : request.Bound)
    (hFresh :
      ∀ id, request.newOrderID = some id → id ∉ s.issued) :
    Step s (.arrive request delivery)
      { s with
        core := { s.core with
          calls :=
            ⟨request, (request.preDeduct delivery s.redis).1,
              .arrived⟩ ::ₘ s.core.calls }
        redis := (request.preDeduct delivery s.redis).2
        issued := request.newOrderID.toList ++ s.issued }
| core
    {s : Shop}
    {core : State}
    {event : Option Event}
    (hStep : OrderManagement.Step s.core event core)
    (hNoArrival : core.calls.card ≤ s.core.calls.card) :
    Step s (.core event)
      { s with
        core := core
        followUps := due event + s.followUps }
| followUp
    {s : Shop}
    {rest : Multiset FollowUp}
    (command : FollowUp)
    (delivered : Bool)
    (hDue : s.followUps = command ::ₘ rest) :
    Step s (.followUp command delivered)
      { s with
        redis :=
          if delivered then command.run s.redis else s.redis
        followUps := rest }
| listForRebuild
    (s : Shop) :
    Step s .listForRebuild
      { s with
        resyncs :=
          .writing (rebuildWrites s.core.db) ::ₘ s.resyncs }
| listForReconcile
    (s : Shop) :
    Step s .listForReconcile
      { s with
        resyncs :=
          .listed (reconcileRows s.core.db) ::ₘ s.resyncs }
| compare
    {s : Shop}
    {rest : Multiset Resync}
    {rows : List (Int × Int)}
    (hListed : s.resyncs = .listed rows ::ₘ rest) :
    Step s .compare
      { s with
        resyncs :=
          .writing (reconcileItems s.redis rows) ::ₘ rest }
| write
    {s : Shop}
    {rest : Multiset Resync}
    {writes : List (Int × Int)}
    (productID quantity : Int)
    (delivered : Bool)
    (hWriting :
      s.resyncs =
        .writing ((productID, quantity) :: writes) ::ₘ rest) :
    Step s (.write productID quantity delivered)
      { s with
        redis :=
          if delivered then
            InventoryStockGuard.setInventoryStock s.redis
              productID quantity
          else
            s.redis
        resyncs := .writing writes ::ₘ rest }
| resyncDone
    {s : Shop}
    {rest : Multiset Resync}
    (hWritten : s.resyncs = .writing [] ::ₘ rest) :
    Step s .resyncDone { s with resyncs := rest }
| evict
    (s : Shop)
    (productID : Int) :
    Step s (.evict productID)
      { s with
        redis := { s.redis with
          available := fun p =>
            if p = productID then none
            else s.redis.available p } }
| evictReservation
    (s : Shop)
    (orderID : Int) :
    Step s (.evictReservation orderID)
      { s with redis := s.redis.delReservation orderID }

end Shop

end OrderManagement
