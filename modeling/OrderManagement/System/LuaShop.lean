import OrderManagement.Bizcache.Lua
import OrderManagement.System.Schedule

/-
  The shop whose Redis runs the scripts on the numbers of
  Lua. While no quantity has more than fourteen digits, its
  steps are those of the shop on integers.

  Main declarations:
    * `Request.luaPreDeduct` and `FollowUp.luaRun`
    * `GuardedCall.luaEvent` and `GuardedCall.luaRedisAfter`
    * `Shop.LuaStep` with `Shop.luaStep_iff`
    * `Shop.luaRun_iff` and `Shop.ExactStep`
    * `Desk.luaPlay`
-/

namespace OrderManagement

variable [Deployment] (host : LuaHost)

------------------------------------------------------------
-- Calls and Commands
------------------------------------------------------------

/- The guard is asked for a checked CreateOrder only. -/
def Request.luaPreDeduct
    (delivery : Delivery)
    (redis : Redis) : Request → PreDeduct × Redis
| .createOrder userID req ids =>
    match OrderService.checkCreateOrder userID req with
    | .error _ => (.skipped, redis)
    | .ok (_, items) =>
        Lua.preDeductInventory host delivery redis ids.orderID
          items
| _ => (.skipped, redis)

omit [Deployment] in
/- The other commands pass integers on as they are. -/
def FollowUp.luaRun
    (redis : Redis) : FollowUp → Redis
| .release orderID => Lua.releaseReservation host redis orderID
| .restore orderID => Lua.releaseReservation host redis orderID
| command => command.run redis

namespace GuardedCall

/- The event of a call that runs alone, guard included. -/
def luaEvent
    (c : GuardedCall)
    (redis : Redis)
    (db : DB) : Event :=
  Invocation.event
    { request := c.request
      preDeduct :=
        (c.request.luaPreDeduct host c.delivery redis).1
      now := c.now
      nextAttemptAt := c.nextAttemptAt }
    db

/- What such a call leaves in Redis. -/
def luaRedisAfter
    (c : GuardedCall)
    (redis : Redis)
    (db : DB) : Redis :=
  let reserved :=
    (c.request.luaPreDeduct host c.delivery redis).2
  match (c.luaEvent host redis db).followUp with
  | none => reserved
  | some command => command.luaRun host reserved

end GuardedCall

------------------------------------------------------------
-- Steps
------------------------------------------------------------

/- No script that calculates runs in the step. -/
def Action.Scriptless : Action → Prop
| .arrive _ _ => False
| .followUp _ _ => False
| _ => True

instance
    (a : Action) :
    Decidable a.Scriptless :=
  match a with
  | .arrive _ _ | .followUp _ _ =>
      inferInstanceAs (Decidable False)
  | .core _ | .listForRebuild | .listForReconcile | .compare
  | .write _ _ _ | .resyncDone | .evict _
  | .evictReservation _ => inferInstanceAs (Decidable True)

namespace Shop

inductive LuaStep : Shop → Action → Shop → Prop
| arrive
    (s : Shop)
    (request : Request)
    (delivery : Delivery)
    (hBound : request.Bound)
    (hFresh :
      ∀ id, request.newOrderID = some id → id ∉ s.issued) :
    LuaStep s (.arrive request delivery)
      { s with
        core := { s.core with
          calls :=
            ⟨request,
              (request.luaPreDeduct host delivery s.redis).1,
              .arrived⟩ ::ₘ s.core.calls }
        redis :=
          (request.luaPreDeduct host delivery s.redis).2
        issued := request.newOrderID.toList ++ s.issued }
| followUp
    {s : Shop}
    {rest : Multiset FollowUp}
    (command : FollowUp)
    (delivered : Bool)
    (hDue : s.followUps = command ::ₘ rest) :
    LuaStep s (.followUp command delivered)
      { s with
        redis :=
          if delivered then command.luaRun host s.redis
          else s.redis
        followUps := rest }
| scriptless
    {s t : Shop}
    {a : Action}
    (hScriptless : a.Scriptless)
    (hStep : Shop.Step s a t) :
    LuaStep s a t

end Shop

------------------------------------------------------------
-- Exact Quantities
------------------------------------------------------------

omit [Deployment] in
/- No quantity of the request has more than fourteen
   digits. -/
def Request.Exact : Request → Prop
| .createOrder _ req _ => ∀ item ∈ req.items, item.Exact
| _ => True

instance
    (request : Request) :
    Decidable request.Exact :=
  match request with
  | .createOrder _ req _ =>
      inferInstanceAs
        (Decidable (∀ item ∈ req.items, item.Exact))
  | .createProduct _ _ _ _ | .onSaleProduct _
  | .offSaleProduct _ | .initInventory _ _
  | .addInventory _ _ | .payOrder _ _ | .finishOrder _ _
  | .cancelOrder _ _ | .cancelExpiredOrder _ _ =>
      inferInstanceAs (Decidable True)

def Action.Exact : Action → Prop
| .arrive request _ => request.Exact
| _ => True

instance
    (a : Action) :
    Decidable a.Exact :=
  match a with
  | .arrive request _ =>
      inferInstanceAs (Decidable request.Exact)
  | .core _ | .followUp _ _ | .listForRebuild
  | .listForReconcile | .compare | .write _ _ _ | .resyncDone
  | .evict _ | .evictReservation _ =>
      inferInstanceAs (Decidable True)

variable {host}

theorem Request.luaPreDeduct_eq
    (hLawful : host.Lawful)
    (delivery : Delivery)
    (redis : Redis)
    {request : Request}
    (hExact : request.Exact) :
    request.luaPreDeduct host delivery redis =
      request.preDeduct delivery redis := by
  cases request with
  | createOrder userID req ids =>
      unfold luaPreDeduct preDeduct
      dsimp only
      cases hChecked :
          OrderService.checkCreateOrder userID req with
      | error err => rfl
      | ok checked =>
          rcases checked with ⟨requestHash, items⟩
          rcases OrderService.checkCreateOrder_eq_ok_iff.mp
              hChecked with ⟨_, _, _, _, rfl, rfl⟩
          apply Lua.preDeductInventory_eq hLawful
          intro item hItem
          exact hExact item
            ((sortedOrderItems_perm req.items).mem_iff.mp hItem)
  | createProduct | onSaleProduct | offSaleProduct
  | initInventory | addInventory | payOrder | finishOrder
  | cancelOrder | cancelExpiredOrder => rfl

omit [Deployment] in
theorem FollowUp.luaRun_eq
    (hLawful : host.Lawful)
    {redis : Redis}
    (hExact : redis.Exact)
    (command : FollowUp) :
    command.luaRun host redis = command.run redis := by
  cases command with
  | release orderID | restore orderID =>
      exact Lua.releaseReservation_eq hLawful (hExact orderID)
  | confirm | set | incr => rfl

omit [Deployment] in
/- The pre-deduction stores no other reservation than that
   of its items. -/
theorem preDeductInventory_reservations
    {delivery : Delivery}
    {redis : Redis}
    {orderID id : Int}
    {items : List CreateOrderItemRequest}
    {r : Reservation}
    (hFind :
      (InventoryStockGuard.preDeductInventory delivery redis
        orderID items).2.reservations.find? id = some r) :
    redis.reservations.find? id = some r ∨ r.items = items := by
  have hScript :
      (redis.preDeductInventoryScript orderID
          items).2.reservations.find? id = some r →
        redis.reservations.find? id = some r ∨
          r.items = items := by
    intro hStored
    unfold Redis.preDeductInventoryScript at hStored
    split at hStored
    · exact Or.inl hStored
    · split at hStored
      · exact Or.inl hStored
      · dsimp only at hStored
        rw [Redis.reservations_deducted, Table.find?_put]
          at hStored
        split at hStored
        · cases hStored
          exact Or.inr rfl
        · exact Or.inl hStored
  unfold InventoryStockGuard.preDeductInventory at hFind
  split at hFind
  · exact Or.inl hFind
  · cases delivery with
    | unsent => exact Or.inl hFind
    | unanswered => exact hScript hFind
    | answered =>
        dsimp only at hFind
        split at hFind
        · exact hScript hFind
        · split at hFind
          · exact hScript hFind
          · exact hScript hFind

theorem Request.preDeduct_exact
    {request : Request}
    {redis : Redis}
    (hRequest : request.Exact)
    (hRedis : redis.Exact)
    (delivery : Delivery) :
    (request.preDeduct delivery redis).2.Exact := by
  cases request with
  | createOrder userID req ids =>
      unfold preDeduct
      dsimp only
      cases hChecked :
          OrderService.checkCreateOrder userID req with
      | error err => exact hRedis
      | ok checked =>
          rcases checked with ⟨requestHash, items⟩
          rcases OrderService.checkCreateOrder_eq_ok_iff.mp
              hChecked with ⟨_, _, _, _, rfl, rfl⟩
          intro id r hFind
          rcases preDeductInventory_reservations hFind with
            hOld | hNew
          · exact hRedis id r hOld
          · intro item hItem
            rw [hNew] at hItem
            exact hRequest item
              ((sortedOrderItems_perm req.items).mem_iff.mp
                hItem)
  | createProduct | onSaleProduct | offSaleProduct
  | initInventory | addInventory | payOrder | finishOrder
  | cancelOrder | cancelExpiredOrder => exact hRedis

namespace Shop

/- An exact step leaves exact reservations. -/
theorem Step.exact
    {s t : Shop}
    {a : Action}
    (hRedis : s.redis.Exact)
    (hAction : a.Exact)
    (hStep : Shop.Step s a t) :
    t.redis.Exact := by
  have hCommand :
      ∀ command : FollowUp, (command.run s.redis).Exact := by
    intro command id r hFind
    exact hRedis id r (FollowUp.run_reservations hFind)
  cases hStep with
  | arrive request delivery hBound hFresh =>
      exact Request.preDeduct_exact hAction hRedis delivery
  | followUp command delivered hDue =>
      cases delivered with
      | false => exact hRedis
      | true => exact hCommand command
  | write productID quantity delivered hWriting =>
      cases delivered with
      | false => exact hRedis
      | true => exact hCommand (.set productID quantity)
  | evictReservation orderID =>
      intro id r hFind
      change (s.redis.reservations.erase orderID).find? id =
        some r at hFind
      rw [Table.find?_erase] at hFind
      split at hFind
      · cases hFind
      · exact hRedis id r hFind
  | core | listForRebuild | listForReconcile | compare
  | resyncDone | evict => exact hRedis

/- On exact quantities the steps are the same. -/
theorem luaStep_iff
    (hLawful : host.Lawful)
    {s t : Shop}
    {a : Action}
    (hRedis : s.redis.Exact)
    (hAction : a.Exact) :
    LuaStep host s a t ↔ Shop.Step s a t := by
  constructor
  · intro hStep
    cases hStep with
    | arrive request delivery hBound hFresh =>
        rw [Request.luaPreDeduct_eq hLawful delivery s.redis
          hAction]
        exact Shop.Step.arrive s request delivery hBound hFresh
    | followUp command delivered hDue =>
        rw [FollowUp.luaRun_eq hLawful hRedis]
        exact Shop.Step.followUp command delivered hDue
    | scriptless hScriptless hStep => exact hStep
  · intro hStep
    cases hStep with
    | arrive request delivery hBound hFresh =>
        rw [← Request.luaPreDeduct_eq hLawful delivery s.redis
          hAction]
        exact .arrive s request delivery hBound hFresh
    | followUp command delivered hDue =>
        rw [← FollowUp.luaRun_eq hLawful hRedis]
        exact .followUp command delivered hDue
    | core hStep hNoArrival =>
        exact .scriptless trivial (.core hStep hNoArrival)
    | listForRebuild =>
        exact .scriptless trivial (.listForRebuild s)
    | listForReconcile =>
        exact .scriptless trivial (.listForReconcile s)
    | compare hListed =>
        exact .scriptless trivial (.compare hListed)
    | write productID quantity delivered hWriting =>
        exact .scriptless trivial
          (.write productID quantity delivered hWriting)
    | resyncDone hWritten =>
        exact .scriptless trivial (.resyncDone hWritten)
    | evict productID =>
        exact .scriptless trivial (.evict s productID)
    | evictReservation orderID =>
        exact .scriptless trivial (.evictReservation s orderID)

theorem exact_of_run
    {s t : Shop}
    {actions : List Action}
    (hRedis : s.redis.Exact)
    (hActions : ∀ a ∈ actions, a.Exact)
    (hRun : Transition.Run Shop.Step s actions t) :
    t.redis.Exact :=
  hRun.invariant_of_labels
    (P := fun s : Shop => s.redis.Exact)
    (fun _ _ _ hLabel hExact hStep => hStep.exact hExact hLabel)
    hActions hRedis

/- And so are the runs. -/
theorem luaRun_iff
    (hLawful : host.Lawful)
    {s t : Shop}
    {actions : List Action}
    (hRedis : s.redis.Exact)
    (hActions : ∀ a ∈ actions, a.Exact) :
    Transition.Run (LuaStep host) s actions t ↔
      Transition.Run Shop.Step s actions t := by
  constructor
  · intro hRun
    induction hRun with
    | refl => exact Transition.Run.refl _
    | snoc hRun hLast ih =>
        have hBefore := ih fun a hMem => hActions a (by simp [hMem])
        have hMid :=
          exact_of_run hRedis
            (fun a hMem => hActions a (by simp [hMem])) hBefore
        exact hBefore.snoc ((luaStep_iff hLawful hMid
          (hActions _ (by simp))).mp hLast)
  · intro hRun
    induction hRun with
    | refl => exact Transition.Run.refl _
    | snoc hRun hLast ih =>
        have hMid :=
          exact_of_run hRedis
            (fun a hMem => hActions a (by simp [hMem])) hRun
        refine (ih fun a hMem =>
          hActions a (by simp [hMem])).snoc ?_
        exact (luaStep_iff hLawful hMid
          (hActions _ (by simp))).mpr hLast

end Shop

namespace Desk

variable (host)

/- A move of the shop whose scripts run on Lua numbers. -/
def luaMove
    (d : Desk) : Move → Option (Action × Desk)
| .arrive request delivery =>
    if request.Bound ∧
        ∀ id ∈ request.newOrderID.toList, id ∉ d.issued then
      some (.arrive request delivery, { d with
        calls :=
          d.calls ++
            [⟨request,
              (request.luaPreDeduct host delivery d.redis).1,
              .arrived⟩]
        redis := (request.luaPreDeduct host delivery d.redis).2
        issued := request.newOrderID.toList ++ d.issued })
    else
      none
| .followUp n delivered => do
    let (command, rest) ← pick d.followUps n
    return (.followUp command delivered, { d with
      redis :=
        if delivered then command.luaRun host d.redis
        else d.redis
      followUps := rest })
| m => (d.move m).filter fun played => played.1.Scriptless

def luaPlay
    (d : Desk)
    (ms : List Move) : Option (List Action × Desk) :=
  d.playBy (luaMove host) ms

variable {host}

theorem luaStep_of_move
    {d d' : Desk}
    {m : Move}
    {action : Action}
    (hMove : d.luaMove host m = some (action, d')) :
    Shop.LuaStep host d.shop action d'.shop := by
  have hScriptless :
      (d.move m).filter (fun played => played.1.Scriptless) =
          some (action, d') →
        Shop.LuaStep host d.shop action d'.shop := by
    intro hPlayed
    rw [Option.filter_eq_some_iff] at hPlayed
    exact .scriptless (of_decide_eq_true hPlayed.2)
      (step_of_move hPlayed.1)
  cases m with
  | arrive request delivery =>
      unfold luaMove at hMove
      dsimp only at hMove
      split at hMove
      case isFalse => cases hMove
      case isTrue hAdmitted =>
        cases hMove
        unfold shop
        dsimp only
        rw [coe_append_comm]
        apply Shop.LuaStep.arrive d.shop request delivery
          hAdmitted.1
        intro id hID
        exact hAdmitted.2 id (by rw [hID]; simp)
  | followUp n delivered =>
      rcases Option.bind_eq_some_iff.mp hMove with
        ⟨⟨command, rest⟩, hPick, hMoved⟩
      cases hMoved
      exact Shop.LuaStep.followUp (s := d.shop) command
        delivered (coe_of_pick hPick)
  | advance | lose | listForRebuild | listForReconcile
  | compare | write | resyncDone | evict =>
      exact hScriptless hMove

theorem luaRun_of_play
    {d d' : Desk}
    {ms : List Move}
    {actions : List Action}
    (hPlay : d.luaPlay host ms = some (actions, d')) :
    Transition.Run (Shop.LuaStep host) d.shop actions
      d'.shop :=
  run_of_playBy (fun _ _ _ _ => luaStep_of_move) hPlay

end Desk

end OrderManagement
