import OrderManagement.System.Resync
import OrderManagement.System.Solo

/-
  What a cancellation returns to Redis. MySQL returns the
  items of the order, Redis its reservation, and an order
  may have been created without one. The two agree again
  exactly if the reservation is there when the order is
  cancelled, and gone when it was cancelled before. This is
  so while no quantity has more than fourteen digits.

  Main declarations:
    * `Shop.AgreesFor` and `Request.cancels`
    * `Shop.Itemised`
    * `Shop.LuaReachable` and `Shop.luaServes_iff`
    * `cancellation_restores`
    * `cancellation_loses`
-/

namespace OrderManagement

variable [Deployment]

------------------------------------------------------------
-- Orders with Items
------------------------------------------------------------

/- The binding lets no order through that has no items. -/
structure Shop.Itemised
    (s : Shop) : Prop where
  bound : ∀ c ∈ s.core.calls, c.request.Bound
  itemised :
    ∀ id, (s.core.db.orders.find? id).isSome →
      linesOf s.core.db.orderItems id ≠ []

theorem Shop.Itemised.advance
    {s : Shop}
    {core : State}
    {event : Option Event}
    (hItemised : s.Itemised)
    (hCalls :
      ∀ c ∈ core.calls,
        ∃ c' ∈ s.core.calls, c'.request = c.request)
    (hGrows : s.core.db.Grows core.db)
    (hOrders :
      ∀ id, (core.db.orders.find? id).isSome →
        (s.core.db.orders.find? id).isSome ∨
          linesOf core.db.orderItems id ≠ []) :
    Shop.Itemised
      { s with
        core := core
        followUps := due event + s.followUps } where
  bound c hCall := by
    rcases hCalls c hCall with ⟨c', hCall', hSame⟩
    exact hSame ▸ hItemised.bound c' hCall'
  itemised id hSome := by
    rcases hOrders id hSome with hOld | hLines
    · change linesOf core.db.orderItems id ≠ []
      rw [← hGrows.lines id hOld]
      exact hItemised.itemised id hOld
    · exact hLines

theorem Shop.Step.itemised
    {s t : Shop}
    {a : Action}
    (hSound : s.Sound)
    (hItemised : s.Itemised)
    (hStep : Shop.Step s a t) :
    t.Itemised := by
  cases hStep with
  | arrive request delivery hBound =>
      refine ⟨?_, hItemised.itemised⟩
      intro c hCall
      rcases Multiset.mem_cons.mp hCall with rfl | hOld
      · exact hBound
      · exact hItemised.bound c hOld
  | followUp | listForRebuild | listForReconcile | compare
  | write | resyncDone | evict | evictReservation =>
      exact ⟨hItemised.bound, hItemised.itemised⟩
  | core hStep hNoArrival =>
      have hGrows := hStep.grows hSound.core
      rcases hSound.core_cases hStep hNoArrival with
        ⟨rfl, hSame, c, stage, rest, hCalls, hCalls'⟩ |
          ⟨rfl, hCalls, hTouched⟩ |
            ⟨e, c, rfl, _, _, hCalls, hRequest, _, hEnd⟩
      · apply hItemised.advance _ hGrows
        · intro id hSome
          rw [hSame] at hSome
          exact Or.inl hSome
        · intro other hOther
          rw [hCalls'] at hOther
          rw [hCalls]
          rcases Multiset.mem_cons.mp hOther with rfl | hRest
          · exact ⟨c, Multiset.mem_cons_self _ _, rfl⟩
          · exact ⟨other, Multiset.mem_cons_of_mem hRest, rfl⟩
      · apply hItemised.advance _ hGrows
        · intro id hSome
          rcases hTouched with ⟨f, _, hKey, hSame⟩
          rw [hSame] at hSome
          exact Or.inl hSome
        · intro c hCall
          exact ⟨c, hCalls ▸ hCall, rfl⟩
      · apply hItemised.advance _ hGrows
        · intro id hSome
          rcases hEnd with
            ⟨view, now, nextAttemptAt, userID, req, ids, order,
              hCreate, _, hPlaced⟩ | ⟨_, hOrders⟩
          · rw [Table.find?_of_insert? hPlaced.orders,
              key_order, hPlaced.id] at hSome
            split at hSome
            case isFalse => exact Or.inl hSome
            case isTrue hHere =>
              refine Or.inr ?_
              have hBound : (Request.createOrder userID req
                  ids).Bound := by
                rw [← hCreate, hRequest]
                apply hItemised.bound
                rw [hCalls]
                exact Multiset.mem_cons_self _ _
              rw [← hHere, ← hPlaced.id,
                hPlaced.linesOf hSound.core.wellFormed]
              intro hNil
              have hPerm := sortedOrderItems_perm req.items
              rw [List.map_eq_nil_iff.mp hNil] at hPerm
              exact hBound.2.2.1 hPerm.nil_eq.symm
          · exact Or.inl (hOrders id hSome)
        · intro other hOther
          refine ⟨other, ?_, rfl⟩
          rw [hCalls]
          exact Multiset.mem_cons_of_mem hOther

theorem Shop.Reachable.itemised
    {s : Shop}
    (hReachable : s.Reachable) :
    s.Itemised := by
  rcases hReachable with ⟨actions, hRun⟩
  have hBoth :=
    hRun.invariant (P := fun s => s.Sound ∧ s.Itemised)
      (fun _ _ _ hInv hStep =>
        ⟨hStep.sound hInv.1, hStep.itemised hInv.1 hInv.2⟩)
      ⟨Shop.sound_initial, {
        bound := fun c hCall =>
          absurd hCall (Multiset.notMem_zero c)
        itemised := fun id hSome => by cases hSome }⟩
  exact hBoth.2

------------------------------------------------------------
-- Cancellations
------------------------------------------------------------

omit [Deployment] in
def Request.cancels
    (orderID : Int) : Request → Bool
| .cancelOrder _ id => id = orderID
| .cancelExpiredOrder _ id => id = orderID
| _ => false

/- A call that cancels restores exactly if it cancelled the
   order or found it cancelled. -/
theorem Event.followUp_of_cancels
    {e : Event}
    {outcome : Outcome}
    {id : Int}
    (hCancels : e.request.cancels id = true)
    (hOk : e.response = .ok outcome) :
    (outcome = .orderCancelled ∨
        outcome = .orderAlreadyCancelled →
      e.followUp = some (.restore id)) ∧
      (outcome = .orderIgnored ∨
          outcome = .orderNotRestored →
        e.followUp = none) := by
  unfold Event.followUp
  rw [hOk]
  cases hRequest : e.request with
  | cancelOrder userID orderID
  | cancelExpiredOrder eventID orderID =>
      rw [hRequest] at hCancels
      have hSame : orderID = id := of_decide_eq_true hCancels
      subst hSame
      constructor
      · rintro (rfl | rfl) <;> rfl
      · rintro (rfl | rfl) <;> rfl
  | createProduct | onSaleProduct | offSaleProduct
  | initInventory | addInventory | createOrder | payOrder
  | finishOrder =>
      rw [hRequest] at hCancels
      cases hCancels

/- A cancellation that returns no error has cancelled the
   order, found it cancelled, or let it be. -/
theorem Event.Sound.cancellation
    {e : Event}
    {outcome : Outcome}
    {id : Int}
    (hSound : e.Sound)
    (hCancels : e.request.cancels id = true)
    (hOk : e.response = .ok outcome) :
    (outcome = .orderCancelled ∧
        e.followUp = some (.restore id) ∧
        ∃ order now,
          order.id = id ∧
            order.status = .pending ∧
            OrderCancelled e.before e.after order now) ∨
      (outcome = .orderAlreadyCancelled ∧
        e.followUp = some (.restore id) ∧
        e.after = e.before ∧
        statusOf e.before id = some .cancelled) ∨
      outcome ≠ .orderCancelled ∧
        outcome ≠ .orderAlreadyCancelled ∧
        e.followUp = none ∧
        e.after = e.before := by
  rcases Event.followUp_of_cancels hCancels hOk with
    ⟨hRestores, hIgnores⟩
  rcases hSound.effect hOk with ⟨view, _, hEffect⟩
  generalize e.followUp = followUp at hRestores hIgnores ⊢
  generalize e.request = request at hEffect hCancels
  generalize e.after = db' at hEffect ⊢
  generalize e.before = db at hEffect ⊢
  cases hEffect with
  | @orderCancelled order now db db' hPending hMoved
  | @orderExpired order now eventID db db' _ hPending hMoved =>
      exact Or.inl ⟨rfl, hRestores (Or.inl rfl), order, now,
        of_decide_eq_true hCancels, hPending, hMoved⟩
  | cancelRepeated hFind hCancelled
  | expiryRepeated hFind hCancelled =>
      refine Or.inr
        (Or.inl ⟨rfl, hRestores (Or.inr rfl), rfl, ?_⟩)
      have hSame := of_decide_eq_true hCancels
      subst hSame
      unfold statusOf
      rw [hFind, Option.map_some, hCancelled]
  | expiryIgnored | expiryLate =>
      exact Or.inr (Or.inr
        ⟨by simp, by simp, hIgnores (by simp), rfl⟩)
  | productStatusSame hRequest | productStatusSet hRequest =>
      rcases hRequest with rfl | rfl <;> cases hCancels
  | productCreated | inventoryInitialised | inventoryAdded
  | orderCreated | orderReplayed | orderPaid
  | orderFinished => cases hCancels

/- Redis shows the stock of every product of the order. -/
def Shop.AgreesFor
    (s : Shop)
    (id : Int) : Prop :=
  ∀ line ∈ linesOf s.core.db.orderItems id,
    s.redis.available line.productID =
      some (stockOf s.core.db.inventories line.productID)

instance
    (s : Shop)
    (id : Int) :
    Decidable (s.AgreesFor id) :=
  inferInstanceAs (Decidable (∀ line ∈ linesOf _ _, _))

/- Only a call that creates an order asks the guard. -/
theorem Request.preDeduct_of_cancels
    {request : Request}
    {id : Int}
    (hCancels : request.cancels id = true)
    (delivery : Delivery)
    (redis : Redis) :
    request.preDeduct delivery redis = (.skipped, redis) := by
  cases request with
  | createOrder => cases hCancels
  | createProduct | onSaleProduct | offSaleProduct
  | initInventory | addInventory | payOrder | finishOrder
  | cancelOrder | cancelExpiredOrder => rfl

/- An order takes a positive quantity of its products. -/
theorem DB.WellFormed.orderQuantity_pos
    {db : DB}
    {id : Int}
    {line : ItemQuantity}
    (hWellFormed : db.WellFormed)
    (hLine : line ∈ linesOf db.orderItems id) :
    0 < orderQuantity db.orderItems id line.productID := by
  have hOrderly := hWellFormed.linesOrderly id
  unfold orderQuantity
  rw [quantityOf_of_mem hOrderly.nodup hLine]
  exact hOrderly.quantityPositive line hLine

/- What a restoration adds to the keys of an order. -/
theorem Shop.Sound.available_restored
    {s : Shop}
    (hSound : s.Sound)
    (id p : Int) :
    ((FollowUp.restore id).run s.redis).available p =
      (s.redis.available p).map
        (· + s.redis.reservedOf id p) := by
  change (InventoryStockGuard.releaseReservation s.redis
    id).available p = _
  rw [hSound.releaseReservation,
    Redis.releaseInventoryReservationScript_available]

/- A reservation of an order is for the items of the order. -/
theorem Shop.Sound.reservedOf_eq
    {s : Shop}
    {id : Int}
    (hSound : s.Sound)
    (hOrder : (s.core.db.orders.find? id).isSome)
    (p : Int) :
    s.redis.reservedOf id p =
      if (s.redis.reservations.find? id).isSome then
        orderQuantity s.core.db.orderItems id p
      else
        0 := by
  unfold Redis.reservedOf
  cases hFind : s.redis.reservations.find? id with
  | none => rfl
  | some r => exact hSound.ordered id r hOrder hFind p

/- With equal stock before, the key and the stock remain
   equal exactly if both have grown by the same amount. -/
theorem Shop.AgreesFor.moved
    {s t : Shop}
    {id : Int}
    (hAgrees : s.AgreesFor id)
    (returned restored : Int → Int)
    (hItems : t.core.db.orderItems = s.core.db.orderItems)
    (hStock :
      ∀ p,
        stockOf t.core.db.inventories p =
          stockOf s.core.db.inventories p + returned p)
    (hAvailable :
      ∀ p,
        t.redis.available p =
          (s.redis.available p).map (· + restored p)) :
    t.AgreesFor id ↔
      ∀ line ∈ linesOf s.core.db.orderItems id,
        restored line.productID = returned line.productID := by
  unfold Shop.AgreesFor
  rw [hItems]
  apply forall₂_congr
  intro line hLine
  rw [hAvailable, hAgrees line hLine, hStock, Option.map_some,
    Option.some.injEq]
  omega

/- The same where the inventories stay as they are. -/
theorem Shop.AgreesFor.unmoved
    {s t : Shop}
    {id : Int}
    (hAgrees : s.AgreesFor id)
    (restored : Int → Int)
    (hItems : t.core.db.orderItems = s.core.db.orderItems)
    (hInventories :
      t.core.db.inventories = s.core.db.inventories)
    (hAvailable :
      ∀ p,
        t.redis.available p =
          (s.redis.available p).map (· + restored p)) :
    t.AgreesFor id ↔
      ∀ line ∈ linesOf s.core.db.orderItems id,
        restored line.productID = 0 := by
  refine hAgrees.moved 0 restored hItems ?_ hAvailable
  intro p
  rw [hInventories]
  exact (Int.add_zero _).symm

/- What a cancellation does on exact quantities. -/
theorem Shop.Reachable.cancellation
    {s t : Shop}
    {request : Request}
    {e : Event}
    {outcome : Outcome}
    {id : Int}
    (hReachable : s.Reachable)
    (hQuiet : s.Quiet)
    (hStatus :
      statusOf s.core.db id = some .pending ∨
        statusOf s.core.db id = some .cancelled)
    (hAgrees : s.AgreesFor id)
    (hCancels : request.cancels id = true)
    (hServes : s.Serves request e t)
    (hOk : e.response = .ok outcome) :
    t.AgreesFor id ↔
      (statusOf s.core.db id = some .pending ∧
          (s.redis.reservations.find? id).isSome) ∨
        (statusOf s.core.db id = some .cancelled ∧
          s.redis.reservations.find? id = none) ∨
        outcome ≠ .orderCancelled ∧
          outcome ≠ .orderAlreadyCancelled := by
  have hSound := hReachable.sound
  have hExists : (s.core.db.orders.find? id).isSome := by
    have hSome : (statusOf s.core.db id).isSome := by
      rcases hStatus with hStatus | hStatus <;> rw [hStatus] <;>
        rfl
    unfold statusOf at hSome
    rwa [Option.isSome_map] at hSome
  have hReserved := hSound.reservedOf_eq hExists
  have hPositive :
      ∀ line ∈ linesOf s.core.db.orderItems id,
        0 < orderQuantity s.core.db.orderItems id
          line.productID :=
    fun line hLine =>
      hSound.core.wellFormed.orderQuantity_pos hLine
  rcases List.exists_mem_of_ne_nil _
      (hReachable.itemised.itemised id hExists) with
    ⟨first, hFirst⟩
  rcases hServes.outcome hQuiet hSound with
    ⟨hEvent, hRequest, ⟨outbox, hBefore⟩, hAfter, _, _,
      delivery, _, hRedis⟩
  rw [Request.preDeduct_of_cancels hCancels] at hRedis
  have hBeforeStatus :
      statusOf e.before id = statusOf s.core.db id := by
    unfold statusOf
    rw [hBefore]
  rcases hEvent.cancellation (hRequest ▸ hCancels) hOk with
    ⟨rfl, hDue, order, now, rfl, hPending, hMoved⟩ |
      ⟨rfl, hDue, hSame, hCancelled⟩ |
        ⟨hNotCancelled, hNotAlready, hDue, hSame⟩
  · have hPendingBefore :
        statusOf s.core.db order.id = some .pending := by
      rw [← hBeforeStatus]
      unfold statusOf
      rw [hMoved.find, Option.map_some, hPending]
    rw [hDue] at hRedis
    have hMove :=
      hAgrees.moved (t := t)
        (orderQuantity s.core.db.orderItems order.id) _
        (by rw [← hAfter, hMoved.orderItems, hBefore])
        (by
          intro p
          rw [← hAfter, hMoved.moved.stockOf, hBefore])
        (by
          rw [hRedis]
          exact hSound.available_restored order.id)
    rw [hMove, hPendingBefore]
    simp only [hReserved]
    by_cases hSome :
        (s.redis.reservations.find? order.id).isSome
    · simp [hSome]
    · have hFirst' := hPositive first hFirst
      simp only [hSome]
      simp
      exact ⟨first, hFirst, by omega⟩
  · rw [hBeforeStatus] at hCancelled
    rw [hDue] at hRedis
    have hMove :=
      hAgrees.unmoved (t := t) _
        (by rw [← hAfter, hSame, hBefore])
        (by rw [← hAfter, hSame, hBefore])
        (by
          rw [hRedis]
          exact hSound.available_restored id)
    rw [hMove, hCancelled]
    simp only [hReserved]
    by_cases hSome :
        (s.redis.reservations.find? id).isSome
    · have hFirst' := hPositive first hFirst
      simp only [hSome, if_true]
      simp
      constructor
      · intro hZero
        exact absurd (hZero first hFirst) (by omega)
      · intro hNone
        rw [hNone] at hSome
        cases hSome
    · have hNone := Option.not_isSome_iff_eq_none.mp hSome
      simp [hNone]
  · rw [hDue] at hRedis
    have hMove :=
      hAgrees.unmoved (t := t) 0
        (by rw [← hAfter, hSame, hBefore])
        (by rw [← hAfter, hSame, hBefore])
        (by
          intro p
          rw [hRedis]
          simp)
    rw [hMove]
    simp [hNotCancelled, hNotAlready]

------------------------------------------------------------
-- Exact Quantities
------------------------------------------------------------

section Exact

variable (host : LuaHost)

/- Some run leads here whose calls asked for no quantity of
   more than fourteen digits. -/
def Shop.LuaReachable
    (s : Shop) : Prop :=
  ∃ actions,
    Transition.Run (Shop.LuaStep host) Shop.initial actions
        s ∧
      ∀ a ∈ actions, a.Exact

variable {host}

theorem Shop.initial_exact :
    Shop.initial.redis.Exact := by
  apply Redis.exact_of_unreserved
  intro id
  rfl

theorem Shop.luaReachable_iff
    (hLawful : host.Lawful)
    {s : Shop} :
    s.LuaReachable host ↔
      ∃ actions,
        Transition.Run Shop.Step Shop.initial actions s ∧
          ∀ a ∈ actions, a.Exact := by
  unfold Shop.LuaReachable
  apply exists_congr
  intro actions
  rw [and_congr_left_iff]
  exact fun hExact =>
    Shop.luaRun_iff hLawful Shop.initial_exact hExact

theorem Shop.LuaReachable.reachable
    (hLawful : host.Lawful)
    {s : Shop}
    (hReachable : s.LuaReachable host) :
    s.Reachable ∧ s.redis.Exact := by
  rcases (Shop.luaReachable_iff hLawful).mp hReachable with
    ⟨actions, hRun, hExact⟩
  exact ⟨⟨actions, hRun⟩,
    Shop.exact_of_run Shop.initial_exact hExact hRun⟩

/- A call alone goes the same way on Lua numbers. -/
theorem Shop.luaServes_iff
    (hLawful : host.Lawful)
    {s t : Shop}
    {request : Request}
    {e : Event}
    (hRedis : s.redis.Exact)
    (hRequest : request.Exact) :
    Shop.ServesBy (Shop.LuaStep host) s request e t ↔
      s.Serves request e t := by
  have hArrival :
      ∀ delivery, (Action.arrive request delivery).Exact :=
    fun _ => hRequest
  have hSilent :
      ∀ works : List Action,
        (∀ a ∈ works, a = .core none) →
          ∀ a ∈ works, a.Exact := by
    intro works hWorks a hMem
    rw [hWorks a hMem]
    exact trivial
  have hEnded : (Action.core (some e)).Exact := trivial
  have hSent :
      ∀ command, (Action.followUp command true).Exact :=
    fun _ => trivial
  constructor
  · rintro ⟨hArrive, hWork, hWorks, hEnd, hFollowUp⟩
    rw [Shop.luaStep_iff hLawful hRedis (hArrival _)]
      at hArrive
    have hRedisU := hArrive.exact hRedis (hArrival _)
    rw [Shop.luaRun_iff hLawful hRedisU (hSilent _ hWorks)]
      at hWork
    have hRedisV :=
      Shop.exact_of_run hRedisU (hSilent _ hWorks) hWork
    rw [Shop.luaStep_iff hLawful hRedisV hEnded] at hEnd
    have hRedisW := hEnd.exact hRedisV hEnded
    simp only [Shop.luaStep_iff hLawful hRedisW (hSent _)]
      at hFollowUp
    exact ⟨hArrive, hWork, hWorks, hEnd, hFollowUp⟩
  · rintro ⟨hArrive, hWork, hWorks, hEnd, hFollowUp⟩
    have hRedisU := hArrive.exact hRedis (hArrival _)
    have hRedisV :=
      Shop.exact_of_run hRedisU (hSilent _ hWorks) hWork
    have hRedisW := hEnd.exact hRedisV hEnded
    rw [← Shop.luaStep_iff hLawful hRedis (hArrival _)]
      at hArrive
    rw [← Shop.luaRun_iff hLawful hRedisU (hSilent _ hWorks)]
      at hWork
    rw [← Shop.luaStep_iff hLawful hRedisV hEnded] at hEnd
    simp only [← Shop.luaStep_iff hLawful hRedisW (hSent _)]
      at hFollowUp
    exact ⟨hArrive, hWork, hWorks, hEnd, hFollowUp⟩

/-
  After a cancellation that returns no error, Redis equals
  MySQL again exactly if the order was pending and has its
  reservation, or was cancelled before and has none left, or
  if the call has let the order be.
-/
theorem cancellation_restores
    (hLawful : host.Lawful)
    {s t : Shop}
    {request : Request}
    {e : Event}
    {outcome : Outcome}
    {id : Int}
    (hReachable : s.LuaReachable host)
    (hQuiet : s.Quiet)
    (hStatus :
      statusOf s.core.db id = some .pending ∨
        statusOf s.core.db id = some .cancelled)
    (hAgrees : s.AgreesFor id)
    (hCancels : request.cancels id = true)
    (hServes :
      Shop.ServesBy (Shop.LuaStep host) s request e t)
    (hOk : e.response = .ok outcome) :
    t.AgreesFor id ↔
      (statusOf s.core.db id = some .pending ∧
          (s.redis.reservations.find? id).isSome) ∨
        (statusOf s.core.db id = some .cancelled ∧
          s.redis.reservations.find? id = none) ∨
        outcome ≠ .orderCancelled ∧
          outcome ≠ .orderAlreadyCancelled := by
  rcases hReachable.reachable hLawful with
    ⟨hReached, hRedis⟩
  have hRequest : request.Exact := by
    cases request with
    | createOrder => cases hCancels
    | createProduct | onSaleProduct | offSaleProduct
    | initInventory | addInventory | payOrder | finishOrder
    | cancelOrder | cancelExpiredOrder => exact trivial
  rw [Shop.luaServes_iff hLawful hRedis hRequest] at hServes
  exact hReached.cancellation hQuiet hStatus hAgrees hCancels
    hServes hOk

end Exact

end OrderManagement

------------------------------------------------------------
-- A Small Shop
------------------------------------------------------------

namespace OrderManagement

attribute [local instance] sampleDeployment

/- Ten pieces in stock, whose first SET reaches Redis or is
   lost, and an order for four of them. -/
def openingMoves
    (delivered : Bool) : List Move :=
  [ .arrive (.createProduct 1 "tea" "" 250) .answered,
    .advance 0 0 0,
    .advance 0 0 0,
    .arrive (.onSaleProduct 1) .answered,
    .advance 0 0 0,
    .advance 0 0 0,
    .arrive (.initInventory 1 (some 10)) .answered,
    .advance 0 0 0,
    .advance 0 0 0,
    .followUp 0 delivered,
    .arrive (.createOrder 3 ⟨"k", [⟨1, 4⟩]⟩ sampleIDs)
      .answered,
    .advance 0 0 0,
    .advance 0 0 0,
    .advance 0 0 0 ]

def rebuildMoves : List Move :=
  [.listForRebuild, .write 0 true, .resyncDone 0]

/- The desk after some moves of exact quantities, and after
   its order 7 has then been cancelled alone. -/
def cancelledAfter
    (moves : List Move) : Option (Desk × Event × Desk) := do
  let (actions, d) ← Desk.initial.play moves
  if ∀ a ∈ actions, a.Exact then
    let (e, d') ← d.serve (.cancelOrder 3 7) .answered 0
    return (d, e, d')
  else
    none

theorem cancelledAfter_serves
    {moves : List Move}
    {d d' : Desk}
    {e : Event}
    (hCancelled : cancelledAfter moves = some (d, e, d')) :
    d.shop.LuaReachable sampleHost ∧
      Shop.ServesBy (Shop.LuaStep sampleHost) d.shop
        (.cancelOrder 3 7) e d'.shop := by
  unfold cancelledAfter at hCancelled
  cases hPlay : Desk.initial.play moves with
  | none =>
      rw [hPlay] at hCancelled
      cases hCancelled
  | some played =>
      rcases played with ⟨actions, d⟩
      rw [hPlay] at hCancelled
      dsimp only [Option.bind_eq_bind, Option.bind_some]
        at hCancelled
      split at hCancelled
      case isFalse => cases hCancelled
      case isTrue hExact =>
        cases hServe :
            d.serve (.cancelOrder 3 7) .answered 0 with
        | none =>
            rw [hServe] at hCancelled
            cases hCancelled
        | some served =>
            rcases served with ⟨e, d'⟩
            rw [hServe] at hCancelled
            cases hCancelled
            have hReachable :
                d.shop.LuaReachable sampleHost :=
              (Shop.luaReachable_iff sampleHost_lawful).mpr
                ⟨actions, Desk.run_of_play hPlay, hExact⟩
            have hRequest : (Request.cancelOrder 3 7).Exact :=
              trivial
            refine ⟨hReachable, ?_⟩
            rw [Shop.luaServes_iff sampleHost_lawful
              (hReachable.reachable sampleHost_lawful).2
              hRequest]
            exact Desk.serves_of_serve hServe

/- With its reservation the order returns its four pieces to
   both stores. -/
theorem cancellation_restores_sample :
    ∃ d e d',
      cancelledAfter (openingMoves true) = some (d, e, d') ∧
        d'.shop.AgreesFor 7 := by
  have hSome : (cancelledAfter (openingMoves true)).isSome := by
    decide +kernel
  rcases Option.isSome_iff_exists.mp hSome with
    ⟨⟨d, e, d'⟩, hCancelled⟩
  have hFacts :
      ∀ run ∈ cancelledAfter (openingMoves true),
        run.1.calls.length = 0 ∧ run.1.followUps = [] ∧
          run.1.resyncs = [] ∧
          statusOf run.1.db 7 = some .pending ∧
          run.1.shop.AgreesFor 7 ∧
          (run.1.redis.reservations.find? 7).isSome ∧
          run.2.1.response = .ok .orderCancelled := by
    decide +kernel
  rcases hFacts _ hCancelled with
    ⟨hCalls, hFollowUps, hResyncs, hPending, hAgrees,
      hReserved, hOk⟩
  rcases cancelledAfter_serves hCancelled with
    ⟨hReachable, hServes⟩
  refine ⟨d, e, d', hCancelled, ?_⟩
  apply (cancellation_restores sampleHost_lawful hReachable _
    (Or.inl hPending) hAgrees (by decide) hServes hOk).mpr
  · exact Or.inl ⟨hPending, hReserved⟩
  · exact {
      calls := congrArg _ (List.length_eq_zero_iff.mp hCalls)
      followUps := congrArg _ hFollowUps
      resyncs := congrArg _ hResyncs }

/- The order was created while the key was missing, and the
   key was rebuilt since. Its cancellation returns nothing to
   Redis. -/
theorem cancellation_loses :
    ∃ (s t : Shop) (e : Event),
      s.LuaReachable sampleHost ∧
        s.Quiet ∧
        statusOf s.core.db 7 = some .pending ∧
        s.AgreesFor 7 ∧
        Shop.ServesBy (Shop.LuaStep sampleHost) s
          (.cancelOrder 3 7) e t ∧
        e.response = .ok .orderCancelled ∧
        ¬ t.AgreesFor 7 := by
  have hSome :
      (cancelledAfter
        (openingMoves false ++ rebuildMoves)).isSome := by
    decide +kernel
  rcases Option.isSome_iff_exists.mp hSome with
    ⟨⟨d, e, d'⟩, hCancelled⟩
  have hFacts :
      ∀ run ∈ cancelledAfter
          (openingMoves false ++ rebuildMoves),
        run.1.calls.length = 0 ∧ run.1.followUps = [] ∧
          run.1.resyncs = [] ∧
          statusOf run.1.db 7 = some .pending ∧
          run.1.shop.AgreesFor 7 ∧
          run.2.1.response = .ok .orderCancelled ∧
          ¬ run.2.2.shop.AgreesFor 7 := by
    decide +kernel
  rcases hFacts _ hCancelled with
    ⟨hCalls, hFollowUps, hResyncs, hPending, hAgrees, hOk,
      hApart⟩
  rcases cancelledAfter_serves hCancelled with
    ⟨hReachable, hServes⟩
  exact ⟨d.shop, d'.shop, e, hReachable, {
    calls := congrArg _ (List.length_eq_zero_iff.mp hCalls)
    followUps := congrArg _ hFollowUps
    resyncs := congrArg _ hResyncs }, hPending, hAgrees,
    hServes, hOk, hApart⟩

end OrderManagement
