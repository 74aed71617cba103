import OrderManagement.Service.Lines

/-
  The Redis side of `inventory_stock_guard.go`: available
  quantities by product, reservations by order, and the
  scripts and commands that act on them. A script runs as
  one step. It is on integers here; `Bizcache.Lua` has the
  scripts on the numbers of Lua, which agree with these as
  far as fourteen digits reach.

  Main declarations:
    * `Redis`, `Delivery`, and `PreDeduct`
    * `Redis.preDeductInventoryScript`,
      `Redis.releaseInventoryReservationScript`, and
      `Redis.incrInventoryStockScript`
    * `InventoryStockGuard.preDeductInventory`
    * `preDeductInventoryScript_cases`
    * `releaseInventoryReservationScript_available`
    * `PreDeducted` and `preDeducted`
-/

namespace OrderManagement

------------------------------------------------------------
-- Keys
------------------------------------------------------------

/- The value under the reservation key of an order. -/
structure Reservation where
  orderID : Int
  items : List CreateOrderItemRequest
deriving DecidableEq

instance : Keyed Reservation Int where
  key := Reservation.orderID

@[simp] theorem key_reservation
    (r : Reservation) :
    Keyed.key r = r.orderID := rfl

/- The keys of the guard; `none` is a key that is missing. -/
structure Redis where
  available : Int → Option Int
  reservations : Table Reservation

namespace Redis

/- Redis without any key. -/
def empty : Redis where
  available _ := none
  reservations := Table.empty

------------------------------------------------------------
-- Commands
------------------------------------------------------------

/- SET on the available key of a product. -/
def set
    (redis : Redis)
    (productID quantity : Int) : Redis :=
  { redis with
    available := fun p =>
      if p = productID then some quantity
      else redis.available p }

/- INCRBY on the available key of a product. -/
def incrBy
    (redis : Redis)
    (productID quantity : Int) : Redis :=
  redis.set productID
    ((redis.available productID).getD 0 + quantity)

/- DEL on the reservation key of an order. -/
def delReservation
    (redis : Redis)
    (orderID : Int) : Redis :=
  { redis with
    reservations := redis.reservations.erase orderID }

------------------------------------------------------------
-- Scripts
------------------------------------------------------------

/-
  The first loop of the pre-deduct script: the answer with
  which it gives up, if it does.
-/
def shortage
    (redis : Redis) :
    List CreateOrderItemRequest → Option Int
| [] => none
| item :: items =>
    match redis.available item.productID with
    | none => some 0
    | some current =>
        if current < item.quantity then
          some (-1)
        else
          redis.shortage items

/- The answer of the pre-deduct script and what it leaves. -/
def preDeductInventoryScript
    (redis : Redis)
    (orderID : Int)
    (items : List CreateOrderItemRequest) : Int × Redis :=
  if (redis.reservations.find? orderID).isSome then
    (1, redis)
  else
    match redis.shortage items with
    | some answer => (answer, redis)
    | none =>
        let deducted :=
          items.foldl
            (fun r item =>
              r.incrBy item.productID (-item.quantity))
            redis
        (1, { deducted with
          reservations :=
            deducted.reservations.put ⟨orderID, items⟩ })

def releaseInventoryReservationScript
    (redis : Redis)
    (orderID : Int) : Redis :=
  match redis.reservations.find? orderID with
  | none => redis
  | some reservation =>
      (reservation.items.foldl
        (fun r item =>
          if (r.available item.productID).isSome then
            r.incrBy item.productID item.quantity
          else
            r)
        redis).delReservation orderID

def incrInventoryStockScript
    (redis : Redis)
    (productID delta fallbackQuantity : Int) : Redis :=
  if (redis.available productID).isSome then
    redis.incrBy productID delta
  else
    redis.set productID fallbackQuantity

end Redis

------------------------------------------------------------
-- The Guard
------------------------------------------------------------

/-
  What becomes of a script that the guard sends: it runs and
  is answered, it runs but the answer is lost to a timeout
  or to a cancelled context, or it never runs.
-/
inductive Delivery
| answered
| unanswered
| unsent
deriving DecidableEq, Repr

/-
  The two booleans that PreDeductInventory returns, applied
  and insufficient; both are false when it is skipped.
-/
inductive PreDeduct
| applied
| insufficient
| skipped
deriving DecidableEq, Repr

namespace InventoryStockGuard

def preDeductInventory
    (delivery : Delivery)
    (redis : Redis)
    (orderID : Int)
    (items : List CreateOrderItemRequest) :
    PreDeduct × Redis :=
  if orderID ≤ 0 ∨ items = [] then
    (.skipped, redis)
  else
    let result := redis.preDeductInventoryScript orderID items
    match delivery with
    | .unsent => (.skipped, redis)
    | .unanswered => (.skipped, result.2)
    | .answered =>
        if result.1 = 1 then (.applied, result.2)
        else if result.1 = -1 then (.insufficient, result.2)
        else (.skipped, result.2)

/- ReleasePreDeductedInventory and RestorePreDeductedInventory. -/
def releaseReservation
    (redis : Redis)
    (orderID : Int) : Redis :=
  if orderID ≤ 0 then
    redis
  else
    redis.releaseInventoryReservationScript orderID

def confirmPreDeductedInventory
    (redis : Redis)
    (orderID : Int) : Redis :=
  if orderID ≤ 0 then redis else redis.delReservation orderID

def setInventoryStock
    (redis : Redis)
    (productID quantity : Int) : Redis :=
  if productID ≤ 0 ∨ quantity < 0 then
    redis
  else
    redis.set productID quantity

def incrInventoryStock
    (redis : Redis)
    (productID delta fallbackQuantity : Int) : Redis :=
  if productID ≤ 0 ∨ delta ≤ 0 ∨ fallbackQuantity < 0 then
    redis
  else
    redis.incrInventoryStockScript productID delta
      fallbackQuantity

end InventoryStockGuard

------------------------------------------------------------
-- Effects of the Commands
------------------------------------------------------------

namespace Redis

@[simp] theorem available_set
    (redis : Redis)
    (productID quantity p : Int) :
    (redis.set productID quantity).available p =
      if p = productID then some quantity
      else redis.available p := rfl

@[simp] theorem reservations_set
    (redis : Redis)
    (productID quantity : Int) :
    (redis.set productID quantity).reservations =
      redis.reservations := rfl

@[simp] theorem available_delReservation
    (redis : Redis)
    (orderID : Int) :
    (redis.delReservation orderID).available =
      redis.available := rfl

@[simp] theorem reservations_delReservation
    (redis : Redis)
    (orderID : Int) :
    (redis.delReservation orderID).reservations =
      redis.reservations.erase orderID := rfl

@[simp] theorem reservations_incrBy
    (redis : Redis)
    (productID quantity : Int) :
    (redis.incrBy productID quantity).reservations =
      redis.reservations := rfl

/- INCRBY adds to a key that is there. -/
theorem available_incrBy
    {redis : Redis}
    {productID : Int}
    (hSome : (redis.available productID).isSome)
    (quantity p : Int) :
    (redis.incrBy productID quantity).available p =
      (redis.available p).map
        (· + if productID = p then quantity else 0) := by
  rcases Option.isSome_iff_exists.mp hSome with
    ⟨current, hCurrent⟩
  unfold incrBy
  rw [available_set, hCurrent]
  by_cases hHere : p = productID
  · subst hHere
    simp [hCurrent]
  · simp [hHere, Ne.symm hHere]

------------------------------------------------------------
-- Effects of the Scripts
------------------------------------------------------------

/- The first loop finishes when every key holds enough. -/
theorem shortage_eq_none_iff
    {redis : Redis}
    {items : List CreateOrderItemRequest} :
    redis.shortage items = none ↔
      ∀ item ∈ items,
        ∃ current,
          redis.available item.productID = some current ∧
            item.quantity ≤ current := by
  induction items with
  | nil => simp [shortage]
  | cons item items ih =>
      rw [shortage, List.forall_mem_cons]
      cases hCurrent : redis.available item.productID with
      | none => simp
      | some current =>
          by_cases hShort : current < item.quantity
          · simp [hShort]
          · simp only [if_neg hShort, ih, Option.some.injEq]
            constructor
            · intro hRest
              exact ⟨⟨current, rfl, by omega⟩, hRest⟩
            · exact fun hBoth => hBoth.2

/- It gives up with zero or with minus one. -/
theorem shortage_eq_some
    {redis : Redis}
    {items : List CreateOrderItemRequest}
    {answer : Int}
    (hSome : redis.shortage items = some answer) :
    answer = 0 ∨ answer = -1 := by
  induction items with
  | nil => cases hSome
  | cons item items ih =>
      rw [shortage] at hSome
      cases hCurrent : redis.available item.productID with
      | none =>
          rw [hCurrent] at hSome
          cases hSome
          exact Or.inl rfl
      | some current =>
          rw [hCurrent] at hSome
          by_cases hShort : current < item.quantity
          · simp only [if_pos hShort, Option.some.injEq]
              at hSome
            exact Or.inr hSome.symm
          · simp only [if_neg hShort] at hSome
            exact ih hSome

/- The answer zero comes from a missing key. -/
theorem shortage_eq_zero
    {redis : Redis}
    {items : List CreateOrderItemRequest}
    (hZero : redis.shortage items = some 0) :
    ∃ item ∈ items,
      redis.available item.productID = none := by
  induction items with
  | nil => cases hZero
  | cons item items ih =>
      rw [shortage] at hZero
      cases hCurrent : redis.available item.productID with
      | none => exact ⟨item, by simp, hCurrent⟩
      | some current =>
          rw [hCurrent] at hZero
          by_cases hShort : current < item.quantity
          · simp [hShort] at hZero
          · simp only [if_neg hShort] at hZero
            rcases ih hZero with ⟨other, hOther, hNone⟩
            exact ⟨other, by simp [hOther], hNone⟩

/- Additions to several keys add up. -/
theorem map_add_map
    (value : Option Int)
    (a b : Int) :
    (value.map (· + a)).map (· + b) =
      value.map (· + (a + b)) := by
  rw [Option.map_map]
  congr 1
  funext n
  exact Int.add_assoc n a b

/- The deductions of the second loop. -/
theorem available_deducted
    {redis : Redis}
    {items : List CreateOrderItemRequest}
    (hKeys :
      ∀ item ∈ items,
        (redis.available item.productID).isSome)
    (p : Int) :
    (items.foldl
        (fun r item =>
          r.incrBy item.productID (-item.quantity))
        redis).available p =
      (redis.available p).map
        (· + -quantityOf
          (items.map CreateOrderItemRequest.line) p) := by
  induction items generalizing redis with
  | nil => simp
  | cons item items ih =>
      have hHead :=
        available_incrBy (hKeys item (by simp))
          (-item.quantity)
      have hTail :
          ∀ other ∈ items,
            ((redis.incrBy item.productID
              (-item.quantity)).available
                other.productID).isSome := by
        intro other hOther
        rw [hHead, Option.isSome_map]
        exact hKeys other (by simp [hOther])
      rw [List.foldl_cons, ih hTail, hHead, map_add_map,
        List.map_cons, quantityOf_cons]
      congr 1
      funext n
      simp only [CreateOrderItemRequest.line]
      split <;> omega

theorem reservations_deducted
    (redis : Redis)
    (items : List CreateOrderItemRequest) :
    (items.foldl
        (fun r item =>
          r.incrBy item.productID (-item.quantity))
        redis).reservations = redis.reservations := by
  induction items generalizing redis with
  | nil => rfl
  | cons item items ih =>
      rw [List.foldl_cons, ih, reservations_incrBy]

/- What an applied pre-deduction leaves. -/
structure Reserved
    (redis redis' : Redis)
    (orderID : Int)
    (items : List CreateOrderItemRequest) : Prop where
  enough :
    ∀ item ∈ items,
      ∃ current,
        redis.available item.productID = some current ∧
          item.quantity ≤ current
  available :
    ∀ p,
      redis'.available p =
        (redis.available p).map
          (· + -quantityOf
            (items.map CreateOrderItemRequest.line) p)
  reservations :
    redis'.reservations =
      redis.reservations.put ⟨orderID, items⟩

/-
  For an order without a reservation the script either
  reserves and answers one, or it changes nothing.
-/
theorem preDeductInventoryScript_cases
    {redis : Redis}
    {orderID : Int}
    (hFresh : redis.reservations.find? orderID = none)
    (items : List CreateOrderItemRequest) :
    (redis.shortage items = none ∧
        (redis.preDeductInventoryScript orderID items).1 = 1 ∧
        Reserved redis
          (redis.preDeductInventoryScript orderID items).2
          orderID items) ∨
      ∃ answer,
        redis.shortage items = some answer ∧
          redis.preDeductInventoryScript orderID items =
            (answer, redis) := by
  unfold preDeductInventoryScript
  rw [hFresh]
  cases hShortage : redis.shortage items with
  | some answer => exact Or.inr ⟨answer, rfl, rfl⟩
  | none =>
      have hEnough := shortage_eq_none_iff.mp hShortage
      refine Or.inl ⟨rfl, rfl, {
        enough := hEnough
        available := ?_
        reservations := ?_ }⟩
      · intro p
        apply available_deducted
        intro item hItem
        rcases hEnough item hItem with ⟨current, hSome, _⟩
        rw [hSome]
        rfl
      · change Table.put _ _ = _
        rw [reservations_deducted]

/- The additions of the release loop. -/
theorem available_returned
    (redis : Redis)
    (items : List CreateOrderItemRequest)
    (p : Int) :
    (items.foldl
        (fun r item =>
          if (r.available item.productID).isSome then
            r.incrBy item.productID item.quantity
          else
            r)
        redis).available p =
      (redis.available p).map
        (· + quantityOf
          (items.map CreateOrderItemRequest.line) p) := by
  induction items generalizing redis with
  | nil => simp
  | cons item items ih =>
      rw [List.foldl_cons, ih, List.map_cons]
      by_cases hKey : (redis.available item.productID).isSome
      · rw [if_pos hKey, available_incrBy hKey, map_add_map]
        rfl
      · rw [if_neg hKey]
        by_cases hHere : item.productID = p
        · subst hHere
          rw [Option.not_isSome_iff_eq_none.mp hKey]
          rfl
        · congr 1
          funext n
          rw [quantityOf_cons]
          simp [CreateOrderItemRequest.line, hHere]

theorem reservations_returned
    (redis : Redis)
    (items : List CreateOrderItemRequest) :
    (items.foldl
        (fun r item =>
          if (r.available item.productID).isSome then
            r.incrBy item.productID item.quantity
          else
            r)
        redis).reservations = redis.reservations := by
  induction items generalizing redis with
  | nil => rfl
  | cons item items ih =>
      rw [List.foldl_cons, ih]
      split <;> rfl

/- The quantity that an order has reserved of a product. -/
def reservedOf
    (redis : Redis)
    (orderID p : Int) : Int :=
  match redis.reservations.find? orderID with
  | none => 0
  | some reservation =>
      quantityOf
        (reservation.items.map CreateOrderItemRequest.line) p

/- A release returns what is reserved to the keys that are
   there, and drops the reservation. -/
theorem releaseInventoryReservationScript_available
    (redis : Redis)
    (orderID p : Int) :
    (redis.releaseInventoryReservationScript
        orderID).available p =
      (redis.available p).map
        (· + redis.reservedOf orderID p) := by
  unfold releaseInventoryReservationScript reservedOf
  cases redis.reservations.find? orderID with
  | none => simp
  | some reservation =>
      rw [available_delReservation, available_returned]

theorem releaseInventoryReservationScript_reservations
    (redis : Redis)
    (orderID : Int) :
    (redis.releaseInventoryReservationScript
        orderID).reservations =
      redis.reservations.erase orderID := by
  unfold releaseInventoryReservationScript
  cases hFind : redis.reservations.find? orderID with
  | none => exact (Table.erase_of_free hFind).symm
  | some reservation =>
      rw [reservations_delReservation, reservations_returned]

/- What an order reserves is what was asked for. -/
theorem Reserved.reservedOf
    {redis redis' : Redis}
    {orderID : Int}
    {items : List CreateOrderItemRequest}
    (hReserved : Reserved redis redis' orderID items)
    (p : Int) :
    redis'.reservedOf orderID p =
      quantityOf (items.map CreateOrderItemRequest.line) p := by
  unfold Redis.reservedOf
  rw [hReserved.reservations, Table.find?_put,
    key_reservation, if_pos rfl]

/- Releasing a reservation undoes the pre-deduction. -/
theorem Reserved.release
    {redis redis' : Redis}
    {orderID : Int}
    {items : List CreateOrderItemRequest}
    (hReserved : Reserved redis redis' orderID items)
    (hFresh : redis.reservations.find? orderID = none) :
    redis'.releaseInventoryReservationScript orderID =
      redis := by
  have hAvailable :
      (redis'.releaseInventoryReservationScript
          orderID).available = redis.available := by
    funext p
    rw [releaseInventoryReservationScript_available,
      hReserved.reservedOf, hReserved.available, map_add_map,
      Int.add_left_neg]
    simp
  have hReservations :
      (redis'.releaseInventoryReservationScript
          orderID).reservations = redis.reservations := by
    rw [releaseInventoryReservationScript_reservations,
      hReserved.reservations]
    apply Table.erase_put
    exact hFresh
  cases redis
  simp only at hAvailable hReservations
  rw [← hAvailable, ← hReservations]

/- The increment of a key, or its first value. -/
theorem incrInventoryStockScript_available
    (redis : Redis)
    (productID delta fallbackQuantity p : Int) :
    (redis.incrInventoryStockScript productID delta
        fallbackQuantity).available p =
      if p = productID then
        some (((redis.available productID).map
          (· + delta)).getD fallbackQuantity)
      else
        redis.available p := by
  unfold incrInventoryStockScript incrBy
  cases hKey : redis.available productID with
  | none => simp
  | some current => simp

theorem incrInventoryStockScript_reservations
    (redis : Redis)
    (productID delta fallbackQuantity : Int) :
    (redis.incrInventoryStockScript productID delta
        fallbackQuantity).reservations =
      redis.reservations := by
  unfold incrInventoryStockScript
  split <;> rfl

end Redis

------------------------------------------------------------
-- Effects of the Pre-Deduction
------------------------------------------------------------

/-
  Everything that the guard can answer for an order without
  a reservation, and what it then leaves in Redis.
-/
inductive PreDeducted
    (delivery : Delivery)
    (redis : Redis)
    (orderID : Int)
    (items : List CreateOrderItemRequest) :
    PreDeduct → Redis → Prop
| applied
    {redis' : Redis}
    (hDelivery : delivery = .answered)
    (hItems : items ≠ [])
    (hReserved : redis.Reserved redis' orderID items) :
    PreDeducted delivery redis orderID items .applied redis'
| lost
    {redis' : Redis}
    (hDelivery : delivery = .unanswered)
    (hItems : items ≠ [])
    (hReserved : redis.Reserved redis' orderID items) :
    PreDeducted delivery redis orderID items .skipped redis'
| insufficient
    (hDelivery : delivery = .answered)
    (hItems : items ≠ [])
    (hShort : redis.shortage items = some (-1)) :
    PreDeducted delivery redis orderID items .insufficient
      redis
| skipped
    (hReason :
      items = [] ∨ delivery = .unsent ∨
        delivery = .unanswered ∧
            redis.shortage items ≠ none ∨
          delivery = .answered ∧
            redis.shortage items = some 0) :
    PreDeducted delivery redis orderID items .skipped redis

theorem preDeducted
    {redis : Redis}
    {orderID : Int}
    (delivery : Delivery)
    (items : List CreateOrderItemRequest)
    (hPositive : 0 < orderID)
    (hFresh : redis.reservations.find? orderID = none) :
    PreDeducted delivery redis orderID items
      (InventoryStockGuard.preDeductInventory delivery redis
        orderID items).1
      (InventoryStockGuard.preDeductInventory delivery redis
        orderID items).2 := by
  unfold InventoryStockGuard.preDeductInventory
  have hID : ¬ orderID ≤ 0 := by omega
  by_cases hItems : items = []
  · rw [if_pos (Or.inr hItems)]
    exact .skipped (Or.inl hItems)
  rw [if_neg (not_or.mpr ⟨hID, hItems⟩)]
  rcases Redis.preDeductInventoryScript_cases hFresh items with
    ⟨hEnough, hOne, hReserved⟩ | ⟨answer, hShortage, hScript⟩
  · cases delivery with
    | unsent => exact .skipped (Or.inr (Or.inl rfl))
    | unanswered => exact .lost rfl hItems hReserved
    | answered =>
        simp only [hOne, if_true]
        exact .applied rfl hItems hReserved
  · rw [hScript]
    cases delivery with
    | unsent => exact .skipped (Or.inr (Or.inl rfl))
    | unanswered =>
        refine .skipped (Or.inr (Or.inr (Or.inl ⟨rfl, ?_⟩)))
        rw [hShortage]
        exact Option.some_ne_none answer
    | answered =>
        rcases Redis.shortage_eq_some hShortage with rfl | rfl
        · exact .skipped
            (Or.inr (Or.inr (Or.inr ⟨rfl, hShortage⟩)))
        · exact .insufficient rfl hItems hShortage

/- The guard refuses an order exactly when its script found
   too little stock and the answer came back. -/
theorem PreDeducted.insufficient_iff
    {delivery : Delivery}
    {redis redis' : Redis}
    {orderID : Int}
    {items : List CreateOrderItemRequest}
    {answer : PreDeduct}
    (hCases :
      PreDeducted delivery redis orderID items answer redis') :
    answer = .insufficient ↔
      delivery = .answered ∧
        redis.shortage items = some (-1) := by
  cases hCases with
  | applied _ _ hReserved =>
      rw [Redis.shortage_eq_none_iff.mpr hReserved.enough]
      simp
  | lost hDelivery => simp [hDelivery]
  | insufficient hDelivery _ hShort =>
      simp [hDelivery, hShort]
  | skipped hReason =>
      rcases hReason with rfl | rfl | ⟨rfl, _⟩ | ⟨_, hZero⟩
      · simp [Redis.shortage]
      · simp
      · simp
      · simp [hZero]

end OrderManagement
