import OrderManagement.Bizcache.InventoryStockGuard
import OrderManagement.Library.BinaryFormat

/-
  The scripts of `inventory_stock_guard.go` on the numbers
  of Lua. A number is a double; Redis passes it on to a
  command as a text, and cjson stores it with fourteen
  digits. A script that raises an error keeps what it has
  done so far. Below ten to the fourteenth all of this is
  exact, and the scripts are those of the guard on integers.

  Main declarations:
    * `LuaHost` and `LuaHost.Lawful`
    * `Lua.preDeductInventoryScript` and
      `Lua.releaseInventoryReservationScript`
    * `Lua.preDeductInventory` and `Lua.releaseReservation`
    * `CreateOrderItemRequest.Exact` and `Redis.Exact`
    * `Lua.preDeductInventory_eq` and
      `Lua.releaseReservation_eq`
-/

namespace OrderManagement

------------------------------------------------------------
-- Numbers
------------------------------------------------------------

/-
  What Redis adds to Lua: the integer that a command reads
  from a number given to `redis.call`, if it reads one, and
  a number after `cjson.encode` and `cjson.decode`.
-/
structure LuaHost where
  call : Int → Option Int
  cjson : Int → Int

/- The quantities that fourteen digits tell apart. -/
def Fourteen
    (n : Int) : Prop :=
  n.natAbs < 10 ^ 14

instance
    (n : Int) :
    Decidable (Fourteen n) :=
  inferInstanceAs (Decidable (_ < _))

/- The documented precision: a number is passed on with the
   digits of a double, and stored with fourteen digits. -/
structure LuaHost.Lawful
    (host : LuaHost) : Prop where
  call : ∀ n, Fourteen n → host.call n = some n
  cjson : ∀ n, Fourteen n → host.cjson n = n

namespace Lua

/- The double that is nearest to an integer. -/
def tonumber
    (n : Int) : Int :=
  n.sign * BinaryFormat.round 53 n.natAbs

theorem round_lt_iff
    {n k : Nat}
    (hExact : k ≤ 2 ^ 53) :
    BinaryFormat.round 53 n < k ↔ n < k := by
  have hRep :
      ∀ m ≤ 2 ^ 53, BinaryFormat.Representable 53 m :=
    fun m => BinaryFormat.representable_of_le (by decide)
  constructor
  · intro hLess
    by_contra hLE
    have hKept :=
      BinaryFormat.le_round (n := n) (by decide)
        (hRep k hExact) (by omega)
    omega
  · intro hLess
    rwa [BinaryFormat.round_eq_self (by decide)
      (hRep n (by omega))]

theorem round_of_le
    {n : Nat}
    (hExact : n ≤ 2 ^ 53) :
    BinaryFormat.round 53 n = n :=
  BinaryFormat.round_eq_self (by decide)
    (BinaryFormat.representable_of_le (by decide) hExact)

theorem tonumber_of_fourteen
    {n : Int}
    (hExact : Fourteen n) :
    tonumber n = n := by
  unfold tonumber
  unfold Fourteen at hExact
  rw [round_of_le (by omega)]
  exact Int.sign_mul_natAbs n

/- Rounding keeps the order, whatever is compared with an
   exact number. -/
theorem tonumber_lt_iff
    {n q : Int}
    (hExact : Fourteen q) :
    tonumber n < tonumber q ↔ n < q := by
  rw [tonumber_of_fourteen hExact]
  unfold Fourteen at hExact
  have hRound :
      ∀ k ≤ 2 ^ 53,
        BinaryFormat.round 53 n.natAbs < k ↔ n.natAbs < k :=
    fun k => round_lt_iff
  unfold tonumber
  generalize BinaryFormat.round 53 n.natAbs = rounded at hRound
  rcases lt_trichotomy n 0 with hNeg | rfl | hPos
  · rw [Int.sign_eq_neg_one_of_neg hNeg]
    have hAt := hRound q.natAbs (by omega)
    have hNext := hRound (q.natAbs + 1) (by omega)
    have hOne := hRound 1 (by omega)
    omega
  · simp
  · rw [Int.sign_eq_one_of_pos hPos]
    have hAt := hRound q.natAbs (by omega)
    omega

------------------------------------------------------------
-- Scripts
------------------------------------------------------------

variable (host : LuaHost)

/-
  The first loop of the pre-deduct script: the answer with
  which it gives up, if it does.
-/
def shortage
    (redis : Redis) :
    List CreateOrderItemRequest → Option Int
| [] => none
| item :: items =>
    match redis.available item.productID with
    | none => some 0
    | some current =>
        if tonumber current < tonumber item.quantity then
          some (-1)
        else
          shortage redis items

/- A command for one item after another, unless it is left
   out, and whether every command has read its argument. -/
def callAll
    (sends : Redis → Int → Bool)
    (command : Redis → Int → Int → Redis)
    (redis : Redis) :
    List CreateOrderItemRequest → Redis × Bool
| [] => (redis, true)
| item :: items =>
    if sends redis item.productID then
      match host.call item.quantity with
      | none => (redis, false)
      | some quantity =>
          callAll sends command
            (command redis item.productID quantity) items
    else
      callAll sends command redis items

/- The items of a call as the numbers of the script. -/
def arguments
    (items : List CreateOrderItemRequest) :
    List CreateOrderItemRequest :=
  items.map fun item =>
    { item with quantity := tonumber item.quantity }

/- What a release will decode from the stored reservation. -/
def decoded
    (items : List CreateOrderItemRequest) :
    List CreateOrderItemRequest :=
  items.map fun item =>
    { item with quantity := host.cjson item.quantity }

/- No answer stands for an error that ends the script. -/
def preDeductInventoryScript
    (redis : Redis)
    (orderID : Int)
    (items : List CreateOrderItemRequest) :
    Option Int × Redis :=
  if (redis.reservations.find? orderID).isSome then
    (some 1, redis)
  else
    match shortage redis items with
    | some answer => (some answer, redis)
    | none =>
        match
          callAll host (fun _ _ => true)
            (fun r productID quantity =>
              r.incrBy productID (-quantity))
            redis (arguments items) with
        | (deducted, false) => (none, deducted)
        | (deducted, true) =>
            (some 1, { deducted with
              reservations :=
                deducted.reservations.put
                  ⟨orderID, decoded host (arguments items)⟩ })

def releaseInventoryReservationScript
    (redis : Redis)
    (orderID : Int) : Redis :=
  match redis.reservations.find? orderID with
  | none => redis
  | some reservation =>
      match
        callAll host
          (fun r productID => (r.available productID).isSome)
          Redis.incrBy redis reservation.items with
      | (returned, false) => returned
      | (returned, true) => returned.delReservation orderID

------------------------------------------------------------
-- The Guard
------------------------------------------------------------

def preDeductInventory
    (delivery : Delivery)
    (redis : Redis)
    (orderID : Int)
    (items : List CreateOrderItemRequest) :
    PreDeduct × Redis :=
  if orderID ≤ 0 ∨ items = [] then
    (.skipped, redis)
  else
    let result :=
      preDeductInventoryScript host redis orderID items
    match delivery with
    | .unsent => (.skipped, redis)
    | .unanswered => (.skipped, result.2)
    | .answered =>
        if result.1 = some 1 then (.applied, result.2)
        else if result.1 = some (-1) then
          (.insufficient, result.2)
        else (.skipped, result.2)

def releaseReservation
    (redis : Redis)
    (orderID : Int) : Redis :=
  if orderID ≤ 0 then
    redis
  else
    releaseInventoryReservationScript host redis orderID

------------------------------------------------------------
-- Exact Quantities
------------------------------------------------------------

end Lua

def CreateOrderItemRequest.Exact
    (item : CreateOrderItemRequest) : Prop :=
  Fourteen item.quantity

instance
    (item : CreateOrderItemRequest) :
    Decidable item.Exact :=
  inferInstanceAs (Decidable (Fourteen _))

def Reservation.Exact
    (r : Reservation) : Prop :=
  ∀ item ∈ r.items, item.Exact

/- Every reserved quantity has at most fourteen digits. -/
def Redis.Exact
    (redis : Redis) : Prop :=
  ∀ id r, redis.reservations.find? id = some r → r.Exact

namespace Lua

variable {host : LuaHost}

theorem shortage_eq
    (redis : Redis)
    {items : List CreateOrderItemRequest}
    (hExact : ∀ item ∈ items, item.Exact) :
    shortage redis items = redis.shortage items := by
  induction items with
  | nil => rfl
  | cons item items ih =>
      rw [List.forall_mem_cons] at hExact
      unfold shortage Redis.shortage
      cases redis.available item.productID with
      | none => rfl
      | some current =>
          simp only [tonumber_lt_iff hExact.1, ih hExact.2]

/- With exact arguments every command is sent. -/
theorem callAll_eq
    (hLawful : host.Lawful)
    (sends : Redis → Int → Bool)
    (command : Redis → Int → Int → Redis)
    (redis : Redis)
    {items : List CreateOrderItemRequest}
    (hExact : ∀ item ∈ items, item.Exact) :
    callAll host sends command redis items =
      (items.foldl
        (fun r item =>
          if sends r item.productID then
            command r item.productID item.quantity
          else
            r)
        redis, true) := by
  induction items generalizing redis with
  | nil => rfl
  | cons item items ih =>
      rw [List.forall_mem_cons] at hExact
      unfold callAll
      rw [hLawful.call _ hExact.1, List.foldl_cons]
      split
      · exact ih _ hExact.2
      · exact ih _ hExact.2

theorem arguments_eq
    {items : List CreateOrderItemRequest}
    (hExact : ∀ item ∈ items, item.Exact) :
    arguments items = items := by
  apply (List.map_congr_left _).trans (List.map_id items)
  intro item hItem
  rw [tonumber_of_fourteen (hExact item hItem)]
  rfl

theorem decoded_eq
    (hLawful : host.Lawful)
    {items : List CreateOrderItemRequest}
    (hExact : ∀ item ∈ items, item.Exact) :
    decoded host items = items := by
  apply (List.map_congr_left _).trans (List.map_id items)
  intro item hItem
  rw [hLawful.cjson _ (hExact item hItem)]
  rfl

/- The scripts are those on integers. -/
theorem preDeductInventoryScript_eq
    (hLawful : host.Lawful)
    (redis : Redis)
    (orderID : Int)
    {items : List CreateOrderItemRequest}
    (hExact : ∀ item ∈ items, item.Exact) :
    preDeductInventoryScript host redis orderID items =
      (some (redis.preDeductInventoryScript orderID items).1,
        (redis.preDeductInventoryScript orderID items).2) := by
  unfold preDeductInventoryScript
    Redis.preDeductInventoryScript
  rw [arguments_eq hExact, decoded_eq hLawful hExact,
    shortage_eq redis hExact, callAll_eq hLawful _ _ _ hExact]
  split
  · rfl
  · cases redis.shortage items with
    | some answer => rfl
    | none => simp

theorem releaseInventoryReservationScript_eq
    (hLawful : host.Lawful)
    {redis : Redis}
    {orderID : Int}
    (hExact :
      ∀ r, redis.reservations.find? orderID = some r →
        r.Exact) :
    releaseInventoryReservationScript host redis orderID =
      redis.releaseInventoryReservationScript orderID := by
  unfold releaseInventoryReservationScript
    Redis.releaseInventoryReservationScript
  cases hFind : redis.reservations.find? orderID with
  | none => rfl
  | some r =>
      simp only [callAll_eq hLawful _ _ _ (hExact r hFind)]

/- And so is what the guard makes of them. -/
theorem preDeductInventory_eq
    (hLawful : host.Lawful)
    (delivery : Delivery)
    (redis : Redis)
    (orderID : Int)
    {items : List CreateOrderItemRequest}
    (hExact : ∀ item ∈ items, item.Exact) :
    preDeductInventory host delivery redis orderID items =
      InventoryStockGuard.preDeductInventory delivery redis
        orderID items := by
  unfold preDeductInventory
    InventoryStockGuard.preDeductInventory
  rw [preDeductInventoryScript_eq hLawful redis orderID hExact]
  cases delivery <;> simp only [Option.some.injEq]

theorem releaseReservation_eq
    (hLawful : host.Lawful)
    {redis : Redis}
    {orderID : Int}
    (hExact :
      ∀ r, redis.reservations.find? orderID = some r →
        r.Exact) :
    releaseReservation host redis orderID =
      InventoryStockGuard.releaseReservation redis orderID := by
  unfold releaseReservation
    InventoryStockGuard.releaseReservation
  rw [releaseInventoryReservationScript_eq hLawful hExact]
end Lua

------------------------------------------------------------
-- A Host
------------------------------------------------------------

/- Fourteen digits of a number, the nearest ones. -/
def fourteenDigits
    (n : Nat) : Nat :=
  BinaryFormat.nearestMultiple
    (10 ^ ((Nat.toDigits 10 n).length - 14)) n

/- As Redis 7.2: integers up to half the range of a word are
   written out, and cjson writes `%.14g`. -/
def sampleHost : LuaHost where
  call n := if n.natAbs ≤ 2 ^ 62 then some n else none
  cjson n :=
    if Fourteen n then n
    else Lua.tonumber (n.sign * fourteenDigits n.natAbs)

theorem sampleHost_lawful :
    sampleHost.Lawful where
  call n hExact := by
    unfold Fourteen at hExact
    exact if_pos (by omega)
  cjson n hExact := if_pos hExact

/- The fifteenth digit is lost. -/
example :
    sampleHost.cjson 123456789012345 = 123456789012340 := by
  decide +kernel

end OrderManagement
