import OrderManagement.Bizcache.InventoryStockGuard
import OrderManagement.Library.Transition

/-
  The scripts and commands of the guard, in any order. The
  available quantity of a product and what is reserved of it
  add up to a total that only an increment or a confirmation
  changes.

  Main declarations:
    * `PreDeductLaw` and `preDeductLaw`
    * `StockCommand` and `StockStep`
    * `Redis.Stocked`
    * `StockLaw` and `stock_scripts_conserve`
-/

namespace OrderManagement

------------------------------------------------------------
-- One Pre-Deduction
------------------------------------------------------------

/- The items of a checked request: one quantity a product. -/
structure ItemsChecked
    (items : List CreateOrderItemRequest) : Prop where
  distinct :
    (items.map CreateOrderItemRequest.productID).Nodup
  positive : ∀ item ∈ items, 0 < item.quantity

namespace ItemsChecked

theorem nodup_lines
    {items : List CreateOrderItemRequest}
    (hItems : ItemsChecked items) :
    ((items.map CreateOrderItemRequest.line).map
      ItemQuantity.productID).Nodup := by
  rw [List.map_map]
  exact hItems.distinct

theorem quantityOf_mem
    {items : List CreateOrderItemRequest}
    {item : CreateOrderItemRequest}
    (hItems : ItemsChecked items)
    (hMem : item ∈ items) :
    quantityOf (items.map CreateOrderItemRequest.line)
        item.productID =
      item.quantity := by
  have hLine :
      item.line ∈ items.map CreateOrderItemRequest.line :=
    List.mem_map_of_mem hMem
  exact quantityOf_of_mem hItems.nodup_lines hLine

end ItemsChecked

theorem quantityOf_not_mem
    {items : List CreateOrderItemRequest}
    {p : Int}
    (hAbsent :
      p ∉ items.map CreateOrderItemRequest.productID) :
    quantityOf (items.map CreateOrderItemRequest.line) p =
      0 := by
  apply quantityOf_of_not_mem
  rw [List.map_map]
  exact hAbsent

/-
  The pre-deduct script on any keys, and a release right
  after it. It deducts all items or none of them.
-/
structure PreDeductLaw
    (redis : Redis)
    (orderID : Int)
    (items : List CreateOrderItemRequest) : Prop where
  answer :
    (redis.preDeductInventoryScript orderID items).1 = 1 ∨
      (redis.preDeductInventoryScript orderID items).1 = 0 ∨
      (redis.preDeductInventoryScript orderID items).1 = -1
  refused :
    (redis.preDeductInventoryScript orderID items).1 ≠ 1 →
      (redis.preDeductInventoryScript orderID items).2 = redis
  repeated :
    (redis.reservations.find? orderID).isSome →
      redis.preDeductInventoryScript orderID items = (1, redis)
  deducted :
    (redis.preDeductInventoryScript orderID items).1 = 1 →
      redis.reservations.find? orderID = none →
        ∀ item ∈ items,
          ∃ current,
            redis.available item.productID = some current ∧
              item.quantity ≤ current ∧
              (redis.preDeductInventoryScript orderID
                  items).2.available item.productID =
                some (current - item.quantity)
  untouched :
    ∀ p, p ∉ items.map CreateOrderItemRequest.productID →
      (redis.preDeductInventoryScript orderID
          items).2.available p =
        redis.available p
  stored :
    (redis.preDeductInventoryScript orderID items).1 = 1 →
      redis.reservations.find? orderID = none →
        ∀ id,
          (redis.preDeductInventoryScript orderID
              items).2.reservations.find? id =
            if orderID = id then some ⟨orderID, items⟩
            else redis.reservations.find? id
  released :
    redis.reservations.find? orderID = none →
      (redis.preDeductInventoryScript orderID
          items).2.releaseInventoryReservationScript orderID =
        redis

theorem preDeductLaw
    {items : List CreateOrderItemRequest}
    (redis : Redis)
    (orderID : Int)
    (hItems : ItemsChecked items) :
    PreDeductLaw redis orderID items := by
  cases hFind : redis.reservations.find? orderID with
  | some reservation =>
      have hScript :
          redis.preDeductInventoryScript orderID items =
            (1, redis) := by
        unfold Redis.preDeductInventoryScript
        rw [hFind]
        rfl
      constructor
      case answer => exact Or.inl (by rw [hScript])
      case refused => exact fun _ => by rw [hScript]
      case repeated => exact fun _ => hScript
      case deducted =>
        intro _ hNone
        rw [hFind] at hNone
        cases hNone
      case untouched =>
        intro p _
        rw [hScript]
      case stored =>
        intro _ hNone
        rw [hFind] at hNone
        cases hNone
      case released =>
        intro hNone
        rw [hFind] at hNone
        cases hNone
  | none =>
      rcases Redis.preDeductInventoryScript_cases hFind items
        with ⟨_, hAnswer, hReserved⟩ | ⟨answer, hShort, hScript⟩
      · constructor
        case answer => exact Or.inl hAnswer
        case refused => exact fun hOther => absurd hAnswer hOther
        case repeated =>
          intro hSome
          rw [hFind] at hSome
          cases hSome
        case deducted =>
          intro _ _ item hItem
          rcases hReserved.enough item hItem with
            ⟨current, hCurrent, hEnough⟩
          refine ⟨current, hCurrent, hEnough, ?_⟩
          rw [hReserved.available, hCurrent,
            hItems.quantityOf_mem hItem]
          rfl
        case untouched =>
          intro p hAbsent
          rw [hReserved.available, quantityOf_not_mem hAbsent]
          simp
        case stored =>
          intro _ _ id
          rw [hReserved.reservations, Table.find?_put]
          rfl
        case released => exact hReserved.release
      · rcases Redis.shortage_eq_some hShort with rfl | rfl
        all_goals
          constructor
          case answer => simp [hScript]
          case refused => exact fun _ => by rw [hScript]
          case repeated =>
            intro hSome
            rw [hFind] at hSome
            cases hSome
          case deducted => simp [hScript]
          case untouched =>
            intro p _
            rw [hScript]
          case stored => simp [hScript]
          case released =>
            intro hNone
            rw [hScript]
            unfold Redis.releaseInventoryReservationScript
            dsimp only
            rw [hFind]

------------------------------------------------------------
-- Commands
------------------------------------------------------------

/- What the guard is asked to do. -/
inductive StockCommand
| preDeduct
    (delivery : Delivery)
    (orderID : Int)
    (items : List CreateOrderItemRequest)
| release (orderID : Int)
| confirm (orderID : Int)
| increment (productID delta fallbackQuantity : Int)
deriving DecidableEq

namespace StockCommand

open InventoryStockGuard

def run
    (redis : Redis) : StockCommand → Redis
| .preDeduct delivery orderID items =>
    (preDeductInventory delivery redis orderID items).2
| .release orderID => releaseReservation redis orderID
| .confirm orderID =>
    confirmPreDeductedInventory redis orderID
| .increment productID delta fallbackQuantity =>
    incrInventoryStock redis productID delta fallbackQuantity

/- CreateOrder sends only checked items. -/
def Valid : StockCommand → Prop
| .preDeduct _ _ items => ItemsChecked items
| _ => True

end StockCommand

/- The label of a step also tells the keys before it. -/
inductive StockStep :
    Redis → StockCommand × Redis → Redis → Prop
| run
    {redis : Redis}
    {command : StockCommand}
    (hValid : command.Valid) :
    StockStep redis (command, redis) (command.run redis)

------------------------------------------------------------
-- Totals
------------------------------------------------------------

namespace Redis

/- What all orders have reserved of a product. -/
def reservedTotal
    (redis : Redis)
    (p : Int) : Int :=
  redis.reservations.total fun r =>
    quantityOf (r.items.map CreateOrderItemRequest.line) p

/- A product is available or reserved. -/
def stockTotal
    (redis : Redis)
    (p : Int) : Int :=
  (redis.available p).getD 0 + redis.reservedTotal p

/- No key is negative, and what is reserved was taken from
   keys that are still there. -/
structure Stocked
    (redis : Redis) : Prop where
  nonneg :
    ∀ p current,
      redis.available p = some current → 0 ≤ current
  positive :
    ∀ id r, redis.reservations.find? id = some r →
      ∀ item ∈ r.items, 0 < item.quantity
  backed :
    ∀ id r, redis.reservations.find? id = some r →
      ∀ item ∈ r.items,
        (redis.available item.productID).isSome

/- Keys without any reservation. -/
theorem Stocked.of_no_reservation
    {redis : Redis}
    (hNone : redis.reservations = Table.empty)
    (hNonneg :
      ∀ p current,
        redis.available p = some current → 0 ≤ current) :
    redis.Stocked where
  nonneg := hNonneg
  positive id r hFind := by
    rw [hNone] at hFind
    cases hFind
  backed id r hFind := by
    rw [hNone] at hFind
    cases hFind

/- A product without a key has nothing reserved. -/
theorem Stocked.reservedOf_of_none
    {redis : Redis}
    {orderID p : Int}
    (hStocked : redis.Stocked)
    (hNone : redis.available p = none) :
    redis.reservedOf orderID p = 0 := by
  unfold reservedOf
  cases hFind : redis.reservations.find? orderID with
  | none => rfl
  | some r =>
      apply quantityOf_not_mem
      intro hMem
      rcases List.mem_map.mp hMem with ⟨item, hItem, rfl⟩
      have hSome := hStocked.backed orderID r hFind item hItem
      rw [hNone] at hSome
      cases hSome

theorem Stocked.reservedOf_nonneg
    {redis : Redis}
    (hStocked : redis.Stocked)
    (orderID p : Int) :
    0 ≤ redis.reservedOf orderID p := by
  unfold reservedOf
  cases hFind : redis.reservations.find? orderID with
  | none => exact le_refl 0
  | some r =>
      apply quantityOf_nonneg
      intro line hLine
      rcases List.mem_map.mp hLine with ⟨item, hItem, rfl⟩
      exact hStocked.positive orderID r hFind item hItem

/- A deleted reservation is taken off the reserved total. -/
theorem reservedTotal_erase
    (redis : Redis)
    (orderID p : Int) :
    (redis.reservations.erase orderID).total
        (fun r =>
          quantityOf
            (r.items.map CreateOrderItemRequest.line) p) =
      redis.reservedTotal p - redis.reservedOf orderID p := by
  unfold reservedTotal reservedOf
  cases hFind : redis.reservations.find? orderID with
  | none =>
      rw [Table.erase_of_free hFind]
      simp
  | some r => rw [Table.total_erase hFind]

/- The rows that an erased table still has. -/
theorem find?_of_find?_erase
    {redis : Redis}
    {orderID id : Int}
    {r : Reservation}
    (hFind :
      (redis.reservations.erase orderID).find? id = some r) :
    redis.reservations.find? id = some r := by
  rw [Table.find?_erase] at hFind
  split at hFind
  · cases hFind
  · exact hFind

/- Keys that grow, under fewer reservations. -/
theorem Stocked.grow
    {redis redis' : Redis}
    (hStocked : redis.Stocked)
    (hNonneg :
      ∀ p current,
        redis'.available p = some current → 0 ≤ current)
    (hKeys :
      ∀ p, (redis.available p).isSome →
        (redis'.available p).isSome)
    (hReservations :
      ∀ id r, redis'.reservations.find? id = some r →
        redis.reservations.find? id = some r) :
    redis'.Stocked where
  nonneg := hNonneg
  positive id r hFind :=
    hStocked.positive id r (hReservations id r hFind)
  backed id r hFind item hItem :=
    hKeys _
      (hStocked.backed id r (hReservations id r hFind) item
        hItem)

------------------------------------------------------------
-- Totals of the Commands
------------------------------------------------------------

theorem Reserved.stockTotal
    {redis redis' : Redis}
    {orderID : Int}
    {items : List CreateOrderItemRequest}
    (hReserved : Reserved redis redis' orderID items)
    (hFresh : redis.reservations.find? orderID = none)
    (p : Int) :
    redis'.stockTotal p = redis.stockTotal p := by
  have hFree :
      redis.reservations.find?
        (⟨orderID, items⟩ : Reservation).orderID = none :=
    hFresh
  unfold Redis.stockTotal reservedTotal
  rw [hReserved.available, hReserved.reservations,
    Table.total_put hFree]
  cases hCurrent : redis.available p with
  | some current =>
      simp only [Option.map_some, Option.getD_some]
      omega
  | none =>
      have hZero :
          quantityOf
            (items.map CreateOrderItemRequest.line) p = 0 := by
        apply quantityOf_not_mem
        intro hMem
        rcases List.mem_map.mp hMem with ⟨item, hItem, rfl⟩
        rcases hReserved.enough item hItem with
          ⟨current, hSome, _⟩
        rw [hCurrent] at hSome
        cases hSome
      simp [hZero]

theorem Reserved.stocked
    {redis redis' : Redis}
    {orderID : Int}
    {items : List CreateOrderItemRequest}
    (hReserved : Reserved redis redis' orderID items)
    (hItems : ItemsChecked items)
    (hStocked : redis.Stocked) :
    redis'.Stocked := by
  have hKeys :
      ∀ p, (redis.available p).isSome →
        (redis'.available p).isSome := by
    intro p hSome
    rw [hReserved.available, Option.isSome_map]
    exact hSome
  constructor
  case nonneg =>
    intro p current hCurrent
    rw [hReserved.available, Option.map_eq_some_iff]
      at hCurrent
    rcases hCurrent with ⟨earlier, hEarlier, rfl⟩
    have hNonneg := hStocked.nonneg p earlier hEarlier
    by_cases hMem :
        p ∈ items.map CreateOrderItemRequest.productID
    · rcases List.mem_map.mp hMem with ⟨item, hItem, rfl⟩
      rcases hReserved.enough item hItem with
        ⟨found, hFound, hEnough⟩
      rw [hEarlier] at hFound
      cases hFound
      rw [hItems.quantityOf_mem hItem]
      omega
    · rw [quantityOf_not_mem hMem]
      omega
  case positive =>
    intro id r hFind
    rw [hReserved.reservations, Table.find?_put] at hFind
    split at hFind
    · cases hFind
      exact hItems.positive
    · exact hStocked.positive id r hFind
  case backed =>
    intro id r hFind item hItem
    rw [hReserved.reservations, Table.find?_put] at hFind
    split at hFind
    · cases hFind
      rcases hReserved.enough item hItem with
        ⟨current, hCurrent, _⟩
      exact hKeys _ (by rw [hCurrent]; rfl)
    · exact hKeys _ (hStocked.backed id r hFind item hItem)

theorem Stocked.release
    {redis : Redis}
    (hStocked : redis.Stocked)
    (orderID : Int) :
    (redis.releaseInventoryReservationScript
        orderID).Stocked ∧
      ∀ p,
        (redis.releaseInventoryReservationScript
            orderID).stockTotal p =
          redis.stockTotal p := by
  constructor
  · apply hStocked.grow
    · intro p current hCurrent
      rw [releaseInventoryReservationScript_available,
        Option.map_eq_some_iff] at hCurrent
      rcases hCurrent with ⟨earlier, hEarlier, rfl⟩
      have hNonneg := hStocked.nonneg p earlier hEarlier
      have hReturned := hStocked.reservedOf_nonneg orderID p
      omega
    · intro p hSome
      rw [releaseInventoryReservationScript_available,
        Option.isSome_map]
      exact hSome
    · intro id r hFind
      rw [releaseInventoryReservationScript_reservations]
        at hFind
      exact find?_of_find?_erase hFind
  · intro p
    unfold Redis.stockTotal
    rw [releaseInventoryReservationScript_available]
    conv_lhs => unfold reservedTotal
    rw [releaseInventoryReservationScript_reservations,
      reservedTotal_erase]
    cases hCurrent : redis.available p with
    | some current =>
        simp only [Option.map_some, Option.getD_some]
        omega
    | none =>
        rw [hStocked.reservedOf_of_none hCurrent]
        simp

theorem Stocked.confirm
    {redis : Redis}
    (hStocked : redis.Stocked)
    (orderID : Int) :
    (redis.delReservation orderID).Stocked ∧
      ∀ p,
        (redis.delReservation orderID).stockTotal p =
          redis.stockTotal p - redis.reservedOf orderID p := by
  constructor
  · exact hStocked.grow hStocked.nonneg (fun _ hSome => hSome)
      fun _ _ hFind => find?_of_find?_erase hFind
  · intro p
    have hErase := redis.reservedTotal_erase orderID p
    have hTotal :
        (redis.delReservation orderID).stockTotal p =
          (redis.available p).getD 0 +
            (redis.reservations.erase orderID).total fun r =>
              quantityOf
                (r.items.map CreateOrderItemRequest.line)
                p := rfl
    rw [hTotal, hErase]
    unfold Redis.stockTotal
    omega

theorem Stocked.increment
    {redis : Redis}
    {delta fallbackQuantity : Int}
    (hStocked : redis.Stocked)
    (productID : Int)
    (hDelta : 0 < delta)
    (hFallback : 0 ≤ fallbackQuantity) :
    (redis.incrInventoryStockScript productID delta
        fallbackQuantity).Stocked ∧
      ∀ p,
        (redis.incrInventoryStockScript productID delta
            fallbackQuantity).stockTotal p =
          redis.stockTotal p +
            if productID = p then
              if (redis.available p).isSome then delta
              else fallbackQuantity
            else
              0 := by
  constructor
  · apply hStocked.grow
    · intro p current hCurrent
      rw [incrInventoryStockScript_available] at hCurrent
      split at hCurrent
      · cases hEarlier : redis.available productID with
        | none =>
            rw [hEarlier] at hCurrent
            cases hCurrent
            exact hFallback
        | some earlier =>
            rw [hEarlier] at hCurrent
            cases hCurrent
            have hNonneg :=
              hStocked.nonneg productID earlier hEarlier
            simp only [Option.map_some, Option.getD_some]
            omega
      · exact hStocked.nonneg p current hCurrent
    · intro p hSome
      rw [incrInventoryStockScript_available]
      split
      · rfl
      · exact hSome
    · intro id r hFind
      rw [incrInventoryStockScript_reservations] at hFind
      exact hFind
  · intro p
    unfold Redis.stockTotal reservedTotal
    rw [incrInventoryStockScript_available,
      incrInventoryStockScript_reservations]
    by_cases hHere : p = productID
    · subst hHere
      cases redis.available p with
      | none => simp; omega
      | some current => simp; omega
    · rw [if_neg hHere, if_neg (Ne.symm hHere), add_zero]

end Redis

------------------------------------------------------------
-- What a Command Counts
------------------------------------------------------------

namespace StockCommand

open InventoryStockGuard

/- What an increment adds to a product. -/
def added
    (p : Int)
    (redis : Redis) : StockCommand → Int
| .increment productID delta fallbackQuantity =>
    if productID ≤ 0 ∨ delta ≤ 0 ∨ fallbackQuantity < 0 then
      0
    else if productID = p then
      if (redis.available p).isSome then delta
      else fallbackQuantity
    else
      0
| _ => 0

/- What a confirmation takes out of the reserved stock. -/
def confirmed
    (p : Int)
    (redis : Redis) : StockCommand → Int
| .confirm orderID =>
    if orderID ≤ 0 then 0 else redis.reservedOf orderID p
| _ => 0

/- Whether an order has a reservation, as a number. -/
def held
    (id : Int)
    (redis : Redis) : Nat :=
  if (redis.reservations.find? id).isSome then 1 else 0

/- Reservations of an order that a command stores. -/
def stored
    (id : Int)
    (redis : Redis) : StockCommand → Nat
| .preDeduct delivery orderID items =>
    held id
        (preDeductInventory delivery redis orderID items).2 -
      held id redis
| _ => 0

/- Reservations of an order that a command returns. -/
def returned
    (id : Int)
    (redis : Redis) : StockCommand → Nat
| .release orderID =>
    held id redis - held id (releaseReservation redis orderID)
| _ => 0

/- Reservations of an order that a command confirms. -/
def dropped
    (id : Int)
    (redis : Redis) : StockCommand → Nat
| .confirm orderID =>
    held id redis -
      held id (confirmPreDeductedInventory redis orderID)
| _ => 0

/- A pre-deduction stores a reservation or changes nothing. -/
theorem preDeduct_run
    (redis : Redis)
    (delivery : Delivery)
    (orderID : Int)
    (items : List CreateOrderItemRequest) :
    (preDeductInventory delivery redis orderID items).2 =
        redis ∨
      redis.reservations.find? orderID = none ∧
        redis.Reserved
          (preDeductInventory delivery redis orderID items).2
          orderID items := by
  unfold preDeductInventory
  split
  · exact Or.inl rfl
  · have hScript :
        (redis.preDeductInventoryScript orderID items).2 =
            redis ∨
          redis.reservations.find? orderID = none ∧
            redis.Reserved
              (redis.preDeductInventoryScript orderID items).2
              orderID items := by
      cases hFind : redis.reservations.find? orderID with
      | some reservation =>
          refine Or.inl ?_
          unfold Redis.preDeductInventoryScript
          rw [hFind]
          rfl
      | none =>
          rcases Redis.preDeductInventoryScript_cases hFind
              items with
            ⟨_, _, hReserved⟩ | ⟨_, _, hSame⟩
          · exact Or.inr ⟨rfl, hReserved⟩
          · exact Or.inl (by rw [hSame])
    cases delivery with
    | unsent => exact Or.inl rfl
    | unanswered => exact hScript
    | answered =>
        dsimp only
        split
        · exact hScript
        · split <;> exact hScript

theorem stocked_run
    {redis : Redis}
    {command : StockCommand}
    (hStocked : redis.Stocked)
    (hValid : command.Valid) :
    (command.run redis).Stocked ∧
      ∀ p,
        (command.run redis).stockTotal p =
          redis.stockTotal p + command.added p redis -
            command.confirmed p redis := by
  cases command with
  | preDeduct delivery orderID items =>
      rcases preDeduct_run redis delivery orderID items with
        hSame | ⟨hFresh, hReserved⟩
      · unfold run
        dsimp only
        rw [hSame]
        exact ⟨hStocked, fun p => by simp [added, confirmed]⟩
      · refine ⟨hReserved.stocked hValid hStocked, ?_⟩
        intro p
        have hTotal := hReserved.stockTotal hFresh p
        simp only [added, confirmed, run, hTotal]
        omega
  | release orderID =>
      unfold run releaseReservation
      dsimp only
      split
      · exact ⟨hStocked, fun p => by simp [added, confirmed]⟩
      · rcases hStocked.release orderID with ⟨hAfter, hTotal⟩
        exact ⟨hAfter,
          fun p => by simp [added, confirmed, hTotal]⟩
  | confirm orderID =>
      unfold run confirmPreDeductedInventory
      dsimp only
      split
      case isTrue hIgnored =>
        exact ⟨hStocked,
          fun p => by simp [added, confirmed, hIgnored]⟩
      case isFalse hTaken =>
        rcases hStocked.confirm orderID with ⟨hAfter, hTotal⟩
        exact ⟨hAfter,
          fun p => by simp [added, confirmed, hTaken, hTotal]⟩
  | increment productID delta fallbackQuantity =>
      unfold run incrInventoryStock
      dsimp only
      split
      case isTrue hIgnored =>
        exact ⟨hStocked,
          fun p => by simp [added, confirmed, hIgnored]⟩
      case isFalse hTaken =>
        have hDelta : 0 < delta := by omega
        have hFallback : 0 ≤ fallbackQuantity := by omega
        rcases hStocked.increment productID hDelta hFallback
          with ⟨hAfter, hTotal⟩
        refine ⟨hAfter, fun p => ?_⟩
        rw [hTotal]
        simp [added, confirmed, hTaken]

/- A reservation comes from a pre-deduction, and it goes to a
   release or to a confirmation. -/
theorem held_run
    (redis : Redis)
    (command : StockCommand)
    (id : Int) :
    held id redis + command.stored id redis =
      command.returned id redis + command.dropped id redis +
        held id (command.run redis) := by
  cases command with
  | preDeduct delivery orderID items =>
      have hKept :
          held id redis ≤
            held id
              (preDeductInventory delivery redis orderID
                items).2 := by
        rcases preDeduct_run redis delivery orderID items with
          hSame | ⟨_, hReserved⟩
        · rw [hSame]
        · unfold held
          rw [hReserved.reservations, Table.find?_put]
          split <;> split <;> simp_all
      simp only [stored, returned, dropped, run]
      omega
  | release orderID =>
      have hKept :
          held id (releaseReservation redis orderID) ≤
            held id redis := by
        unfold releaseReservation
        split
        · exact le_refl _
        · unfold held
          rw [Redis.releaseInventoryReservationScript_reservations,
            Table.find?_erase]
          split <;> split <;> simp_all
      simp only [stored, returned, dropped, run]
      omega
  | confirm orderID =>
      have hKept :
          held id (confirmPreDeductedInventory redis orderID) ≤
            held id redis := by
        unfold confirmPreDeductedInventory
        split
        · exact le_refl _
        · unfold held
          rw [Redis.reservations_delReservation,
            Table.find?_erase]
          split <;> split <;> simp_all
      simp only [stored, returned, dropped, run]
      omega
  | increment productID delta fallbackQuantity =>
      have hSame :
          held id
              (incrInventoryStock redis productID delta
                fallbackQuantity) =
            held id redis := by
        unfold incrInventoryStock
        split
        · rfl
        · unfold held
          rw [Redis.incrInventoryStockScript_reservations]
      simp only [stored, returned, dropped, run]
      omega

end StockCommand

------------------------------------------------------------
-- Main Result
------------------------------------------------------------

/-
  What any commands leave. The last two clauses are
  balances: of a product, and of the reservations of an
  order, so that each of them is returned at most once.
-/
structure StockLaw
    (start : Redis)
    (commands : List (StockCommand × Redis))
    (redis : Redis) : Prop where
  nonneg :
    ∀ p current,
      redis.available p = some current → 0 ≤ current
  total :
    ∀ p,
      redis.stockTotal p =
        start.stockTotal p +
            (commands.map fun c => c.1.added p c.2).sum -
          (commands.map fun c => c.1.confirmed p c.2).sum
  reservation :
    ∀ id,
      StockCommand.held id start +
          (commands.map fun c => c.1.stored id c.2).sum =
        (commands.map fun c => c.1.returned id c.2).sum +
            (commands.map fun c => c.1.dropped id c.2).sum +
          StockCommand.held id redis

theorem stockLaw
    {start redis : Redis}
    {commands : List (StockCommand × Redis)}
    (hStart : start.Stocked)
    (hRun : Transition.Run StockStep start commands redis) :
    redis.Stocked ∧ StockLaw start commands redis := by
  apply hRun.history (P := fun commands redis =>
    redis.Stocked ∧ StockLaw start commands redis)
  · refine ⟨hStart, hStart.nonneg, ?_, ?_⟩
    · intro p
      simp
    · intro id
      simp
  · intro commands redis c redis' _ ⟨hStocked, hLaw⟩ hStep
    cases hStep with
    | @run command hValid =>
        rcases StockCommand.stocked_run hStocked hValid with
          ⟨hAfter, hTotal⟩
        refine ⟨hAfter, hAfter.nonneg, ?_, ?_⟩
        · intro p
          have hBefore := hLaw.total p
          have hHere := hTotal p
          simp only [List.map_append, List.sum_append,
            List.map_cons, List.map_nil, List.sum_cons,
            List.sum_nil]
          omega
        · intro id
          have hBefore := hLaw.reservation id
          have hHere := command.held_run redis id
          simp only [List.map_append, List.sum_append,
            List.map_cons, List.map_nil, List.sum_cons,
            List.sum_nil]
          omega

/- One script takes all or nothing and can be undone; any
   commands conserve the stock. -/
theorem stock_scripts_conserve :
    (∀ redis orderID items,
      ItemsChecked items →
        PreDeductLaw redis orderID items) ∧
      ∀ start commands redis,
        start.Stocked →
          Transition.Run StockStep start commands redis →
            StockLaw start commands redis :=
  ⟨fun redis orderID _ hItems =>
    preDeductLaw redis orderID hItems,
    fun _ _ _ hStart hRun => (stockLaw hStart hRun).2⟩

/- Ten pieces: four are reserved and returned, then five are
   added. -/
def sampleStock : Redis where
  available p := if p = 1 then some 10 else none
  reservations := Table.empty

theorem stock_scripts_conserve_sample :
    ∃ commands redis,
      StockLaw sampleStock commands redis ∧
        redis.available 1 = some 15 ∧
        PreDeductLaw sampleStock 7 [⟨1, 4⟩] := by
  have hItems : ItemsChecked [⟨1, 4⟩] := by
    constructor <;> simp
  have hStart : sampleStock.Stocked := by
    apply Redis.Stocked.of_no_reservation rfl
    intro p current hCurrent
    unfold sampleStock at hCurrent
    dsimp only at hCurrent
    split at hCurrent
    · cases hCurrent
      decide
    · cases hCurrent
  have hRun :=
    ((Transition.Run.single
      (@StockStep.run sampleStock
        (.preDeduct .answered 7 [⟨1, 4⟩]) hItems)).snoc
      (@StockStep.run _ (.release 7) trivial)).snoc
      (@StockStep.run _ (.increment 1 5 0) trivial)
  exact ⟨_, _,
    stock_scripts_conserve.2 _ _ _ hStart hRun,
    by decide +kernel,
    stock_scripts_conserve.1 _ _ _ hItems⟩

end OrderManagement
