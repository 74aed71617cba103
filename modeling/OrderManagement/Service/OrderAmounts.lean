import OrderManagement.Dao.Writes
import OrderManagement.Service.OrderEffects
import Mathlib.Algebra.Order.BigOperators.Group.List
import Mathlib.Algebra.Order.Group.Int

/-
  The amounts that a creation stores. Products of prices and
  quantities, and their sum, are int64 values that nothing
  checks for an overflow before they are stored.

  Main declarations:
    * `OrderService.OrderLine.amount`
    * `OrderService.totalAmountFen_eq_iff`
    * `OrderService.createOrder_items`
-/

namespace OrderManagement

open Transaction

namespace OrderService

------------------------------------------------------------
-- Sums
------------------------------------------------------------

/- What a line costs, over the integers. -/
def OrderLine.amount
    (line : OrderLine) : Int :=
  line.2.priceFen * line.1.quantity

/- What the lines cost together, over the integers. -/
def amountOf
    (lines : List OrderLine) : Int :=
  (lines.map OrderLine.amount).sum

theorem amountOf_nonneg
    {lines : List OrderLine}
    (hPositive : ∀ line ∈ lines, 0 < line.amount) :
    0 ≤ amountOf lines := by
  apply List.sum_nonneg
  intro amount hAmount
  rcases List.mem_map.mp hAmount with ⟨line, hLine, rfl⟩
  exact (hPositive line hLine).le

/- No line costs more than all of them. -/
theorem amount_le_amountOf
    {lines : List OrderLine}
    (hPositive : ∀ line ∈ lines, 0 < line.amount)
    {line : OrderLine}
    (hLine : line ∈ lines) :
    line.amount ≤ amountOf lines := by
  refine List.single_le_sum ?_ _ (List.mem_map_of_mem hLine)
  intro amount hAmount
  rcases List.mem_map.mp hAmount with ⟨line, hLine, rfl⟩
  exact (hPositive line hLine).le

/- The loop adds up exactly while the sum fits an int64. -/
theorem foldl_amount
    {lines : List OrderLine}
    {total : Int}
    (hPositive : ∀ line ∈ lines, 0 < line.amount)
    (hTotal : 0 ≤ total)
    (hFits : total + amountOf lines ≤ bigintMax) :
    lines.foldl
        (fun total line =>
          wrap64
            (total + wrap64 (line.2.priceFen * line.1.quantity)))
        total =
      total + amountOf lines := by
  induction lines generalizing total with
  | nil => exact (add_zero total).symm
  | cons line lines ih =>
      have hRest : ∀ line ∈ lines, 0 < line.amount :=
        fun l hLine =>
          hPositive l (List.mem_cons_of_mem _ hLine)
      have hLine := hPositive line List.mem_cons_self
      have hNonneg := amountOf_nonneg hRest
      have hCons :
          amountOf (line :: lines) =
            line.amount + amountOf lines := List.sum_cons
      have hAmount :
          wrap64 (line.2.priceFen * line.1.quantity) =
            line.amount :=
        wrap64_eq hLine.le (by
          change line.amount ≤ bigintMax
          omega)
      rw [List.foldl_cons, hAmount,
        wrap64_eq (by omega) (by omega),
        ih hRest (by omega) (by omega), hCons, add_assoc]

theorem wrap64_le
    (n : Int) :
    wrap64 n ≤ bigintMax := by
  have hLess :=
    Int.bmod_lt (x := n) (m := 18446744073709551616)
      (by decide)
  unfold wrap64 bigintMax
  omega

/- The total is exact if and only if it fits an int64. -/
theorem totalAmountFen_eq_iff
    {lines : List OrderLine}
    (hPositive : ∀ line ∈ lines, 0 < line.amount) :
    totalAmountFen lines = amountOf lines ↔
      amountOf lines ≤ bigintMax := by
  constructor
  · intro hExact
    rw [← hExact]
    unfold totalAmountFen
    cases lines using List.reverseRecOn with
    | nil => decide
    | append_singleton lines line =>
        rw [List.foldl_append]
        exact wrap64_le _
  · intro hFits
    have hSum :=
      foldl_amount hPositive (le_refl 0) (by omega)
    rw [zero_add] at hSum
    exact hSum

------------------------------------------------------------
-- Stored Items
------------------------------------------------------------

variable [Deployment]

/- What a creation computes for an item. -/
def OrderLine.Priced
    (line : OrderLine)
    (item : OrderItem) : Prop :=
  item.productID = line.1.productID ∧
    item.quantity = line.1.quantity ∧
    item.subtotalFen =
      wrap64 (line.2.priceFen * line.1.quantity)

theorem placeOrderItems_priced
    {order : Order}
    {lines : List OrderLine}
    {db db' : DB}
    (hLoop :
      Commits (forM lines (placeOrderItem order)) db ⟨⟩ db')
    (hProducts :
      ∀ line ∈ lines, line.2.id = line.1.productID) :
    ∃ newItems,
      db'.orderItems = db.orderItems ++ newItems ∧
        List.Forall₂ OrderLine.Priced lines newItems := by
  revert hProducts
  apply Commits.forM_induction (R := fun lines db db' =>
    (∀ line ∈ lines, line.2.id = line.1.productID) →
      ∃ newItems,
        db'.orderItems = db.orderItems ++ newItems ∧
          List.Forall₂ OrderLine.Priced lines newItems)
    ?_ ?_ hLoop
  · intro db _
    exact ⟨[], (List.append_nil _).symm, List.Forall₂.nil⟩
  · intro line rest db mid db' hRound ih hProducts
    rcases commits_placeOrderItem
        (hProducts line List.mem_cons_self) hRound with
      ⟨_, item, _, rfl, _, _, hProduct, hQuantity, _,
        hSubtotal, _⟩
    rcases ih fun l hLine =>
        hProducts l (List.mem_cons_of_mem _ hLine) with
      ⟨newItems, hItems, hPriced⟩
    refine ⟨item :: newItems, ?_, ?_⟩
    · rw [hItems, List.append_assoc]
      rfl
    · exact List.Forall₂.cons ⟨hProduct, hQuantity, hSubtotal⟩
        hPriced

/- The statements that leave the order items alone. -/
def ItemsKept
    (db db' : DB) : Prop :=
  db'.orderItems = db.orderItems

instance : IsPreorder DB ItemsKept where
  refl _ := rfl
  trans _ _ _ hFirst hSecond := hSecond.trans hFirst

theorem placeOrder_items
    {view : DB}
    {now nextAttemptAt : Time}
    {userID : Int}
    {idempotencyKey : String}
    {items : List CreateOrderItemRequest}
    {ids : GeneratedIDs}
    {order : Order}
    {db db' : DB}
    (hCommit :
      Commits
        (placeOrder view now nextAttemptAt userID
          idempotencyKey items ids) db order db') :
    ∃ lines newItems,
      lines.map Prod.fst = items ∧
        (∀ line ∈ lines,
          view.products.find? line.1.productID =
            some line.2) ∧
        order.totalAmountFen = totalAmountFen lines ∧
        db'.orderItems = db.orderItems ++ newItems ∧
        List.Forall₂ OrderLine.Priced lines newItems := by
  unfold placeOrder at hCommit
  simp only [commits_bind, commits_check, commits_ensure,
    commits_pure] at hCommit
  rcases hCommit with
    ⟨lines, _, hLoad, ⟨hTotal⟩, _, rfl, _, mid, hCreate, _,
      placed, hLoop, rows, completed, hComplete, _, _,
      ⟨_, rfl⟩, _, stored, hOutbox, rfl, rfl⟩
  rcases commits_loadProducts hLoad with
    ⟨rfl, hItems, hFound⟩
  have hCreated : ItemsKept _ mid :=
    Dao.createOrder_guarantees (fun _ _ _ => rfl) _ _ _ hCreate
  have hCompleted : ItemsKept placed completed :=
    Guarantees.onError
      (Dao.completeOrderIdempotencyKey_guarantees
        fun _ _ _ => rfl) _ _ _ hComplete
  have hStored : ItemsKept completed stored :=
    Dao.createOrderTimeoutOutbox_guarantees
      (fun _ _ _ => rfl) _ _ _ hOutbox
  rcases placeOrderItems_priced hLoop fun line hLine =>
      Table.key_of_find? (hFound line hLine).1 with
    ⟨newItems, hNew, hPriced⟩
  refine ⟨lines, newItems, hItems,
    fun line hLine => (hFound line hLine).1, rfl, ?_, hPriced⟩
  rw [hStored, hCompleted, hNew, hCreated]

/- The items of a new order and what they were made from. -/
theorem createOrder_items
    {view : DB}
    {now nextAttemptAt : Time}
    {userID : Int}
    {idempotencyKey requestHash : String}
    {items : List CreateOrderItemRequest}
    {ids : GeneratedIDs}
    {order : Order}
    {db db' : DB}
    (hCommit :
      Commits
        (createOrder view now nextAttemptAt userID
          idempotencyKey requestHash items ids)
        db (.orderCreated order) db') :
    ∃ lines newItems,
      lines.map Prod.fst = items ∧
        (∀ line ∈ lines,
          view.products.find? line.1.productID =
            some line.2) ∧
        order.totalAmountFen = totalAmountFen lines ∧
        db'.orderItems = db.orderItems ++ newItems ∧
        List.Forall₂ OrderLine.Priced lines newItems := by
  unfold createOrder at hCommit
  rw [commits_bind] at hCommit
  rcases hCommit with ⟨acquired, mid, hTry, hRest⟩
  have hKept : ItemsKept db mid :=
    Dao.tryCreateOrderIdempotencyKey_guarantees
      (fun _ _ _ => rfl) _ _ _ hTry
  cases acquired with
  | false =>
      simp only [Bool.false_eq_true, if_false, commits_bind,
        commits_pure] at hRest
      rcases hRest with ⟨_, _, _, hOutcome, _⟩
      cases hOutcome
  | true =>
      simp only [if_true, commits_bind, commits_pure] at hRest
      rcases hRest with ⟨_, _, hPlace, hOutcome, rfl⟩
      cases hOutcome
      rw [← hKept]
      exact placeOrder_items hPlace

omit [Deployment] in
/- An item was stored, so that its quantity is positive. -/
theorem amount_pos
    {lines : List OrderLine}
    {items : List OrderItem}
    (hPriced : List.Forall₂ OrderLine.Priced lines items) :
    ∀ line ∈ lines, 0 < line.amount := by
  induction hPriced with
  | nil => simp
  | @cons line item lines items hLine _ ih =>
      intro other hOther
      rcases List.mem_cons.mp hOther with rfl | hOther
      · have hQuantity := item.quantityPositive
        rw [hLine.2.1] at hQuantity
        exact Int.mul_pos other.2.priceFenPositive hQuantity
      · exact ih other hOther

omit [Deployment] in
/- The items cost what the lines cost. -/
theorem map_amount
    {price : Int → Int}
    {lines : List OrderLine}
    {items : List OrderItem}
    (hPriced : List.Forall₂ OrderLine.Priced lines items)
    (hPrice :
      ∀ line ∈ lines,
        price line.1.productID = line.2.priceFen) :
    (items.map fun item =>
        price item.productID * item.quantity).sum =
      amountOf lines := by
  induction hPriced with
  | nil => rfl
  | @cons line item lines items hLine _ ih =>
      have hRest := ih fun l hl =>
        hPrice l (List.mem_cons_of_mem _ hl)
      unfold amountOf at hRest ⊢
      rw [List.map_cons, List.sum_cons, List.map_cons,
        List.sum_cons, hRest, hLine.1, hLine.2.1,
        hPrice line List.mem_cons_self]
      rfl

omit [Deployment] in
/- The items have exact subtotals as soon as all their sums
   fit an int64. -/
theorem subtotals_exact
    {price : Int → Int}
    {lines : List OrderLine}
    {items : List OrderItem}
    (hPriced : List.Forall₂ OrderLine.Priced lines items)
    (hPrice :
      ∀ line ∈ lines,
        price line.1.productID = line.2.priceFen)
    (hFits : ∀ line ∈ lines, line.amount ≤ bigintMax) :
    ∀ item ∈ items,
      item.subtotalFen =
        price item.productID * item.quantity := by
  induction hPriced with
  | nil => simp
  | @cons line item lines items hLine _ ih =>
      intro other hOther
      rcases List.mem_cons.mp hOther with rfl | hOther
      · rw [hLine.1, hLine.2.1, hLine.2.2,
          hPrice line List.mem_cons_self]
        apply wrap64_eq
        · have hQuantity := other.quantityPositive
          rw [hLine.2.1] at hQuantity
          exact (Int.mul_pos line.2.priceFenPositive hQuantity).le
        · exact hFits line List.mem_cons_self
      · exact ih
          (fun l hl => hPrice l (List.mem_cons_of_mem _ hl))
          (fun l hl => hFits l (List.mem_cons_of_mem _ hl))
          other hOther

end OrderService

end OrderManagement
