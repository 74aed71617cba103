import OrderManagement.Service.Order
import Mathlib.Algebra.BigOperators.Group.List.Lemmas

/-
  The quantities that an order takes from each product.

  Main declarations:
    * `quantityOf`, `orderLines`, and `orderQuantity`
    * `Orderly`
    * `inventoryLines_perm`
    * `quantityIn` with `quantityIn_insert` and
      `quantityIn_patch`
-/

namespace OrderManagement

------------------------------------------------------------
-- Quantities of Lines
------------------------------------------------------------

/- The total quantity of a product over some lines. -/
def quantityOf
    (lines : List ItemQuantity)
    (p : Int) : Int :=
  (lines.map fun line =>
    if line.productID = p then line.quantity else 0).sum

@[simp] theorem quantityOf_nil
    (p : Int) :
    quantityOf [] p = 0 := rfl

theorem quantityOf_cons
    (line : ItemQuantity)
    (lines : List ItemQuantity)
    (p : Int) :
    quantityOf (line :: lines) p =
      (if line.productID = p then line.quantity else 0) +
        quantityOf lines p := by
  simp [quantityOf]

/- Only what the lines are matters, not their order. -/
theorem quantityOf_perm
    {lines lines' : List ItemQuantity}
    (hPerm : lines.Perm lines')
    (p : Int) :
    quantityOf lines p = quantityOf lines' p :=
  (hPerm.map _).sum_eq

theorem quantityOf_nonneg
    {lines : List ItemQuantity}
    (hPositive : ∀ line ∈ lines, 0 < line.quantity)
    (p : Int) :
    0 ≤ quantityOf lines p := by
  induction lines with
  | nil => simp
  | cons line lines ih =>
      rw [quantityOf_cons]
      have hHead := hPositive line (by simp)
      have hTail := ih fun l hl => hPositive l (by simp [hl])
      split <;> omega

/- A line takes something of its product. -/
theorem quantityOf_pos
    {lines : List ItemQuantity}
    {line : ItemQuantity}
    (hPositive : ∀ line ∈ lines, 0 < line.quantity)
    (hLine : line ∈ lines) :
    0 < quantityOf lines line.productID := by
  induction lines with
  | nil => cases hLine
  | cons head rest ih =>
      have hHead := hPositive head (by simp)
      have hRest : ∀ l ∈ rest, 0 < l.quantity :=
        fun l hl => hPositive l (by simp [hl])
      have hNonneg := quantityOf_nonneg hRest line.productID
      rw [quantityOf_cons]
      rcases List.mem_cons.mp hLine with rfl | hTail
      · rw [if_pos rfl]
        omega
      · have hPos := ih hRest hTail
        split <;> omega

/- One product of distinct ones is counted once. -/
theorem quantityOf_of_mem
    {lines : List ItemQuantity}
    {line : ItemQuantity}
    (hNodup : (lines.map ItemQuantity.productID).Nodup)
    (hMem : line ∈ lines) :
    quantityOf lines line.productID = line.quantity := by
  induction lines with
  | nil => cases hMem
  | cons head lines ih =>
      rw [List.map_cons, List.nodup_cons] at hNodup
      rw [quantityOf_cons]
      rcases List.mem_cons.mp hMem with rfl | hTail
      · rw [if_pos rfl]
        have hZero : quantityOf lines line.productID = 0 := by
          unfold quantityOf
          apply List.sum_eq_zero
          intro n hn
          rcases List.mem_map.mp hn with ⟨other, hOther, rfl⟩
          rw [if_neg]
          intro hEq
          exact hNodup.1 (hEq ▸ List.mem_map_of_mem hOther)
        omega
      · have hApart : ¬ head.productID = line.productID := by
          intro hEq
          exact hNodup.1 (hEq ▸ List.mem_map_of_mem hTail)
        rw [if_neg hApart, ih hNodup.2 hTail]
        omega

/- A product without a line has quantity zero. -/
theorem quantityOf_of_not_mem
    {lines : List ItemQuantity}
    {p : Int}
    (hAbsent : p ∉ lines.map ItemQuantity.productID) :
    quantityOf lines p = 0 := by
  unfold quantityOf
  apply List.sum_eq_zero
  intro n hn
  rcases List.mem_map.mp hn with ⟨line, hLine, rfl⟩
  rw [if_neg]
  intro hEq
  exact hAbsent (hEq ▸ List.mem_map_of_mem hLine)

/- The line that a requested item asks for. -/
def CreateOrderItemRequest.line
    (item : CreateOrderItemRequest) : ItemQuantity where
  productID := item.productID
  quantity := item.quantity

------------------------------------------------------------
-- Orderly Lines
------------------------------------------------------------

/- Lines as an order has them: aggregation changes nothing. -/
structure Orderly
    (lines : List ItemQuantity) : Prop where
  nodup : (lines.map ItemQuantity.productID).Nodup
  productIDPositive : ∀ line ∈ lines, 0 < line.productID
  quantityPositive : ∀ line ∈ lines, 0 < line.quantity
  quantityBigint : ∀ line ∈ lines, line.quantity ≤ bigintMax

theorem Orderly.perm
    {lines lines' : List ItemQuantity}
    (hLines : Orderly lines)
    (hPerm : lines.Perm lines') :
    Orderly lines' where
  nodup := (hPerm.map _).nodup_iff.mp hLines.nodup
  productIDPositive line hLine :=
    hLines.productIDPositive line (hPerm.mem_iff.mpr hLine)
  quantityPositive line hLine :=
    hLines.quantityPositive line (hPerm.mem_iff.mpr hLine)
  quantityBigint line hLine :=
    hLines.quantityBigint line (hPerm.mem_iff.mpr hLine)

/- A new product is entered at the end of the map. -/
theorem addQuantity_of_not_mem
    {line : ItemQuantity}
    {entries : List ItemQuantity}
    (hPositive : 0 < line.quantity)
    (hBigint : line.quantity ≤ bigintMax)
    (hFresh :
      line.productID ∉
        entries.map ItemQuantity.productID) :
    addQuantity line entries = entries ++ [line] := by
  induction entries with
  | nil =>
      rw [addQuantity, Int.zero_add,
        wrap64_eq (Int.le_of_lt hPositive) hBigint]
      rfl
  | cons entry entries ih =>
      rw [List.map_cons, List.mem_cons, not_or] at hFresh
      rw [addQuantity, if_neg (Ne.symm hFresh.1),
        ih hFresh.2]
      rfl

/- The map of orderly lines holds just these lines. -/
theorem quantityMap_of_orderly
    {lines : List ItemQuantity}
    (hLines : Orderly lines) :
    quantityMap (lines.map some) = lines := by
  have hLoop :
      ∀ entries rest : List ItemQuantity,
        Orderly (entries ++ rest) →
        (rest.map some).foldl enterItem entries =
          entries ++ rest := by
    intro entries rest hAll
    induction rest generalizing entries with
    | nil => simp
    | cons line rest ih =>
        have hMem : line ∈ entries ++ line :: rest := by simp
        have hProduct := hAll.productIDPositive line hMem
        have hFresh :
            line.productID ∉
              entries.map ItemQuantity.productID := by
          have hNodup := hAll.nodup
          rw [List.map_append, List.map_cons,
            List.nodup_append] at hNodup
          intro hBefore
          exact hNodup.2.2 _ hBefore _ (by simp) rfl
        rw [List.map_cons, List.foldl_cons, enterItem,
          if_neg (by omega),
          addQuantity_of_not_mem
            (hAll.quantityPositive line hMem)
            (hAll.quantityBigint line hMem) hFresh,
          ih (entries ++ [line]) (by simpa using hAll)]
        simp
  have hAll := hLoop [] lines (by simpa using hLines)
  simpa [quantityMap] using hAll

/- Aggregation only sorts orderly lines. -/
theorem aggregateAndSortOrderItems_perm
    {lines : List ItemQuantity}
    (hLines : Orderly lines) :
    (aggregateAndSortOrderItems (lines.map some)).Perm
      lines := by
  unfold aggregateAndSortOrderItems
  rw [quantityMap_of_orderly hLines]
  exact List.perm_insertionSort _ lines

------------------------------------------------------------
-- Lines of an Order
------------------------------------------------------------

/- The lines of an order, in the order of insertion. -/
def linesOf
    (items : List OrderItem)
    (orderID : Int) : List ItemQuantity :=
  (items.filter fun item => item.orderID = orderID).map
    OrderItem.line

/- The quantity of a product that an order holds. -/
def orderQuantity
    (items : List OrderItem)
    (orderID p : Int) : Int :=
  quantityOf (linesOf items orderID) p

theorem linesOf_append
    (items items' : List OrderItem)
    (orderID : Int) :
    linesOf (items ++ items') orderID =
      linesOf items orderID ++ linesOf items' orderID := by
  simp [linesOf]

/- The lines of an order when none of the items is its own. -/
theorem linesOf_eq_nil
    {items : List OrderItem}
    {orderID : Int}
    (hOther : ∀ item ∈ items, item.orderID ≠ orderID) :
    linesOf items orderID = [] := by
  simpa [linesOf, List.filter_eq_nil_iff] using hOther

/- The lines of an order when all of the items are its own. -/
theorem linesOf_eq_map
    {items : List OrderItem}
    {orderID : Int}
    (hOwn : ∀ item ∈ items, item.orderID = orderID) :
    linesOf items orderID = items.map OrderItem.line := by
  unfold linesOf
  rw [List.filter_eq_self.mpr (by simpa using hOwn)]

theorem orderQuantity_nonneg
    (items : List OrderItem)
    (orderID p : Int) :
    0 ≤ orderQuantity items orderID p := by
  apply quantityOf_nonneg
  intro line hLine
  rcases List.mem_map.mp hLine with ⟨item, _, rfl⟩
  exact item.quantityPositive

theorem orderQuantity_pos
    {items : List OrderItem}
    {orderID : Int}
    {line : ItemQuantity}
    (hLine : line ∈ linesOf items orderID) :
    0 < orderQuantity items orderID line.productID := by
  refine quantityOf_pos ?_ hLine
  intro line hLine
  rcases List.mem_map.mp hLine with ⟨item, _, rfl⟩
  exact item.quantityPositive

section Database

variable [Deployment]

/- What PayOrder and cancellation act on is the order. -/
theorem inventoryLines_perm
    {view : DB}
    {orderID : Int}
    (hLines : Orderly (linesOf view.orderItems orderID)) :
    (inventoryLines view orderID).Perm
      (linesOf view.orderItems orderID) := by
  have hSorted :
      ((Dao.listOrderItemsByOrderIDForInventory view
          orderID).map OrderItem.line).Perm
        (linesOf view.orderItems orderID) :=
    (List.perm_insertionSort _ _).map _
  have hSome :
      (Dao.listOrderItemsByOrderIDForInventory view
          orderID).map (fun item => some item.line) =
        ((Dao.listOrderItemsByOrderIDForInventory view
          orderID).map OrderItem.line).map some := by
    simp
  unfold inventoryLines
  rw [hSome]
  exact
    (aggregateAndSortOrderItems_perm
      (hLines.perm hSorted.symm)).trans hSorted

end Database

------------------------------------------------------------
-- Quantities by Status
------------------------------------------------------------

/-
  The quantity of a product over all orders whose status is
  one of the given ones.
-/
def quantityIn
    (statuses : OrderStatus → Bool)
    (orders : Table Order)
    (items : List OrderItem)
    (p : Int) : Int :=
  orders.total fun order =>
    if statuses order.status then
      orderQuantity items order.id p
    else
      0

/- A new order with its items adds just its own lines. -/
theorem quantityIn_insert
    {statuses : OrderStatus → Bool}
    {orders orders' : Table Order}
    {items newItems : List OrderItem}
    {order : Order}
    (hInsert : orders.insert? order = some orders')
    (hOwned :
      ∀ item ∈ items, (orders.find? item.orderID).isSome)
    (hNew : ∀ item ∈ newItems, item.orderID = order.id)
    (p : Int) :
    quantityIn statuses orders' (items ++ newItems) p =
      quantityIn statuses orders items p +
        if statuses order.status then
          quantityOf (newItems.map OrderItem.line) p
        else
          0 := by
  have hFree := (Table.insert?_eq_some_iff.mp hInsert).1
  have hOld :
      ∀ item ∈ items, item.orderID ≠ order.id := by
    intro item hItem hEq
    have hSome := hOwned item hItem
    rw [hEq] at hSome
    rw [key_order] at hFree
    rw [hFree] at hSome
    cases hSome
  have hSame :
      orders.total
          (fun o =>
            if statuses o.status then
              orderQuantity (items ++ newItems) o.id p
            else
              0) =
        quantityIn statuses orders items p := by
    apply Table.total_congr
    intro o ho
    have hOther : ∀ item ∈ newItems, item.orderID ≠ o.id := by
      intro item hItem hEq
      have hTaken := Table.find?_key_of_mem ho
      rw [key_order, ← hEq, hNew item hItem, ← key_order order,
        hFree] at hTaken
      cases hTaken
    simp [orderQuantity, linesOf_append, linesOf_eq_nil hOther]
  have hOwn :
      orderQuantity (items ++ newItems) order.id p =
        quantityOf (newItems.map OrderItem.line) p := by
    simp [orderQuantity, linesOf_append, linesOf_eq_nil hOld,
      linesOf_eq_map hNew]
  unfold quantityIn
  rw [Table.total_of_insert? hInsert, hSame, hOwn]
  rfl

/- A status change moves the order between the sums. -/
theorem quantityIn_patch
    {statuses : OrderStatus → Bool}
    {orders : Table Order}
    {items : List OrderItem}
    {order : Order}
    {toStatus : OrderStatus}
    {timeField : OrderTimeField}
    {now : Time}
    (hFind : orders.find? order.id = some order)
    (p : Int) :
    quantityIn statuses
        (orders.update (order.patched toStatus timeField now))
        items p =
      quantityIn statuses orders items p -
        (if statuses order.status then
          orderQuantity items order.id p
        else
          0) +
        if statuses toStatus then
          orderQuantity items order.id p
        else
          0 :=
  Table.total_update (r := order.patched toStatus timeField now)
    hFind _

end OrderManagement
