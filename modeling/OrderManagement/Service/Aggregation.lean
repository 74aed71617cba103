import OrderManagement.Library.GoMap
import OrderManagement.System.Locks

/-
  The aggregation of order items with all fields, over any
  order in which the loop may see its map. The aggregation
  that PayOrder and cancellation are modelled with is what
  they read of it.

  Main declarations:
    * `OrderItemRecord` and `ItemMaps`
    * `aggregateOrderItemRecords`
    * `lookup_qtyMap`
    * `aggregateOrderItemRecords_line`
    * `Aggregation` and `aggregation_law`
-/

namespace OrderManagement

------------------------------------------------------------
-- The Two Maps
------------------------------------------------------------

/- `model.OrderItem` in memory, where no column constrains
   it, without the time of creation, which nothing reads. -/
structure OrderItemRecord where
  id : Int
  orderID : Int
  productID : Int
  productName : String
  productPriceFen : Int
  quantity : Int
  subtotalFen : Int
deriving DecidableEq

def OrderItemRecord.line
    (item : OrderItemRecord) : ItemQuantity where
  productID := item.productID
  quantity := item.quantity

structure ItemMaps where
  qtyMap : GoMap Int Int
  itemMap : GoMap Int OrderItemRecord

/- One round of the first loop. -/
def ItemMaps.enter
    (maps : ItemMaps) : Option OrderItemRecord → ItemMaps
| none => maps
| some it =>
    if it.productID ≤ 0 then
      maps
    else
      { qtyMap :=
          maps.qtyMap.insert it.productID
            (wrap64
              (maps.qtyMap.getD it.productID 0 +
                it.quantity))
        itemMap := maps.itemMap.insert it.productID it }

def itemMaps
    (items : List (Option OrderItemRecord)) : ItemMaps :=
  items.foldl ItemMaps.enter ⟨∅, ∅⟩

/- One round of the second loop. `none` is a panic: the map
   has no item to take the other fields from. -/
def aggregatedItem
    (itemMap : GoMap Int OrderItemRecord)
    (entry : Σ _ : Int, Int) : Option OrderItemRecord :=
  (Finmap.lookup entry.1 itemMap).map fun base =>
    { id := base.id
      orderID := base.orderID
      productID := entry.1
      productName := base.productName
      productPriceFen := base.productPriceFen
      quantity := entry.2
      subtotalFen := wrap64 (base.productPriceFen * entry.2) }

/-
  `aggregateAndSortOrderItems` of the code, where its second
  loop sees the entries of the map in the given order.
-/
def aggregateOrderItemRecords
    (entries : List (Σ _ : Int, Int))
    (items : List (Option OrderItemRecord)) :
    Option (List OrderItemRecord) :=
  (entries.mapM (aggregatedItem (itemMaps items).itemMap)).map
    fun sorted =>
      sorted.insertionSort fun a b => a.productID ≤ b.productID

------------------------------------------------------------
-- What the Maps Hold
------------------------------------------------------------

/- The items that the first loop does not skip. -/
def validLines
    (items : List (Option OrderItemRecord)) :
    List ItemQuantity :=
  (items.filterMap fun item =>
    item.filter fun it => 0 < it.productID).map
      OrderItemRecord.line

theorem itemMaps_snoc
    (items : List (Option OrderItemRecord))
    (item : Option OrderItemRecord) :
    itemMaps (items ++ [item]) =
      (itemMaps items).enter item :=
  List.foldl_concat ..

theorem validLines_snoc_invalid
    {item : Option OrderItemRecord}
    (items : List (Option OrderItemRecord))
    (hInvalid : ∀ it ∈ item, it.productID ≤ 0) :
    validLines (items ++ [item]) = validLines items := by
  have hNone :
      (item.filter fun it => 0 < it.productID) = none := by
    rw [Option.filter_eq_none_iff]
    intro it hItem
    simpa using hInvalid it hItem
  simp [validLines, hNone]

theorem validLines_snoc
    {it : OrderItemRecord}
    (items : List (Option OrderItemRecord))
    (hValid : 0 < it.productID) :
    validLines (items ++ [some it]) =
      validLines items ++ [it.line] := by
  simp [validLines, Option.filter_some, hValid]

theorem enter_invalid
    {item : Option OrderItemRecord}
    (maps : ItemMaps)
    (hInvalid : ∀ it ∈ item, it.productID ≤ 0) :
    maps.enter item = maps := by
  cases item with
  | none => rfl
  | some it => exact if_pos (hInvalid it rfl)

theorem enter_valid
    {it : OrderItemRecord}
    (maps : ItemMaps)
    (hValid : 0 < it.productID) :
    maps.enter (some it) =
      { qtyMap :=
          maps.qtyMap.insert it.productID
            (wrap64
              (maps.qtyMap.getD it.productID 0 +
                it.quantity))
        itemMap := maps.itemMap.insert it.productID it } :=
  if_neg (by omega)

theorem quantityOf_snoc
    (lines : List ItemQuantity)
    (line : ItemQuantity)
    (p : Int) :
    quantityOf (lines ++ [line]) p =
      quantityOf lines p +
        (if line.productID = p then line.quantity else 0) := by
  simp [quantityOf]

/- An item is skipped, or it has a product. -/
theorem invalid_or_valid
    (item : Option OrderItemRecord) :
    (∀ it ∈ item, it.productID ≤ 0) ∨
      ∃ it, item = some it ∧ 0 < it.productID := by
  cases item with
  | none => exact Or.inl (by rintro it ⟨⟩)
  | some it =>
      by_cases hValid : 0 < it.productID
      · exact Or.inr ⟨it, rfl, hValid⟩
      · refine Or.inl ?_
        rintro _ ⟨⟩
        exact Int.not_lt.mp hValid

/- `qtyMap` has the products of the valid items, each with
   the sum of its quantities as an int64. -/
theorem lookup_qtyMap
    (items : List (Option OrderItemRecord))
    (p : Int) :
    Finmap.lookup p (itemMaps items).qtyMap =
      if p ∈ (validLines items).map ItemQuantity.productID then
        some (wrap64 (quantityOf (validLines items) p))
      else
        none := by
  induction items using List.reverseRecOn with
  | nil => rfl
  | append_singleton items item ih =>
      rw [itemMaps_snoc]
      rcases invalid_or_valid item with
        hInvalid | ⟨it, rfl, hValid⟩
      · rw [enter_invalid _ hInvalid,
          validLines_snoc_invalid _ hInvalid]
        exact ih
      rw [enter_valid _ hValid, validLines_snoc _ hValid,
        quantityOf_snoc, List.map_append]
      by_cases hSame : it.productID = p
      · subst hSame
        have hOld :
            wrap64
                ((itemMaps items).qtyMap.getD it.productID 0 +
                  it.quantity) =
              wrap64
                (quantityOf (validLines items) it.productID +
                  it.quantity) := by
          unfold GoMap.getD
          rw [ih]
          split
          case isTrue => exact Int.bmod_add_bmod
          case isFalse hAbsent =>
            rw [quantityOf_of_not_mem hAbsent]
            rfl
        have hHere :
            it.productID ∈
              (validLines items).map ItemQuantity.productID ++
                [it.line].map ItemQuantity.productID :=
          List.mem_append_right _ List.mem_cons_self
        rw [Finmap.lookup_insert, hOld, if_pos hHere]
        congr 3
        exact (if_pos rfl).symm
      · have hOther : p ≠ it.productID := Ne.symm hSame
        rw [Finmap.lookup_insert_of_ne _ hOther, ih]
        simp [OrderItemRecord.line, hSame, hOther]

/- Both maps have the same keys. -/
theorem mem_itemMap_iff
    (items : List (Option OrderItemRecord))
    (p : Int) :
    p ∈ (itemMaps items).itemMap ↔
      p ∈ (itemMaps items).qtyMap := by
  induction items using List.reverseRecOn with
  | nil => exact Iff.rfl
  | append_singleton items item ih =>
      rw [itemMaps_snoc]
      rcases invalid_or_valid item with
        hInvalid | ⟨it, rfl, hValid⟩
      · rw [enter_invalid _ hInvalid]
        exact ih
      · rw [enter_valid _ hValid, Finmap.mem_insert,
          Finmap.mem_insert, ih]

------------------------------------------------------------
-- The Aggregation of the Model
------------------------------------------------------------

/- The entries after one `qtyMap[id] += quantity`. -/
theorem mem_addQuantity_iff
    {entries : List ItemQuantity}
    (line entry : ItemQuantity)
    (hNodup : (entries.map ItemQuantity.productID).Nodup) :
    entry ∈ addQuantity line entries ↔
      if entry.productID = line.productID then
        entry.quantity =
          wrap64
            (quantityOf entries line.productID +
              line.quantity)
      else
        entry ∈ entries := by
  rcases entry with ⟨p, q⟩
  induction entries with
  | nil =>
      by_cases hSame : p = line.productID
      · simp [addQuantity, hSame]
      · simp [addQuantity, hSame]
  | cons first rest ih =>
      rw [List.map_cons, List.nodup_cons] at hNodup
      rw [addQuantity, quantityOf_cons]
      by_cases hFirst : first.productID = line.productID
      · have hAbsent :
            line.productID ∉ rest.map ItemQuantity.productID :=
          hFirst ▸ hNodup.1
        rw [if_pos hFirst, if_pos hFirst,
          quantityOf_of_not_mem hAbsent, add_zero]
        by_cases hSame : p = line.productID
        · subst hSame
          have hOther :
              (⟨line.productID, q⟩ : ItemQuantity) ∉ rest :=
            fun hMem =>
              hAbsent (List.mem_map.mpr ⟨_, hMem, rfl⟩)
          simp [hFirst, hOther]
        · have hNot : p ≠ first.productID :=
            fun hEq => hSame (hEq.trans hFirst)
          rcases first with ⟨p', q'⟩
          simp [hSame, hNot]
      · rw [if_neg hFirst, if_neg hFirst, zero_add,
          List.mem_cons, ih hNodup.2]
        by_cases hSame : p = line.productID
        · subst hSame
          have hNot :
              (⟨line.productID, q⟩ : ItemQuantity) ≠ first :=
            fun hEq => hFirst (hEq ▸ rfl)
          simp [hNot]
        · simp [hSame]

/- What a list of all entries of a map holds of a key. -/
theorem quantityOf_eq_getD
    {entries : List ItemQuantity}
    {m : GoMap Int Int}
    (p : Int)
    (hNodup : (entries.map ItemQuantity.productID).Nodup)
    (hEntries :
      ∀ q, ⟨p, q⟩ ∈ entries ↔ Finmap.lookup p m = some q) :
    quantityOf entries p = m.getD p 0 := by
  unfold GoMap.getD
  cases hFound : Finmap.lookup p m with
  | some q =>
      exact quantityOf_of_mem hNodup
        ((hEntries q).mpr hFound)
  | none =>
      refine quantityOf_of_not_mem fun hMem => ?_
      rcases List.mem_map.mp hMem with ⟨⟨p, q⟩, hEntry, rfl⟩
      have hSome := (hEntries q).mp hEntry
      rw [hFound] at hSome
      cases hSome

theorem quantityMap_snoc
    (items : List (Option ItemQuantity))
    (item : Option ItemQuantity) :
    quantityMap (items ++ [item]) =
      enterItem (quantityMap items) item :=
  List.foldl_concat ..

/- The model's entries are those of `qtyMap`. -/
theorem mem_quantityMap_iff
    (items : List (Option OrderItemRecord))
    (p q : Int) :
    ⟨p, q⟩ ∈
        quantityMap
          (items.map (Option.map OrderItemRecord.line)) ↔
      Finmap.lookup p (itemMaps items).qtyMap = some q := by
  induction items using List.reverseRecOn
    generalizing p q with
  | nil => simp [quantityMap, itemMaps]
  | append_singleton items item ih =>
      rw [List.map_append, List.map_singleton,
        quantityMap_snoc, itemMaps_snoc]
      rcases invalid_or_valid item with
        hInvalid | ⟨it, rfl, hValid⟩
      · rw [enter_invalid _ hInvalid, ← ih]
        cases item with
        | none => exact Iff.rfl
        | some it =>
            have hLine : it.line.productID ≤ 0 :=
              hInvalid it rfl
            rw [Option.map_some, enterItem, if_pos hLine]
      have hLine : ¬ it.line.productID ≤ 0 :=
        Int.not_le.mpr hValid
      have hNodup :=
        quantityMap_nodup
          (items.map (Option.map OrderItemRecord.line))
      rw [Option.map_some, enterItem, if_neg hLine,
        mem_addQuantity_iff _ _ hNodup, enter_valid _ hValid]
      by_cases hSame : p = it.productID
      · subst hSame
        have hOld :=
          quantityOf_eq_getD it.productID hNodup
            (ih it.productID)
        rw [Finmap.lookup_insert, Option.some.injEq, ← hOld]
        exact (if_pos rfl).to_iff.trans eq_comm
      · rw [Finmap.lookup_insert_of_ne _ hSame, ← ih]
        exact (if_neg hSame).to_iff

------------------------------------------------------------
-- The Second Loop
------------------------------------------------------------

/- An entry with an item is taken over. -/
theorem aggregatedItem_line
    {itemMap : GoMap Int OrderItemRecord}
    {entry : Σ _ : Int, Int}
    (hItem : entry.1 ∈ itemMap) :
    ∃ item,
      aggregatedItem itemMap entry = some item ∧
        item.line = ⟨entry.1, entry.2⟩ := by
  rcases Finmap.mem_iff.mp hItem with ⟨base, hBase⟩
  simp [aggregatedItem, hBase, OrderItemRecord.line]

/- Where every entry has an item, nothing panics. -/
theorem mapM_aggregatedItem
    {itemMap : GoMap Int OrderItemRecord}
    {entries : List (Σ _ : Int, Int)}
    (hItems : ∀ entry ∈ entries, entry.1 ∈ itemMap) :
    ∃ sorted,
      entries.mapM (aggregatedItem itemMap) = some sorted ∧
        sorted.map OrderItemRecord.line =
          entries.map fun entry => ⟨entry.1, entry.2⟩ := by
  induction entries with
  | nil => exact ⟨[], rfl, rfl⟩
  | cons entry entries ih =>
      rw [List.forall_mem_cons] at hItems
      rcases aggregatedItem_line hItems.1 with
        ⟨item, hItem, hLine⟩
      rcases ih hItems.2 with ⟨sorted, hRun, hLines⟩
      refine ⟨item :: sorted, ?_, ?_⟩
      · simp [List.mapM_cons, hItem, hRun]
      · rw [List.map_cons, hLine, hLines, List.map_cons]

/- An order of the entries, as lines of the model. -/
theorem ranges_perm
    {items : List (Option OrderItemRecord)}
    {entries : List (Σ _ : Int, Int)}
    (hRanges : GoMap.Ranges (itemMaps items).qtyMap entries) :
    (entries.map fun entry =>
        (⟨entry.1, entry.2⟩ : ItemQuantity)).Perm
      (quantityMap
        (items.map (Option.map OrderItemRecord.line))) := by
  have hNodup :
      (entries.map fun entry =>
        (⟨entry.1, entry.2⟩ : ItemQuantity)).Nodup := by
    apply List.Nodup.of_map ItemQuantity.productID
    rw [List.map_map]
    exact hRanges.nodup_keys
  refine (List.perm_ext_iff_of_nodup hNodup
    (quantityMap_nodup _).of_map).mpr ?_
  rintro ⟨p, q⟩
  rw [mem_quantityMap_iff, ← hRanges.mem_iff, List.mem_map]
  constructor
  · rintro ⟨_, hMem, ⟨⟩⟩
    exact hMem
  · intro hMem
    exact ⟨_, hMem, rfl⟩

/- The result, as far as PayOrder and cancellation read it,
   is that of the model. -/
theorem aggregateOrderItemRecords_line
    {items : List (Option OrderItemRecord)}
    {entries : List (Σ _ : Int, Int)}
    (hRanges : GoMap.Ranges (itemMaps items).qtyMap entries) :
    ∃ records,
      aggregateOrderItemRecords entries items =
          some records ∧
        records.map OrderItemRecord.line =
          aggregateAndSortOrderItems
            (items.map (Option.map OrderItemRecord.line)) := by
  have hItems :
      ∀ entry ∈ entries,
        entry.1 ∈ (itemMaps items).itemMap := by
    rintro ⟨p, q⟩ hMem
    rw [mem_itemMap_iff]
    exact Finmap.mem_of_lookup_eq_some
      (hRanges.mem_iff.mp hMem)
  rcases mapM_aggregatedItem hItems with
    ⟨sorted, hRun, hLines⟩
  refine
    ⟨sorted.insertionSort fun a b =>
      a.productID ≤ b.productID, ?_, ?_⟩
  · rw [aggregateOrderItemRecords, hRun, Option.map_some]
  · rw [List.map_insertionSort
      (fun a b : OrderItemRecord => a.productID ≤ b.productID)
      (fun a b : ItemQuantity => a.productID ≤ b.productID)
      OrderItemRecord.line sorted fun _ _ _ _ => Iff.rfl,
      hLines]
    exact aggregateAndSortOrderItems_eq
      (ranges_perm hRanges)

------------------------------------------------------------
-- The Law of Aggregation
------------------------------------------------------------

/- What a list of items has been aggregated to. -/
structure Aggregation
    (items : List (Option OrderItemRecord))
    (lines : List ItemQuantity) : Prop where
  ascending :
    lines.Pairwise fun a b => a.productID < b.productID
  products :
    ∀ p,
      p ∈ lines.map ItemQuantity.productID ↔
        0 < p ∧ ∃ it, some it ∈ items ∧ it.productID = p
  -- An int64 sum, which is the sum wherever that is one.
  quantity :
    ∀ line ∈ lines,
      line.quantity =
        wrap64
          (quantityOf (validLines items) line.productID)
  exact_iff :
    ∀ line ∈ lines,
      line.quantity =
          quantityOf (validLines items) line.productID ↔
        -bigintMax - 1 ≤
            quantityOf (validLines items) line.productID ∧
          quantityOf (validLines items) line.productID ≤
            bigintMax

theorem mem_productID_validLines_iff
    (items : List (Option OrderItemRecord))
    (p : Int) :
    p ∈ (validLines items).map ItemQuantity.productID ↔
      0 < p ∧ ∃ it, some it ∈ items ∧ it.productID = p := by
  simp only [validLines, List.map_map, List.mem_map,
    List.mem_filterMap, Option.filter_eq_some_iff,
    decide_eq_true_eq]
  constructor
  · rintro ⟨it, ⟨_, hMem, rfl, hValid⟩, rfl⟩
    exact ⟨hValid, it, hMem, rfl⟩
  · rintro ⟨hValid, it, hMem, rfl⟩
    exact ⟨it, ⟨_, hMem, rfl, hValid⟩, rfl⟩

theorem mem_aggregate_iff
    (items : List (Option OrderItemRecord))
    (p q : Int) :
    ⟨p, q⟩ ∈
        aggregateAndSortOrderItems
          (items.map (Option.map OrderItemRecord.line)) ↔
      p ∈ (validLines items).map ItemQuantity.productID ∧
        q = wrap64 (quantityOf (validLines items) p) := by
  rw [aggregateAndSortOrderItems, List.mem_insertionSort,
    mem_quantityMap_iff, lookup_qtyMap]
  split
  case isTrue hHere => simp [hHere, eq_comm]
  case isFalse hAbsent => simp [hAbsent]

theorem wrap64_eq_iff
    (n : Int) :
    wrap64 n = n ↔ -bigintMax - 1 ≤ n ∧ n ≤ bigintMax := by
  unfold wrap64 bigintMax
  constructor
  · intro hEq
    have hLower :=
      Int.le_bmod (x := n) (m := 18446744073709551616)
        (by decide)
    have hUpper :=
      Int.bmod_lt (x := n) (m := 18446744073709551616)
        (by decide)
    omega
  · rintro ⟨hLower, hUpper⟩
    exact Int.bmod_eq_of_le (by omega) (by omega)

theorem aggregation
    (items : List (Option OrderItemRecord)) :
    Aggregation items
      (aggregateAndSortOrderItems
        (items.map (Option.map OrderItemRecord.line))) where
  ascending := aggregateAndSortOrderItems_ascending _
  products p := by
    rw [← mem_productID_validLines_iff, List.mem_map]
    constructor
    · rintro ⟨⟨p, q⟩, hMem, rfl⟩
      exact ((mem_aggregate_iff items p q).mp hMem).1
    · intro hHere
      exact ⟨_, (mem_aggregate_iff items p _).mpr
        ⟨hHere, rfl⟩, rfl⟩
  quantity := by
    rintro ⟨p, q⟩ hMem
    exact ((mem_aggregate_iff items p q).mp hMem).2
  exact_iff := by
    rintro ⟨p, q⟩ hMem
    have hSum := ((mem_aggregate_iff items p q).mp hMem).2
    rw [← wrap64_eq_iff, ← hSum]

theorem validLines_perm
    {items items' : List (Option OrderItemRecord)}
    (hPerm : items.Perm items') :
    (validLines items).Perm (validLines items') :=
  (hPerm.filterMap _).map _

/- The order of the items does not matter. -/
theorem aggregate_perm
    {items items' : List (Option OrderItemRecord)}
    (hPerm : items.Perm items') :
    aggregateAndSortOrderItems
        (items.map (Option.map OrderItemRecord.line)) =
      aggregateAndSortOrderItems
        (items'.map (Option.map OrderItemRecord.line)) := by
  have hIrrefl :
      Std.Irrefl fun a b : ItemQuantity =>
        a.productID < b.productID :=
    ⟨fun a => lt_irrefl a.productID⟩
  have hAsymm :
      Std.Asymm fun a b : ItemQuantity =>
        a.productID < b.productID :=
    ⟨fun a b => lt_asymm⟩
  refine (aggregateAndSortOrderItems_ascending _).eq_of_mem_iff
    (aggregateAndSortOrderItems_ascending _) ?_
  rintro ⟨p, q⟩
  have hLines := validLines_perm hPerm
  rw [mem_aggregate_iff, mem_aggregate_iff,
    (hLines.map _).mem_iff, quantityOf_perm hLines]

/-
  Whatever the order in which the loop sees the map, the
  aggregation is as it should be, and a permutation of the
  items leads to the same products and quantities.
-/
theorem aggregation_law
    {items items' : List (Option OrderItemRecord)}
    {entries entries' : List (Σ _ : Int, Int)}
    (hRanges :
      GoMap.Ranges (itemMaps items).qtyMap entries)
    (hRanges' :
      GoMap.Ranges (itemMaps items').qtyMap entries')
    (hPerm : items.Perm items') :
    ∃ records records',
      aggregateOrderItemRecords entries items =
          some records ∧
        aggregateOrderItemRecords entries' items' =
            some records' ∧
          Aggregation items
              (records.map OrderItemRecord.line) ∧
            records.map OrderItemRecord.line =
              records'.map OrderItemRecord.line := by
  rcases aggregateOrderItemRecords_line hRanges with
    ⟨records, hRun, hLines⟩
  rcases aggregateOrderItemRecords_line hRanges' with
    ⟨records', hRun', hLines'⟩
  refine ⟨records, records', hRun, hRun', ?_, ?_⟩
  · rw [hLines]
    exact aggregation items
  · rw [hLines, hLines']
    exact aggregate_perm hPerm

/- An item of which only product and quantity matter. -/
def plainItem
    (productID quantity : Int) : OrderItemRecord where
  id := 1
  orderID := 1
  productID := productID
  productName := "tea"
  productPriceFen := 100
  quantity := quantity
  subtotalFen := 100 * quantity

/- The two maps list the products of these items in opposite
   orders. -/
theorem aggregation_law_mixed :
    ∃ records records',
      aggregateOrderItemRecords [⟨200, 4⟩, ⟨100, 2⟩]
            [some (plainItem 200 1), none,
              some (plainItem 100 2), some (plainItem 0 9),
              some (plainItem 200 3)] =
          some records ∧
        aggregateOrderItemRecords [⟨100, 2⟩, ⟨200, 4⟩]
              [some (plainItem 200 3), some (plainItem 200 1),
                some (plainItem 0 9), none,
                some (plainItem 100 2)] =
            some records' ∧
          Aggregation
              [some (plainItem 200 1), none,
                some (plainItem 100 2), some (plainItem 0 9),
                some (plainItem 200 3)]
              (records.map OrderItemRecord.line) ∧
            records.map OrderItemRecord.line =
              records'.map OrderItemRecord.line :=
  aggregation_law (by decide +kernel) (by decide +kernel)
    (by decide +kernel)

/- A sum past int64 is not what the quantity becomes. -/
theorem aggregation_overflows :
    aggregateOrderItemRecords [⟨7, -9223372036854775808⟩]
        [some (plainItem 7 9223372036854775807),
          some (plainItem 7 1)] =
      some
        [{ plainItem 7 1 with
            quantity := -9223372036854775808
            subtotalFen := 0 }] ∧
    GoMap.Ranges
        (itemMaps
          [some (plainItem 7 9223372036854775807),
            some (plainItem 7 1)]).qtyMap
        [⟨7, -9223372036854775808⟩] ∧
      quantityOf
          (validLines
            [some (plainItem 7 9223372036854775807),
              some (plainItem 7 1)]) 7 =
        9223372036854775808 := by
  decide +kernel

end OrderManagement
