import OrderManagement.Bizcache.StockValues
import OrderManagement.System.Shop

/-
  The reconciliation of `inventory_service.go`: the report
  on the quantities of Redis that differ from MySQL, and the
  writes that heal them.

  Main declarations:
    * `reconcileRedisInventoryStock` and
      `autoFixRedisInventoryStock`
    * `InventoryRedisReconcileReport.Exact`
    * `reconcile_of_readable` and `reconcile_of_unreadable`
    * `writes_reportItems`
    * `mem_setItems_iff` and `setItems_answered`
-/

namespace OrderManagement

------------------------------------------------------------
-- Reports
------------------------------------------------------------

structure InventoryRedisReconcileItem where
  productID : Int
  mysqlQuantity : Int
  redisQuantity : Option Int
  status : String
deriving DecidableEq

structure InventoryRedisReconcileReport where
  checkedCount : Int
  diffCount : Int
  items : List InventoryRedisReconcileItem
deriving DecidableEq

inductive ReconcileErr
| inventoryStockReconcileUnavailable
| inventoryStockReconcileFailed
| listInventories (e : Err)
deriving DecidableEq

------------------------------------------------------------
-- Healing
------------------------------------------------------------

namespace InventoryRedisReconcileItem

/- The product and the quantity that belongs to it. -/
def write
    (item : InventoryRedisReconcileItem) : Int × Int :=
  (item.productID, item.mysqlQuantity)

/- The key and the text of the SET for an item. -/
def set
    (item : InventoryRedisReconcileItem) : String × String :=
  (inventoryAvailableKey item.productID,
    formatInt item.mysqlQuantity)

end InventoryRedisReconcileItem

/-
  The loop that calls SetInventoryStock for one item after
  the other: the SETs that Redis runs, when `fares` tells of
  each call how its command fares.
-/
def setItems
    (stockWriter : StockGuard)
    (fares : Nat → Delivery) :
    Nat → List InventoryRedisReconcileItem →
      List (String × String)
| _, [] => []
| i, item :: items =>
    (stockWriter.setInventoryStock (fares i) item.productID
        item.mysqlQuantity).2.toList ++
      setItems stockWriter fares (i + 1) items

def autoFixRedisInventoryStock
    (stockWriter : Option StockGuard)
    (fares : Nat → Delivery)
    (items : List InventoryRedisReconcileItem) :
    Except ReconcileErr (List (String × String)) :=
  match stockWriter with
  | none => .error .inventoryStockReconcileUnavailable
  | some stockWriter => .ok (setItems stockWriter fares 0 items)

------------------------------------------------------------
-- The SETs of a Batch
------------------------------------------------------------

/- The guard makes a SET of an item unless it skips it. -/
def StockGuard.Accepts
    (g : StockGuard)
    (item : InventoryRedisReconcileItem) : Prop :=
  g.hasClient = true ∧ 0 < item.productID ∧
    0 ≤ item.mysqlQuantity

theorem StockGuard.accepts_congr
    {g : StockGuard}
    {item other : InventoryRedisReconcileItem}
    (hSame : other.write = item.write) :
    g.Accepts other ↔ g.Accepts item := by
  rcases Prod.ext_iff.mp hSame with ⟨hProduct, hQuantity⟩
  change other.productID = item.productID at hProduct
  change other.mysqlQuantity = item.mysqlQuantity at hQuantity
  unfold StockGuard.Accepts
  rw [hProduct, hQuantity]

/- Two SETs are the same only for one product and one
   quantity. -/
theorem InventoryRedisReconcileItem.set_eq_iff
    {item other : InventoryRedisReconcileItem} :
    other.set = item.set ↔ other.write = item.write := by
  unfold InventoryRedisReconcileItem.set
    InventoryRedisReconcileItem.write
  rw [Prod.mk.injEq, Prod.mk.injEq,
    inventoryAvailableKey_injective.eq_iff,
    formatInt_injective.eq_iff]

theorem setInventoryStock_eq_some_iff
    {g : StockGuard}
    {delivery : Delivery}
    {item : InventoryRedisReconcileItem}
    {set : String × String} :
    (g.setInventoryStock delivery item.productID
        item.mysqlQuantity).2 = some set ↔
      g.Accepts item ∧ delivery ≠ .unsent ∧
        set = item.set := by
  unfold StockGuard.setInventoryStock StockGuard.Accepts
  by_cases hSkip :
      g.hasClient = false ∨ item.productID ≤ 0 ∨
        item.mysqlQuantity < 0
  · rw [if_pos hSkip]
    constructor
    · intro hNone
      cases hNone
    · rintro ⟨⟨hClient, hPositive, hNonneg⟩, _⟩
      rcases hSkip with hNo | hLow | hNegative
      · rw [hClient] at hNo
        cases hNo
      · omega
      · omega
  · rw [if_neg hSkip]
    push Not at hSkip
    have hAccepts :
        g.hasClient = true ∧ 0 < item.productID ∧
          0 ≤ item.mysqlQuantity := by
      simpa using hSkip
    cases delivery with
    | answered =>
        simp [hAccepts, InventoryRedisReconcileItem.set,
          eq_comm]
    | unanswered =>
        simp [hAccepts, InventoryRedisReconcileItem.set,
          eq_comm]
    | unsent => simp

/- A SET that Redis runs is that of an item which the guard
   accepts and whose command reaches Redis. -/
theorem mem_setItems_iff
    {g : StockGuard}
    {fares : Nat → Delivery}
    {i : Nat}
    {items : List InventoryRedisReconcileItem}
    {set : String × String} :
    set ∈ setItems g fares i items ↔
      ∃ j item,
        items[j]? = some item ∧
          g.Accepts item ∧
          fares (i + j) ≠ .unsent ∧
          set = item.set := by
  induction items generalizing i with
  | nil => simp [setItems]
  | cons first items ih =>
      rw [setItems, List.mem_append, Option.mem_toList,
        setInventoryStock_eq_some_iff, ih]
      constructor
      · rintro (⟨hAccepts, hSent, rfl⟩ |
          ⟨j, item, hItem, hRest⟩)
        · exact ⟨0, first, rfl, hAccepts, hSent, rfl⟩
        · refine ⟨j + 1, item, hItem, ?_⟩
          rw [Nat.add_right_comm] at hRest
          exact hRest
      · rintro ⟨j, item, hItem, hRest⟩
        cases j with
        | zero =>
            cases hItem
            exact Or.inl hRest
        | succ j =>
            refine Or.inr ⟨j, item, hItem, ?_⟩
            rw [Nat.add_right_comm]
            exact hRest

theorem setItems_answered
    {g : StockGuard}
    {items : List InventoryRedisReconcileItem}
    (hAccepts : ∀ item ∈ items, g.Accepts item)
    (i : Nat) :
    setItems g (fun _ => .answered) i items =
      items.map InventoryRedisReconcileItem.set := by
  induction items generalizing i with
  | nil => rfl
  | cons item items ih =>
      have hSet :
          (g.setInventoryStock .answered item.productID
            item.mysqlQuantity).2 = some item.set :=
        setInventoryStock_eq_some_iff.mpr
          ⟨hAccepts item List.mem_cons_self, by decide, rfl⟩
      rw [setItems, hSet,
        ih fun later hMem =>
          hAccepts later (List.mem_cons_of_mem item hMem)]
      rfl

------------------------------------------------------------
-- Reconciliation
------------------------------------------------------------

/- The body of the loop that compares: the item for a row,
   if it gets one. -/
def reportItem
    (redisStocks : StockMap)
    (inventory : Inventory) :
    Option InventoryRedisReconcileItem :=
  if inventory.productID ≤ 0 then
    none
  else
    match redisStocks inventory.productID with
    | none | some none =>
        some
          { productID := inventory.productID
            mysqlQuantity := inventory.stockQuantity
            redisQuantity := none
            status := "missing" }
    | some (some redisQuantity) =>
        if redisQuantity ≠ inventory.stockQuantity then
          some
            { productID := inventory.productID
              mysqlQuantity := inventory.stockQuantity
              redisQuantity := some redisQuantity
              status := "mismatch" }
        else
          none

variable [Deployment]

/- The two stores, Redis with the texts that it has. -/
structure StockStores where
  db : DB
  redis : RedisTexts

/- `listError` and `mgetError` are the errors of the two
   reads, if they have one. -/
def reconcileRedisInventoryStock
    (stockWriter : Option StockGuard)
    (listError : Option Err)
    (mgetError : Option String)
    (s : StockStores) :
    Except ReconcileErr InventoryRedisReconcileReport :=
  match stockWriter with
  | none => .error .inventoryStockReconcileUnavailable
  | some reader =>
      match listError with
      | some e => .error (.listInventories e)
      | none =>
          let inventories := Dao.listAllInventories s.db
          let productIDs :=
            (inventories.filter fun inventory =>
              0 < inventory.productID).map
                Inventory.productID
          match
            (reader.getInventoryStocks mgetError s.redis
              productIDs).2
          with
          | .error _ => .error .inventoryStockReconcileFailed
          | .ok redisStocks =>
              let items :=
                inventories.filterMap
                  (reportItem redisStocks)
              .ok
                { checkedCount := productIDs.length
                  diffCount := items.length
                  items := items }

------------------------------------------------------------
-- What a Report Says
------------------------------------------------------------

/-
  A report is exact if its items are the products that Redis
  has no value for or another one, each with the quantities
  of both stores.
-/
structure InventoryRedisReconcileReport.Exact
    (report : InventoryRedisReconcileReport)
    (s : StockStores) : Prop where
  items :
    ∀ item,
      item ∈ report.items ↔
        ∃ row ∈ s.db.inventories.rows,
          item.productID = row.productID ∧
            item.mysqlQuantity = row.stockQuantity ∧
            ((item.status = "missing" ∧
                item.redisQuantity = none ∧
                s.redis
                  (inventoryAvailableKey row.productID) =
                    none) ∨
              (item.status = "mismatch" ∧
                ∃ text n,
                  s.redis
                      (inventoryAvailableKey
                        row.productID) = some text ∧
                    parseInt64 text = some n ∧
                    item.redisQuantity = some n ∧
                    n ≠ row.stockQuantity))
  once : (report.items.map (·.productID)).Nodup
  diffCount : report.diffCount = report.items.length
  checkedCount :
    report.checkedCount = s.db.inventories.rows.length

------------------------------------------------------------
-- The Report of Readable Values
------------------------------------------------------------

theorem mem_listAllInventories
    {db : DB}
    {row : Inventory} :
    row ∈ Dao.listAllInventories db ↔
      row ∈ db.inventories.rows :=
  List.mem_insertionSort _

/- The report on two stores of which nothing fails. -/
def reportOf
    (s : StockStores) : InventoryRedisReconcileReport :=
  let items :=
    (Dao.listAllInventories s.db).filterMap
      (reportItem fun p => some (s.redis.quantity p))
  { checkedCount := (reconcileRows s.db).length
    diffCount := items.length
    items := items }

theorem reconcile_of_readable
    {g : StockGuard}
    {s : StockStores}
    (hClient : g.hasClient = true)
    (hReadable :
      ∀ row ∈ s.db.inventories.rows,
        0 < row.productID → s.redis.Readable row.productID) :
    reconcileRedisInventoryStock (some g) none none s =
      .ok (reportOf s) := by
  have hAnswer :=
    @StockGuard.getInventoryStocks_of_readable g s.redis
      (((Dao.listAllInventories s.db).filter fun inventory =>
        0 < inventory.productID).map Inventory.productID)
      hClient (by
        intro p hMem hPositive
        rcases List.mem_map.mp hMem with ⟨row, hRow, rfl⟩
        apply hReadable row _ hPositive
        exact mem_listAllInventories.mp
          (List.mem_filter.mp hRow).1)
  have hItems :
      (Dao.listAllInventories s.db).filterMap
          (reportItem fun p =>
            if p ∈ ((Dao.listAllInventories s.db).filter
                  fun inventory =>
                    0 < inventory.productID).map
                  Inventory.productID ∧ 0 < p then
              some (s.redis.quantity p)
            else
              none) =
        (Dao.listAllInventories s.db).filterMap
          (reportItem fun p => some (s.redis.quantity p)) := by
    apply List.filterMap_congr
    intro row hRow
    by_cases hPositive : 0 < row.productID
    · have hListed :
          row.productID ∈
            ((Dao.listAllInventories s.db).filter
              fun inventory => 0 < inventory.productID).map
              Inventory.productID :=
        List.mem_map_of_mem
          (List.mem_filter.mpr ⟨hRow, by simpa using hPositive⟩)
      simp [reportItem, hListed, hPositive]
    · simp [reportItem, not_lt.mp hPositive]
  simp only [reconcileRedisInventoryStock, hAnswer, hItems,
    reportOf, reconcileRows, List.length_map]

/- One text that is no number, and there is no report. -/
theorem reconcile_of_unreadable
    {g : StockGuard}
    {s : StockStores}
    {row : Inventory}
    (hClient : g.hasClient = true)
    (hRow : row ∈ s.db.inventories.rows)
    (hPositive : 0 < row.productID)
    (hUnreadable : ¬ s.redis.Readable row.productID) :
    reconcileRedisInventoryStock (some g) none none s =
      .error .inventoryStockReconcileFailed := by
  have hListed :
      row.productID ∈
        ((Dao.listAllInventories s.db).filter
          fun inventory => 0 < inventory.productID).map
          Inventory.productID :=
    List.mem_map_of_mem
      (List.mem_filter.mpr
        ⟨mem_listAllInventories.mpr hRow,
          by simpa using hPositive⟩)
  rcases StockGuard.getInventoryStocks_of_unreadable hClient
    hListed hPositive hUnreadable with ⟨e, hAnswer⟩
  simp only [reconcileRedisInventoryStock, hAnswer]

omit [Deployment] in
/- A row gets an item if its quantity is not the one that
   is shown, and the item writes that of the row. -/
theorem reportItem_write
    (quantity : Int → Option Int)
    (row : Inventory) :
    (reportItem (fun p => some (quantity p)) row).map
        InventoryRedisReconcileItem.write =
      if 0 < row.productID ∧
          quantity row.productID ≠ some row.stockQuantity then
        some (row.productID, row.stockQuantity)
      else
        none := by
  unfold reportItem
  by_cases hPositive : 0 < row.productID
  · rw [if_neg (not_le.mpr hPositive)]
    cases hShown : quantity row.productID with
    | none =>
        simp [InventoryRedisReconcileItem.write, hPositive,
          hShown]
    | some n =>
        by_cases hSame : n = row.stockQuantity
        · simp [hShown, hSame]
        · simp [InventoryRedisReconcileItem.write, hPositive,
            hShown, hSame]
  · rw [if_pos (not_lt.mp hPositive)]
    simp [hPositive]

/- The items of a report are what the mirror lacks. -/
theorem writes_reportItems
    (s : StockStores) :
    (reportOf s).items.map InventoryRedisReconcileItem.write =
      Mirror.diff (reconcileRows s.db) s.redis.quantity := by
  unfold reportOf reconcileRows Mirror.diff
  rw [List.map_filterMap, List.filter_map, List.filter_filter]
  simp only [reportItem_write]
  induction Dao.listAllInventories s.db with
  | nil => rfl
  | cons row rows ih =>
      rw [List.filterMap_cons, List.filter_cons, ih]
      by_cases hPositive : 0 < row.productID <;>
        by_cases hShown :
            s.redis.quantity row.productID =
              some row.stockQuantity <;>
          simp [hPositive, hShown]

/- Every item writes what a row says of its product. -/
theorem reportItem_row
    {s : StockStores}
    {item : InventoryRedisReconcileItem}
    (hItem : item ∈ (reportOf s).items) :
    ∃ row ∈ s.db.inventories.rows,
      0 < row.productID ∧
        item.productID = row.productID ∧
        item.mysqlQuantity = row.stockQuantity := by
  have hWrite :
      item.write ∈
        (reportOf s).items.map
          InventoryRedisReconcileItem.write :=
    List.mem_map_of_mem hItem
  rw [writes_reportItems, Mirror.mem_diff] at hWrite
  rcases List.mem_map.mp hWrite.1 with ⟨row, hListed, hEq⟩
  rcases List.mem_filter.mp hListed with ⟨hRow, hPositive⟩
  rcases Prod.ext_iff.mp hEq with ⟨hProduct, hQuantity⟩
  exact ⟨row, mem_listAllInventories.mp hRow,
    by simpa using hPositive, hProduct.symm, hQuantity.symm⟩

/- The keys of a table of inventories are its products. -/
theorem nodup_reconcileRows
    (db : DB) :
    ((reconcileRows db).map Prod.fst).Nodup := by
  have hKeys :
      ((Dao.listAllInventories db).map
        Inventory.productID).Nodup := by
    have hPerm :=
      (List.perm_insertionSort
        (fun a b : Inventory => a.productID ≤ b.productID)
        db.inventories.rows).map Inventory.productID
    exact hPerm.nodup_iff.mpr db.inventories.nodup
  unfold reconcileRows
  rw [List.map_map]
  exact hKeys.sublist (List.filter_sublist.map _)

theorem mem_reconcileRows
    {db : DB}
    {row : Inventory}
    (hRow : row ∈ db.inventories.rows)
    (hPositive : 0 < row.productID) :
    (row.productID, row.stockQuantity) ∈ reconcileRows db :=
  List.mem_map.mpr
    ⟨row,
      List.mem_filter.mpr
        ⟨mem_listAllInventories.mpr hRow,
          by simpa using hPositive⟩, rfl⟩

omit [Deployment] in
/- The item of a row whose value is readable. -/
theorem reportItem_eq_some_iff
    {redis : RedisTexts}
    {row : Inventory}
    {item : InventoryRedisReconcileItem}
    (hPositive : 0 < row.productID)
    (hReadable : redis.Readable row.productID) :
    reportItem (fun p => some (redis.quantity p)) row =
        some item ↔
      item.productID = row.productID ∧
        item.mysqlQuantity = row.stockQuantity ∧
        ((item.status = "missing" ∧
            item.redisQuantity = none ∧
            redis (inventoryAvailableKey row.productID) =
              none) ∨
          (item.status = "mismatch" ∧
            ∃ text n,
              redis (inventoryAvailableKey row.productID) =
                  some text ∧
                parseInt64 text = some n ∧
                item.redisQuantity = some n ∧
                n ≠ row.stockQuantity)) := by
  rcases item with ⟨p, mysqlQuantity, redisQuantity, status⟩
  unfold reportItem RedisTexts.quantity
  rw [if_neg (not_le.mpr hPositive)]
  cases hRaw : redis (inventoryAvailableKey row.productID) with
  | none =>
      simp only [hRaw, Option.bind_none, Option.some.injEq,
        InventoryRedisReconcileItem.mk.injEq]
      constructor
      · rintro ⟨rfl, rfl, rfl, rfl⟩
        simp
      · rintro ⟨rfl, rfl, ⟨rfl, rfl, _⟩ | ⟨_, _, _, hSome, _⟩⟩
        · simp
        · cases hSome
  | some text =>
      rcases Option.isSome_iff_exists.mp
        (hReadable text hRaw) with ⟨n, hRead⟩
      simp only [hRaw, hRead, Option.bind_some]
      by_cases hSame : n = row.stockQuantity
      · simp [hSame, hRead]
      · rw [if_pos hSame]
        simp only [Option.some.injEq,
          InventoryRedisReconcileItem.mk.injEq]
        constructor
        · rintro ⟨rfl, rfl, rfl, rfl⟩
          simp [hRead, hSame]
        · rintro ⟨rfl, rfl,
            ⟨_, _, hNone⟩ | ⟨rfl, _, m, rfl, hText, rfl, _⟩⟩
          · cases hNone
          · rw [hRead, Option.some.injEq] at hText
            simp [hText]

theorem reportOf_exact
    {s : StockStores}
    (hPositive :
      ∀ row ∈ s.db.inventories.rows, 0 < row.productID)
    (hReadable :
      ∀ row ∈ s.db.inventories.rows,
        s.redis.Readable row.productID) :
    (reportOf s).Exact s where
  items := by
    intro item
    unfold reportOf
    rw [List.mem_filterMap]
    constructor
    · rintro ⟨row, hRow, hItem⟩
      rw [mem_listAllInventories] at hRow
      exact ⟨row, hRow,
        (reportItem_eq_some_iff (hPositive row hRow)
          (hReadable row hRow)).mp hItem⟩
    · rintro ⟨row, hRow, hItem⟩
      exact ⟨row, mem_listAllInventories.mpr hRow,
        (reportItem_eq_some_iff (hPositive row hRow)
          (hReadable row hRow)).mpr hItem⟩
  once := by
    have hKeys :=
      Mirror.nodup_diff (nodup_reconcileRows s.db)
        s.redis.quantity
    rw [← writes_reportItems, List.map_map] at hKeys
    exact hKeys
  diffCount := rfl
  checkedCount := by
    have hAll :
        (Dao.listAllInventories s.db).filter
            (fun row => 0 < row.productID) =
          Dao.listAllInventories s.db := by
      rw [List.filter_eq_self]
      intro row hRow
      exact decide_eq_true
        (hPositive row (mem_listAllInventories.mp hRow))
    simp only [reportOf, reconcileRows, hAll,
      List.length_map]
    exact congrArg _ (List.length_insertionSort _ _)

end OrderManagement
