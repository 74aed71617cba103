import OrderManagement.Model.Schema
import Mathlib.Algebra.Notation.Pi.Basic
import Mathlib.Data.List.Sort

/-
  The statements of `inventory_dao.go` and of
  `stock_log_dao.go`, and what they do to the quantities.

  Main declarations:
    * `Dao.moveInventory` with its members
      `Dao.reserveInventory`, `Dao.releaseLockedInventory`,
      and `Dao.consumeLockedInventory`
    * `InventoriesMoved`
    * `Dao.moveInventory_moved`
-/

namespace OrderManagement

open Transaction

variable [Deployment]

namespace Dao

------------------------------------------------------------
-- Statements
------------------------------------------------------------

/- A row of product_inventories, if its CHECKs admit it. -/
def checkedInventory
    (productID stockQuantity lockedQuantity : Int) :
    Tx Inventory := do
  let ⟨hStock⟩ ← check (0 ≤ stockQuantity) .database
  let ⟨hLocked⟩ ← check (0 ≤ lockedQuantity) .database
  ensure (stockQuantity ≤ bigintMax) .database
  ensure (lockedQuantity ≤ bigintMax) .database
  return {
    productID := productID
    stockQuantity := stockQuantity
    lockedQuantity := lockedQuantity
    stockQuantityNonneg := hStock
    lockedQuantityNonneg := hLocked }

def initInventory
    (productID stockQuantity : Int) : Tx Unit := do
  let db ← get
  let inventory ← checkedInventory productID stockQuantity 0
  let inventories ←
    fetch (db.inventories.insert? inventory) .database
  set { db with inventories := inventories }

/-
  A plain read answers from the caller's snapshot. Here and
  in the other reads, `none` is gorm.ErrRecordNotFound.
-/
def getInventoryByProductID
    (view : DB)
    (productID : Int) : Option Inventory :=
  view.inventories.find? productID

/- A locking read answers from the current rows. -/
def getInventoryByProductIDForUpdate
    (productID : Int) : Tx (Option Inventory) := do
  let db ← get
  return db.inventories.find? productID

def listAllInventories
    (view : DB) : List Inventory :=
  view.inventories.rows.insertionSort
    (fun a b => a.productID ≤ b.productID)

def updateInventoryStockQuantity
    (productID stockQuantity : Int) : Tx Unit := do
  let db ← get
  let row ←
    fetch (db.inventories.find? productID) .recordNotFound
  let row ←
    checkedInventory productID stockQuantity
      row.lockedQuantity
  set { db with inventories := db.inventories.update row }

/-
  The conditional UPDATE that the three quantity movements
  share: it adds to both counters of the row of a product
  if the row passes the WHERE clause, and reports its own
  error when no row does.
-/
def moveInventory
    (productID : Int)
    (allowed : Inventory → Bool)
    (stockDelta lockedDelta : Int)
    (failed : Err) : Tx Unit := do
  let db ← get
  let row ←
    fetch ((db.inventories.find? productID).filter allowed)
      failed
  let row ←
    checkedInventory productID
      (row.stockQuantity + stockDelta)
      (row.lockedQuantity + lockedDelta)
  set { db with inventories := db.inventories.update row }

def reserveInventory
    (productID quantity : Int) : Tx Unit :=
  moveInventory productID
    (fun row => quantity ≤ row.stockQuantity)
    (-quantity) quantity .reserveInventoryFailed

def releaseLockedInventory
    (productID quantity : Int) : Tx Unit :=
  moveInventory productID
    (fun row => quantity ≤ row.lockedQuantity)
    quantity (-quantity) .releaseLockedInventoryFailed

def consumeLockedInventory
    (productID quantity : Int) : Tx Unit :=
  moveInventory productID
    (fun row => quantity ≤ row.lockedQuantity)
    0 (-quantity) .consumeLockedInventoryFailed

/- A row of stock_logs, if its CHECKs admit it. -/
def createStockLog
    (productID changeQuantity : Int)
    (beforeQuantity afterQuantity : Int)
    (bizType : StockBiz)
    (bizID : Option Int)
    (remark : String) : Tx Unit := do
  let db ← get
  let ⟨hBefore⟩ ← check (0 ≤ beforeQuantity) .database
  let ⟨hAfter⟩ ← check (0 ≤ afterQuantity) .database
  let ⟨hBalance⟩ ←
    check (afterQuantity = beforeQuantity + changeQuantity)
      .database
  let log : StockLog := {
    productID := productID
    changeQuantity := changeQuantity
    beforeQuantity := beforeQuantity
    afterQuantity := afterQuantity
    bizType := bizType
    bizID := bizID
    remark := remark
    beforeQuantityNonneg := hBefore
    afterQuantityNonneg := hAfter
    quantityBalance := hBalance }
  set { db with stockLogs := db.stockLogs ++ [log] }

end Dao

------------------------------------------------------------
-- Quantities of a Product
------------------------------------------------------------

/- The stock of a product, zero while it has no row. -/
def stockOf
    (inventories : Table Inventory)
    (p : Int) : Int :=
  ((inventories.find? p).map Inventory.stockQuantity).getD 0

/- The locked stock of a product, zero without a row. -/
def lockedOf
    (inventories : Table Inventory)
    (p : Int) : Int :=
  ((inventories.find? p).map Inventory.lockedQuantity).getD 0

omit [Deployment] in
theorem stockOf_nonneg
    (inventories : Table Inventory)
    (p : Int) :
    0 ≤ stockOf inventories p := by
  unfold stockOf
  cases inventories.find? p with
  | none => simp
  | some row => simpa using row.stockQuantityNonneg

omit [Deployment] in
theorem lockedOf_nonneg
    (inventories : Table Inventory)
    (p : Int) :
    0 ≤ lockedOf inventories p := by
  unfold lockedOf
  cases inventories.find? p with
  | none => simp
  | some row => simpa using row.lockedQuantityNonneg

/-
  The second table holds rows for the same products as the
  first, with these amounts added to the two counters.
-/
structure InventoriesMoved
    (before after : Table Inventory)
    (stock locked : Int → Int) : Prop where
  isSome :
    ∀ p, (after.find? p).isSome = (before.find? p).isSome
  stockOf :
    ∀ p, stockOf after p = stockOf before p + stock p
  lockedOf :
    ∀ p, lockedOf after p = lockedOf before p + locked p

namespace InventoriesMoved

omit [Deployment] in
theorem refl
    (t : Table Inventory) :
    InventoriesMoved t t 0 0 where
  isSome _ := rfl
  stockOf _ := by simp
  lockedOf _ := by simp

omit [Deployment] in
/- Movements one after another add up. -/
theorem trans
    {t u v : Table Inventory}
    {a b c d : Int → Int}
    (hFirst : InventoriesMoved t u a b)
    (hSecond : InventoriesMoved u v c d) :
    InventoriesMoved t v (a + c) (b + d) where
  isSome p := by rw [hSecond.isSome, hFirst.isSome]
  stockOf p := by
    rw [hSecond.stockOf, hFirst.stockOf, Pi.add_apply]
    omega
  lockedOf p := by
    rw [hSecond.lockedOf, hFirst.lockedOf, Pi.add_apply]
    omega

omit [Deployment] in
/- Overwriting the row of one product moves that product. -/
theorem of_update
    {t : Table Inventory}
    {row row' : Inventory}
    {p : Int}
    (hRow : t.find? p = some row)
    (hKey : row'.productID = p) :
    InventoriesMoved t (t.update row')
      (Pi.single p (row'.stockQuantity - row.stockQuantity))
      (Pi.single p
        (row'.lockedQuantity - row.lockedQuantity)) := by
  subst hKey
  constructor
  · intro q
    rw [Table.find?_update]
    split <;> simp
  · intro q
    unfold OrderManagement.stockOf
    rw [Table.find?_update]
    by_cases hHere : row'.productID = q
    · subst hHere
      simp [hRow]
    · simp [hHere]
  · intro q
    unfold OrderManagement.lockedOf
    rw [Table.find?_update]
    by_cases hHere : row'.productID = q
    · subst hHere
      simp [hRow]
    · simp [hHere]

end InventoriesMoved

------------------------------------------------------------
-- Effects of the Statements
------------------------------------------------------------

namespace Dao

@[simp] theorem commits_checkedInventory
    {productID stockQuantity lockedQuantity : Int}
    {db db' : DB}
    {row : Inventory} :
    Commits
        (checkedInventory productID stockQuantity
          lockedQuantity) db row db' ↔
      db = db' ∧
        row.productID = productID ∧
        row.stockQuantity = stockQuantity ∧
        row.lockedQuantity = lockedQuantity ∧
        stockQuantity ≤ bigintMax ∧
        lockedQuantity ≤ bigintMax := by
  unfold checkedInventory
  simp only [commits_bind, commits_check, commits_ensure,
    commits_pure]
  constructor
  · rintro ⟨⟨hStock⟩, _, rfl, ⟨hLocked⟩, _, rfl, _, _,
      ⟨hStockFits, rfl⟩, _, _, ⟨hLockedFits, rfl⟩, rfl, rfl⟩
    exact ⟨rfl, rfl, rfl, rfl, hStockFits, hLockedFits⟩
  · rintro ⟨rfl, hProduct, hStock, hLocked, hStockFits,
      hLockedFits⟩
    have hStockNonneg := row.stockQuantityNonneg
    have hLockedNonneg := row.lockedQuantityNonneg
    rw [hStock] at hStockNonneg
    rw [hLocked] at hLockedNonneg
    refine ⟨⟨hStockNonneg⟩, _, rfl, ⟨hLockedNonneg⟩, _, rfl,
      (), _, ⟨hStockFits, rfl⟩, (), _, ⟨hLockedFits, rfl⟩,
      ?_, rfl⟩
    cases row
    cases hProduct
    cases hStock
    cases hLocked
    rfl

/-
  What a movement that commits has done: the row existed
  and passed the WHERE clause, and only the two counters of
  that row are different.
-/
theorem moveInventory_moved
    {productID stockDelta lockedDelta : Int}
    {allowed : Inventory → Bool}
    {failed : Err}
    {db db' : DB}
    {r : Unit}
    (hMove :
      Commits
        (moveInventory productID allowed stockDelta
          lockedDelta failed) db r db') :
    ∃ inventories,
      db' = { db with inventories := inventories } ∧
        InventoriesMoved db.inventories inventories
          (Pi.single productID stockDelta)
          (Pi.single productID lockedDelta) := by
  unfold moveInventory at hMove
  simp only [commits_bind, commits_get, commits_fetch,
    commits_checkedInventory, commits_set,
    Option.filter_eq_some_iff] at hMove
  rcases hMove with
    ⟨_, _, ⟨rfl, rfl⟩, row, _, ⟨⟨hRow, _⟩, rfl⟩, row', _,
      ⟨rfl, hKey, hStock, hLocked, _, _⟩, rfl⟩
  refine ⟨_, rfl, ?_⟩
  have hMoved := InventoriesMoved.of_update hRow hKey
  rw [hStock, hLocked] at hMoved
  simpa using hMoved

/- A movement commits if its row passes the WHERE clause and
   the new counters are ones that a row can hold. -/
theorem moveInventory_commits
    {productID stockDelta lockedDelta : Int}
    {allowed : Inventory → Bool}
    {failed : Err}
    {db : DB}
    {row : Inventory}
    (hRow : db.inventories.find? productID = some row)
    (hAllowed : allowed row = true)
    (hStock : 0 ≤ row.stockQuantity + stockDelta)
    (hLocked : 0 ≤ row.lockedQuantity + lockedDelta)
    (hStockFits : row.stockQuantity + stockDelta ≤ bigintMax)
    (hLockedFits :
      row.lockedQuantity + lockedDelta ≤ bigintMax) :
    ∃ db',
      Commits
        (moveInventory productID allowed stockDelta
          lockedDelta failed) db () db' := by
  unfold moveInventory
  simp only [commits_bind, commits_get, commits_fetch,
    commits_checkedInventory, commits_set,
    Option.filter_eq_some_iff]
  refine ⟨_, _, _, ⟨rfl, rfl⟩, row, _, ⟨⟨hRow, hAllowed⟩, rfl⟩,
    ⟨productID, row.stockQuantity + stockDelta,
      row.lockedQuantity + lockedDelta, hStock, hLocked⟩, _,
    ⟨rfl, rfl, rfl, rfl, hStockFits, hLockedFits⟩, rfl⟩

/- A log that commits is appended, and it balances. -/
theorem commits_createStockLog
    {productID changeQuantity : Int}
    {beforeQuantity afterQuantity : Int}
    {bizType : StockBiz}
    {bizID : Option Int}
    {remark : String}
    {db db' : DB}
    {r : Unit} :
    Commits
        (createStockLog productID changeQuantity
          beforeQuantity afterQuantity bizType bizID remark)
        db r db' ↔
      ∃ log : StockLog,
        log.productID = productID ∧
        log.changeQuantity = changeQuantity ∧
        log.beforeQuantity = beforeQuantity ∧
        log.afterQuantity = afterQuantity ∧
        log.bizType = bizType ∧
        log.bizID = bizID ∧
        log.remark = remark ∧
        db' = { db with stockLogs := db.stockLogs ++ [log] } := by
  unfold createStockLog
  simp only [commits_bind, commits_get, commits_check,
    commits_set]
  constructor
  · rintro ⟨_, _, ⟨rfl, rfl⟩, ⟨hBefore⟩, _, rfl, ⟨hAfter⟩, _,
      rfl, ⟨hBalance⟩, _, rfl, rfl⟩
    exact ⟨_, rfl, rfl, rfl, rfl, rfl, rfl, rfl, rfl⟩
  · rintro ⟨log, rfl, rfl, rfl, rfl, rfl, rfl, rfl, rfl⟩
    exact ⟨_, _, ⟨rfl, rfl⟩, ⟨log.beforeQuantityNonneg⟩, _,
      rfl, ⟨log.afterQuantityNonneg⟩, _, rfl,
      ⟨log.quantityBalance⟩, _, rfl, rfl⟩

end Dao

end OrderManagement
