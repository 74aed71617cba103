import OrderManagement.Service.StockReconcile

/-
  The worker of `inventoryreconcile/worker.go`. A round asks
  for a report and, if it is to fix what differs, sets every
  item of the report in Redis. It then records a success,
  whatever became of the SETs.

  Main declarations:
    * `ReconcileWorker.runOnce` and `ReconcileRound`
    * `ReconcileRound.leave`
    * `reconcile_law`
    * `autofix_heals_iff`
    * `autofix_truthful_iff`
-/

namespace OrderManagement

------------------------------------------------------------
-- Rounds
------------------------------------------------------------

/- What a round returns, the SETs that Redis runs, and what
   is recorded of differences and of fixes. -/
structure ReconcileRound where
  returned : Option ReconcileErr
  sets : List (String × String)
  diffs : List String
  autoFixes : List String
deriving DecidableEq

variable [Deployment]

/- The reconciler is an interface: what it makes of the
   stores is arbitrary. -/
structure ReconcileWorker where
  autoFix : Bool
  reconciler :
    StockStores →
      Except ReconcileErr InventoryRedisReconcileReport
  stockWriter : Option StockGuard
  hasMetrics : Bool

namespace ReconcileWorker

/- A worker without metrics records nothing. -/
def record
    (w : ReconcileWorker)
    (labels : List String) : List String :=
  if w.hasMetrics then labels else []

/- `fares` tells of each SET of the batch how it fares. -/
def runOnce
    (w : ReconcileWorker)
    (fares : Nat → Delivery)
    (s : StockStores) : ReconcileRound :=
  match w.reconciler s with
  | .error e =>
      { returned := some e
        sets := []
        diffs := []
        autoFixes := [] }
  | .ok report =>
      if 0 < report.diffCount then
        let diffs :=
          w.record (report.items.map (·.status))
        if w.autoFix then
          match w.stockWriter with
          | none =>
              { returned := none
                sets := []
                diffs := diffs
                autoFixes := w.record ["failed"] }
          | some stockWriter =>
              { returned := none
                sets :=
                  setItems stockWriter fares 0 report.items
                diffs := diffs
                autoFixes := w.record ["success"] }
        else
          { returned := none
            sets := []
            diffs := diffs
            autoFixes := w.record ["disabled"] }
      else
        { returned := none
          sets := []
          diffs := []
          autoFixes := [] }

end ReconcileWorker

/- The stores after a round; of MySQL it only reads. -/
def ReconcileRound.leave
    (round : ReconcileRound)
    (s : StockStores) : StockStores :=
  { s with redis := Mirror.patch s.redis round.sets }

/- The worker that `deps.go` builds, where no read fails. -/
def inventoryWorker
    (g : StockGuard)
    (autoFix hasMetrics : Bool) : ReconcileWorker where
  autoFix := autoFix
  reconciler := reconcileRedisInventoryStock (some g) none none
  stockWriter := some g
  hasMetrics := hasMetrics

/- A fixing round, all of whose SETs are answered. -/
def fixingRound
    (g : StockGuard)
    (hasMetrics : Bool)
    (s : StockStores) : ReconcileRound :=
  (inventoryWorker g true hasMetrics).runOnce
    (fun _ => .answered) s

/- What a round sends, where it has something to fix. -/
theorem ReconcileWorker.sets_runOnce
    {w : ReconcileWorker}
    {g : StockGuard}
    {fares : Nat → Delivery}
    {s : StockStores}
    {report : InventoryRedisReconcileReport}
    (hReport : w.reconciler s = .ok report)
    (hDiff : 0 < report.diffCount)
    (hFix : w.autoFix = true)
    (hWriter : w.stockWriter = some g) :
    (w.runOnce fares s).sets =
      setItems g fares 0 report.items := by
  simp only [ReconcileWorker.runOnce, hReport, hDiff, if_true,
    hFix, hWriter]

/- The loop of the worker is that of the service. -/
theorem ReconcileWorker.autoFix_sets
    {w : ReconcileWorker}
    {g : StockGuard}
    {fares : Nat → Delivery}
    {s : StockStores}
    {report : InventoryRedisReconcileReport}
    (hReport : w.reconciler s = .ok report)
    (hDiff : 0 < report.diffCount)
    (hFix : w.autoFix = true)
    (hWriter : w.stockWriter = some g) :
    autoFixRedisInventoryStock w.stockWriter fares
        report.items =
      .ok (w.runOnce fares s).sets := by
  rw [w.sets_runOnce hReport hDiff hFix hWriter, hWriter]
  rfl

------------------------------------------------------------
-- What a Fixing Round Leaves
------------------------------------------------------------

section FixingRound

variable
    {g : StockGuard}
    {hasMetrics : Bool}
    {s : StockStores}

/- The guard accepts every item. -/
theorem accepts_reportItem
    (hClient : g.hasClient = true)
    {item : InventoryRedisReconcileItem}
    (hItem : item ∈ (reportOf s).items) :
    g.Accepts item := by
  rcases reportItem_row hItem with
    ⟨row, _, hPositive, hProduct, hQuantity⟩
  refine ⟨hClient, ?_, ?_⟩
  · rw [hProduct]
    exact hPositive
  · rw [hQuantity]
    exact row.stockQuantityNonneg

theorem fixingRound_of_readable
    (hClient : g.hasClient = true)
    (hReadable :
      ∀ row ∈ s.db.inventories.rows,
        0 < row.productID → s.redis.Readable row.productID) :
    (fixingRound g hasMetrics s).sets =
      (reportOf s).items.map
        InventoryRedisReconcileItem.set := by
  have hReport := reconcile_of_readable hClient hReadable
  have hSets :
      setItems g (fun _ => .answered) 0 (reportOf s).items =
        (reportOf s).items.map
          InventoryRedisReconcileItem.set :=
    setItems_answered
      (fun _ hItem => accepts_reportItem hClient hItem) 0
  unfold fixingRound ReconcileWorker.runOnce inventoryWorker
  simp only [hReport, if_true, hSets]
  by_cases hDiff : 0 < (reportOf s).diffCount
  · rw [if_pos hDiff]
  · rw [if_neg hDiff]
    have hEmpty : (reportOf s).items = [] := by
      rw [← List.length_eq_zero_iff]
      have hCount :
          (reportOf s).diffCount =
            (reportOf s).items.length := rfl
      omega
    rw [hEmpty]
    rfl

/- Where a text is no number, the round ends early. -/
theorem fixingRound_of_unreadable
    {row : Inventory}
    (hClient : g.hasClient = true)
    (hRow : row ∈ s.db.inventories.rows)
    (hPositive : 0 < row.productID)
    (hUnreadable : ¬ s.redis.Readable row.productID) :
    (fixingRound g hasMetrics s).sets = [] := by
  simp only [fixingRound, ReconcileWorker.runOnce,
    inventoryWorker,
    reconcile_of_unreadable hClient hRow hPositive
      hUnreadable]

/- The quantities that the round leaves are those of a
   mirror to which the differences have been written. -/
theorem quantity_fixingRound
    (hClient : g.hasClient = true)
    (hReadable :
      ∀ row ∈ s.db.inventories.rows,
        0 < row.productID → s.redis.Readable row.productID)
    (hFits :
      ∀ row ∈ s.db.inventories.rows,
        row.stockQuantity ≤ bigintMax) :
    ((fixingRound g hasMetrics s).leave s).redis.quantity =
      Mirror.patch s.redis.quantity
        (Mirror.diff (reconcileRows s.db)
          s.redis.quantity) := by
  have hWords :
      ∀ w ∈ (reportOf s).items.map
          InventoryRedisReconcileItem.write,
        Decimal.InWord 64 w.2 := by
    intro w hMem
    rcases List.mem_map.mp hMem with ⟨item, hItem, rfl⟩
    rcases reportItem_row hItem with
      ⟨row, hRow, _, _, hQuantity⟩
    have hValue :
        item.write.2 = row.stockQuantity := hQuantity
    rw [hValue]
    exact inWord_of_bigint row.stockQuantityNonneg
      (hFits row hRow)
  rw [← writes_reportItems, ← quantity_patch hWords,
    List.map_map]
  simp only [ReconcileRound.leave,
    fixingRound_of_readable hClient hReadable]
  rfl

end FixingRound

------------------------------------------------------------
-- Reconciliation and Convergence
------------------------------------------------------------

/-
  What holds of a report and of the fixing round that it is
  made in: the report is exact, a second one finds nothing,
  and what was not reported is as it was.
-/
structure Reconciled
    (g : StockGuard)
    (hasMetrics : Bool)
    (s : StockStores)
    (report : InventoryRedisReconcileReport) : Prop where
  answered :
    reconcileRedisInventoryStock (some g) none none s =
      .ok report
  exact : report.Exact s
  again :
    ∃ second,
      reconcileRedisInventoryStock (some g) none none
          ((fixingRound g hasMetrics s).leave s) =
            .ok second ∧
        second.diffCount = 0 ∧
        second.items = []
  unreported :
    ∀ key,
      (∀ item ∈ report.items,
        key ≠ inventoryAvailableKey item.productID) →
      ((fixingRound g hasMetrics s).leave s).redis key =
        s.redis key
  mysql : ((fixingRound g hasMetrics s).leave s).db = s.db

/-
  The report is exact for any rows and any numbers in Redis,
  and one fixing round makes the stores agree.
-/
theorem reconcile_law
    {g : StockGuard}
    {hasMetrics : Bool}
    {s : StockStores}
    (hClient : g.hasClient = true)
    (hPositive :
      ∀ row ∈ s.db.inventories.rows, 0 < row.productID)
    (hFits :
      ∀ row ∈ s.db.inventories.rows,
        row.stockQuantity ≤ bigintMax)
    (hReadable :
      ∀ row ∈ s.db.inventories.rows,
        s.redis.Readable row.productID) :
    ∃ report, Reconciled g hasMetrics s report := by
  have hValid :
      ∀ row ∈ s.db.inventories.rows,
        0 < row.productID → s.redis.Readable row.productID :=
    fun row hRow _ => hReadable row hRow
  let t := (fixingRound g hasMetrics s).leave s
  have hShown :
      t.redis.quantity =
        Mirror.patch s.redis.quantity
          (Mirror.diff (reconcileRows s.db)
            s.redis.quantity) :=
    quantity_fixingRound hClient hValid hFits
  have hAgain :
      ∀ row ∈ t.db.inventories.rows,
        0 < row.productID → t.redis.Readable row.productID := by
    intro row hRow hPos
    apply RedisTexts.readable_of_quantity
    rw [hShown]
    exact Mirror.patch_diff (nodup_reconcileRows s.db)
      (mem_reconcileRows hRow hPos)
  have hNothing :
      (reportOf t).items = [] := by
    have hWrites := writes_reportItems t
    rw [hShown] at hWrites
    rw [← List.map_eq_nil_iff, hWrites]
    exact Mirror.diff_patch_diff (nodup_reconcileRows s.db) _
  refine ⟨reportOf s, ?_⟩
  exact
    { answered := reconcile_of_readable hClient hValid
      exact := reportOf_exact hPositive hReadable
      again :=
        ⟨reportOf t, reconcile_of_readable hClient hAgain,
          congrArg (fun items => (items.length : Int))
            hNothing, hNothing⟩
      unreported := by
        intro key hKey
        unfold ReconcileRound.leave
        rw [fixingRound_of_readable hClient hValid]
        apply Mirror.patch_of_notMem
        rw [List.map_map]
        intro hMem
        rcases List.mem_map.mp hMem with ⟨item, hItem, hSame⟩
        exact hKey item hItem hSame.symm
      mysql := rfl }

/- The items are those that a reconciliation beside calls in
   flight is to write. -/
theorem reconcileItems_eq_writes
    {redis : Redis}
    {s : StockStores}
    (hShown : redis.available = s.redis.quantity) :
    reconcileItems redis (reconcileRows s.db) =
      (reportOf s).items.map
        InventoryRedisReconcileItem.write := by
  rw [writes_reportItems, ← hShown]
  rfl

------------------------------------------------------------
-- Values That Are No Numbers
------------------------------------------------------------

/- Every product that Redis shows wrong, or not at all, has
   its stock there after the round. -/
def ReconcileRound.Heals
    (round : ReconcileRound)
    (s : StockStores) : Prop :=
  ∀ row ∈ s.db.inventories.rows,
    s.redis.quantity row.productID ≠
        some row.stockQuantity →
      (round.leave s).redis.quantity row.productID =
        some row.stockQuantity

/-
  A fixing round heals exactly when no product has a text
  that is no number: one of them hides all the others from
  the report.
-/
theorem autofix_heals_iff
    {g : StockGuard}
    {hasMetrics : Bool}
    {s : StockStores}
    (hClient : g.hasClient = true)
    (hPositive :
      ∀ row ∈ s.db.inventories.rows, 0 < row.productID)
    (hFits :
      ∀ row ∈ s.db.inventories.rows,
        row.stockQuantity ≤ bigintMax) :
    (fixingRound g hasMetrics s).Heals s ↔
      ∀ row ∈ s.db.inventories.rows,
        s.redis.Readable row.productID := by
  constructor
  · intro hHeals row hRow
    by_contra hUnreadable
    have hUnshown :
        s.redis.quantity row.productID ≠
          some row.stockQuantity := fun hShown =>
      hUnreadable (RedisTexts.readable_of_quantity hShown)
    have hHealed := hHeals row hRow hUnshown
    -- nothing was set, so that the text is still there
    rw [ReconcileRound.leave,
      fixingRound_of_unreadable hClient hRow
        (hPositive row hRow) hUnreadable] at hHealed
    exact hUnshown hHealed
  · intro hReadable row hRow _
    rw [quantity_fixingRound hClient
      (fun row hRow _ => hReadable row hRow) hFits]
    exact Mirror.patch_diff (nodup_reconcileRows s.db)
      (mem_reconcileRows hRow (hPositive row hRow))

------------------------------------------------------------
-- What Is Recorded
------------------------------------------------------------

/- A success is recorded only if the key of every item was
   set to its quantity. -/
def ReconcileRound.Truthful
    (round : ReconcileRound)
    (items : List InventoryRedisReconcileItem) : Prop :=
  "success" ∈ round.autoFixes →
    ∀ item ∈ items, item.set ∈ round.sets

/- The guard accepts an item, and a SET of its product to
   its quantity reaches Redis. -/
def StockGuard.Reaches
    (g : StockGuard)
    (fares : Nat → Delivery)
    (items : List InventoryRedisReconcileItem)
    (item : InventoryRedisReconcileItem) : Prop :=
  g.Accepts item ∧
    ∃ (j : Nat) (same : InventoryRedisReconcileItem),
      items[j]? = some same ∧
        same.write = item.write ∧
        fares j ≠ .unsent

omit [Deployment] in
theorem set_mem_setItems_iff
    {g : StockGuard}
    {fares : Nat → Delivery}
    {items : List InventoryRedisReconcileItem}
    {item : InventoryRedisReconcileItem} :
    item.set ∈ setItems g fares 0 items ↔
      g.Reaches fares items item := by
  rw [mem_setItems_iff]
  constructor
  · rintro ⟨j, same, hItem, hAccepts, hSent, hSet⟩
    have hSame : same.write = item.write :=
      InventoryRedisReconcileItem.set_eq_iff.mp hSet.symm
    rw [Nat.zero_add] at hSent
    exact ⟨(StockGuard.accepts_congr hSame).mp hAccepts,
      j, same, hItem, hSame, hSent⟩
  · rintro ⟨hAccepts, j, same, hItem, hSame, hSent⟩
    refine ⟨j, same, hItem,
      (StockGuard.accepts_congr hSame).mpr hAccepts, ?_,
      (InventoryRedisReconcileItem.set_eq_iff.mpr
        hSame).symm⟩
    rw [Nat.zero_add]
    exact hSent

/- A success is recorded after the batch, and else never. -/
theorem ReconcileWorker.success_mem_iff
    {w : ReconcileWorker}
    {fares : Nat → Delivery}
    {s : StockStores}
    {report : InventoryRedisReconcileReport}
    (hReport : w.reconciler s = .ok report) :
    "success" ∈ (w.runOnce fares s).autoFixes ↔
      0 < report.diffCount ∧ w.autoFix = true ∧
        w.hasMetrics = true ∧
        ∃ g,
          w.stockWriter = some g ∧
            (w.runOnce fares s).sets =
              setItems g fares 0 report.items := by
  unfold ReconcileWorker.runOnce ReconcileWorker.record
  rw [hReport]
  by_cases hDiff : 0 < report.diffCount
  · cases hFix : w.autoFix with
    | false =>
        cases hMetrics : w.hasMetrics with
        | false => simp [hDiff]
        | true => simp [hDiff]
    | true =>
        cases hWriter : w.stockWriter with
        | none =>
            cases hMetrics : w.hasMetrics with
            | false => simp [hDiff]
            | true => simp [hDiff]
        | some g =>
            cases hMetrics : w.hasMetrics with
            | false => simp [hDiff]
            | true => simp [hDiff]
  · simp [hDiff]

/-
  The success that is recorded is the truth exactly when a
  round which comes to record one finds every item accepted
  and its SET in Redis.
-/
theorem autofix_truthful_iff
    {w : ReconcileWorker}
    {fares : Nat → Delivery}
    {s : StockStores}
    {report : InventoryRedisReconcileReport}
    (hReport : w.reconciler s = .ok report) :
    (w.runOnce fares s).Truthful report.items ↔
      ∀ g,
        0 < report.diffCount →
          w.autoFix = true →
          w.stockWriter = some g →
          w.hasMetrics = true →
            ∀ item ∈ report.items,
              g.Reaches fares report.items item := by
  unfold ReconcileRound.Truthful
  rw [ReconcileWorker.success_mem_iff hReport]
  constructor
  · intro hTruthful g hDiff hFix hWriter hMetrics item hItem
    have hSets :
        (w.runOnce fares s).sets =
          setItems g fares 0 report.items :=
      w.sets_runOnce hReport hDiff hFix hWriter
    have hSet :=
      hTruthful ⟨hDiff, hFix, hMetrics, g, hWriter, hSets⟩
        item hItem
    rw [hSets] at hSet
    exact set_mem_setItems_iff.mp hSet
  · rintro hReaches ⟨hDiff, hFix, hMetrics, g, hWriter, hSets⟩
      item hItem
    rw [hSets]
    exact set_mem_setItems_iff.mpr
      (hReaches g hDiff hFix hWriter hMetrics item hItem)

end OrderManagement

------------------------------------------------------------
-- Two Products
------------------------------------------------------------

namespace OrderManagement

attribute [local instance] sampleDeployment

/- The first product has no value in Redis, the second one
   has a text. -/
def driftedStores
    (text : String) : StockStores where
  db :=
    { DB.empty with
      inventories :=
        { rows :=
            [ ⟨1, 10, 0, by decide,
                Inventory.lockedQuantityDefault_nonneg⟩,
              ⟨2, 5, 0, by decide,
                Inventory.lockedQuantityDefault_nonneg⟩ ]
          nodup := by decide } }
  redis := fun key =>
    if key = inventoryAvailableKey 2 then some text else none

theorem reconcile_law_drifted :
    ∃ report,
      Reconciled ⟨true⟩ true (driftedStores "9") report :=
  reconcile_law rfl (by decide) (by decide)
    (by decide +kernel)

theorem autofix_heals_drifted :
    (fixingRound ⟨true⟩ true (driftedStores "9")).Heals
        (driftedStores "9") ∧
      ¬ (fixingRound ⟨true⟩ true (driftedStores "five")).Heals
        (driftedStores "five") := by
  constructor
  · exact
      (autofix_heals_iff rfl (by decide) (by decide)).mpr
        (by decide +kernel)
  · rw [autofix_heals_iff rfl (by decide) (by decide)]
    decide +kernel

/- The text of the second product keeps the first one from
   being set. -/
theorem not_autofix_heals :
    ¬ ∀ (g : StockGuard)
        (hasMetrics : Bool)
        (s : StockStores),
      g.hasClient = true →
      (∀ row ∈ s.db.inventories.rows, 0 < row.productID) →
      (∀ row ∈ s.db.inventories.rows,
        row.stockQuantity ≤ bigintMax) →
      (fixingRound g hasMetrics s).Heals s := by
  intro hAll
  have hHeals :=
    hAll ⟨true⟩ true (driftedStores "five") rfl (by decide)
      (by decide)
  have hFirst :=
    hHeals ⟨1, 10, 0, by decide, by decide⟩ (by decide)
      (by decide +kernel)
  exact absurd hFirst (by decide +kernel)

/- A worker whose reports tell of one missing product. -/
def reportingWorker : ReconcileWorker where
  autoFix := true
  reconciler _ := .ok ⟨1, 1, [⟨1, 10, none, "missing"⟩]⟩
  stockWriter := some ⟨true⟩
  hasMetrics := true

theorem autofix_truthful_sent :
    (reportingWorker.runOnce (fun _ => .answered)
        (driftedStores "5")).Truthful
      [⟨1, 10, none, "missing"⟩] := by
  refine
    (@autofix_truthful_iff _ reportingWorker _ _
      ⟨1, 1, [⟨1, 10, none, "missing"⟩]⟩ rfl).mpr ?_
  rintro g _ _ ⟨rfl⟩ _ item hItem
  cases List.mem_singleton.mp hItem
  exact ⟨⟨rfl, by decide, by decide⟩, 0, _, rfl, rfl,
    by decide⟩

/- Redis is gone before the SET, and the fix is recorded as
   a success. -/
theorem not_autofix_truthful :
    ¬ ∀ (w : ReconcileWorker)
        (fares : Nat → Delivery)
        (s : StockStores)
        (report : InventoryRedisReconcileReport),
      w.reconciler s = .ok report →
        (w.runOnce fares s).Truthful report.items := by
  intro hAll
  have hTruthful :=
    hAll reportingWorker (fun _ => .unsent)
      (driftedStores "5") _ rfl
  have hSet :=
    hTruthful (by decide) ⟨1, 10, none, "missing"⟩ (by decide)
  exact absurd hSet (by decide)

end OrderManagement
