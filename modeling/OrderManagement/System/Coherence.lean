import OrderManagement.Service.CatalogCalls

/-
  Whether the product cache shows what the database holds,
  for calls that overlap and for calls that do not.

  Main declarations:
    * `cached_absent_or_current`
    * `CatalogCall`, `Catalog.CallStep`, and
      `Catalog.Unprobed`
    * `getProductByID_transparent`
    * `Catalog.createProduct_probed`
-/

namespace OrderManagement

------------------------------------------------------------
-- Overlapping Calls
------------------------------------------------------------

/-
  From a moment on at which the entry of a product is gone,
  or current, or about to be deleted: if each later fill of
  the product is fresh, the entry is gone or current once no
  call is in flight.
-/
theorem cached_absent_or_current
    {r s t : Catalog}
    {before after : List CatalogEvent}
    {id : Int}
    (hIdle : r.calls = 0)
    (hBefore : Transition.Run Catalog.Step r before s)
    (hCovered : s.Covered id)
    (hAfter :
      Transition.Run (Catalog.FreshStep id) s after t)
    (hEnd : t.calls = 0) :
    t.cached id = none ∨
      t.cached id = some (t.products.find? id) := by
  have hFetched : s.Fetched :=
    hBefore.invariant
      (fun _ _ _ hFetched hStep => hStep.fetched hFetched)
      (Catalog.fetched_of_idle hIdle)
  cases hFound : t.cached id with
  | none => exact Or.inl rfl
  | some found =>
      right
      rw [Catalog.coherent_of_run hFetched hCovered hAfter
        hEnd hFound]

/- A product that is off sale, before anything is cached. -/
def offSaleTea : ProductRow where
  product := {
    id := 1
    name := "tea"
    description := ""
    priceFen := 250
    status := .offSale
    priceFenPositive := by decide }
  createdAt := 0
  updatedAt := 0

def shelf : Catalog where
  clock := 0
  products := ⟨[offSaleTea], by decide⟩
  cache := fun _ => none
  calls := 0

/- A reader has the old row when OnSaleProduct updates it. -/
def race : List CatalogEvent :=
  [ .begin (.get 1),
    .miss 1,
    .fetch 1,
    .begin (.setStatus 1 .onSale),
    .check 1,
    .update 1 ]

def raced : Catalog :=
  { shelf with
    products := updateProductStatus shelf.products 1 .onSale 0
    calls :=
      .updated 1 ::ₘ .fetched 1 (some offSaleTea) ::ₘ 0 }

theorem race_run :
    Transition.Run (Catalog.FreshStep 1) shelf race raced := by
  let reading := shelf.during (.fetched 1 (some offSaleTea))
  have hGet :
      Catalog.FreshStep 1 shelf (.begin (.get 1))
        (shelf.during (.get 1)) :=
    ⟨.begin _ trivial, trivial⟩
  have hMiss :
      Catalog.FreshStep 1 (shelf.during (.get 1)) (.miss 1)
        (shelf.during (.missed 1)) :=
    ⟨.miss rfl rfl, trivial⟩
  have hFetch :
      Catalog.FreshStep 1 (shelf.during (.missed 1)) (.fetch 1)
        reading :=
    ⟨.fetch rfl, trivial⟩
  have hSet :
      Catalog.FreshStep 1 reading
        (.begin (.setStatus 1 .onSale))
        (reading.during (.setStatus 1 .onSale)) :=
    ⟨.begin _ trivial, trivial⟩
  have hCheck :
      Catalog.FreshStep 1
        (reading.during (.setStatus 1 .onSale)) (.check 1)
        (reading.during (.checked 1 .onSale)) :=
    ⟨.check rfl rfl (by decide), trivial⟩
  have hUpdate :
      Catalog.FreshStep 1 (reading.during (.checked 1 .onSale))
        (.update 1) raced :=
    ⟨.update rfl, trivial⟩
  exact
    .cons hGet
      (.cons hMiss
        (.cons hFetch
          (.cons hSet
            (.cons hCheck (.single hUpdate)))))

/- The fill before the deletion does no harm. -/
theorem cached_absent_or_current_sample :
    ∃ ls t,
      .fill 1 (some offSaleTea) ∈ ls ∧
        Transition.Run (Catalog.FreshStep 1) shelf ls t ∧
        (t.cached 1 = none ∨
          t.cached 1 = some (t.products.find? 1)) := by
  have hSwap :
      raced.calls =
        .fetched 1 (some offSaleTea) ::ₘ .updated 1 ::ₘ 0 :=
    Multiset.cons_swap (ProductCall.updated 1)
      (ProductCall.fetched 1 (some offSaleTea)) 0
  have hPending : ProductCall.updated 1 ∈ raced.calls := by
    simp [raced]
  have hFill :
      Catalog.FreshStep 1 raced (.fill 1 (some offSaleTea))
        { raced with
          cache :=
            ProductCache.setProductDetail 0 raced.cache
              offSaleTea
          calls := .updated 1 ::ₘ 0 } :=
    ⟨.fill 0 hSwap, fun _ => Or.inr hPending⟩
  have hDelete :
      Catalog.FreshStep 1
        { raced with
          cache :=
            ProductCache.setProductDetail 0 raced.cache
              offSaleTea
          calls := .updated 1 ::ₘ 0 }
        (.delete 1)
        { raced with
          cache :=
            ProductCache.deleteProductDetailCache
              (ProductCache.setProductDetail 0 raced.cache
                offSaleTea) 1
          calls := 0 } :=
    ⟨.delete rfl, trivial⟩
  have hRun := (race_run.snoc hFill).snoc hDelete
  refine ⟨_, _, ?_, hRun, ?_⟩
  · simp
  · exact cached_absent_or_current rfl (.refl shelf)
      (fun _ hFound => by cases hFound) hRun rfl

/- The fill after it leaves the old row in the cache. -/
theorem late_fill_stale :
    ¬ ∀ (s t : Catalog) (ls : List CatalogEvent) (id : Int),
      s.calls = 0 →
      (∀ id, s.cache id = none) →
      Transition.Run Catalog.Step s ls t →
      .tick ∉ ls →
      t.calls = 0 →
      (t.products.find? id).isSome →
      t.cached id = none ∨
        t.cached id = some (t.products.find? id) := by
  intro hCoherent
  have hRace :
      Transition.Run Catalog.Step shelf race raced :=
    race_run.mono fun _ _ _ hStep => hStep.1
  have hDelete :
      Catalog.Step raced (.delete 1)
        { raced with
          cache :=
            ProductCache.deleteProductDetailCache raced.cache 1
          calls := .fetched 1 (some offSaleTea) ::ₘ 0 } :=
    .delete rfl
  have hFill :
      Catalog.Step
        { raced with
          cache :=
            ProductCache.deleteProductDetailCache raced.cache 1
          calls := .fetched 1 (some offSaleTea) ::ₘ 0 }
        (.fill 1 (some offSaleTea))
        { raced with
          cache :=
            ProductCache.setProductDetail 0
              (ProductCache.deleteProductDetailCache
                raced.cache 1)
              offSaleTea
          calls := 0 } :=
    .fill 0 rfl
  have hEnd :=
    hCoherent _ _ _ 1 rfl (fun _ => rfl)
      ((hRace.snoc hDelete).snoc hFill) (by simp [race]) rfl
      (by decide)
  revert hEnd
  decide

------------------------------------------------------------
-- Calls One After Another
------------------------------------------------------------

inductive CatalogCall
| tick
| createProduct
    (id : Int)
    (name description : String)
    (priceFen : Int)
| getProductByID (id : Int)
| setProductStatus (id : Int) (status : ProductStatus)

/- Time passes between calls, and within a lookup. -/
inductive Catalog.CallStep :
    Catalog → CatalogCall → Catalog → Prop
| tick
    {s : Catalog}
    {now : Time}
    (hLater : s.clock ≤ now) :
    Catalog.CallStep s .tick { s with clock := now }
| createProduct
    (s : Catalog)
    (id : Int)
    (name description : String)
    (priceFen : Int) :
    Catalog.CallStep s
      (.createProduct id name description priceFen)
      (s.createProduct id name description priceFen).2
| getProductByID
    {s : Catalog}
    {fillTime : Time}
    (unixNano : Nat)
    (id : Int)
    (hLater : s.clock ≤ fillTime) :
    Catalog.CallStep s (.getProductByID id)
      (s.getProductByID fillTime unixNano id).2
| setProductStatus
    (s : Catalog)
    (status : ProductStatus)
    (id : Int) :
    Catalog.CallStep s (.setProductStatus id status)
      (s.setProductStatus status id).2

/- No live entry says that a product to be created is not
   there. -/
def Catalog.Unprobed
    (s : Catalog) : CatalogCall → Prop
| .createProduct id .. => s.cached id ≠ some none
| .tick | .getProductByID _ | .setProductStatus .. => True

def Catalog.UnprobedStep
    (s : Catalog)
    (l : CatalogCall)
    (t : Catalog) : Prop :=
  Catalog.CallStep s l t ∧ s.Unprobed l

/- No call is in flight, and the cache is right. -/
structure Catalog.Rests
    (s : Catalog) : Prop where
  idle : s.calls = 0
  coherent : s.Coherent

/- CreateProduct fails, or it inserts a row. -/
theorem Catalog.createProduct_cases
    (s : Catalog)
    (id : Int)
    (name description : String)
    (priceFen : Int) :
    (∃ e,
      s.createProduct id name description priceFen =
        (.error e, s)) ∨
      ∃ row products,
        row.product.id = id ∧
          s.products.insert? row = some products ∧
          s.createProduct id name description priceFen =
            (.ok row, { s with products := products }) := by
  unfold Catalog.createProduct
  split
  case isFalse => exact Or.inl ⟨_, rfl⟩
  case isTrue hPrice =>
    split
    case isTrue => exact Or.inl ⟨_, rfl⟩
    case isFalse =>
      split
      case isTrue => exact Or.inl ⟨_, rfl⟩
      case isFalse =>
        split
        case isFalse => exact Or.inl ⟨_, rfl⟩
        case isTrue =>
          dsimp only
          split
          case h_1 => exact Or.inl ⟨_, rfl⟩
          case h_2 products hInsert =>
            exact Or.inr ⟨_, products, rfl, hInsert, rfl⟩

/- An insertion that was not probed is admitted. -/
theorem Catalog.Rests.insert
    {s : Catalog}
    {row : ProductRow}
    {products : Table ProductRow}
    (hRests : s.Rests)
    (hInsert : s.products.insert? row = some products)
    (hUnprobed : s.cached row.product.id ≠ some none) :
    Catalog.Rests { s with products := products } := by
  have hFree : s.products.find? row.product.id = none :=
    (Table.insert?_eq_some_iff.mp hInsert).1
  have hAbsent : s.cached row.product.id = none := by
    cases hFound : s.cached row.product.id with
    | none => rfl
    | some found =>
        have hCurrent := hRests.coherent _ _ hFound
        rw [hCurrent, hFree] at hFound
        exact absurd hFound hUnprobed
  have hStore :
      products.find? =
        Function.update s.products.find? row.product.id
          (some row) := by
    funext id
    rw [Table.find?_of_insert? hInsert]
    by_cases hID : id = row.product.id
    · subst hID
      simp
    · rw [Function.update_of_ne hID]
      exact if_neg (Ne.symm hID)
  have hStep :
      CacheAside.Step s.view
        (.insert row.product.id (some row))
        (Catalog.view { s with products := products }) := by
    convert CacheAside.Step.insert s.view _ _ using 1
    exact CacheAside.State.ext hStore rfl rfl rfl
  refine ⟨hRests.idle, ?_⟩
  intro p found hFound
  have hCovered : CacheAside.Covered p s.view :=
    fun found hFound => Or.inl (hRests.coherent p found hFound)
  have hDeletes : p ∉ s.view.deletes := by
    dsimp only [Catalog.view]
    rw [hRests.idle, Multiset.filterMap_zero]
    exact Multiset.notMem_zero p
  have hLater := hCovered.step hStep fun hKey => hKey ▸ hAbsent
  exact hLater.coherent hDeletes found hFound

/- Calls leave nothing in flight. -/
theorem Catalog.CallStep.calls_eq
    {s t : Catalog}
    {l : CatalogCall}
    (hStep : Catalog.CallStep s l t) :
    t.calls = s.calls := by
  cases hStep with
  | tick => rfl
  | createProduct id name description priceFen =>
      rcases s.createProduct_cases id name description
          priceFen with
        ⟨e, hFailed⟩ | ⟨row, products, _, _, hCreated⟩
      · rw [hFailed]
      · rw [hCreated]
  | getProductByID unixNano id =>
      unfold Catalog.getProductByID
      split
      · rfl
      · rfl
  | setProductStatus status id =>
      unfold Catalog.setProductStatus
      split
      · rfl
      · split
        · rfl
        · rfl

theorem Catalog.Rests.step
    {s t : Catalog}
    {l : CatalogCall}
    (hRests : s.Rests)
    (hStep : Catalog.UnprobedStep s l t) :
    t.Rests := by
  rcases hStep with ⟨hStep, hUnprobed⟩
  have hIdle : t.calls = 0 := by
    rw [hStep.calls_eq, hRests.idle]
  have hRun
      (hRun :
        ∀ p, ∃ ls,
          Transition.Run (Catalog.FreshStep p) s ls t) :
      t.Rests := by
    refine ⟨hIdle, ?_⟩
    intro p found hFound
    rcases hRun p with ⟨ls, hRun⟩
    exact Catalog.coherent_of_run
      (Catalog.fetched_of_idle hRests.idle)
      (fun found hFound =>
        Or.inl (hRests.coherent p found hFound))
      hRun hIdle hFound
  cases hStep with
  | tick hLater =>
      exact hRun fun p =>
        ⟨_, .single ⟨.tick hLater, trivial⟩⟩
  | createProduct id name description priceFen =>
      rcases s.createProduct_cases id name description
          priceFen with
        ⟨e, hFailed⟩ |
        ⟨row, products, rfl, hInsert, hCreated⟩
      · rw [hFailed]
        exact hRests
      · rw [hCreated]
        exact hRests.insert hInsert hUnprobed
  | getProductByID unixNano id hLater =>
      exact hRun fun p =>
        s.getProductByID_run p unixNano id hLater
  | setProductStatus status id =>
      exact hRun fun p => s.setProductStatus_run p status id

/- A lookup answers like the database when the cache is
   right. -/
theorem Catalog.Coherent.getProductByID
    {s : Catalog}
    (hCoherent : s.Coherent)
    (fillTime : Time)
    (unixNano : Nat)
    (id : Int) :
    (s.getProductByID fillTime unixNano id).1 =
      s.readProduct id := by
  unfold Catalog.getProductByID Catalog.readProduct
  cases hFound : s.cached id with
  | none => rfl
  | some found => rw [hCoherent id found hFound]

/- As long as no created product was probed, every lookup
   answers like the database. -/
theorem getProductByID_transparent
    {s t : Catalog}
    {ls : List CatalogCall}
    (hIdle : s.calls = 0)
    (hCoherent : s.Coherent)
    (hRun : Transition.Run Catalog.UnprobedStep s ls t)
    (fillTime : Time)
    (unixNano : Nat)
    (id : Int) :
    (t.getProductByID fillTime unixNano id).1 =
      t.readProduct id := by
  have hRests : t.Rests :=
    hRun.invariant (fun _ _ _ hRests => hRests.step)
      ⟨hIdle, hCoherent⟩
  exact hRests.coherent.getProductByID fillTime unixNano id

/- Otherwise the created product is not found. -/
theorem Catalog.createProduct_probed
    {s t : Catalog}
    {id : Int}
    {name description : String}
    {priceFen : Int}
    {row : ProductRow}
    (hProbed : s.cached id = some none)
    (hCreate :
      s.createProduct id name description priceFen =
        (.ok row, t))
    (fillTime : Time)
    (unixNano : Nat) :
    t.readProduct id = .ok row ∧
      (t.getProductByID fillTime unixNano id).1 =
        .error .productNotFound := by
  rcases s.createProduct_cases id name description priceFen with
    ⟨e, hFailed⟩ | ⟨row', products, rfl, hInsert, hCreated⟩
  · rw [hFailed] at hCreate
    cases hCreate
  · rw [hCreated] at hCreate
    cases hCreate
    constructor
    · have hFind :
          products.find? row.product.id = some row := by
        rw [Table.find?_of_insert? hInsert]
        exact if_pos rfl
      unfold Catalog.readProduct
      rw [hFind]
      rfl
    · have hStale :
          Catalog.cached { s with products := products }
            row.product.id = some none :=
        hProbed
      unfold Catalog.getProductByID
      rw [hStale]
      rfl

/- Before any product is created. -/
def bareShelf : Catalog where
  clock := 0
  products := Table.empty
  cache := fun _ => none
  calls := 0

def stockedShelf : Catalog :=
  (bareShelf.createProduct 1 "tea" "" 250).2

/- Looked up, and put on sale after that. -/
def openedShelf : Catalog :=
  ((stockedShelf.getProductByID 5 0 1).2.setProductStatus
    .onSale 1).2

theorem getProductByID_transparent_sample :
    (openedShelf.getProductByID 9 0 1).1 =
      openedShelf.readProduct 1 := by
  have hUnprobed :
      bareShelf.Unprobed (.createProduct 1 "tea" "" 250) :=
    fun hFound => by cases hFound
  have hLater : stockedShelf.clock ≤ 5 := by
    decide +kernel
  have hRun :
      Transition.Run Catalog.UnprobedStep bareShelf
        [ .createProduct 1 "tea" "" 250,
          .getProductByID 1,
          .setProductStatus 1 .onSale ]
        openedShelf :=
    .cons ⟨.createProduct _ 1 "tea" "" 250, hUnprobed⟩
      (.cons ⟨.getProductByID 0 1 hLater, trivial⟩
        (.single ⟨.setProductStatus _ .onSale 1, trivial⟩))
  exact getProductByID_transparent rfl
    (fun _ _ hFound => by cases hFound) hRun 9 0 1

/- An id that was looked up before it was handed out. -/
theorem getProductByID_probed :
    ¬ ∀ (s t : Catalog) (ls : List CatalogCall)
        (fillTime : Time) (unixNano : Nat) (id : Int),
      s.calls = 0 →
      (∀ id, s.cache id = none) →
      Transition.Run Catalog.CallStep s ls t →
      t.clock ≤ fillTime →
      0 < id →
      (t.getProductByID fillTime unixNano id).1 =
        t.readProduct id := by
  intro hTransparent
  let probed := (bareShelf.getProductByID 1 0 1).2
  have hRun :
      Transition.Run Catalog.CallStep bareShelf
        [.getProductByID 1, .createProduct 1 "tea" "" 250]
        (probed.createProduct 1 "tea" "" 250).2 :=
    .cons (.getProductByID 0 1 (by decide))
      (.single (.createProduct _ 1 "tea" "" 250))
  have hSame :=
    hTransparent _ _ _ 1 0 1 rfl (fun _ => rfl) hRun
      (by decide +kernel) (by decide)
  revert hSame
  decide +kernel

end OrderManagement
