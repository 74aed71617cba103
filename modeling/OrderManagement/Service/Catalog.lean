import OrderManagement.Bizcache.ProductCache
import OrderManagement.Library.CacheAside
import OrderManagement.Service.Inventory
import Mathlib.Data.Multiset.Filter

/-
  The product service with its cache, step by step, when any
  number of calls are in flight. Redis works, and entries
  expire with the clock.

  Main declarations:
    * `Catalog`, `ProductCall`, and `CatalogEvent`
    * `Catalog.Step` and `Catalog.FreshStep`
    * `Catalog.view` with `Catalog.FreshStep.view`
    * `Catalog.Covered` and `Catalog.coherent_of_run`
-/

namespace OrderManagement

------------------------------------------------------------
-- States
------------------------------------------------------------

/-
  How far a call has come: GetProductByID looks into the
  cache, reads the row after a miss, and fills the cache;
  OnSaleProduct and OffSaleProduct read the row, update it,
  and delete its entry.
-/
inductive ProductCall
| get (id : Int)
| missed (id : Int)
| fetched (id : Int) (row : Option ProductRow)
| setStatus (id : Int) (status : ProductStatus)
| checked (id : Int) (status : ProductStatus)
| updated (id : Int)
deriving DecidableEq

structure Catalog where
  clock : Time
  products : Table ProductRow
  cache : ProductCache
  calls : Multiset ProductCall

/- What a call finds in the cache now. -/
def Catalog.cached
    (s : Catalog)
    (id : Int) : Option (Option ProductRow) :=
  ProductCache.getProductDetail s.clock s.cache id

/- A row with another status, as an UPDATE leaves it. -/
def ProductRow.withStatus
    (row : ProductRow)
    (status : ProductStatus)
    (now : Time) : ProductRow where
  product := { row.product with status := status }
  createdAt := row.createdAt
  updatedAt := now

/- The products after UPDATE ... SET status WHERE id. -/
def updateProductStatus
    (products : Table ProductRow)
    (id : Int)
    (status : ProductStatus)
    (now : Time) : Table ProductRow :=
  match products.find? id with
  | none => products
  | some row => products.update (row.withStatus status now)

/- What a reader leaves in the cache. -/
def fillProductCache
    (now : Time)
    (unixNano : Nat)
    (cache : ProductCache)
    (id : Int) : Option ProductRow → ProductCache
| some row => ProductCache.setProductDetail now cache row
| none =>
    ProductCache.setProductDetailEmpty now unixNano cache id

/- What is read after a fill, if it stores anything. -/
theorem getProductDetail_fillProductCache
    (now : Time)
    (unixNano : Nat)
    (cache : ProductCache)
    {id : Int}
    {row : Option ProductRow}
    (hRow : ∀ r, row = some r → r.product.id = id)
    (hNone : row = none → 0 < id) :
    ProductCache.getProductDetail now
        (fillProductCache now unixNano cache id row) =
      Function.update
        (ProductCache.getProductDetail now cache) id
        (some row) := by
  cases row with
  | some r =>
      have hID : r.product.id = id := hRow r rfl
      subst hID
      exact
        ProductCache.getProductDetail_setProductDetail _ _ _
  | none =>
      exact
        ProductCache.getProductDetail_setProductDetailEmpty
          _ _ _ (hNone rfl)

------------------------------------------------------------
-- Steps
------------------------------------------------------------

inductive CatalogEvent
| tick
| begin (call : ProductCall)
| hit (id : Int)
| miss (id : Int)
| fetch (id : Int)
| fill (id : Int) (row : Option ProductRow)
| refuse (id : Int)
| check (id : Int)
| update (id : Int)
| delete (id : Int)
| fail (call : ProductCall)

/- A call begins as one of the two kinds. -/
def ProductCall.Starts : ProductCall → Prop
| .get _ | .setStatus .. => True
| .missed _ | .fetched .. | .checked .. | .updated _ => False

/- A call whose next statement MySQL may refuse, so that the
   call returns the error. -/
def ProductCall.MayFail : ProductCall → Prop
| .missed _ | .setStatus .. | .checked .. => True
| .get _ | .fetched .. | .updated _ => False

inductive Catalog.Step :
    Catalog → CatalogEvent → Catalog → Prop
| tick
    {s : Catalog}
    {now : Time}
    (hLater : s.clock ≤ now) :
    Catalog.Step s .tick { s with clock := now }
| begin
    (s : Catalog)
    {call : ProductCall}
    (hStarts : call.Starts) :
    Catalog.Step s (.begin call)
      { s with calls := call ::ₘ s.calls }
| hit
    {s : Catalog}
    {id : Int}
    {rest : Multiset ProductCall}
    {found : Option ProductRow}
    (hCalls : s.calls = .get id ::ₘ rest)
    (hFound : s.cached id = some found) :
    Catalog.Step s (.hit id) { s with calls := rest }
| miss
    {s : Catalog}
    {id : Int}
    {rest : Multiset ProductCall}
    (hCalls : s.calls = .get id ::ₘ rest)
    (hMiss : s.cached id = none) :
    Catalog.Step s (.miss id)
      { s with calls := .missed id ::ₘ rest }
| fetch
    {s : Catalog}
    {id : Int}
    {rest : Multiset ProductCall}
    (hCalls : s.calls = .missed id ::ₘ rest) :
    Catalog.Step s (.fetch id)
      { s with
        calls := .fetched id (s.products.find? id) ::ₘ rest }
| fill
    {s : Catalog}
    {id : Int}
    {row : Option ProductRow}
    {rest : Multiset ProductCall}
    (unixNano : Nat)
    (hCalls : s.calls = .fetched id row ::ₘ rest) :
    Catalog.Step s (.fill id row)
      { s with
        cache :=
          fillProductCache s.clock unixNano s.cache id row
        calls := rest }
| refuse
    {s : Catalog}
    {id : Int}
    {status : ProductStatus}
    {rest : Multiset ProductCall}
    (hCalls : s.calls = .setStatus id status ::ₘ rest)
    (hRefused :
      ∀ row, s.products.find? id = some row →
        row.product.status = status) :
    Catalog.Step s (.refuse id) { s with calls := rest }
| check
    {s : Catalog}
    {id : Int}
    {status : ProductStatus}
    {row : ProductRow}
    {rest : Multiset ProductCall}
    (hCalls : s.calls = .setStatus id status ::ₘ rest)
    (hFind : s.products.find? id = some row)
    (hStatus : row.product.status ≠ status) :
    Catalog.Step s (.check id)
      { s with calls := .checked id status ::ₘ rest }
| update
    {s : Catalog}
    {id : Int}
    {status : ProductStatus}
    {rest : Multiset ProductCall}
    (hCalls : s.calls = .checked id status ::ₘ rest) :
    Catalog.Step s (.update id)
      { s with
        products :=
          updateProductStatus s.products id status s.clock
        calls := .updated id ::ₘ rest }
| delete
    {s : Catalog}
    {id : Int}
    {rest : Multiset ProductCall}
    (hCalls : s.calls = .updated id ::ₘ rest) :
    Catalog.Step s (.delete id)
      { s with
        cache :=
          ProductCache.deleteProductDetailCache s.cache id
        calls := rest }
| fail
    {s : Catalog}
    {call : ProductCall}
    {rest : Multiset ProductCall}
    (hCalls : s.calls = call ::ₘ rest)
    (hFails : call.MayFail) :
    Catalog.Step s (.fail call) { s with calls := rest }

------------------------------------------------------------
-- The Protocol of the Cache
------------------------------------------------------------

/- What a call will still write to the cache. -/
def ProductCall.pendingFill :
    ProductCall → Option (Int × Option ProductRow)
| .fetched id row => some (id, row)
| .get _ | .missed _ | .setStatus .. | .checked ..
| .updated _ => none

/- The entry that a call will still delete. -/
def ProductCall.pendingDelete : ProductCall → Option Int
| .updated id => some id
| .get _ | .missed _ | .fetched .. | .setStatus ..
| .checked .. => none

/- The catalog as a store with a cache: under each id there
   is a row, or that there is none. -/
def Catalog.view
    (s : Catalog) : CacheAside.State Int (Option ProductRow)
    where
  store := s.products.find?
  cache := s.cached
  fills := s.calls.filterMap ProductCall.pendingFill
  deletes := s.calls.filterMap ProductCall.pendingDelete

/- A reader carries the row of the id that it asks for. -/
def Catalog.Fetched
    (s : Catalog) : Prop :=
  ∀ id row, ProductCall.fetched id (some row) ∈ s.calls →
    row.product.id = id

theorem Catalog.Step.fetched
    {s t : Catalog}
    {l : CatalogEvent}
    (hStep : Catalog.Step s l t)
    (hFetched : s.Fetched) :
    t.Fetched := by
  intro id row hMem
  cases hStep with
  | tick => exact hFetched id row hMem
  | @begin call hStarts =>
      rcases Multiset.mem_cons.mp hMem with rfl | hOld
      · cases hStarts
      · exact hFetched id row hOld
  | hit hCalls | fill unixNano hCalls | refuse hCalls
  | delete hCalls | fail hCalls =>
      refine hFetched id row ?_
      rw [hCalls]
      exact Multiset.mem_cons_of_mem hMem
  | miss hCalls | check hCalls | update hCalls =>
      refine hFetched id row ?_
      rw [hCalls]
      rcases Multiset.mem_cons.mp hMem with hNew | hOld
      · cases hNew
      · exact Multiset.mem_cons_of_mem hOld
  | @fetch id' rest hCalls =>
      rcases Multiset.mem_cons.mp hMem with hNew | hOld
      · rcases ProductCall.fetched.inj hNew with ⟨rfl, hFound⟩
        exact Table.key_of_find? hFound.symm
      · refine hFetched id row ?_
        rw [hCalls]
        exact Multiset.mem_cons_of_mem hOld

/-
  A fill of a product is fresh when the row is still the one
  that was read, or when an update of the product has yet to
  delete the entry. Nothing is asked of other products.
-/
def Catalog.FreshFill
    (id : Int)
    (s : Catalog) : CatalogEvent → Prop
| .fill id' row =>
    id' = id →
      row = s.products.find? id ∨
        ProductCall.updated id ∈ s.calls
| .tick | .begin _ | .hit _ | .miss _ | .fetch _ | .refuse _
| .check _ | .update _ | .delete _ | .fail _ => True

def Catalog.FreshStep
    (id : Int)
    (s : Catalog)
    (l : CatalogEvent)
    (t : Catalog) : Prop :=
  Catalog.Step s l t ∧ s.FreshFill id l

/- The rows after an UPDATE are the old ones, except for the
   one that it changes. -/
theorem find?_updateProductStatus
    (products : Table ProductRow)
    (id : Int)
    (status : ProductStatus)
    (now : Time) :
    (updateProductStatus products id status now).find? =
      Function.update products.find? id
        ((products.find? id).map
          (·.withStatus status now)) := by
  unfold updateProductStatus
  funext id'
  cases hFind : products.find? id with
  | none =>
      by_cases hID : id' = id
      · subst hID
        simpa using hFind
      · simp [hID]
  | some row =>
      have hKey : row.product.id = id := Table.key_of_find? hFind
      have hUpdated :
          Keyed.key (row.withStatus status now) = id := hKey
      dsimp only
      rw [Table.find?_update, hUpdated]
      by_cases hID : id' = id
      · subst hID
        simp [hFind]
      · rw [if_neg (Ne.symm hID), Function.update_of_ne hID]

/- Steps that leave the pending writes to the cache alone. -/
theorem Catalog.run_of_calls
    (s : Catalog)
    {p : Int}
    {calls : Multiset ProductCall}
    (hFills :
      calls.filterMap ProductCall.pendingFill =
        s.calls.filterMap ProductCall.pendingFill)
    (hDeletes :
      calls.filterMap ProductCall.pendingDelete =
        s.calls.filterMap ProductCall.pendingDelete) :
    ∃ ms,
      Transition.Run (CacheAside.AdmittedStep p) s.view ms
        (Catalog.view { s with calls := calls }) := by
  refine ⟨[], ?_⟩
  have hView :
      Catalog.view { s with calls := calls } = s.view := by
    unfold Catalog.view
    rw [hFills, hDeletes]
    rfl
  rw [hView]
  exact Transition.Run.refl _

/- A reader with a row will fill, and an update will delete. -/
theorem pendingFills_fetched
    (id : Int)
    (row : Option ProductRow)
    (rest : Multiset ProductCall) :
    (ProductCall.fetched id row ::ₘ rest).filterMap
        ProductCall.pendingFill =
      (id, row) ::ₘ
        rest.filterMap ProductCall.pendingFill :=
  Multiset.filterMap_cons_some ProductCall.pendingFill _ _ rfl

theorem pendingDeletes_updated
    (id : Int)
    (rest : Multiset ProductCall) :
    (ProductCall.updated id ::ₘ rest).filterMap
        ProductCall.pendingDelete =
      id ::ₘ rest.filterMap ProductCall.pendingDelete :=
  Multiset.filterMap_cons_some ProductCall.pendingDelete _ _ rfl

/- A call that begins has nothing pending. -/
theorem ProductCall.Starts.pending
    {call : ProductCall}
    (hStarts : call.Starts) :
    call.pendingFill = none ∧ call.pendingDelete = none := by
  cases call with
  | get | setStatus => exact ⟨rfl, rfl⟩
  | missed | fetched | checked | updated => cases hStarts

/- Nor has a call that fails. -/
theorem ProductCall.MayFail.pending
    {call : ProductCall}
    (hFails : call.MayFail) :
    call.pendingFill = none ∧ call.pendingDelete = none := by
  cases call with
  | missed | setStatus | checked => exact ⟨rfl, rfl⟩
  | get | fetched | updated => cases hFails

/- A fresh fill is admitted, and so is one that is left out
   because the id cannot be that of a product. -/
theorem Catalog.Fetched.fill
    {s : Catalog}
    {p id : Int}
    {row : Option ProductRow}
    {rest : Multiset ProductCall}
    (hFetched : s.Fetched)
    (unixNano : Nat)
    (hCalls : s.calls = .fetched id row ::ₘ rest)
    (hFresh : s.FreshFill p (.fill id row)) :
    ∃ ms,
      Transition.Run (CacheAside.AdmittedStep p) s.view ms
        (Catalog.view
          { s with
            cache :=
              fillProductCache s.clock unixNano s.cache id row
            calls := rest }) := by
  have hFills :
      s.view.fills =
        (id, row) ::ₘ
          rest.filterMap ProductCall.pendingFill := by
    dsimp only [Catalog.view]
    rw [hCalls, pendingFills_fetched]
  have hDeletes :
      s.view.deletes =
        rest.filterMap ProductCall.pendingDelete := by
    dsimp only [Catalog.view]
    rw [hCalls, Multiset.filterMap_cons_none _ _ rfl]
  by_cases hSkipped : row = none ∧ id ≤ 0
  · rcases hSkipped with ⟨rfl, hID⟩
    refine ⟨[.skip id none],
      Transition.Run.single ⟨?_, trivial⟩⟩
    convert CacheAside.Step.skip hFills using 1
    refine CacheAside.State.ext rfl ?_ rfl hDeletes.symm
    have hCache :
        fillProductCache s.clock unixNano s.cache id none =
          s.cache :=
      if_pos hID
    funext id'
    exact congrArg
      (ProductCache.getProductDetail s.clock · id') hCache
  · refine ⟨[.fill id row],
      Transition.Run.single ⟨?_, ?_⟩⟩
    · convert CacheAside.Step.fill hFills using 1
      refine CacheAside.State.ext rfl ?_ rfl hDeletes.symm
      refine
        getProductDetail_fillProductCache _ _ _ ?_ ?_
      · rintro r rfl
        refine hFetched id r ?_
        rw [hCalls]
        exact Multiset.mem_cons_self _ _
      · rintro rfl
        simpa using hSkipped
    · rintro rfl
      rcases hFresh rfl with hSame | hPending
      · exact Or.inl hSame
      · exact Or.inr
          ((Multiset.mem_filterMap _ _).mpr
            ⟨_, hPending, rfl⟩)

/- Each step of the service is one of the protocol, or none,
   and a fresh fill is admitted. -/
theorem Catalog.FreshStep.view
    {s t : Catalog}
    {p : Int}
    {l : CatalogEvent}
    (hStep : Catalog.FreshStep p s l t)
    (hFetched : s.Fetched) :
    ∃ ms,
      Transition.Run (CacheAside.AdmittedStep p) s.view ms
        t.view := by
  rcases hStep with ⟨hStep, hFresh⟩
  cases hStep with
  | tick hLater =>
      refine ⟨[.expire], Transition.Run.single ⟨?_, trivial⟩⟩
      exact .expire fun id found hFound =>
        ProductCache.getProductDetail_of_le hLater hFound
  | begin hStarts =>
      refine s.run_of_calls ?_ ?_
      · exact Multiset.filterMap_cons_none _ _ hStarts.pending.1
      · exact Multiset.filterMap_cons_none _ _ hStarts.pending.2
  | hit hCalls | refuse hCalls =>
      refine s.run_of_calls ?_ ?_
      · rw [hCalls, Multiset.filterMap_cons_none _ _ rfl]
      · rw [hCalls, Multiset.filterMap_cons_none _ _ rfl]
  | miss hCalls | check hCalls =>
      refine s.run_of_calls ?_ ?_
      · rw [hCalls, Multiset.filterMap_cons_none _ _ rfl,
          Multiset.filterMap_cons_none _ _ rfl]
      · rw [hCalls, Multiset.filterMap_cons_none _ _ rfl,
          Multiset.filterMap_cons_none _ _ rfl]
  | fail hCalls hFails =>
      refine s.run_of_calls ?_ ?_
      · rw [hCalls,
          Multiset.filterMap_cons_none _ _ hFails.pending.1]
      · rw [hCalls,
          Multiset.filterMap_cons_none _ _ hFails.pending.2]
  | @fetch id rest hCalls =>
      refine ⟨[.fetch id], Transition.Run.single ⟨?_, trivial⟩⟩
      convert CacheAside.Step.fetch s.view id using 1
      refine CacheAside.State.ext rfl rfl ?_ ?_
      · dsimp only [Catalog.view]
        rw [hCalls, pendingFills_fetched,
          Multiset.filterMap_cons_none _ _ rfl]
      · dsimp only [Catalog.view]
        rw [hCalls, Multiset.filterMap_cons_none _ _ rfl,
          Multiset.filterMap_cons_none _ _ rfl]
  | fill unixNano hCalls =>
      exact hFetched.fill unixNano hCalls hFresh
  | @update id status rest hCalls =>
      refine ⟨[.write id
        ((s.products.find? id).map
          (·.withStatus status s.clock))],
        Transition.Run.single ⟨?_, trivial⟩⟩
      convert CacheAside.Step.write s.view id _ using 1
      refine CacheAside.State.ext ?_ rfl ?_ ?_
      · exact find?_updateProductStatus _ _ _ _
      · dsimp only [Catalog.view]
        rw [hCalls, Multiset.filterMap_cons_none _ _ rfl,
          Multiset.filterMap_cons_none _ _ rfl]
      · dsimp only [Catalog.view]
        rw [hCalls, pendingDeletes_updated,
          Multiset.filterMap_cons_none _ _ rfl]
  | @delete id rest hCalls =>
      have hDeletes :
          s.view.deletes =
            id ::ₘ
              rest.filterMap ProductCall.pendingDelete := by
        dsimp only [Catalog.view]
        rw [hCalls, pendingDeletes_updated]
      refine ⟨[.delete id], Transition.Run.single ⟨?_, trivial⟩⟩
      convert CacheAside.Step.delete hDeletes using 1
      refine CacheAside.State.ext rfl ?_ ?_ rfl
      · exact
          ProductCache.getProductDetail_deleteProductDetailCache
            _ _ _
      · dsimp only [Catalog.view]
        rw [hCalls, Multiset.filterMap_cons_none _ _ rfl]

/- Over a run, readers carry the rows that they asked for, and
   no entry of the product is left behind. -/
theorem Catalog.covered_of_run
    {s t : Catalog}
    {p : Int}
    {ls : List CatalogEvent}
    (hFetched : s.Fetched)
    (hCovered : CacheAside.Covered p s.view)
    (hRun : Transition.Run (Catalog.FreshStep p) s ls t) :
    CacheAside.Covered p t.view := by
  refine And.right
    (hRun.invariant
      (P := fun u =>
        u.Fetched ∧ CacheAside.Covered p u.view)
      ?_ ⟨hFetched, hCovered⟩)
  intro u l v hInv hStep
  rcases hStep.view hInv.1 with ⟨ms, hView⟩
  exact ⟨hStep.1.fetched hInv.1, hInv.2.run hView⟩

------------------------------------------------------------
-- Between Calls
------------------------------------------------------------

/- What is read from the cache is what the database holds. -/
def Catalog.Coherent
    (s : Catalog) : Prop :=
  ∀ id found,
    s.cached id = some found → found = s.products.find? id

/- The entry of a product is right, or it will be deleted by
   a call that has updated the row. -/
def Catalog.Covered
    (s : Catalog)
    (p : Int) : Prop :=
  ∀ found,
    s.cached p = some found →
      found = s.products.find? p ∨
        ProductCall.updated p ∈ s.calls

theorem Catalog.fetched_of_idle
    {s : Catalog}
    (hIdle : s.calls = 0) :
    s.Fetched := by
  intro id row hMem
  rw [hIdle] at hMem
  exact absurd hMem (Multiset.notMem_zero _)

/- Nothing is left to be deleted when no call is in flight. -/
theorem Catalog.coherent_of_run
    {s t : Catalog}
    {p : Int}
    {ls : List CatalogEvent}
    (hFetched : s.Fetched)
    (hStart : s.Covered p)
    (hRun : Transition.Run (Catalog.FreshStep p) s ls t)
    (hEnd : t.calls = 0)
    {found : Option ProductRow}
    (hFound : t.cached p = some found) :
    found = t.products.find? p := by
  have hCovered : CacheAside.Covered p s.view := by
    intro found hFound
    rcases hStart found hFound with hSame | hUpdated
    · exact Or.inl hSame
    · exact Or.inr
        ((Multiset.mem_filterMap _ _).mpr
          ⟨_, hUpdated, rfl⟩)
  have hDeletes : p ∉ t.view.deletes := by
    dsimp only [Catalog.view]
    rw [hEnd, Multiset.filterMap_zero]
    exact Multiset.notMem_zero p
  exact
    (Catalog.covered_of_run hFetched hCovered hRun).coherent
      hDeletes found hFound

end OrderManagement
