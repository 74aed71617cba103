import OrderManagement.Service.Catalog

/-
  The calls of `product_service.go` on the database and the
  cache, each from its start to its end.

  Main declarations:
    * `Catalog.createProduct`, `Catalog.getProductByID`,
      `Catalog.setProductStatus`
    * `Catalog.getProductByID_run` and
      `Catalog.setProductStatus_run`
    * `Catalog.createProduct_database` and
      `Catalog.setProductStatus_database`
-/

namespace OrderManagement

open Transaction

------------------------------------------------------------
-- Calls
------------------------------------------------------------

namespace Catalog

/- What a found row, or none, is answered with. -/
def productAnswer : Option ProductRow → Except Err ProductRow
| some row => .ok row
| none => .error .productNotFound

/- A read of the database. -/
def readProduct
    (s : Catalog)
    (id : Int) : Except Err ProductRow :=
  productAnswer (s.products.find? id)

/- The cache is filled at an instant after the lookup. -/
def getProductByID
    (s : Catalog)
    (fillTime : Time)
    (unixNano : Nat)
    (id : Int) : Except Err ProductRow × Catalog :=
  match s.cached id with
  | some found => (productAnswer found, s)
  | none =>
      let row := s.products.find? id
      (productAnswer row,
        { s with
          clock := fillTime
          cache :=
            fillProductCache fillTime unixNano s.cache id
              row })

/- OnSaleProduct and OffSaleProduct. -/
def setProductStatus
    (s : Catalog)
    (status : ProductStatus)
    (id : Int) : Except Err Unit × Catalog :=
  match s.products.find? id with
  | none => (.error .productNotFound, s)
  | some row =>
      if row.product.status = status then
        (.ok (), s)
      else
        (.ok (),
          { s with
            products :=
              updateProductStatus s.products id status s.clock
            cache :=
              ProductCache.deleteProductDetailCache s.cache
                id })

/- The identifier is the one that AUTO_INCREMENT hands out.
   The cache is not touched. -/
def createProduct
    (s : Catalog)
    (id : Int)
    (name description : String)
    (priceFen : Int) : Except Err ProductRow × Catalog :=
  if hPrice : 0 < priceFen then
    if ProductService.trimSpace name = "" then
      (.error .invalidProductName, s)
    else if 500 <
        (ProductService.trimSpace description).utf8ByteSize then
      (.error .invalidProductDescription, s)
    else if 0 < id then
      let product : Product := {
        id := id
        name := ProductService.trimSpace name
        description := ProductService.trimSpace description
        priceFen := priceFen
        status := .offSale
        priceFenPositive := hPrice }
      let row : ProductRow := ⟨product, s.clock, s.clock⟩
      match s.products.insert? row with
      | none => (.error .database, s)
      | some products =>
          (.ok row, { s with products := products })
    else
      (.error .database, s)
  else
    (.error .invalidProductPrice, s)

------------------------------------------------------------
-- Calls as Steps
------------------------------------------------------------

/- The catalog with one more call in flight. -/
abbrev during
    (s : Catalog)
    (call : ProductCall) : Catalog :=
  { s with calls := call ::ₘ s.calls }

/- A lookup that nothing interrupts fills a current row. -/
theorem getProductByID_run
    (s : Catalog)
    (p : Int)
    {fillTime : Time}
    (unixNano : Nat)
    (id : Int)
    (hLater : s.clock ≤ fillTime) :
    ∃ ls,
      Transition.Run (FreshStep p) s ls
        (s.getProductByID fillTime unixNano id).2 := by
  have hBegin :
      FreshStep p s (.begin (.get id)) (s.during (.get id)) :=
    ⟨.begin s trivial, trivial⟩
  unfold getProductByID
  cases hFound : s.cached id with
  | some found =>
      have hHit :
          FreshStep p (s.during (.get id)) (.hit id) s :=
        ⟨.hit rfl hFound, trivial⟩
      exact ⟨_, .cons hBegin (.single hHit)⟩
  | none =>
      let row := s.products.find? id
      let later : Catalog := { s with clock := fillTime }
      have hMiss :
          FreshStep p (s.during (.get id)) (.miss id)
            (s.during (.missed id)) :=
        ⟨.miss rfl hFound, trivial⟩
      have hFetch :
          FreshStep p (s.during (.missed id)) (.fetch id)
            (s.during (.fetched id row)) :=
        ⟨.fetch rfl, trivial⟩
      have hTick :
          FreshStep p (s.during (.fetched id row)) .tick
            (later.during (.fetched id row)) :=
        ⟨.tick hLater, trivial⟩
      have hFill :
          FreshStep p (later.during (.fetched id row))
            (.fill id row)
            { later with
              cache :=
                fillProductCache fillTime unixNano s.cache id
                  row } :=
        ⟨.fill unixNano rfl, by rintro rfl; exact Or.inl rfl⟩
      exact ⟨_,
        .cons hBegin
          (.cons hMiss
            (.cons hFetch (.cons hTick (.single hFill))))⟩

theorem setProductStatus_run
    (s : Catalog)
    (p : Int)
    (status : ProductStatus)
    (id : Int) :
    ∃ ls,
      Transition.Run (FreshStep p) s ls
        (s.setProductStatus status id).2 := by
  have hBegin :
      FreshStep p s (.begin (.setStatus id status))
        (s.during (.setStatus id status)) :=
    ⟨.begin s trivial, trivial⟩
  have hRefuse
      (hRefused :
        ∀ row, s.products.find? id = some row →
          row.product.status = status) :
      FreshStep p (s.during (.setStatus id status))
        (.refuse id) s :=
    ⟨.refuse rfl hRefused, trivial⟩
  unfold setProductStatus
  cases hFind : s.products.find? id with
  | none =>
      refine ⟨_, .cons hBegin (.single (hRefuse ?_))⟩
      intro row hRow
      rw [hFind] at hRow
      cases hRow
  | some row =>
      dsimp only
      split
      case isTrue hSame =>
        refine ⟨_, .cons hBegin (.single (hRefuse ?_))⟩
        intro row' hRow
        rw [hFind] at hRow
        cases hRow
        exact hSame
      case isFalse hStatus =>
        let updated : Catalog :=
          { s with
            products :=
              updateProductStatus s.products id status
                s.clock }
        have hCheck :
            FreshStep p (s.during (.setStatus id status))
              (.check id) (s.during (.checked id status)) :=
          ⟨.check rfl hFind hStatus, trivial⟩
        have hUpdate :
            FreshStep p (s.during (.checked id status))
              (.update id) (updated.during (.updated id)) :=
          ⟨.update rfl, trivial⟩
        have hDelete :
            FreshStep p (updated.during (.updated id))
              (.delete id)
              { updated with
                cache :=
                  ProductCache.deleteProductDetailCache
                    s.cache id } :=
          ⟨.delete rfl, trivial⟩
        exact ⟨_,
          .cons hBegin
            (.cons hCheck
              (.cons hUpdate (.single hDelete)))⟩

end Catalog

------------------------------------------------------------
-- Calls as Transactions
------------------------------------------------------------

/- The rows without the columns that GORM maintains. -/
def bareProducts
    (products : Table ProductRow) : Table Product where
  rows := products.rows.map ProductRow.product
  nodup := by
    rw [List.map_map]
    exact products.nodup

theorem find?_bareProducts
    (products : Table ProductRow)
    (id : Int) :
    (bareProducts products).find? id =
      (products.find? id).map ProductRow.product :=
  List.find?_map ..

theorem insert?_bareProducts
    (products : Table ProductRow)
    (row : ProductRow) :
    (bareProducts products).insert? row.product =
      (products.insert? row).map bareProducts := by
  have hKeys :
      (bareProducts products).rows.map Keyed.key =
        products.rows.map Keyed.key :=
    List.map_map
  unfold Table.insert?
  by_cases hTaken :
      Keyed.key row ∈ products.rows.map Keyed.key
  · have hTaken' :
        Keyed.key row.product ∈
          (bareProducts products).rows.map Keyed.key :=
      hKeys ▸ hTaken
    rw [dif_pos hTaken, dif_pos hTaken']
    rfl
  · have hTaken' :
        Keyed.key row.product ∉
          (bareProducts products).rows.map Keyed.key :=
      hKeys ▸ hTaken
    rw [dif_neg hTaken, dif_neg hTaken']
    refine congrArg some (Table.ext ?_)
    dsimp only [bareProducts]
    rw [List.map_append]
    rfl

theorem update_bareProducts
    (products : Table ProductRow)
    (row : ProductRow) :
    (bareProducts products).update row.product =
      bareProducts (products.update row) := by
  refine Table.ext ?_
  dsimp only [bareProducts, Table.update]
  rw [List.map_map, List.map_map]
  refine List.map_congr_left fun old _ => ?_
  exact (apply_ite ProductRow.product _ _ _).symm

namespace Catalog

variable [Deployment]

/- A database with these products. -/
def database
    (s : Catalog)
    (db : DB) : DB :=
  { db with products := bareProducts s.products }

theorem createProduct_database
    (s : Catalog)
    (db : DB)
    (id : Int)
    (name description : String)
    (priceFen : Int) :
    (ProductService.createProduct id name description
        priceFen).run (s.database db) =
      (s.createProduct id name description priceFen).1.map
        fun row =>
          (.productCreated row.product,
            (s.createProduct id name description
              priceFen).2.database db) := by
  unfold ProductService.createProduct Dao.createProduct
    createProduct
  by_cases hPrice : 0 < priceFen
  case neg =>
    simp [check_bind_neg _ _ hPrice, hPrice]
    rfl
  by_cases hName : ProductService.trimSpace name = ""
  case pos =>
    simp [check_bind_pos _ _ hPrice, ensure, hPrice, hName]
    rfl
  rcases Nat.lt_or_ge 500
      (ProductService.trimSpace description).utf8ByteSize with
    hLong | hShort
  case inl =>
    simp [check_bind_pos _ _ hPrice, ensure, hPrice, hName,
      hLong, Nat.not_le.mpr hLong]
    rfl
  have hNotLong := Nat.not_lt.mpr hShort
  by_cases hID : 0 < id
  case neg =>
    simp [check_bind_pos _ _ hPrice, ensure, hPrice, hName,
      hShort, hNotLong, hID]
    rfl
  let row : ProductRow :=
    ⟨{ id := id
       name := ProductService.trimSpace name
       description := ProductService.trimSpace description
       priceFen := priceFen
       status := .offSale
       priceFenPositive := hPrice }, s.clock, s.clock⟩
  have hInsert :
      (s.database db).products.insert? row.product =
        (s.products.insert? row).map bareProducts :=
    insert?_bareProducts s.products row
  cases hRow : s.products.insert? row with
  | none =>
      rw [hRow] at hInsert
      simp only [row] at hInsert hRow
      simp [check_bind_pos _ _ hPrice, ensure, fetch, hPrice,
        hName, hShort, hNotLong, hID, hRow, hInsert]
      rfl
  | some products =>
      rw [hRow] at hInsert
      simp only [row] at hInsert hRow
      simp [check_bind_pos _ _ hPrice, ensure, fetch, hPrice,
        hName, hShort, hNotLong, hID, hRow, hInsert]
      rfl

theorem setProductStatus_database
    (s : Catalog)
    (db : DB)
    (status : ProductStatus)
    (id : Int) :
    (ProductService.setProductStatus status (s.database db)
        id).run (s.database db) =
      (s.setProductStatus status id).1.map
        fun _ =>
          (.productStatusSet,
            (s.setProductStatus status id).2.database db) := by
  have hBare := find?_bareProducts s.products id
  unfold ProductService.setProductStatus
    Dao.getProductByID setProductStatus database
  cases hFind : s.products.find? id with
  | none =>
      simp [hBare, hFind, fetch]
      rfl
  | some row =>
      have hID : row.product.id = id := Table.key_of_find? hFind
      subst hID
      by_cases hStatus : row.product.status = status
      · simp [hBare, hFind, fetch, hStatus]
        rfl
      · have hUpdate :=
          update_bareProducts s.products
            (row.withStatus status s.clock)
        simp [hBare, hFind, fetch, hStatus,
          Dao.updateProductStatus, updateProductStatus,
          ← hUpdate]
        rfl

end Catalog

end OrderManagement
