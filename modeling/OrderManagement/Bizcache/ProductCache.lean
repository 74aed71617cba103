import OrderManagement.Model.Schema
import Mathlib.Logic.Function.Basic

/-
  The cache of product details. Redis holds the JSON of a
  product, or the sentinel of an id that has no product,
  under `product:detail:{id}` until it expires.

  Main declarations:
    * `ProductRow` and `ProductCacheEntry`
    * `ProductCache.getProductDetail`
    * `ProductCache.setProductDetail`,
      `ProductCache.setProductDetailEmpty`,
      `ProductCache.deleteProductDetailCache`
-/

namespace OrderManagement

------------------------------------------------------------
-- Rows and Entries
------------------------------------------------------------

/- A row of products with the columns that GORM maintains,
   which its JSON carries too. -/
structure ProductRow where
  product : Product
  createdAt : Time
  updatedAt : Time
deriving DecidableEq

instance : Keyed ProductRow Int where
  key row := row.product.id

@[simp] theorem key_productRow
    (row : ProductRow) :
    Keyed.key row = row.product.id := rfl

/- A value of Redis: the JSON of a product, from which the
   same product is read, or `__NULL_PRODUCT__`. -/
inductive ProductCacheValue
| detail (row : ProductRow)
| nullSentinel
deriving DecidableEq

structure ProductCacheEntry where
  value : ProductCacheValue
  expiresAt : Time
deriving DecidableEq

/- The entries by the ids of their keys. -/
abbrev ProductCache := Int → Option ProductCacheEntry

def productDetailCacheTTL : Time := 600000

def productDetailNullCacheTTL : Time := 60000

/- Up to 15 seconds more, from the nanoseconds of the clock. -/
def nullCacheTTLWithJitter
    (unixNano : Nat) : Time :=
  productDetailNullCacheTTL + (unixNano % 16 : Nat) * 1000

/- The row that a value stands for; the sentinel says that
   there is none. -/
def ProductCacheValue.row :
    ProductCacheValue → Option ProductRow
| .detail row => some row
| .nullSentinel => none

------------------------------------------------------------
-- Operations
------------------------------------------------------------

namespace ProductCache

/- Nothing, for a miss; else a row, or that there is none. -/
def getProductDetail
    (now : Time)
    (cache : ProductCache)
    (productID : Int) : Option (Option ProductRow) :=
  match cache productID with
  | none => none
  | some entry =>
      if now < entry.expiresAt then some entry.value.row
      else none

def setProductDetail
    (now : Time)
    (cache : ProductCache)
    (row : ProductRow) : ProductCache :=
  Function.update cache row.product.id
    (some ⟨.detail row, now + productDetailCacheTTL⟩)

def setProductDetailEmpty
    (now : Time)
    (unixNano : Nat)
    (cache : ProductCache)
    (productID : Int) : ProductCache :=
  if productID ≤ 0 then
    cache
  else
    Function.update cache productID
      (some
        ⟨.nullSentinel, now + nullCacheTTLWithJitter unixNano⟩)

def deleteProductDetailCache
    (cache : ProductCache)
    (productID : Int) : ProductCache :=
  Function.update cache productID none

------------------------------------------------------------
-- What Is Read After an Operation
------------------------------------------------------------

theorem nullCacheTTLWithJitter_pos
    (unixNano : Nat) :
    0 < nullCacheTTLWithJitter unixNano := by
  unfold nullCacheTTLWithJitter productDetailNullCacheTTL
  exact Int.add_pos_of_pos_of_nonneg (by decide)
    (Int.mul_nonneg (Int.natCast_nonneg _) (by decide))

/- A stored value is read until it expires. -/
theorem getProductDetail_update
    {now expiresAt : Time}
    (cache : ProductCache)
    (productID : Int)
    (value : ProductCacheValue)
    (hAhead : now < expiresAt) :
    getProductDetail now
        (Function.update cache productID
          (some ⟨value, expiresAt⟩)) =
      Function.update (getProductDetail now cache) productID
        (some value.row) := by
  funext id
  unfold getProductDetail
  by_cases hID : id = productID
  · subst hID
    simp [hAhead]
  · simp [hID]

theorem getProductDetail_setProductDetail
    (now : Time)
    (cache : ProductCache)
    (row : ProductRow) :
    getProductDetail now (setProductDetail now cache row) =
      Function.update (getProductDetail now cache)
        row.product.id (some (some row)) :=
  getProductDetail_update cache _ (.detail row)
    (Int.lt_add_of_pos_right _ (by decide))

theorem getProductDetail_setProductDetailEmpty
    (now : Time)
    (unixNano : Nat)
    (cache : ProductCache)
    {productID : Int}
    (hPositive : 0 < productID) :
    getProductDetail now
        (setProductDetailEmpty now unixNano cache productID) =
      Function.update (getProductDetail now cache) productID
        (some none) := by
  unfold setProductDetailEmpty
  rw [if_neg (Int.not_le.mpr hPositive)]
  exact getProductDetail_update cache _ .nullSentinel
    (Int.lt_add_of_pos_right _
      (nullCacheTTLWithJitter_pos unixNano))

theorem getProductDetail_deleteProductDetailCache
    (now : Time)
    (cache : ProductCache)
    (productID : Int) :
    getProductDetail now
        (deleteProductDetailCache cache productID) =
      Function.update (getProductDetail now cache) productID
        none := by
  funext id
  unfold getProductDetail deleteProductDetailCache
  by_cases hID : id = productID
  · subst hID
    simp
  · simp [hID]

/- What is read later was there before. -/
theorem getProductDetail_of_le
    {now later : Time}
    {cache : ProductCache}
    {productID : Int}
    {found : Option ProductRow}
    (hLater : now ≤ later)
    (hFound :
      getProductDetail later cache productID = some found) :
    getProductDetail now cache productID = some found := by
  unfold getProductDetail at hFound ⊢
  split at hFound
  case h_1 => cases hFound
  case h_2 entry hEntry =>
    split at hFound
    case isTrue hLive =>
      rw [if_pos (Int.lt_of_le_of_lt hLater hLive)]
      exact hFound
    case isFalse => cases hFound

end ProductCache

end OrderManagement
