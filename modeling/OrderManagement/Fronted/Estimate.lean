import OrderManagement.Fronted.Format
import OrderManagement.Fronted.OrderSubmission
import OrderManagement.Model.Schema

/-
  The rows of the order form: the request that they parse to,
  and the amount that the page announces for them.

  Main declarations:
    * `parseCreateOrderPayload`
    * `estimatedAmountFen`
    * `tracks_estimatedAmountFen`
-/

namespace OrderManagement

open BinaryFormat

------------------------------------------------------------
-- Rows
------------------------------------------------------------

/- What `Number` makes of the texts of a row, and `none` for
   a number with a sign or a fraction. -/
structure DraftOrderItem where
  productID : Option JsNumber
  quantity : Option JsNumber

/- `Number.isInteger(x) && x > 0` -/
def JsNumber.isPositiveInteger
    (x : JsNumber) : Bool :=
  x.value?.any fun n => 0 < n

def DraftOrderItem.parsed
    (item : DraftOrderItem) :
    Option CreateOrderItemRequest :=
  match item.productID.bind Whole.value?,
    item.quantity.bind Whole.value? with
  | some productID, some quantity =>
      if 0 < productID ∧ 0 < quantity then
        some ⟨productID, quantity⟩
      else
        none
  | _, _ => none

/- No payload for a row that does not parse, or for a product
   with two rows. -/
def parseCreateOrderPayload
    (items : List DraftOrderItem) :
    Option CreateOrderPayload := do
  let parsed ← items.mapM DraftOrderItem.parsed
  if (parsed.map CreateOrderItemRequest.productID).Nodup then
    some ⟨parsed⟩
  else
    none

------------------------------------------------------------
-- The Estimate
------------------------------------------------------------

/- A product of the list that the page has read. -/
structure ListedProduct where
  id : JsNumber
  priceFen : JsNumber

/- Neither an identifier nor a price has a sign. -/
def ListedProduct.ofProduct
    (product : Product) : ListedProduct where
  id := Whole.ofNat product.id.toNat
  priceFen := Whole.ofNat product.priceFen.toNat

/- The first product with the identifier of the row. -/
def listedProduct
    (onSaleProducts : List ListedProduct)
    (item : DraftOrderItem) : Option ListedProduct :=
  onSaleProducts.find? fun candidate =>
    item.productID.any fun id => candidate.id.equals id

/- One round of the loop. -/
def addEstimate
    (onSaleProducts : List ListedProduct)
    (total : JsNumber)
    (item : DraftOrderItem) : JsNumber :=
  match listedProduct onSaleProducts item, item.quantity with
  | some product, some quantity =>
      if quantity.isPositiveInteger then
        total.add (product.priceFen.mul quantity)
      else
        total
  | _, _ => total

def estimatedAmountFen
    (onSaleProducts : List ListedProduct)
    (items : List DraftOrderItem) : JsNumber :=
  items.foldl (addEstimate onSaleProducts) (Whole.ofNat 0)

------------------------------------------------------------
-- Parsed Rows
------------------------------------------------------------

/- A row that parses holds two positive integers. -/
structure DraftOrderItem.Holds
    (item : DraftOrderItem)
    (id count : JsNumber)
    (a b : Nat) : Prop where
  productID : item.productID = some id
  quantity : item.quantity = some count
  idValue : id.value? = some a
  quantityValue : count.value? = some b
  idPos : 0 < a
  quantityPos : 0 < b

theorem DraftOrderItem.holds_of_parsed
    {item : DraftOrderItem}
    {request : CreateOrderItemRequest}
    (hParsed : item.parsed = some request) :
    ∃ id quantity a b,
      item.Holds id quantity a b ∧ request = ⟨a, b⟩ := by
  unfold parsed at hParsed
  split at hParsed
  case h_2 => cases hParsed
  case h_1 a b hID hQuantity =>
    rcases Option.bind_eq_some_iff.mp hID with
      ⟨id, hID, hIDValue⟩
    rcases Option.bind_eq_some_iff.mp hQuantity with
      ⟨quantity, hQuantity, hQuantityValue⟩
    rw [Option.ite_none_right_eq_some, Option.some.injEq]
      at hParsed
    rcases hParsed with ⟨⟨hIDPos, hQuantityPos⟩, rfl⟩
    exact ⟨id, quantity, a, b,
      ⟨hID, hQuantity, hIDValue, hQuantityValue, hIDPos,
        hQuantityPos⟩, rfl⟩

/- The page finds the product of a row, if its identifier is
   a safe number. -/
theorem listedProduct_of_mem
    {products : List Product}
    {item : DraftOrderItem}
    {id quantity : JsNumber}
    {a b : Nat}
    (hHolds : item.Holds id quantity a b)
    (hSafe : a < 2 ^ 53)
    (hListed : ∃ product ∈ products, product.id = a) :
    ∃ product ∈ products,
      product.id = a ∧
        listedProduct (products.map ListedProduct.ofProduct)
            item =
          some (.ofProduct product) := by
  have hMatch
      (product : Product) :
      (item.productID.any fun id =>
          (ListedProduct.ofProduct product).id.equals id) =
          true ↔
        product.id.toNat = a := by
    rw [hHolds.productID, Option.any_some,
      Whole.equals_iff hHolds.idValue]
    dsimp only [ListedProduct.ofProduct]
    exact Whole.tracks_ofNat product.id.toNat a hSafe
  have hPos := hHolds.idPos
  unfold listedProduct
  rw [List.find?_map]
  cases hFind : products.find? _ with
  | none =>
      rcases hListed with ⟨product, hMem, hID⟩
      rw [List.find?_eq_none] at hFind
      exact absurd ((hMatch product).mpr (by omega))
        (hFind product hMem)
  | some product =>
      have hFound := List.find?_some hFind
      have hID := (hMatch product).mp hFound
      exact ⟨product, List.mem_of_find?_eq_some hFind,
        by omega, rfl⟩

------------------------------------------------------------
-- The Sum
------------------------------------------------------------

/- A round adds what its row costs. -/
theorem tracks_addEstimate
    {products : List Product}
    {price : Int → Int}
    {total : JsNumber}
    {item : DraftOrderItem}
    {request : CreateOrderItemRequest}
    {n : Nat}
    (hPrice :
      ∀ product ∈ products,
        price product.id = product.priceFen)
    (hTotal : total.Tracks n)
    (hParsed : item.parsed = some request)
    (hSafe : request.productID < 2 ^ 53)
    (hListed :
      ∃ product ∈ products,
        product.id = request.productID) :
    ∃ m : Nat,
      (m : Int) =
          n + price request.productID * request.quantity ∧
        (addEstimate (products.map ListedProduct.ofProduct)
          total item).Tracks m := by
  rcases DraftOrderItem.holds_of_parsed hParsed with
    ⟨id, quantity, a, b, hHolds, rfl⟩
  dsimp only at hSafe hListed ⊢
  rcases listedProduct_of_mem hHolds (by omega) hListed with
    ⟨product, hMem, hID, hFound⟩
  have hPositive := product.priceFenPositive
  have hCast : (product.priceFen.toNat : Int) = product.priceFen :=
    Int.toNat_of_nonneg hPositive.le
  have hInteger : quantity.isPositiveInteger = true := by
    unfold JsNumber.isPositiveInteger
    rw [hHolds.quantityValue]
    exact decide_eq_true hHolds.quantityPos
  refine ⟨n + product.priceFen.toNat * b, ?_, ?_⟩
  · rw [← hID, hPrice product hMem, Nat.cast_add,
      Nat.cast_mul, hCast]
  · unfold addEstimate
    rw [hFound, hHolds.quantity]
    dsimp only [ListedProduct.ofProduct]
    rw [if_pos hInteger]
    exact hTotal.add
      ((Whole.tracks_ofNat _).mul_value hHolds.quantityValue
        hHolds.quantityPos)

/-
  While every product of the rows is on the list, the page
  adds up what they cost, as far as its numbers are safe.
-/
theorem tracks_estimatedAmountFen
    {products : List Product}
    {price : Int → Int}
    {rows : List DraftOrderItem}
    {items : List CreateOrderItemRequest}
    (hPrice :
      ∀ product ∈ products,
        price product.id = product.priceFen)
    (hParsed : rows.mapM DraftOrderItem.parsed = some items)
    (hSafe : ∀ item ∈ items, item.productID < 2 ^ 53)
    (hListed :
      ∀ item ∈ items, ∃ product ∈ products,
        product.id = item.productID) :
    ∃ m : Nat,
      (m : Int) =
          (items.map fun item =>
            price item.productID * item.quantity).sum ∧
        (estimatedAmountFen
          (products.map ListedProduct.ofProduct)
          rows).Tracks m := by
  have hLoop
      (total : JsNumber)
      (n : Nat)
      (hTotal : total.Tracks n) :
      ∃ m : Nat,
        (m : Int) =
            n + (items.map fun item =>
              price item.productID * item.quantity).sum ∧
          (rows.foldl
            (addEstimate
              (products.map ListedProduct.ofProduct))
            total).Tracks m := by
    induction rows generalizing items total n with
    | nil =>
        cases hParsed
        exact ⟨n, by simp, hTotal⟩
    | cons row rows ih =>
        rw [List.mapM_cons] at hParsed
        simp only [Option.bind_eq_bind,
          Option.bind_eq_some_iff, Option.pure_def,
          Option.some.injEq] at hParsed
        rcases hParsed with ⟨item, hRow, rest, hRest, rfl⟩
        rw [List.forall_mem_cons] at hSafe hListed
        rcases tracks_addEstimate hPrice hTotal hRow hSafe.1
            hListed.1 with
          ⟨k, hK, hAdded⟩
        rcases ih hRest hSafe.2 hListed.2 _ k hAdded with
          ⟨m, hM, hAll⟩
        refine ⟨m, ?_, hAll⟩
        rw [hM, hK, List.map_cons, List.sum_cons, add_assoc]
  rcases hLoop _ 0 (Whole.tracks_ofNat 0) with
    ⟨m, hM, hTracks⟩
  exact ⟨m, by simpa using hM, hTracks⟩

end OrderManagement
