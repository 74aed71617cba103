import OrderManagement.Service.Order

/-
  The transactions of `inventory_service.go` and of
  `product_service.go` on the database.

  Main declarations:
    * `InventoryService.initInventory`
    * `InventoryService.addInventory`
    * `ProductService.createProduct`
    * `ProductService.setProductStatus` with its members
-/

namespace OrderManagement

open Transaction

variable [Deployment]

------------------------------------------------------------
-- Inventory
------------------------------------------------------------

namespace InventoryService

/- The checks before the transaction read from `view` too. -/
def initInventory
    (view : DB)
    (productID : Int)
    (stockQuantity : Option Int) : Tx Outcome := do
  let quantity ← fetch stockQuantity .invalidStockQuantity
  ensure (0 ≤ quantity) .invalidStockQuantity
  let product ←
    fetch (Dao.getProductByID view productID) .productNotFound
  ensure
    (Dao.getInventoryByProductID view productID).isNone
    .initInventoryExists
  onError (fun _ => .initInventoryFailed)
    (Dao.initInventory product.id quantity)
  onError (fun _ => .createStockLogFailed)
    (Dao.createStockLog product.id quantity 0 quantity .init
      none ("初始化库存：" ++ product.name))
  return .inventoryInitialised product.id quantity

def addInventory
    (view : DB)
    (productID quantity : Int) : Tx Outcome := do
  ensure (0 < quantity) .invalidAddQuantity
  let found ← Dao.getInventoryByProductIDForUpdate productID
  let inventory ← fetch found .inventoryNotFound
  let product ←
    fetch (Dao.getProductByID view productID) .productNotFound
  let beforeQuantity := inventory.stockQuantity
  let afterQuantity := wrap64 (beforeQuantity + quantity)
  Dao.updateInventoryStockQuantity productID afterQuantity
  onError (fun _ => .createStockLogFailed)
    (Dao.createStockLog productID quantity beforeQuantity
      afterQuantity .manualAdd none
      ("手动入库：补充" ++ product.name))
  return .inventoryAdded productID quantity afterQuantity

end InventoryService

------------------------------------------------------------
-- Products
------------------------------------------------------------

namespace ProductService

/- strings.TrimSpace. -/
def trimSpace (s : String) : String :=
  String.ofList
    ((s.toList.dropWhile isSpace).reverse.dropWhile
      isSpace).reverse

def createProduct
    (id : Int)
    (name description : String)
    (priceFen : Int) : Tx Outcome := do
  let ⟨hPrice⟩ ← check (0 < priceFen) .invalidProductPrice
  ensure (trimSpace name ≠ "") .invalidProductName
  ensure ((trimSpace description).utf8ByteSize ≤ 500)
    .invalidProductDescription
  let product : Product := {
    id := id
    name := trimSpace name
    description := trimSpace description
    priceFen := priceFen
    status := .offSale
    priceFenPositive := hPrice }
  Dao.createProduct product
  return .productCreated product

/- What OnSaleProduct and OffSaleProduct share. -/
def setProductStatus
    (status : ProductStatus)
    (view : DB)
    (id : Int) : Tx Outcome := do
  let product ←
    fetch (Dao.getProductByID view id) .productNotFound
  if product.status = status then
    return .productStatusSet
  else
    Dao.updateProductStatus product.id status
    return .productStatusSet

def onSaleProduct : DB → Int → Tx Outcome :=
  setProductStatus .onSale

def offSaleProduct : DB → Int → Tx Outcome :=
  setProductStatus .offSale

end ProductService

end OrderManagement
