import OrderManagement.Library.Paging
import OrderManagement.Service.OrderQueries

/-
  The listings that are answered page by page. A listing is
  the rows that a filter admits, the newest first; the pages
  of a listing are cut out by LIMIT and OFFSET.

  Main declarations:
    * `OrderStatus.value` and `ordersWhere`
    * `OrderService.listAdminOrders`
    * `ProductService.listProducts`
    * `OrderService.listOrders_eq_ok_iff` and
      `OrderService.listAdminOrders_eq_ok_iff`
-/

namespace OrderManagement

------------------------------------------------------------
-- Orders
------------------------------------------------------------

/- The number that a status is stored as. -/
def OrderStatus.value : OrderStatus → Int
| .pending => 1
| .paid => 2
| .finished => 3
| .cancelled => 4

structure ListAdminOrdersRequest where
  userID : Option Int
  status : Option Int
  page : Int
  pageSize : Int
deriving DecidableEq

def ListAdminOrdersRequest.normalizePagination
    (r : ListAdminOrdersRequest) : ListAdminOrdersRequest :=
  { r with
    page := if r.page ≤ 0 then 1 else r.page
    pageSize :=
      if r.pageSize ≤ 0 then 10
      else if 100 < r.pageSize then 100
      else r.pageSize }

theorem ListAdminOrdersRequest.normalizePagination_page
    {r : ListAdminOrdersRequest}
    (hPage : 0 < r.page) :
    r.normalizePagination.page = r.page := by
  unfold normalizePagination
  exact if_neg (Int.not_le.mpr hPage)

/- The place of a page, counted from zero. -/
theorem toNat_offset
    {page pageSize : Int}
    (hPage : 0 < page)
    (hSize : 0 < pageSize) :
    ((page - 1) * pageSize).toNat =
      (page - 1).toNat * pageSize.toNat := by
  rw [Int.toNat_mul (by omega) hSize.le]

variable [Deployment]

/- The orders that the conditions of a WHERE clause admit. A
   condition that is not given admits every order. -/
def ordersWhere
    (userID status : Option Int)
    (view : DB) : List Order :=
  view.orders.rows.filter fun order =>
    userID.all (fun id => order.userID = id) &&
      status.all fun s => order.status.value = s

/- ORDER BY id DESC. -/
def newestFirst
    (orders : List Order) : List Order :=
  orders.insertionSort fun a b => b.id ≤ a.id

/- COUNT and SELECT answer from snapshots of their own. -/
def Dao.listAdminOrders
    (countView pageView : DB)
    (userID status : Option Int)
    (pageSize offset : Nat) : List Order × Nat :=
  (((newestFirst (ordersWhere userID status pageView)).drop
      offset).take pageSize,
    (ordersWhere userID status countView).length)

def OrderService.listAdminOrders
    (countView pageView : DB)
    (r : ListAdminOrdersRequest) :
    Except Err (List Order × Nat) :=
  let req := r.normalizePagination
  if req.page ≤ 0 ∨ maxOrderPage < req.page ∨
      req.pageSize ≤ 0 ∨ maxOrderPageSize < req.pageSize then
    .error .invalidOrderPagination
  else if req.userID.any (fun id => id ≤ 0) then
    .error .invalidUserID
  else
    let offset := (req.page - 1) * req.pageSize
    .ok (Dao.listAdminOrders countView pageView req.userID
      req.status req.pageSize.toNat offset.toNat)

/- What a page is a part of. -/
def orderListing
    (userID status : Option Int)
    (view : DB) : List Order :=
  newestFirst (ordersWhere userID status view)

theorem mem_ordersWhere_iff
    {userID status : Option Int}
    {view : DB}
    {order : Order} :
    order ∈ ordersWhere userID status view ↔
      order ∈ view.orders.rows ∧
        (∀ id ∈ userID, order.userID = id) ∧
        ∀ s ∈ status, order.status.value = s := by
  cases userID <;> cases status <;>
    simp [ordersWhere, List.mem_filter]

@[simp] theorem mem_orderListing_iff
    {userID status : Option Int}
    {view : DB}
    {order : Order} :
    order ∈ orderListing userID status view ↔
      order ∈ ordersWhere userID status view :=
  List.mem_insertionSort _

theorem length_orderListing
    (userID status : Option Int)
    (view : DB) :
    (orderListing userID status view).length =
      (ordersWhere userID status view).length :=
  List.length_insertionSort _ _

/- No id is listed twice, and the ids descend. -/
theorem pairwise_orderListing
    (userID status : Option Int)
    (view : DB) :
    ((orderListing userID status view).map
      Order.id).Pairwise (· > ·) := by
  apply Paging.pairwise_gt_map_insertionSort
  exact (view.orders.nodup).sublist
    (List.filter_sublist.map Order.id)

/- The orders of a user are listed like those of an
   administrator who asks for this user. -/
theorem OrderService.listOrders_eq_ok_iff
    {countView pageView : DB}
    {userID page pageSize : Int}
    {rows : List Order}
    {total : Nat} :
    OrderService.listOrders countView pageView userID page
        pageSize = .ok (rows, total) ↔
      (0 < userID ∧ 0 < page ∧ page ≤ maxOrderPage ∧
          0 < pageSize ∧ pageSize ≤ maxOrderPageSize) ∧
        rows =
          Paging.page pageSize.toNat (page - 1).toNat
            (orderListing (some userID) none pageView) ∧
        total =
          (orderListing (some userID) none
            countView).length := by
  have hOwn :
      ∀ view : DB,
        (view.orders.rows.filter fun order =>
            order.userID = userID) =
          ordersWhere (some userID) none view := by
    intro view
    simp [ordersWhere]
  unfold OrderService.listOrders
  split
  case isTrue hUser =>
    simp [Int.not_lt.mpr hUser]
  case isFalse hUser =>
    split
    case isTrue hPage =>
      simp only [reduceCtorEq, false_iff]
      omega
    case isFalse hPage =>
      simp only [not_or, Int.not_le, Int.not_lt] at hUser hPage
      simp only [Dao.listOrders, hOwn, length_orderListing,
        toNat_offset hPage.1 hPage.2.2.1, Except.ok.injEq,
        Prod.mk.injEq, Paging.page]
      constructor
      · rintro ⟨rfl, rfl⟩
        exact ⟨⟨hUser, hPage⟩, rfl, rfl⟩
      · rintro ⟨_, rfl, rfl⟩
        exact ⟨rfl, rfl⟩

/- A page number of zero or less asks for the first page, and
   a page has between one and a hundred rows. -/
theorem OrderService.listAdminOrders_eq_ok_iff
    {countView pageView : DB}
    {r : ListAdminOrdersRequest}
    {rows : List Order}
    {total : Nat} :
    OrderService.listAdminOrders countView pageView r =
        .ok (rows, total) ↔
      (r.page ≤ maxOrderPage ∧ ∀ id ∈ r.userID, 0 < id) ∧
        rows =
          Paging.page r.normalizePagination.pageSize.toNat
            (r.normalizePagination.page - 1).toNat
            (orderListing r.userID r.status pageView) ∧
        total =
          (orderListing r.userID r.status
            countView).length := by
  have hPage :
      0 < r.normalizePagination.page ∧
        (maxOrderPage < r.normalizePagination.page ↔
          maxOrderPage < r.page) := by
    unfold ListAdminOrdersRequest.normalizePagination
      maxOrderPage
    dsimp only
    split <;> omega
  have hSize :
      0 < r.normalizePagination.pageSize ∧
        r.normalizePagination.pageSize ≤ maxOrderPageSize := by
    unfold ListAdminOrdersRequest.normalizePagination
      maxOrderPageSize
    dsimp only
    split
    case isTrue => omega
    case isFalse => split <;> omega
  have hUser :
      r.normalizePagination.userID.any (fun id => id ≤ 0) =
          true ↔
        ¬ ∀ id ∈ r.userID, 0 < id := by
    change r.userID.any _ = true ↔ _
    cases r.userID <;> simp
  unfold OrderService.listAdminOrders
  dsimp only
  split
  case isTrue hRefused =>
    have hLarge : ¬ r.page ≤ maxOrderPage := by
      rw [Int.not_le, ← hPage.2]
      omega
    simp [hLarge]
  case isFalse hAdmitted =>
    have hSmall : r.page ≤ maxOrderPage := by
      rw [← Int.not_lt, ← hPage.2]
      omega
    split
    case isTrue hBad =>
      exact iff_of_false (by simp)
        fun hOk => hUser.mp hBad hOk.1.2
    case isFalse hGood =>
      rw [hUser, not_not] at hGood
      simp only [Dao.listAdminOrders, length_orderListing,
        toNat_offset hPage.1 hSize.1, Except.ok.injEq,
        Prod.mk.injEq]
      constructor
      · rintro ⟨rfl, rfl⟩
        exact ⟨⟨hSmall, hGood⟩, rfl, rfl⟩
      · rintro ⟨_, rfl, rfl⟩
        exact ⟨rfl, rfl⟩

------------------------------------------------------------
-- Products
------------------------------------------------------------

def productsWhere
    (status : Option ProductStatus)
    (view : DB) : List Product :=
  view.products.rows.filter fun product =>
    status.all fun s => product.status = s

/- What a page of products is a part of. -/
def productListing
    (status : Option ProductStatus)
    (view : DB) : List Product :=
  (productsWhere status view).insertionSort
    fun a b => b.id ≤ a.id

/- Without a page size all products are listed. The offset is
   a product of int64 values, and gorm writes no OFFSET for
   one that is not positive. -/
def Dao.listProducts
    (countView pageView : DB)
    (status : Option ProductStatus)
    (page pageSize : Int) : List Product × Nat :=
  if 0 < pageSize then
    let offset := wrap64 ((page - 1) * pageSize)
    (((productListing status pageView).drop
        offset.toNat).take pageSize.toNat,
      (productsWhere status countView).length)
  else
    (productListing status pageView,
      if pageSize = 0 then
        (productListing status pageView).length
      else
        0)

structure ListProductsRequest where
  status : Option ProductStatus
  page : Int
  pageSize : Int
deriving DecidableEq

def ProductService.listProducts
    (countView pageView : DB)
    (req : ListProductsRequest) : List Product × Nat :=
  Dao.listProducts countView pageView req.status req.page
    req.pageSize

end OrderManagement
