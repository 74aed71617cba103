import OrderManagement.Dao.Order

/-
  The reads of `order_service.go`. They run outside of any
  transaction, so each SELECT answers from a snapshot of its
  own.

  Main declarations:
    * `OrderService.getOrderByID`
    * `OrderService.listOrders`
-/

namespace OrderManagement

variable [Deployment]

def maxOrderPage : Int := 1000000

def maxOrderPageSize : Int := 100

namespace OrderService

/- The items are read by the id alone, after the order. -/
def getOrderByID
    (orderView itemView : DB)
    (userID id : Int) :
    Except Err (Order × List OrderItem) :=
  match Dao.getOrderByID orderView userID id with
  | none => .error .orderNotFound
  | some order =>
      .ok (order, Dao.listOrderItemsByOrderID itemView id)

def listOrders
    (countView pageView : DB)
    (userID page pageSize : Int) :
    Except Err (List Order × Nat) :=
  if userID ≤ 0 then
    .error .invalidUserID
  else if page ≤ 0 ∨ maxOrderPage < page ∨
      pageSize ≤ 0 ∨ maxOrderPageSize < pageSize then
    .error .invalidOrderPagination
  else
    let offset := (page - 1) * pageSize
    .ok (Dao.listOrders countView pageView userID
      pageSize.toNat offset.toNat)

end OrderService

end OrderManagement
