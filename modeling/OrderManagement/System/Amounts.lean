import OrderManagement.Service.OrderAmounts
import OrderManagement.System.Serial

/-
  The amounts of the orders of a run, compared with what the
  requests cost over the integers. The price of a product is
  never changed, so a snapshot shows the same prices as the
  database that the order is stored in.

  Main declarations:
    * `PricesKept` and `State.PricesSeen`
    * `costOf` and `AmountsExact`
    * `amounts_exact_iff`
    * `wrapped_amounts_stored`
-/

namespace OrderManagement

open Transaction

variable [Deployment]

------------------------------------------------------------
-- Prices Never Change
------------------------------------------------------------

/- Every product of the earlier database keeps its price. -/
def PricesKept
    (db db' : DB) : Prop :=
  ∀ id product,
    db.products.find? id = some product →
      ∃ product',
        db'.products.find? id = some product' ∧
          product'.priceFen = product.priceFen

theorem PricesKept.of_same
    {db db' : DB}
    (hProducts : db'.products = db.products) :
    PricesKept db db' :=
  fun _ product hFind => ⟨product, hProducts ▸ hFind, rfl⟩

theorem PricesKept.trans
    {a b c : DB}
    (hFirst : PricesKept a b)
    (hSecond : PricesKept b c) :
    PricesKept a c := by
  intro id product hFind
  rcases hFirst id product hFind with
    ⟨product', hFind', hPrice⟩
  rcases hSecond id product' hFind' with
    ⟨product'', hFind'', hPrice'⟩
  exact ⟨product'', hFind'', hPrice'.trans hPrice⟩

theorem Effect.pricesKept
    {view : DB}
    {request : Request}
    {outcome : Outcome}
    {db db' : DB}
    (hEffect : Effect view request outcome db db') :
    PricesKept db db' := by
  cases hEffect with
  | productCreated _ hInsert =>
      intro id product hFind
      exact ⟨product,
        Table.find?_mono_of_insert? hInsert hFind, rfl⟩
  | @productStatusSet _ changed status _ _ hChanged =>
      intro id product hFind
      rw [Table.find?_update]
      split
      case isTrue hKey =>
        rw [key_product] at hKey
        rw [← hKey, hChanged] at hFind
        cases hFind
        exact ⟨{ changed with status := status },
          by rw [← hKey, hChanged]; rfl, rfl⟩
      case isFalse => exact ⟨product, hFind, rfl⟩
  | orderCreated _ hPlaced =>
      exact PricesKept.of_same hPlaced.products
  | orderPaid _ hMoved | orderFinished _ hMoved
  | orderCancelled _ hMoved | orderExpired _ _ hMoved =>
      exact PricesKept.of_same hMoved.products
  | inventoryInitialised | inventoryAdded | productStatusSame
  | orderReplayed | cancelRepeated | expiryRepeated
  | expiryIgnored | expiryLate =>
      exact PricesKept.of_same rfl

/- Every snapshot in use shows the prices of today. -/
def State.PricesSeen
    (s : State) : Prop :=
  ∀ c ∈ s.calls, ∀ acquired view,
    c.stage = .viewed acquired view → PricesKept view s.db

theorem Step.pricesKept
    {s t : State}
    {l : Option Event}
    (hSound : s.Sound)
    (hStep : Step s l t) :
    PricesKept s.db t.db := by
  rcases hStep.effect hSound with
    ⟨_, f, _, _, hTouched⟩ | ⟨_, _, _, _, hResult⟩
  · exact PricesKept.of_same (by rw [hTouched])
  · rcases hResult with
      ⟨_, _, _, _, _, hEffect⟩ | ⟨_, _, hSame⟩
    · exact hEffect.pricesKept
    · exact PricesKept.of_same (by rw [hSame])

theorem Step.pricesSeen
    {s t : State}
    {l : Option Event}
    (hSound : s.Sound)
    (hSeen : s.PricesSeen)
    (hStep : Step s l t) :
    t.PricesSeen := by
  have hKept := hStep.pricesKept hSound
  have hOld :
      ∀ c ∈ s.calls, ∀ acquired view,
        c.stage = .viewed acquired view →
          PricesKept view t.db :=
    fun c hCall acquired view hStage =>
      (hSeen c hCall acquired view hStage).trans hKept
  cases hStep with
  | arrive s request preDeduct =>
      intro c hCall acquired view hStage
      rcases Multiset.mem_cons.mp hCall with rfl | hCall
      · cases hStage
      · exact hOld c hCall acquired view hStage
  | insertKey =>
      intro c hCall acquired view hStage
      rcases Multiset.mem_cons.mp hCall with rfl | hCall
      · cases hStage
      · exact hOld c (Multiset.mem_cons_of_mem hCall) acquired
          view hStage
  | openView | openKeyedView =>
      intro c hCall acquired view hStage
      rcases Multiset.mem_cons.mp hCall with rfl | hCall
      · cases hStage
        exact PricesKept.of_same rfl
      · exact hOld c (Multiset.mem_cons_of_mem hCall) acquired
          view hStage
  | finish | reject | fail =>
      intro c hCall
      exact hOld c (Multiset.mem_cons_of_mem hCall)
  | publish => exact hOld

theorem pricesSeen_of_run
    {s : State}
    {ls : List (Option Event)}
    (hRun : Transition.Run Step State.initial ls s) :
    s.Sound ∧ s.PricesSeen := by
  apply hRun.invariant
    (P := fun s => s.Sound ∧ s.PricesSeen)
  · intro s l t ⟨hSound, hSeen⟩ hStep
    exact ⟨hStep.sound hSound,
      hStep.pricesSeen hSound hSeen⟩
  · refine ⟨State.sound_initial, ?_⟩
    intro c hCall
    cases hCall

/- The call of an event ran on a snapshot that shows the
   prices of the database it wrote to. -/
theorem Reaches.committed
    {events : List Event}
    {s : State}
    (hReaches : Reaches events s)
    {e : Event}
    (hEvent : e ∈ events)
    {outcome : Outcome}
    (hOk : e.response = .ok outcome) :
    ∃ view now nextAttemptAt,
      PricesKept view e.before ∧
        Commits
          (e.request.transaction view now nextAttemptAt)
          e.before outcome e.after := by
  rcases hReaches with ⟨ls, rfl, hRun⟩
  rcases List.mem_filterMap.mp hEvent with
    ⟨l, hLabel, rfl⟩
  rcases hRun.exists_step_of_mem hLabel with
    ⟨_, _, t, t', _, hBefore, hStep, _⟩
  have hSeen := (pricesSeen_of_run hBefore).2
  cases hStep with
  | reject | fail => cases hOk
  | @finish db db' view rest request preDeduct acquired now
      nextAttemptAt response hFinish =>
      rcases Request.run_eq hFinish with
        ⟨outcome', hResponse, hCommit⟩ | ⟨e, hResponse, _⟩
      · rw [hResponse] at hOk
        cases hOk
        exact ⟨view, now, nextAttemptAt,
          hSeen _ (Multiset.mem_cons_self _ _) acquired view rfl,
          hCommit⟩
      · rw [hResponse] at hOk
        cases hOk

------------------------------------------------------------
-- Exact Amounts
------------------------------------------------------------

/- The price of a product, or zero if there is none. -/
def priceOf
    (products : Table Product)
    (id : Int) : Int :=
  ((products.find? id).map Product.priceFen).getD 0

/- What a request costs over the integers. -/
def costOf
    (products : Table Product)
    (items : List CreateOrderItemRequest) : Int :=
  (items.map fun item =>
    priceOf products item.productID * item.quantity).sum

/- The amounts of an order and of its items are the products
   and the sum that they stand for. -/
def AmountsExact
    (db : DB)
    (orderID : Int) : Prop :=
  ∃ order ∈ db.orders.find? orderID,
    (∀ item ∈ Dao.listOrderItemsByOrderID db orderID,
      item.subtotalFen =
        priceOf db.products item.productID * item.quantity) ∧
      order.totalAmountFen =
        ((Dao.listOrderItemsByOrderID db orderID).map
          fun item =>
            priceOf db.products item.productID *
              item.quantity).sum

theorem PricesKept.priceOf
    {view db : DB}
    {id : Int}
    {product : Product}
    (hKept : PricesKept view db)
    (hFind : view.products.find? id = some product) :
    priceOf db.products id = product.priceFen := by
  rcases hKept id product hFind with ⟨product', hFind', hPrice⟩
  unfold OrderManagement.priceOf
  rw [hFind']
  exact hPrice

/- The items of a new order are the ones that its creation
   has stored. -/
theorem OrderPlaced.listOrderItemsByOrderID
    {view : DB}
    {now nextAttemptAt : Time}
    {userID : Int}
    {idempotencyKey requestHash : String}
    {items : List CreateOrderItemRequest}
    {ids : GeneratedIDs}
    {order : Order}
    {newItems : List OrderItem}
    {db db' : DB}
    (hPlaced :
      OrderPlaced view now nextAttemptAt userID
        idempotencyKey requestHash items ids order db db')
    (hWellFormed : db.WellFormed)
    (hNew : db'.orderItems = db.orderItems ++ newItems) :
    Dao.listOrderItemsByOrderID db' order.id = newItems := by
  rcases hPlaced.placed with
    ⟨newItems', _, hNew', _, hOwn, _⟩
  rw [hNew] at hNew'
  have hSame := List.append_cancel_left hNew'
  subst hSame
  have hOld :
      ∀ item ∈ db.orderItems, ¬ item.orderID = order.id := by
    intro item hItem hOrder
    have hOwned := hWellFormed.itemsOwned item hItem
    have hFree := (Table.insert?_eq_some_iff.mp
      hPlaced.orders).1
    rw [key_order] at hFree
    rw [hOrder, hFree] at hOwned
    cases hOwned
  unfold Dao.listOrderItemsByOrderID
  rw [hNew, List.filter_append,
    List.filter_eq_nil_iff.mpr (by simpa using hOld),
    List.filter_eq_self.mpr (by simpa using hOwn),
    List.nil_append]

/- Amounts are exact if and only if the whole order costs no
   more than an int64 can say. -/
theorem amounts_exact_iff
    {events : List Event}
    {s : State}
    {e : Event}
    {userID : Int}
    {req : CreateOrderRequest}
    {ids : GeneratedIDs}
    {order : Order}
    (hReaches : Reaches events s)
    (hEvent : e ∈ events)
    (hRequest : e.request = .createOrder userID req ids)
    (hOk : e.response = .ok (.orderCreated order)) :
    AmountsExact e.after order.id ↔
      costOf e.before.products req.items ≤ bigintMax := by
  rcases hReaches.committed hEvent hOk with
    ⟨view, now, nextAttemptAt, hKept, hCommit⟩
  rw [hRequest] at hCommit
  unfold Request.transaction at hCommit
  dsimp only at hCommit
  split at hCommit
  case h_1 => simp only [commits_throw] at hCommit
  case h_2 requestHash items hChecked =>
    have hSorted :=
      (OrderService.checkCreateOrder_eq_ok_iff.mp
        hChecked).2.2.2.2.2
    rcases commits_createOrder hCommit with
      ⟨_, hSame, hPlaced⟩ | ⟨_, hOther, _⟩
    case inr => cases hOther
    cases hSame
    rcases OrderService.createOrder_items hCommit with
      ⟨lines, newItems, hItems, hFound, hTotal, hNew, hPriced⟩
    have hList := hPlaced.listOrderItemsByOrderID
      (hReaches.event hEvent).1.wellFormed hNew
    have hFind :
        e.after.orders.find? order.id = some order := by
      rw [Table.find?_of_insert? hPlaced.orders]
      exact if_pos rfl
    have hPrice :
        ∀ line ∈ lines,
          priceOf e.before.products line.1.productID =
            line.2.priceFen :=
      fun line hLine => hKept.priceOf (hFound line hLine)
    have hPositive := OrderService.amount_pos hPriced
    have hSum := OrderService.map_amount hPriced hPrice
    have hCost :
        costOf e.before.products req.items =
          OrderService.amountOf lines := by
      have hPerm := sortedOrderItems_perm req.items
      rw [← hSorted, ← hItems] at hPerm
      unfold costOf OrderService.amountOf
      rw [← (hPerm.map _).sum_eq, List.map_map]
      congr 1
      apply List.map_congr_left
      intro line hLine
      change priceOf e.before.products line.1.productID *
        line.1.quantity = line.2.priceFen * line.1.quantity
      rw [hPrice line hLine]
    rw [hCost, ← OrderService.totalAmountFen_eq_iff hPositive]
    unfold AmountsExact
    rw [hFind, hList, hPlaced.products, hSum, ← hTotal]
    constructor
    · rintro ⟨order', hSame, _, hExact⟩
      cases hSame
      exact hExact
    · intro hExact
      refine ⟨order, rfl, ?_, hExact⟩
      apply OrderService.subtotals_exact hPriced hPrice
      intro line hLine
      rw [hTotal] at hExact
      exact (OrderService.amount_le_amountOf hPositive
        hLine).trans
        ((OrderService.totalAmountFen_eq_iff hPositive).mp
          hExact)

end OrderManagement

/- Four pieces at 250 fen; then four pieces that cost a full
   turn of the int64 and four fen. -/
namespace OrderManagement

attribute [local instance] sampleDeployment

def sampleFullTurn : List Invocation :=
  [ sampleCall (.createProduct 1 "jade" ""
      4611686018427387905) 0,
    sampleCall (.onSaleProduct 1) 0,
    sampleCall (.initInventory 1 (some 10)) 0,
    sampleCall
      (.createOrder 3 ⟨"k", [⟨1, 4⟩]⟩ sampleIDs) 0 ]

instance
    (db : DB)
    (orderID : Int) :
    Decidable (AmountsExact db orderID) :=
  inferInstanceAs
    (Decidable (∃ order ∈ db.orders.find? orderID, _ ∧ _))

theorem amounts_exact_iff_sample :
    AmountsExact (serialEvents DB.empty sampleCalls)[3].after
      7 := by
  have hOrder :
      ∃ order ∈
          (serialEvents DB.empty
            sampleCalls)[3].after.orders.find? 7,
        (serialEvents DB.empty sampleCalls)[3].response =
            .ok (.orderCreated order) ∧
          order.id = 7 := by
    decide +kernel
  have hCost :
      costOf
          (serialEvents DB.empty
            sampleCalls)[3].before.products [⟨1, 4⟩] ≤
        bigintMax := by
    decide +kernel
  rcases hOrder with ⟨order, _, hOk, hID⟩
  have hExact :=
    (amounts_exact_iff (reaches_serial sampleCalls)
      (List.getElem_mem (by decide)) rfl hOk).mpr hCost
  rw [hID] at hExact
  exact hExact

/- The order is stored with a total of four fen. -/
theorem wrapped_amounts_stored :
    ∃ e ∈ serialEvents DB.empty sampleFullTurn,
      Reaches (serialEvents DB.empty sampleFullTurn)
          ⟨serialDB DB.empty sampleFullTurn, 0⟩ ∧
        (∃ order ∈ e.after.orders.find? 7,
          e.response = .ok (.orderCreated order) ∧
            order.totalAmountFen = 4) ∧
        ¬ AmountsExact e.after 7 := by
  refine ⟨(serialEvents DB.empty sampleFullTurn)[3],
    List.getElem_mem _, reaches_serial _, ?_, ?_⟩
  · decide +kernel
  · decide +kernel

end OrderManagement
