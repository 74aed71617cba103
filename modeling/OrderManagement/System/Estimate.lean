import OrderManagement.Fronted.Estimate
import OrderManagement.Service.Listings
import OrderManagement.System.Amounts

/-
  The amount that the order form announces is the amount that
  is charged. The page may have read its list of products
  long before the order, and its numbers round.

  Main declarations:
    * `onSaleProducts`
    * `Reaches.totalAmountFen_eq_iff`
    * `estimate_is_charged`
-/

namespace OrderManagement

open BinaryFormat JsString Transaction

------------------------------------------------------------
-- The List of the Page
------------------------------------------------------------

section

variable [Deployment]

/- The page asks for the first hundred products on sale. -/
def onSaleProducts
    (view : DB) : List Product :=
  (ProductService.listProducts view view
    ⟨some .onSale, 1, 100⟩).1

theorem find?_of_mem_onSaleProducts
    {view : DB}
    {product : Product}
    (hMem : product ∈ onSaleProducts view) :
    view.products.find? product.id = some product := by
  unfold onSaleProducts ProductService.listProducts
    Dao.listProducts at hMem
  rw [if_pos (by decide)] at hMem
  have hListed := List.mem_of_mem_drop (List.mem_of_mem_take hMem)
  unfold productListing productsWhere at hListed
  rw [List.mem_insertionSort, List.mem_filter] at hListed
  exact Table.find?_key_of_mem hListed.1

------------------------------------------------------------
-- What Is Charged
------------------------------------------------------------

theorem PricesKept.of_run
    {t s : State}
    {ls : List (Option Event)}
    (hSound : t.Sound)
    (hRun : Transition.Run Step t ls s) :
    PricesKept t.db s.db := by
  have hBoth : s.Sound ∧ PricesKept t.db s.db := by
    apply hRun.invariant
      (P := fun s => s.Sound ∧ PricesKept t.db s.db)
    · intro u l v ⟨hSound, hKept⟩ hStep
      exact ⟨hStep.sound hSound,
        hKept.trans (hStep.pricesKept hSound)⟩
    · exact ⟨hSound, .of_same rfl⟩
  exact hBoth.2

/- The price of the list is the price of any later order. -/
theorem PricesKept.priceOf_onSale
    {view db : DB}
    (hKept : PricesKept view db) :
    ∀ product ∈ onSaleProducts view,
      OrderManagement.priceOf db.products product.id =
        product.priceFen :=
  fun _ hMem =>
    hKept.priceOf (find?_of_mem_onSaleProducts hMem)

/- The total is the cost of the request if and only if this
   fits an int64. -/
theorem Reaches.totalAmountFen_eq_iff
    {events : List Event}
    {s : State}
    {e : Event}
    {userID : Int}
    {req : CreateOrderRequest}
    {ids : GeneratedIDs}
    {order : Order}
    (hReaches : Reaches events s)
    (hEvent : e ∈ events)
    (hRequest : e.request = .createOrder userID req ids)
    (hOk : e.response = .ok (.orderCreated order)) :
    order.totalAmountFen = costOf e.before.products req.items ↔
      costOf e.before.products req.items ≤ bigintMax := by
  rcases hReaches.committed hEvent hOk with
    ⟨view, now, nextAttemptAt, hKept, hCommit⟩
  rw [hRequest] at hCommit
  unfold Request.transaction at hCommit
  dsimp only at hCommit
  split at hCommit
  case h_1 => simp only [commits_throw] at hCommit
  case h_2 requestHash items hChecked =>
    have hSorted :=
      (OrderService.checkCreateOrder_eq_ok_iff.mp
        hChecked).2.2.2.2.2
    rcases OrderService.createOrder_items hCommit with
      ⟨lines, newItems, hItems, hFound, hTotal, _, hPriced⟩
    have hCost :
        costOf e.before.products req.items =
          OrderService.amountOf lines := by
      have hPerm := sortedOrderItems_perm req.items
      rw [← hSorted, ← hItems] at hPerm
      unfold costOf OrderService.amountOf
      rw [← (hPerm.map _).sum_eq, List.map_map]
      congr 1
      apply List.map_congr_left
      intro line hLine
      change priceOf e.before.products line.1.productID *
        line.1.quantity = line.2.priceFen * line.1.quantity
      rw [hKept.priceOf (hFound line hLine)]
    rw [hCost, hTotal]
    exact OrderService.totalAmountFen_eq_iff
      (OrderService.amount_pos hPriced)

------------------------------------------------------------
-- What Is Announced
------------------------------------------------------------

omit [Deployment] in
theorem mapM_of_parseCreateOrderPayload
    {rows : List DraftOrderItem}
    {payload : CreateOrderPayload}
    (hPayload : parseCreateOrderPayload rows = some payload) :
    rows.mapM DraftOrderItem.parsed = some payload.items := by
  unfold parseCreateOrderPayload at hPayload
  rcases Option.bind_eq_some_iff.mp hPayload with
    ⟨items, hParsed, hDistinct⟩
  rw [Option.ite_none_right_eq_some, Option.some.injEq]
    at hDistinct
  rcases hDistinct with ⟨_, rfl⟩
  exact hParsed

variable (numberToString : JsFraction → JsString)

/-
  The page has read its list in a state, and the system goes
  on until the order of the form is created. While the
  announced amount is a safe number, it is what the order
  costs and what is charged for it, and below 2^46 yuan the
  page shows it as what it is.
-/
theorem estimate_is_charged
    {events : List Event}
    {t s : State}
    {ls : List (Option Event)}
    {rows : List DraftOrderItem}
    {payload : CreateOrderPayload}
    {e : Event}
    {userID : Int}
    {key : String}
    {ids : GeneratedIDs}
    {order : Order}
    (hReaches : Reaches events t)
    (hRun : Transition.Run Step t ls s)
    (hEvent : e ∈ eventsOf ls)
    (hPayload : parseCreateOrderPayload rows = some payload)
    (hRequest :
      e.request =
        .createOrder userID ⟨key, payload.items⟩ ids)
    (hOk : e.response = .ok (.orderCreated order))
    (hSafeIDs :
      ∀ item ∈ payload.items, item.productID < 2 ^ 53)
    (hListed :
      ∀ item ∈ payload.items, ∃ product ∈ onSaleProducts t.db,
        product.id = item.productID)
    {k : Nat}
    (hSafe : k < 2 ^ 53) :
    ((estimatedAmountFen
          ((onSaleProducts t.db).map ListedProduct.ofProduct)
          rows).value? = some k ↔
        costOf e.before.products payload.items = k) ∧
      (costOf e.before.products payload.items = k →
        order.totalAmountFen = k ∧
          (k < 100 * 2 ^ 46 →
            formatFen numberToString
                (some (estimatedAmountFen
                  ((onSaleProducts t.db).map
                    ListedProduct.ofProduct) rows)) =
              yen :: amountText k)) := by
  rcases List.mem_filterMap.mp hEvent with ⟨l, hLabel, hSome⟩
  cases hSome
  rcases hRun.exists_step_of_mem hLabel with
    ⟨_, _, u, _, _, hUntil, hStep, _⟩
  have hBefore : e.before = u.db := by
    cases hStep with
    | finish | reject | fail => rfl
  have hKept : PricesKept t.db e.before := by
    rw [hBefore]
    exact .of_run hReaches.sound hUntil
  have hAll : Reaches (events ++ eventsOf ls) s := by
    rcases hReaches with ⟨ms, rfl, hStart⟩
    exact ⟨ms ++ ls, eventsOf_append ms ls,
      hStart.append hRun⟩
  have hTotal :=
    hAll.totalAmountFen_eq_iff (List.mem_append_right _ hEvent)
      hRequest hOk
  rcases tracks_estimatedAmountFen hKept.priceOf_onSale
      (mapM_of_parseCreateOrderPayload hPayload) hSafeIDs
      hListed with
    ⟨m, hM, hTracks⟩
  have hCost :
      costOf e.before.products payload.items = m := hM.symm
  have hAnnounced :
      (estimatedAmountFen
          ((onSaleProducts t.db).map ListedProduct.ofProduct)
          rows).value? = some k ↔
        costOf e.before.products payload.items = k := by
    rw [hCost, Nat.cast_inj]
    exact hTracks k hSafe
  refine ⟨hAnnounced, ?_⟩
  intro hExact
  refine ⟨?_, ?_⟩
  · rw [← hExact]
    apply hTotal.mpr
    dsimp only
    rw [hExact]
    unfold bigintMax
    omega
  · exact formatFen_eq numberToString
      (hAnnounced.mpr hExact)

end

------------------------------------------------------------
-- An Order for Ten Yuan
------------------------------------------------------------

attribute [local instance] sampleDeployment

/- Four pieces of the product of the sample. -/
def shownRows : List DraftOrderItem :=
  [⟨some (Whole.ofNat 1), some (Whole.ofNat 4)⟩]

def shownList : DB :=
  serialDB DB.empty (sampleCalls.take 3)

def shownOrder : Invocation :=
  sampleCall (.createOrder 3 ⟨"k", [⟨1, 4⟩]⟩ sampleIDs) 0

theorem shownRows_parsed :
    parseCreateOrderPayload shownRows = some ⟨[⟨1, 4⟩]⟩ := by
  decide +kernel

theorem shownOrder_created :
    ∃ order ∈
        (shownOrder.event shownList).after.orders.find? 7,
      (shownOrder.event shownList).response =
          .ok (.orderCreated order) ∧
        order.totalAmountFen = 1000 := by
  decide +kernel

theorem shownList_listed :
    ∀ item ∈ [(⟨1, 4⟩ : CreateOrderItemRequest)],
      ∃ product ∈ onSaleProducts shownList,
        product.id = item.productID := by
  decide +kernel

theorem shownOrder_cost :
    costOf (shownOrder.event shownList).before.products
      [⟨1, 4⟩] = (1000 : Nat) := by
  decide +kernel

theorem estimate_is_charged_sample :
    formatFen (fun _ => [])
        (some (estimatedAmountFen
          ((onSaleProducts shownList).map
            ListedProduct.ofProduct) shownRows)) =
      yen :: ofASCII "10.00" := by
  rcases shownOrder.runs shownList 0
      (fun _ _ _ hMem => absurd hMem (Multiset.notMem_zero _))
    with ⟨ls, hEvents, hRun⟩
  rcases shownOrder_created with ⟨order, _, hOk, _⟩
  have hEvent :
      shownOrder.event shownList ∈
        eventsOf ([none] ++ ls) := by
    rw [eventsOf_append, hEvents]
    exact List.mem_append_right _ (List.mem_singleton_self _)
  have hCharged :=
    (estimate_is_charged (fun _ => [])
      (reaches_serial (sampleCalls.take 3))
      ((Transition.Run.single
        (Step.arrive _ shownOrder.request
          shownOrder.preDeduct)).append hRun)
      hEvent shownRows_parsed rfl hOk (by decide)
      shownList_listed (k := 1000) (by decide)).2
      shownOrder_cost
  exact hCharged.2 (by decide)

end OrderManagement
