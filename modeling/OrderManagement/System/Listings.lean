import OrderManagement.Service.Listings
import OrderManagement.System.Serial

/-
  A client that reads a listing of orders page by page while
  other calls go on. COUNT and SELECT of a page are two
  statements, with other calls between them.

  Main declarations:
    * `Walk` and `Walk.views`
    * `DB.Grows.orderListing_sublist`
    * `ListsAll`, `own_orders_walk`, and `admin_orders_walk`
    * `own_orders_walk_once`
    * `listProducts_page_iff`
-/

namespace OrderManagement

variable [Deployment]

------------------------------------------------------------
-- Walks
------------------------------------------------------------

/- The answers that a client has got, one for each page, from
   a state in which it began. -/
inductive Walk
    (ask : DB → DB → Int → Except Err (List Order × Nat)) :
    State → List (List Order × Nat) → State → Prop
| start (s : State) : Walk ask s [] s
| next
    {s t u v : State}
    {ls ms : List (Option Event)}
    {pages : List (List Order × Nat)}
    {page : List Order × Nat} :
    Walk ask s pages t →
    Transition.Run Step t ls u →
    Transition.Run Step u ms v →
    ask u.db v.db (pages.length + 1) = .ok page →
    Walk ask s (pages ++ [page]) v

/- A call that is run alone. -/
theorem Walk.call
    {ask : DB → DB → Int → Except Err (List Order × Nat)}
    {s : State}
    {db : DB}
    {pages : List (List Order × Nat)}
    {page : List Order × Nat}
    (hWalk : Walk ask s pages ⟨db, 0⟩)
    (i : Invocation)
    (hAsk :
      ask (i.event db).after (i.event db).after
        (pages.length + 1) = .ok page) :
    Walk ask s (pages ++ [page]) ⟨(i.event db).after, 0⟩ := by
  rcases i.runs db 0 (by simp) with ⟨ls, _, hRun⟩
  exact hWalk.next
    (hRun.cons (Step.arrive ⟨db, 0⟩ i.request i.preDeduct))
    (Transition.Run.refl _) hAsk

theorem Walk.atOnce
    {ask : DB → DB → Int → Except Err (List Order × Nat)}
    {s t : State}
    {pages : List (List Order × Nat)}
    {page : List Order × Nat}
    (hWalk : Walk ask s pages t)
    (hAsk : ask t.db t.db (pages.length + 1) = .ok page) :
    Walk ask s (pages ++ [page]) t :=
  hWalk.next (Transition.Run.refl _) (Transition.Run.refl _)
    hAsk

/- A question is answered with the pages of a listing and the
   number of its rows. -/
def Answers
    (ask : DB → DB → Int → Except Err (List Order × Nat))
    (size : Nat)
    (listing : DB → List Order) : Prop :=
  ∀ countView pageView (n : Nat) page,
    ask countView pageView (n + 1) = .ok page →
      page.1 = Paging.page size n (listing pageView) ∧
        page.2 = (listing countView).length

/- Each page is cut from a database of its own, and these
   come one after the other. -/
theorem Walk.views
    {ask : DB → DB → Int → Except Err (List Order × Nat)}
    {size : Nat}
    {listing : DB → List Order}
    {s t : State}
    {pages : List (List Order × Nat)}
    (hAnswers : Answers ask size listing)
    (hSound : s.Sound)
    (hWalk : Walk ask s pages t) :
    t.Sound ∧
      ∃ views : List DB,
        pages.map Prod.fst =
            Paging.pages size 0 (views.map listing) ∧
          views.length = pages.length ∧
          (s.db :: views).Pairwise DB.Grows ∧
          ∀ view ∈ s.db :: views, view.Grows t.db := by
  induction hWalk with
  | start =>
      exact ⟨hSound, [], rfl, rfl,
        List.pairwise_singleton _ _, by simp [DB.Grows.refl]⟩
  | @next t u v ls ms pages page _ hCount hSelect hAsk ih =>
      rcases ih with
        ⟨hSoundT, views, hPages, hLength, hPairwise, hLast⟩
      rcases hSoundT.run (hCount.append hSelect) with
        ⟨hSoundV, hGrows⟩
      have hLater :
          ∀ view ∈ s.db :: views, view.Grows v.db :=
        fun view hView => (hLast view hView).trans hGrows
      refine ⟨hSoundV, views ++ [v.db], ?_, ?_, ?_, ?_⟩
      · rw [List.map_append, List.map_append, List.map_singleton,
          List.map_singleton, Paging.pages_append, hPages,
          List.length_map, hLength, Nat.zero_add,
          (hAnswers _ _ _ _ hAsk).1]
      · rw [List.length_append, List.length_append, hLength]
        rfl
      · rw [← List.cons_append, List.pairwise_append]
        refine ⟨hPairwise, List.pairwise_singleton _ _, ?_⟩
        intro view hView last hSame
        rw [List.mem_singleton.mp hSame]
        exact hLater view hView
      · intro view hView
        rw [← List.cons_append, List.mem_append,
          List.mem_singleton] at hView
        rcases hView with hView | rfl
        · exact hLater view hView
        · exact DB.Grows.refl _

------------------------------------------------------------
-- Listings that Grow
------------------------------------------------------------

/- An order that meets the conditions of a listing goes on to
   meet them: the listing has no status, or none that orders
   leave. -/
def StatusKept
    (status : Option Int) : Prop :=
  status ≠ some OrderStatus.pending.value ∧
    status ≠ some OrderStatus.paid.value

omit [Deployment] in
theorem statusKept_none : StatusKept none := by
  simp [StatusKept]

omit [Deployment] in
theorem OrderStatus.value_of_canBecome
    {earlier later : OrderStatus}
    {status : Option Int}
    (hKept : StatusKept status)
    (hBecomes : earlier.canBecome later = true)
    (hStatus : ∀ s ∈ status, earlier.value = s) :
    ∀ s ∈ status, later.value = s := by
  intro s hSome
  have hValue := hStatus s hSome
  rw [Option.mem_def] at hSome
  rcases hKept with ⟨hPending, hPaid⟩
  rw [hSome, ← hValue] at hPending hPaid
  cases earlier with
  | pending => exact absurd rfl hPending
  | paid => exact absurd rfl hPaid
  | finished | cancelled =>
      cases later <;> first
        | exact hValue
        | exact absurd hBecomes (by decide)

theorem DB.Grows.exists_mem_ordersWhere
    {old new : DB}
    {userID status : Option Int}
    {order : Order}
    (hKept : StatusKept status)
    (hGrows : old.Grows new)
    (hOrder : order ∈ ordersWhere userID status old) :
    ∃ order' ∈ ordersWhere userID status new,
      order'.id = order.id ∧ order'.Follows order := by
  rcases mem_ordersWhere_iff.mp hOrder with
    ⟨hStored, hUser, hStatus⟩
  rcases hGrows.orders order.id order
    (Table.find?_key_of_mem hStored) with
    ⟨order', hFind, hFollows⟩
  refine ⟨order', mem_ordersWhere_iff.mpr
    ⟨Table.mem_of_find? hFind, ?_, ?_⟩,
    Table.key_of_find? hFind, hFollows⟩
  · intro id hID
    rw [hFollows.userID]
    exact hUser id hID
  · exact OrderStatus.value_of_canBecome hKept
      hFollows.status hStatus

/- New orders come between the others, and none goes. -/
theorem DB.Grows.orderListing_sublist
    {old new : DB}
    {userID status : Option Int}
    (hKept : StatusKept status)
    (hGrows : old.Grows new) :
    ((orderListing userID status old).map Order.id).Sublist
      ((orderListing userID status new).map Order.id) := by
  apply Paging.sublist_of_subset_of_pairwise
    (pairwise_orderListing userID status old)
    (pairwise_orderListing userID status new)
  intro id hID
  rcases List.mem_map.mp hID with ⟨order, hOrder, rfl⟩
  rw [mem_orderListing_iff] at hOrder
  rcases hGrows.exists_mem_ordersWhere hKept hOrder with
    ⟨order', hOrder', hSame, _⟩
  exact List.mem_map.mpr
    ⟨order', mem_orderListing_iff.mpr hOrder', hSame⟩

------------------------------------------------------------
-- Nothing Is Missed
------------------------------------------------------------

/- Every order that a filter admitted when the walk began is
   on a page, in its state of then or of later. -/
def ListsAll
    (userID status : Option Int)
    (db : DB)
    (pages : List (List Order × Nat)) : Prop :=
  ∀ order ∈ ordersWhere userID status db,
    ∃ page ∈ pages, ∃ order' ∈ page.1,
      order'.id = order.id ∧ order'.Follows order

/- The last page has room left. -/
def EndsShort
    (size : Nat)
    (pages : List (List Order × Nat)) : Prop :=
  ∃ page, pages.getLast? = some page ∧ page.1.length < size

/- A row that is read under the id of an earlier order is a
   later row of this order. -/
theorem DB.Grows.follows_of_mem
    {old new : DB}
    {userID status : Option Int}
    {order order' : Order}
    (hGrows : old.Grows new)
    (hOrder : order ∈ old.orders.rows)
    (hOrder' : order' ∈ orderListing userID status new)
    (hSame : order'.id = order.id) :
    order'.Follows order := by
  rcases hGrows.orders order.id order
    (Table.find?_key_of_mem hOrder) with
    ⟨later, hFind, hFollows⟩
  rw [mem_orderListing_iff, mem_ordersWhere_iff] at hOrder'
  have hHere := Table.find?_key_of_mem hOrder'.1
  rw [key_order, hSame, hFind] at hHere
  cases hHere
  exact hFollows

/-
  A walk that ends with a page that has room left lists
  every order that it found: the positions of the orders
  only grow, and the pages go past all of them.
-/
theorem Walk.listsAll
    {ask : DB → DB → Int → Except Err (List Order × Nat)}
    {size : Nat}
    {userID status : Option Int}
    {s t : State}
    {pages : List (List Order × Nat)}
    (hAnswers :
      Answers ask size (orderListing userID status))
    (hKept : StatusKept status)
    (hSound : s.Sound)
    (hWalk : Walk ask s pages t)
    (hEnd : EndsShort size pages) :
    ListsAll userID status s.db pages := by
  intro order hOrder
  rcases hWalk.views hAnswers hSound with
    ⟨_, views, hPages, hLength, hPairwise, _⟩
  rcases hEnd with ⟨last, hLast, hShort⟩
  cases views with
  | nil =>
      rw [List.length_nil, eq_comm,
        List.length_eq_zero_iff] at hLength
      simp [hLength] at hLast
  | cons first views =>
      rcases List.pairwise_cons.mp hPairwise with
        ⟨hLater, hAmong⟩
      have hFirst :=
        ((hLater first (by simp)).orderListing_sublist
          hKept).subset
            (List.mem_map_of_mem
              (mem_orderListing_iff.mpr hOrder))
      have hGrows :
          (((first :: views).map
              (orderListing userID status)).map
                (List.map Order.id)).IsChain List.Sublist := by
        rw [List.map_map]
        exact (List.pairwise_map.mpr (hAmong.imp
          fun h => h.orderListing_sublist hKept)).isChain
      have hShortEnd :
          ∀ rows ∈
              (Paging.pages size 0
                ((first :: views).map
                  (orderListing userID status))).getLast?,
            rows.length < size := by
        intro rows hRows
        rw [← hPages, List.getLast?_map, hLast] at hRows
        cases hRows
        exact hShort
      rcases Paging.exists_mem_pages_of_key
          (Nat.zero_lt_of_lt hShort) hGrows hFirst
          hShortEnd with
        ⟨rows, hRows, order', hOrder', hSame⟩
      rw [← List.map_cons] at hRows
      rcases Paging.exists_mem_of_mem_pages hRows with
        ⟨listed, hListed, hSublist⟩
      rcases List.mem_map.mp hListed with ⟨view, hView, rfl⟩
      rw [← hPages] at hRows
      rcases List.mem_map.mp hRows with ⟨page, hPage, rfl⟩
      exact ⟨page, hPage, order', hOrder', hSame,
        DB.Grows.follows_of_mem (hLater view hView)
          (mem_ordersWhere_iff.mp hOrder).1
          (hSublist.subset hOrder') hSame⟩

------------------------------------------------------------
-- The Two Listings
------------------------------------------------------------

/- What a user asks for, page by page. -/
def askOrders
    (userID pageSize : Int)
    (countView pageView : DB)
    (page : Int) : Except Err (List Order × Nat) :=
  OrderService.listOrders countView pageView userID page
    pageSize

/- What an administrator asks for. -/
def askAdminOrders
    (r : ListAdminOrdersRequest)
    (countView pageView : DB)
    (page : Int) : Except Err (List Order × Nat) :=
  OrderService.listAdminOrders countView pageView
    { r with page := page }

theorem askOrders_answers
    (userID pageSize : Int) :
    Answers (askOrders userID pageSize) pageSize.toNat
      (orderListing (some userID) none) := by
  intro countView pageView n page hAsk
  rcases OrderService.listOrders_eq_ok_iff.mp hAsk with
    ⟨_, hRows, hTotal⟩
  rw [Int.add_sub_cancel, Int.toNat_natCast] at hRows
  exact ⟨hRows, hTotal⟩

/- The size of a page is normalized on every request. -/
theorem askAdminOrders_answers
    (r : ListAdminOrdersRequest) :
    Answers (askAdminOrders r)
      r.normalizePagination.pageSize.toNat
      (orderListing r.userID r.status) := by
  intro countView pageView n page hAsk
  rcases OrderService.listAdminOrders_eq_ok_iff.mp hAsk with
    ⟨_, hRows, hTotal⟩
  rw [ListAdminOrdersRequest.normalizePagination_page
    (Int.natCast_succ_pos n), Int.add_sub_cancel,
    Int.toNat_natCast] at hRows
  exact ⟨hRows, hTotal⟩

/-
  A user who reads the pages of the own orders up to one with
  room left sees every order that existed at the beginning,
  whatever is created, paid, or cancelled meanwhile.
-/
theorem own_orders_walk
    {events : List Event}
    {s t : State}
    {userID pageSize : Int}
    {pages : List (List Order × Nat)}
    (hReaches : Reaches events s)
    (hWalk :
      Walk (askOrders userID pageSize) s pages t)
    (hEnd : EndsShort pageSize.toNat pages) :
    ListsAll (some userID) none s.db pages :=
  hWalk.listsAll
    (askOrders_answers userID pageSize)
    statusKept_none hReaches.sound hEnd

/-
  The same for an administrator, whatever users are asked
  for, unless the status that is asked for is one that orders
  leave.
-/
theorem admin_orders_walk
    {events : List Event}
    {s t : State}
    {r : ListAdminOrdersRequest}
    {pages : List (List Order × Nat)}
    (hReaches : Reaches events s)
    (hKept : StatusKept r.status)
    (hWalk :
      Walk (askAdminOrders r) s pages t)
    (hEnd :
      EndsShort r.normalizePagination.pageSize.toNat pages) :
    ListsAll r.userID r.status s.db pages :=
  hWalk.listsAll (askAdminOrders_answers r)
    hKept hReaches.sound hEnd

------------------------------------------------------------
-- Nothing Is Seen Twice
------------------------------------------------------------

/- Each total is counted at a time of the walk. -/
theorem Walk.totals
    {ask : DB → DB → Int → Except Err (List Order × Nat)}
    {size : Nat}
    {listing : DB → List Order}
    {s t : State}
    {pages : List (List Order × Nat)}
    (hAnswers : Answers ask size listing)
    (hSound : s.Sound)
    (hWalk : Walk ask s pages t) :
    ∀ page ∈ pages, ∃ countView : DB,
      s.db.Grows countView ∧ countView.Grows t.db ∧
        page.2 = (listing countView).length := by
  induction hWalk with
  | start => simp
  | @next t u v ls ms pages page hBefore hCount hSelect hAsk
      ih =>
      rcases hBefore.views hAnswers hSound with
        ⟨hSoundT, _, _, _, _, hLast⟩
      have hGrowsT := hLast s.db (by simp)
      rcases hSoundT.run hCount with ⟨hSoundU, hGrowsU⟩
      have hGrowsV := (hSoundU.run hSelect).2
      intro asked hAsked
      rw [List.mem_append, List.mem_singleton] at hAsked
      rcases hAsked with hAsked | rfl
      · rcases ih asked hAsked with
          ⟨countView, hStart, hEnd, hTotal⟩
        exact ⟨countView, hStart,
          hEnd.trans (hGrowsU.trans hGrowsV), hTotal⟩
      · exact ⟨u.db, hGrowsT.trans hGrowsU, hGrowsV,
          (hAnswers _ _ _ _ hAsk).2⟩

/- Between two databases with the same orders of a user, the
   ids that are listed stay the same. -/
theorem listedIDs_eq_of_between
    {old mid new : DB}
    {userID : Int}
    (hCreated :
      ∀ order ∈ ordersWhere (some userID) none new,
        (old.orders.find? order.id).isSome)
    (hBefore : old.Grows mid)
    (hAfter : mid.Grows new) :
    (orderListing (some userID) none mid).map Order.id =
      (orderListing (some userID) none old).map Order.id := by
  have hOldMid :
      ((orderListing (some userID) none old).map
          Order.id).Sublist
        ((orderListing (some userID) none mid).map Order.id) :=
    hBefore.orderListing_sublist statusKept_none
  have hMidNew :
      ((orderListing (some userID) none mid).map
          Order.id).Sublist
        ((orderListing (some userID) none new).map Order.id) :=
    hAfter.orderListing_sublist statusKept_none
  refine (hOldMid.antisymm ?_).symm
  refine hMidNew.trans ?_
  apply Paging.sublist_of_subset_of_pairwise
    (pairwise_orderListing _ _ new)
    (pairwise_orderListing _ _ old)
  intro id hID
  rcases List.mem_map.mp hID with ⟨order, hOrder, rfl⟩
  rw [mem_orderListing_iff] at hOrder
  rcases Option.isSome_iff_exists.mp (hCreated order hOrder)
    with ⟨earlier, hFind⟩
  rcases (hBefore.trans hAfter).orders order.id earlier hFind
    with ⟨later, hLater, hFollows⟩
  rcases mem_ordersWhere_iff.mp hOrder with
    ⟨hStored, hUser, _⟩
  have hHere := Table.find?_key_of_mem hStored
  rw [key_order, hLater] at hHere
  cases hHere
  refine List.mem_map.mpr
    ⟨earlier, ?_, Table.key_of_find? hFind⟩
  rw [mem_orderListing_iff, mem_ordersWhere_iff]
  refine ⟨Table.mem_of_find? hFind, ?_, by simp⟩
  intro id hID
  rw [← hFollows.userID]
  exact hUser id hID

/- The pages are the orders at the beginning, one time each
   and the newest first, and each total is their number. -/
def ListsOnce
    (userID : Int)
    (db : DB)
    (pages : List (List Order × Nat)) : Prop :=
  pages.flatMap (fun page => page.1.map Order.id) =
      (orderListing (some userID) none db).map Order.id ∧
    ∀ page ∈ pages,
      page.2 = (orderListing (some userID) none db).length

/-
  If no order of the user is created during a walk, then each
  order is listed once, however often the others order, and
  whatever is paid, finished, or cancelled.
-/
theorem own_orders_walk_once
    {events : List Event}
    {s t : State}
    {userID pageSize : Int}
    {pages : List (List Order × Nat)}
    (hReaches : Reaches events s)
    (hWalk :
      Walk (askOrders userID pageSize) s pages t)
    (hEnd : EndsShort pageSize.toNat pages)
    (hCreated :
      ∀ order ∈ ordersWhere (some userID) none t.db,
        (s.db.orders.find? order.id).isSome) :
    ListsOnce userID s.db pages := by
  have hAnswers :=
    askOrders_answers userID pageSize
  rcases hWalk.views hAnswers hReaches.sound with
    ⟨_, views, hPages, hLength, hPairwise, hLast⟩
  rcases hEnd with ⟨last, hLastPage, hShort⟩
  constructor
  · have hSame :
        ∀ listed ∈
            views.map (orderListing (some userID) none),
          listed.map Order.id =
            (orderListing (some userID) none s.db).map
              Order.id := by
      intro listed hListed
      rcases List.mem_map.mp hListed with ⟨view, hView, rfl⟩
      exact listedIDs_eq_of_between hCreated
        ((List.pairwise_cons.mp hPairwise).1 view hView)
        (hLast view (List.mem_cons_of_mem _ hView))
    rw [← List.flatMap_map Prod.fst (List.map Order.id),
      hPages]
    refine Paging.flatMap_pages_eq_keys hSame ?_ hShort
    rw [← hPages, List.getLast?_map, hLastPage]
    rfl
  · intro page hPage
    rcases hWalk.totals hAnswers hReaches.sound page hPage with
      ⟨countView, hBefore, hAfter, hTotal⟩
    have hSame :=
      congrArg List.length
        (listedIDs_eq_of_between hCreated hBefore hAfter)
    rw [List.length_map, List.length_map] at hSame
    rw [hTotal, hSame]

end OrderManagement

------------------------------------------------------------
-- Walks of a Small Shop
------------------------------------------------------------

namespace OrderManagement

attribute [local instance] sampleDeployment

/- A second order of the same user. -/
def sampleSecondOrder : Invocation :=
  sampleCall
    (.createOrder 3 ⟨"second", [⟨1, 2⟩]⟩
      ⟨8, "ORD8", "E8", sampleSecondID_pos⟩) 0

def sampleListed : DB :=
  serialDB DB.empty sampleCalls

def sampleListedLater : DB :=
  (sampleSecondOrder.event sampleListed).after

def sampleListedPaid : DB :=
  ((sampleCall (.payOrder 3 7) 0).event sampleListed).after

/- One order on each page. -/
def samplePage
    (userID : Option Int)
    (n : Nat)
    (view : DB) : List Order × Nat :=
  (Paging.page 1 n (orderListing userID none view),
    (orderListing userID none view).length)

theorem askOrders_samplePage
    (n : Nat)
    (view : DB)
    (hPage : (n : Int) + 1 ≤ maxOrderPage) :
    askOrders 3 1 view view (n + 1) =
      .ok (samplePage (some 3) n view) := by
  refine OrderService.listOrders_eq_ok_iff.mpr
    ⟨⟨by decide, by omega, hPage, by decide, by decide⟩, ?_,
      rfl⟩
  rw [Int.add_sub_cancel, Int.toNat_natCast]
  rfl

/- An administrator who asks for all orders. -/
def sampleListing : ListAdminOrdersRequest where
  userID := none
  status := none
  page := 1
  pageSize := 1

theorem askAdminOrders_samplePage
    (n : Nat)
    (view : DB)
    (hPage : (n : Int) + 1 ≤ maxOrderPage) :
    askAdminOrders sampleListing view view (n + 1) =
      .ok (samplePage none n view) := by
  refine OrderService.listAdminOrders_eq_ok_iff.mpr
    ⟨⟨hPage, by simp [sampleListing]⟩, ?_, rfl⟩
  rw [ListAdminOrdersRequest.normalizePagination_page
    (Int.natCast_succ_pos n), Int.add_sub_cancel,
    Int.toNat_natCast]
  rfl

/- The second order comes after the first page. It moves the
   first order to the second page, and a third page is empty. -/
theorem own_orders_walk_sample :
    ListsAll (some 3) none sampleListed
        [samplePage (some 3) 0 sampleListed,
          samplePage (some 3) 1 sampleListedLater,
          samplePage (some 3) 2 sampleListedLater] ∧
      (samplePage (some 3) 1 sampleListedLater).1.map
        Order.id = [7] := by
  have hWalk :=
    (((Walk.start ⟨sampleListed, 0⟩).atOnce
      (askOrders_samplePage 0 _ (by decide))).call
        sampleSecondOrder
          (askOrders_samplePage 1 _ (by decide))).atOnce
            (askOrders_samplePage 2 _ (by decide))
  exact
    ⟨own_orders_walk (reaches_serial sampleCalls) hWalk
      ⟨_, rfl, by decide +kernel⟩, by decide +kernel⟩

theorem admin_orders_walk_sample :
    ListsAll none none sampleListed
        [samplePage none 0 sampleListed,
          samplePage none 1 sampleListedLater,
          samplePage none 2 sampleListedLater] ∧
      (samplePage none 1 sampleListedLater).1.map Order.id =
        [7] := by
  have hWalk :=
    (((Walk.start ⟨sampleListed, 0⟩).atOnce
      (askAdminOrders_samplePage 0 _ (by decide))).call
        sampleSecondOrder
          (askAdminOrders_samplePage 1 _ (by decide))).atOnce
            (askAdminOrders_samplePage 2 _ (by decide))
  exact
    ⟨admin_orders_walk (r := sampleListing)
      (reaches_serial sampleCalls)
      ⟨by decide, by decide⟩ hWalk
      ⟨_, rfl, by decide +kernel⟩, by decide +kernel⟩

/- The order is paid after the first page. -/
theorem own_orders_walk_once_sample :
    ListsOnce 3 sampleListed
      [samplePage (some 3) 0 sampleListed,
        samplePage (some 3) 1 sampleListedPaid] := by
  have hWalk :=
    ((Walk.start ⟨sampleListed, 0⟩).atOnce
      (askOrders_samplePage 0 _ (by decide))).call
        (sampleCall (.payOrder 3 7) 0)
        (askOrders_samplePage 1 _ (by decide))
  exact own_orders_walk_once (reaches_serial sampleCalls) hWalk
    ⟨_, rfl, by decide +kernel⟩ (by decide +kernel)

end OrderManagement

------------------------------------------------------------
-- Pages of Products
------------------------------------------------------------

namespace OrderManagement

/-
  What the handler admits is a positive page, with no upper
  limit, and a page size up to a hundred. Its answer is the
  page that was asked for if and only if the offset is an
  int64, or the offset that it wraps to lies behind the last
  product as well.
-/
theorem listProducts_page_iff
    [Deployment]
    {countView pageView : DB}
    {status : Option ProductStatus}
    {page pageSize : Int}
    (hPage : 0 < page)
    (hSize : 0 < pageSize)
    (hRows :
      (productListing status pageView).length ≤ bigintMax) :
    (ProductService.listProducts countView pageView
          ⟨status, page, pageSize⟩).1 =
        Paging.page pageSize.toNat (page - 1).toNat
          (productListing status pageView) ↔
      (page - 1) * pageSize ≤ bigintMax ∨
        (productListing status pageView).length ≤
          (wrap64 ((page - 1) * pageSize)).toNat := by
  have hOffset :
      0 ≤ (page - 1) * pageSize :=
    Int.mul_nonneg (by omega) hSize.le
  simp only [ProductService.listProducts, Dao.listProducts,
    if_pos hSize, Paging.page, ← toNat_offset hPage hSize]
  by_cases hFits : (page - 1) * pageSize ≤ bigintMax
  · rw [wrap64_eq hOffset hFits]
    simp [hFits]
  · have hBehind :
        (productListing status pageView).length ≤
          ((page - 1) * pageSize).toNat := by
      omega
    rw [List.drop_of_length_le hBehind, List.take_nil,
      List.take_eq_nil_iff, List.drop_eq_nil_iff]
    have hPositive : pageSize.toNat ≠ 0 := by omega
    simp [hFits, hPositive]

end OrderManagement

namespace OrderManagement

attribute [local instance] sampleDeployment

/- The offset of this page is a full turn of the int64, and
   the answer is the first page. -/
theorem listProducts_page_iff_sample :
    ((ProductService.listProducts sampleListed sampleListed
          ⟨none, 4611686018427387905, 4⟩).1 =
        Paging.page 4 4611686018427387904
          (productListing none sampleListed) ↔
      (4611686018427387905 - 1) * 4 ≤ bigintMax ∨
        (productListing none sampleListed).length ≤
          (wrap64 ((4611686018427387905 - 1) * 4)).toNat) ∧
    (ProductService.listProducts sampleListed sampleListed
        ⟨none, 4611686018427387905, 4⟩).1.map Product.id =
      [1] :=
  ⟨listProducts_page_iff (by decide) (by decide)
      (by decide +kernel),
    by decide +kernel⟩

end OrderManagement
