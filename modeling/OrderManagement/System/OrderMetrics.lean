import OrderManagement.Observability.HTTPMetrics
import OrderManagement.System.TransitionMetrics

/-
  The counters of orders on the page of metrics, beside the
  orders in the database. The calls of a run record their
  results in any order and among any other recordings.

  Main declarations:
    * `classifyOrderCreateError` and `recordedOrderCreate`
    * `Event.records`
    * `Counted` and `Effect.counted`
    * `orders_on_page`
-/

namespace OrderManagement

open Exposition

------------------------------------------------------------
-- Recorded Results
------------------------------------------------------------

def classifyOrderCreateError : Err → String
| .insufficientStock => "insufficient_stock"
| .orderIdempotencyConflict => "idempotency_conflict"
| .orderBeingCreated => "idempotency_in_progress"
| .productNotFound => "product_not_found"
| .productOffSale => "product_off_sale"
| .inventoryNotFound => "inventory_not_found"
| .duplicateOrderItem => "duplicate_item"
| .invalidIdempotencyKey => "invalid_idempotency_key"
| .invalidUserID => "invalid_user"
| _ => "error"

/- The result of a creation that passes its checks. -/
def orderCreateResult :
    Except Err Outcome → String
| .error e => classifyOrderCreateError e
| .ok (.orderReplayed _) => "idempotent_replay"
| .ok _ => "success"

variable [Deployment]

/- What a call gives to `recordOrderCreate`. A request that
   fails its checks is answered before anything counts. -/
def recordedOrderCreate
    (request : Request)
    (response : Except Err Outcome) : Option String :=
  match request with
  | .createOrder userID req _ =>
      match OrderService.checkCreateOrder userID req with
      | .error _ => none
      | .ok _ => some (orderCreateResult response)
  | _ => none

/- Everything about orders that a call records. -/
def Event.records
    (e : Event) : List BusinessRecord :=
  ((recordedOrderCreate e.request e.response).map
      BusinessRecord.orderCreate).toList ++
    ((recordedTransition e.request e.response).map
      fun recorded =>
        BusinessRecord.orderStateTransition recorded.1
          recorded.2).toList

/- The recordings that nothing but a call makes. -/
def BusinessRecord.isOrder
    (r : BusinessRecord) : Bool :=
  r.name = "app_order_create_total" ∨
    r.name = "app_order_state_transition_total"

------------------------------------------------------------
-- Counting
------------------------------------------------------------

/- The number of orders with a status. -/
def ordersIn
    (status : OrderStatus)
    (db : DB) : Nat :=
  db.orders.rows.countP fun order => order.status = status

/- An order counts for one status. -/
def one
    (status counted : OrderStatus) : Nat :=
  if status = counted then 1 else 0

theorem ordersIn_eq_total
    (status : OrderStatus)
    (db : DB) :
    (ordersIn status db : Int) =
      db.orders.total fun order =>
        (one order.status status : Int) := by
  unfold ordersIn Table.total one
  induction db.orders.rows with
  | nil => rfl
  | cons order rows ih =>
      rw [List.countP_cons, List.map_cons, List.sum_cons, ← ih]
      by_cases hStatus : order.status = status
      · simp [hStatus, add_comm]
      · simp [hStatus]

/- A move takes an order from one number to the other. -/
theorem OrderMoved.ordersIn
    {db db' : DB}
    {order : Order}
    {toStatus : OrderStatus}
    {timeField : OrderTimeField}
    {now : Time}
    {stock locked : Int → Int}
    {entries : List (Int × Int × StockBiz × Option Int)}
    (hMoved :
      OrderMoved db db' order toStatus timeField now stock
        locked entries)
    (status : OrderStatus) :
    ordersIn status db' + one order.status status =
      ordersIn status db + one toStatus status := by
  have hKey :
      Keyed.key (order.patched toStatus timeField now) =
        order.id := by
    cases timeField <;> rfl
  have hStatus :
      (order.patched toStatus timeField now).status =
        toStatus := by
    cases timeField <;> rfl
  have hFind := hMoved.find
  rw [← hKey] at hFind
  have hTotal := ordersIn_eq_total status db'
  rw [hMoved.orders, Table.total_update hFind, hStatus,
    ← ordersIn_eq_total] at hTotal
  omega

/- How often a call counts as a success of an action. -/
def succeeded
    (action : String)
    (request : Request)
    (response : Except Err Outcome) : Nat :=
  if recordedTransition request response =
      some (action, "success") then 1
  else 0

/- How often it counts as a created order. -/
def createdOne
    (request : Request)
    (response : Except Err Outcome) : Nat :=
  if recordedOrderCreate request response = some "success"
    then 1
  else 0

/- How often it is an expiry that restores nothing. -/
def restoredNone
    (request : Request)
    (response : Except Err Outcome) : Nat :=
  if transitionAction request = some "timeout_cancel" ∧
      response = .ok .orderNotRestored then 1
  else 0

/- What a call counts is what it does to the orders. -/
structure Counted
    (request : Request)
    (response : Except Err Outcome)
    (db db' : DB) : Prop where
  created :
    db'.orders.rows.length =
      db.orders.rows.length + createdOne request response
  paid :
    ordersIn .paid db' + succeeded "finish" request response =
      ordersIn .paid db + succeeded "pay" request response
  finished :
    ordersIn .finished db' =
      ordersIn .finished db +
        succeeded "finish" request response
  cancelled :
    ordersIn .cancelled db' + restoredNone request response =
      ordersIn .cancelled db +
        (succeeded "cancel" request response +
          succeeded "timeout_cancel" request response)

------------------------------------------------------------
-- One Call
------------------------------------------------------------

omit [Deployment] in
theorem classifyOrderCreateError_ne_success
    (e : Err) :
    classifyOrderCreateError e ≠ "success" := by
  cases e <;> decide

/- A call that fails counts for nothing. -/
theorem Counted.of_error
    (request : Request)
    (e : Err)
    (db : DB) :
    Counted request (.error e) db db := by
  have hCreated : createdOne request (.error e) = 0 := by
    have hFailed :
        recordedOrderCreate request (.error e) ≠
          some "success" := by
      cases request with
      | createOrder userID req ids =>
          cases hChecked :
              OrderService.checkCreateOrder userID req with
          | error _ => simp [recordedOrderCreate, hChecked]
          | ok _ =>
              simp [recordedOrderCreate, hChecked,
                orderCreateResult,
                classifyOrderCreateError_ne_success]
      | _ => simp [recordedOrderCreate]
    exact if_neg hFailed
  have hSucceeded
      (action : String) :
      succeeded action request (.error e) = 0 := by
    have hFailed :
        transitionResult request (.error e) =
          classifyOrderTransitionError (some e) := by
      cases request <;> rfl
    apply if_neg
    simp [recordedTransition, hFailed,
      classifyOrderTransitionError_ne_success]
  have hRestored : restoredNone request (.error e) = 0 :=
    if_neg (by simp)
  constructor
  · rw [hCreated, Nat.add_zero]
  · rw [hSucceeded, hSucceeded]
  · rw [hSucceeded, Nat.add_zero]
  · rw [hRestored, hSucceeded, hSucceeded]

/- A call that leaves the orders as they are and counts for
   nothing. -/
theorem Counted.of_same
    {request : Request}
    {response : Except Err Outcome}
    {db db' : DB}
    (hOrders : db'.orders = db.orders)
    (hCreated : createdOne request response = 0)
    (hPaid : succeeded "pay" request response = 0)
    (hFinished : succeeded "finish" request response = 0)
    (hCancelled :
      restoredNone request response =
        succeeded "cancel" request response +
          succeeded "timeout_cancel" request response) :
    Counted request response db db' := by
  have hSame
      (status : OrderStatus) :
      ordersIn status db' = ordersIn status db := by
    unfold ordersIn
    rw [hOrders]
  constructor
  · rw [hOrders, hCreated, Nat.add_zero]
  · rw [hSame, hFinished, hPaid]
  · rw [hSame, hFinished, Nat.add_zero]
  · rw [hSame, hCancelled]

/- A call that takes one order to another status. -/
theorem Counted.of_moved
    {request : Request}
    {response : Except Err Outcome}
    {db db' : DB}
    {order : Order}
    {toStatus : OrderStatus}
    {timeField : OrderTimeField}
    {now : Time}
    {stock locked : Int → Int}
    {entries : List (Int × Int × StockBiz × Option Int)}
    (hMoved :
      OrderMoved db db' order toStatus timeField now stock
        locked entries)
    (hCreated : createdOne request response = 0)
    (hPaid :
      one toStatus .paid + succeeded "finish" request response =
        one order.status .paid +
          succeeded "pay" request response)
    (hFinished :
      one toStatus .finished =
        one order.status .finished +
          succeeded "finish" request response)
    (hCancelled :
      one toStatus .cancelled + restoredNone request response =
        one order.status .cancelled +
          (succeeded "cancel" request response +
            succeeded "timeout_cancel" request response)) :
    Counted request response db db' := by
  have hRows :
      db'.orders.rows.length = db.orders.rows.length := by
    rw [hMoved.orders]
    exact List.length_map _
  constructor
  · rw [hRows, hCreated, Nat.add_zero]
  · have hIn := hMoved.ordersIn .paid
    omega
  · have hIn := hMoved.ordersIn .finished
    omega
  · have hIn := hMoved.ordersIn .cancelled
    omega

/- A committed call counts for what it has committed. -/
theorem Effect.counted
    {view : DB}
    {request : Request}
    {outcome : Outcome}
    {db db' : DB}
    (hEffect : Effect view request outcome db db') :
    Counted request (.ok outcome) db db' := by
  cases hEffect with
  | productCreated | inventoryInitialised | inventoryAdded
  | cancelRepeated | expiryRepeated | expiryIgnored
  | expiryLate => exact .of_same rfl rfl rfl rfl rfl
  | productStatusSame hRequest | productStatusSet hRequest =>
      rcases hRequest with rfl | rfl
      · exact .of_same rfl rfl rfl rfl rfl
      · exact .of_same rfl rfl rfl rfl rfl
  | orderReplayed hChecked hReplayed =>
      apply Counted.of_same rfl _ rfl rfl rfl
      simp [createdOne, recordedOrderCreate, hChecked,
        orderCreateResult]
  | @orderCreated now nextAttemptAt userID req ids requestHash
      items order db db' hChecked hPlaced =>
      have hRows := (Table.insert?_eq_some_iff.mp
        hPlaced.orders).2
      have hCreated :
          createdOne (.createOrder userID req ids)
            (.ok (.orderCreated order)) = 1 := by
        simp [createdOne, recordedOrderCreate, hChecked,
          orderCreateResult]
      have hIn
          {status : OrderStatus}
          (hOther : order.status ≠ status) :
          ordersIn status db' = ordersIn status db := by
        unfold ordersIn
        rw [hRows]
        simp [List.countP_append, hOther]
      have hPending := hPlaced.status
      constructor
      · rw [hRows, hCreated, List.length_append,
          List.length_singleton]
      · rw [hIn (by rw [hPending]; decide)]
        rfl
      · rw [hIn (by rw [hPending]; decide)]
        rfl
      · rw [hIn (by rw [hPending]; decide)]
        rfl
  | orderPaid hPending hPaid =>
      apply Counted.of_moved hPaid rfl
      all_goals
        rw [hPending]
        rfl
  | orderFinished hPaid hFinished =>
      apply Counted.of_moved hFinished rfl
      all_goals
        rw [hPaid]
        rfl
  | orderCancelled hPending hCancelled
  | orderExpired _ hPending hCancelled =>
      apply Counted.of_moved hCancelled rfl
      all_goals
        rw [hPending]
        rfl

------------------------------------------------------------
-- Whole Runs
------------------------------------------------------------

/- The orders of a run are what its calls count. -/
structure Tallied
    (events : List Event)
    (db : DB) : Prop where
  created :
    db.orders.rows.length =
      (events.map fun e =>
        createdOne e.request e.response).sum
  paid :
    ordersIn .paid db +
        (events.map fun e =>
          succeeded "finish" e.request e.response).sum =
      (events.map fun e =>
        succeeded "pay" e.request e.response).sum
  finished :
    ordersIn .finished db =
      (events.map fun e =>
        succeeded "finish" e.request e.response).sum
  cancelled :
    ordersIn .cancelled db +
        (events.map fun e =>
          restoredNone e.request e.response).sum =
      (events.map fun e =>
          succeeded "cancel" e.request e.response).sum +
        (events.map fun e =>
          succeeded "timeout_cancel" e.request e.response).sum

theorem Tallied.snoc
    {events : List Event}
    {e : Event}
    {db db' : DB}
    (hTallied : Tallied events db)
    (hCounted : Counted e.request e.response db db') :
    Tallied (events ++ [e]) db' := by
  have hSum
      (f : Event → Nat) :
      ((events ++ [e]).map f).sum = (events.map f).sum + f e := by
    simp
  rcases hTallied with ⟨hCreated, hPaid, hFinished, hCancelled⟩
  rcases hCounted with
    ⟨hCreated', hPaid', hFinished', hCancelled'⟩
  constructor
  · rw [hSum]
    omega
  · rw [hSum, hSum]
    omega
  · rw [hSum]
    omega
  · rw [hSum, hSum, hSum]
    omega

theorem Reaches.tallied
    {events : List Event}
    {s : State}
    (hReaches : Reaches events s) :
    Tallied events s.db := by
  apply Reaches.induction (P := Tallied) _ _ _ _ hReaches
  · constructor <;> rfl
  · intro events db db' _ hTallied hTouched
    rcases hTouched with ⟨f, _, hKey, rfl⟩
    exact ⟨hTallied.created, hTallied.paid,
      hTallied.finished, hTallied.cancelled⟩
  · intro events e outcome view _ hTallied hOk _ hEffect
    apply hTallied.snoc
    rw [hOk]
    exact hEffect.counted
  · intro events e err _ hTallied hError _
    apply hTallied.snoc
    rw [hError]
    exact .of_error _ _ _

theorem unrestored_eq
    (events : List Event) :
    unrestored "timeout_cancel" events =
      (events.map fun e =>
        restoredNone e.request e.response).sum := by
  unfold unrestored
  induction events with
  | nil => rfl
  | cons e events ih =>
      rw [List.countP_cons, ih, List.map_cons, List.sum_cons,
        Nat.add_comm]
      simp only [restoredNone, decide_eq_true_eq]

------------------------------------------------------------
-- Recordings of a Run
------------------------------------------------------------

/- The texts that calls record of orders. -/
def recordedTexts : List String :=
  [ "pay", "finish", "cancel", "timeout_cancel", "success",
    "idempotent", "already_cancelled", "ignored",
    "order_not_found", "already_paid", "already_finished",
    "not_paid", "state_conflict", "error",
    "insufficient_stock", "idempotency_conflict",
    "idempotency_in_progress", "product_not_found",
    "product_off_sale", "inventory_not_found",
    "duplicate_item", "invalid_idempotency_key",
    "invalid_user", "idempotent_replay" ]

omit [Deployment] in
/- Nothing is trimmed from them. -/
theorem normalizeLabelValue_of_mem :
    ∀ text ∈ recordedTexts, normalizeLabelValue text = text := by
  decide +kernel

omit [Deployment] in
theorem mem_recordedTexts
    {request : Request}
    {response : Except Err Outcome}
    {recorded : String × String}
    (hRecorded :
      recordedTransition request response = some recorded) :
    recorded.1 ∈ recordedTexts ∧
      recorded.2 ∈ recordedTexts := by
  have hClassified
      (e : Option Err) :
      classifyOrderTransitionError e ∈ recordedTexts := by
    cases e with
    | none => decide
    | some e => cases e <;> decide
  rcases Option.map_eq_some_iff.mp hRecorded with
    ⟨action, hAction, rfl⟩
  constructor
  · cases request with
    | payOrder | finishOrder | cancelOrder
    | cancelExpiredOrder =>
        cases hAction
        simp [recordedTexts]
    | _ => cases hAction
  · dsimp only
    unfold transitionResult
    split
    · decide
    · decide
    · decide
    · exact hClassified _

omit [Deployment] in
theorem orderCreateResult_mem
    (response : Except Err Outcome) :
    orderCreateResult response ∈ recordedTexts := by
  unfold orderCreateResult
  split
  case h_1 e => cases e <;> decide
  · decide
  · decide

/- The recordings of a call that count for an action. -/
theorem Event.countP_transition
    (e : Event)
    {action : String}
    (hAction : action ∈ recordedTexts) :
    e.records.countP
        (fun r =>
          r.Same (.orderStateTransition action "success")) =
      succeeded action e.request e.response := by
  have hSuccess : "success" ∈ recordedTexts := by decide
  have hCreate :
      (((recordedOrderCreate e.request e.response).map
          BusinessRecord.orderCreate).toList).countP
        (fun r =>
          r.Same (.orderStateTransition action "success")) =
        0 := by
    cases recordedOrderCreate e.request e.response with
    | none => rfl
    | some result =>
        simp [BusinessRecord.Same, BusinessRecord.name]
  unfold Event.records succeeded
  rw [List.countP_append, hCreate, Nat.zero_add]
  cases hRecorded :
      recordedTransition e.request e.response with
  | none => simp
  | some recorded =>
      rcases mem_recordedTexts hRecorded with
        ⟨hFirst, hSecond⟩
      have hSame :
          (BusinessRecord.orderStateTransition recorded.1
              recorded.2).Same
            (.orderStateTransition action "success") ↔
          recorded = (action, "success") := by
        simp [BusinessRecord.Same, BusinessRecord.name,
          BusinessRecord.labels, Prod.ext_iff,
          normalizeLabelValue_of_mem _ hFirst,
          normalizeLabelValue_of_mem _ hSecond,
          normalizeLabelValue_of_mem _ hAction,
          normalizeLabelValue_of_mem _ hSuccess]
      rw [Option.map_some, Option.toList_some,
        List.countP_singleton]
      simp only [hSame, decide_eq_true_eq, Option.some.injEq]

theorem Event.countP_create
    (e : Event) :
    e.records.countP
        (fun r => r.Same (.orderCreate "success")) =
      createdOne e.request e.response := by
  have hSuccess : "success" ∈ recordedTexts := by decide
  have hTransition :
      (((recordedTransition e.request e.response).map
          fun recorded =>
            BusinessRecord.orderStateTransition recorded.1
              recorded.2).toList).countP
        (fun r => r.Same (.orderCreate "success")) = 0 := by
    cases recordedTransition e.request e.response with
    | none => rfl
    | some recorded =>
        simp [BusinessRecord.Same, BusinessRecord.name]
  unfold Event.records createdOne
  rw [List.countP_append, hTransition, Nat.add_zero]
  cases hRecorded :
      recordedOrderCreate e.request e.response with
  | none => simp
  | some result =>
      have hResult : result ∈ recordedTexts := by
        unfold recordedOrderCreate at hRecorded
        split at hRecorded
        · split at hRecorded
          · cases hRecorded
          · cases hRecorded
            exact orderCreateResult_mem _
        · cases hRecorded
      have hSame :
          (BusinessRecord.orderCreate result).Same
            (.orderCreate "success") ↔
          result = "success" := by
        simp [BusinessRecord.Same, BusinessRecord.name,
          BusinessRecord.labels,
          normalizeLabelValue_of_mem _ hResult,
          normalizeLabelValue_of_mem _ hSuccess]
      rw [Option.map_some, Option.toList_some,
        List.countP_singleton]
      simp only [hSame, decide_eq_true_eq, Option.some.injEq]

/- What the recordings count of an order event is what the
   calls of the run count of it. -/
theorem countP_of_perm
    {events : List Event}
    {calls : List BusinessRecord}
    (hCalls :
      (calls.filter BusinessRecord.isOrder).Perm
        (events.flatMap Event.records))
    {r : BusinessRecord}
    (hOrder : r.isOrder = true) :
    calls.countP (fun r' => r'.Same r) =
      (events.map fun e =>
        e.records.countP fun r' => r'.Same r).sum := by
  have hFilter :
      calls.countP (fun r' => r'.Same r) =
        (calls.filter BusinessRecord.isOrder).countP
          fun r' => r'.Same r := by
    rw [List.countP_filter]
    apply List.countP_congr
    intro r' _
    rw [Bool.and_eq_true, decide_eq_true_eq]
    refine ⟨fun hSame => ⟨hSame, ?_⟩, And.left⟩
    unfold BusinessRecord.isOrder at hOrder ⊢
    rw [hSame.1]
    exact hOrder
  rw [hFilter, hCalls.countP_eq, List.countP_flatMap]
  rfl

------------------------------------------------------------
-- The Page
------------------------------------------------------------

/-
  Whenever the page is read after a run, it has the number
  of orders, of orders that were paid, and of orders that
  are finished. The cancellations of both kinds are the
  cancelled orders and the expiries that came too late. All
  numbers are counted on 64 bits.
-/
theorem orders_on_page
    {F : Type}
    (f : Seconds F)
    (p : Printable)
    {events : List Event}
    {s : State}
    (requests : List HTTPRecord)
    (calls : List BusinessRecord)
    (http : List (HTTPMetricSnapshot F))
    (business : List BusinessMetricSnapshot)
    (hReaches : Reaches events s)
    (hCalls :
      (calls.filter BusinessRecord.isOrder).Perm
        (events.flatMap Event.records))
    (hHTTP :
      GoMap.Ranges (HTTPMetrics.recordAll f requests) http)
    (hBusiness :
      GoMap.Ranges (BusinessMetrics.recordAll p calls)
        business) :
    let value := fun r : BusinessRecord =>
      valueOf
        (scrape (Metrics.renderPrometheus f p http business))
        (r.seriesText p)
    let successes := fun action : String =>
      value (.orderStateTransition action "success")
    value (.orderCreate "success") =
        s.db.orders.rows.length % 2 ^ 64 ∧
      successes "pay" =
        (ordersIn .paid s.db + ordersIn .finished s.db) %
          2 ^ 64 ∧
      successes "finish" =
        ordersIn .finished s.db % 2 ^ 64 ∧
      (successes "cancel" + successes "timeout_cancel") %
          2 ^ 64 =
        (ordersIn .cancelled s.db +
          unrestored "timeout_cancel" events) % 2 ^ 64 := by
  intro value successes
  have hTallied := hReaches.tallied
  have hCreate :
      value (.orderCreate "success") =
        (events.map fun e =>
          createdOne e.request e.response).sum % 2 ^ 64 := by
    have hValue :=
      Metrics.valueOf_renderPrometheus hHTTP hBusiness
        (.orderCreate "success")
    rw [countP_of_perm hCalls (by decide)] at hValue
    simp only [Event.countP_create] at hValue
    exact hValue
  have hTransition
      {action : String}
      (hAction : action ∈ recordedTexts) :
      successes action =
        (events.map fun e =>
          succeeded action e.request e.response).sum %
            2 ^ 64 := by
    have hValue :=
      Metrics.valueOf_renderPrometheus hHTTP hBusiness
        (.orderStateTransition action "success")
    rw [countP_of_perm hCalls rfl] at hValue
    simp only [Event.countP_transition _ hAction] at hValue
    exact hValue
  refine ⟨?_, ?_, ?_, ?_⟩
  · rw [hCreate, hTallied.created]
  · rw [hTransition (by decide), hTallied.finished,
      hTallied.paid]
  · rw [hTransition (by decide), hTallied.finished]
  · rw [hTransition (by decide), hTransition (by decide),
      unrestored_eq, hTallied.cancelled, ← Nat.add_mod]

end OrderManagement

------------------------------------------------------------
-- A Small Shop
------------------------------------------------------------

namespace OrderManagement

open Exposition

attribute [local instance] sampleDeployment

/- What the calls of the shop record, in another order and
   beside the answer of the guard. -/
def shopRecords : List BusinessRecord :=
  [ .orderStateTransition "pay" "success",
    .redisInventoryPreDeduct "skipped",
    .orderCreate "success" ]

def shopCounters : List BusinessMetricSnapshot :=
  [ ⟨⟨"app_order_create_total",
      "\x7bresult=\"success\"\x7d"⟩, 1⟩,
    ⟨⟨"app_redis_inventory_prededuct_total",
      "\x7bresult=\"skipped\"\x7d"⟩, 1⟩,
    ⟨⟨"app_order_state_transition_total",
      "\x7baction=\"pay\",result=\"success\"\x7d"⟩, 1⟩ ]

theorem shopCounters_ranges :
    GoMap.Ranges
      (BusinessMetrics.recordAll asciiPrintable shopRecords)
      shopCounters := by
  rfl

theorem shopRecords_perm :
    (shopRecords.filter BusinessRecord.isOrder).Perm
      ((serialEvents DB.empty payingCalls).flatMap
        Event.records) := by
  have hRecords :
      (serialEvents DB.empty payingCalls).flatMap
          Event.records =
        [ .orderCreate "success",
          .orderStateTransition "pay" "success" ] := by
    decide +kernel
  rw [hRecords]
  exact List.Perm.swap _ _ _

theorem orders_on_page_sample :
    let value := fun r : BusinessRecord =>
      valueOf
        (scrape
          (Metrics.renderPrometheus microseconds
            asciiPrintable pageHTTP shopCounters))
        (r.seriesText asciiPrintable)
    value (.orderCreate "success") = 1 ∧
      value (.orderStateTransition "pay" "success") = 1 ∧
      value (.orderStateTransition "finish" "success") = 0 := by
  have hReaches :
      Reaches (serialEvents DB.empty payingCalls)
        ⟨serialDB DB.empty payingCalls, 0⟩ :=
    reaches_serial payingCalls
  have hOrders :
      (serialDB DB.empty payingCalls).orders.rows.length = 1 ∧
        ordersIn .paid (serialDB DB.empty payingCalls) = 1 ∧
        ordersIn .finished
          (serialDB DB.empty payingCalls) = 0 := by
    decide +kernel
  rcases hOrders with ⟨hAll, hPaid, hFinished⟩
  rcases orders_on_page microseconds asciiPrintable
      pageRequests shopRecords pageHTTP shopCounters hReaches
      shopRecords_perm pageHTTP_ranges shopCounters_ranges with
    ⟨hCreated, hPays, hFinishes, _⟩
  rw [hAll] at hCreated
  rw [hPaid, hFinished] at hPays
  rw [hFinished] at hFinishes
  exact ⟨hCreated, hPays, hFinishes⟩

end OrderManagement
