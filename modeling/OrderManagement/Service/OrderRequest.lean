import OrderManagement.Library.Encoding
import OrderManagement.Model.Schema
import Mathlib.Data.List.Sort
import Mathlib.Data.Set.Function

/-
  The request of CreateOrder, its validation, and the hash
  under which the idempotency record remembers it.

  Main declarations:
    * `CreateOrderRequest`
    * `validateDuplicateItems`, `sortedOrderItems`, and
      `buildCreateOrderRequestHash`
    * `OrderService.checkCreateOrder`
    * `validateDuplicateItems_eq_ok_iff`
    * `sortedOrderItems_eq_iff_perm`
    * `marshalPayload_injective`
    * `RequestHashLaw` with `request_hash_law`
-/

namespace OrderManagement

------------------------------------------------------------
-- Requests
------------------------------------------------------------

structure CreateOrderItemRequest where
  productID : Int
  quantity : Int
deriving DecidableEq, Repr

structure CreateOrderRequest where
  idempotencyKey : String
  items : List CreateOrderItemRequest
deriving DecidableEq, Repr

/- The identifiers that one CreateOrder call generates. -/
@[ext] structure GeneratedIDs where
  orderID : Int
  orderNo : String
  eventID : String
  orderIDPositive : 0 < orderID
deriving Repr

instance : DecidableEq GeneratedIDs := fun _ _ =>
  decidable_of_iff _ GeneratedIDs.ext_iff.symm

------------------------------------------------------------
-- Validation
------------------------------------------------------------

/- The characters that unicode.IsSpace accepts. -/
def isSpace (c : Char) : Bool :=
  let n := c.toNat
  (9 ≤ n && n ≤ 13) || n == 32 || n == 0x85 || n == 0xA0 ||
    n == 0x1680 || (0x2000 ≤ n && n ≤ 0x200a) ||
    n == 0x2028 || n == 0x2029 || n == 0x202f ||
    n == 0x205f || n == 0x3000

/- Whether strings.TrimSpace leaves nothing of the text. -/
def isBlank (s : String) : Bool :=
  s.toList.all isSpace

/- The loop of validateDuplicateItems with its seen set. -/
def hasDuplicate
    (seen : List Int) :
    List CreateOrderItemRequest → Bool
| [] => false
| item :: items =>
    if item.productID ∈ seen then
      true
    else
      hasDuplicate (item.productID :: seen) items

def validateDuplicateItems
    (items : List CreateOrderItemRequest) : Except Err Unit :=
  if hasDuplicate [] items then
    .error .duplicateOrderItem
  else
    .ok ()

/- The order of sortedOrderItems: product, then quantity. -/
def itemLE
    (a b : CreateOrderItemRequest) : Prop :=
  a.productID < b.productID ∨
    a.productID = b.productID ∧ a.quantity ≤ b.quantity

instance : DecidableRel itemLE := fun a b =>
  inferInstanceAs (Decidable
    (a.productID < b.productID ∨
      a.productID = b.productID ∧ a.quantity ≤ b.quantity))

def sortedOrderItems
    (items : List CreateOrderItemRequest) :
    List CreateOrderItemRequest :=
  items.insertionSort itemLE

------------------------------------------------------------
-- Request Hash
------------------------------------------------------------

/- The JSON object of one item. -/
def marshalItem
    (item : CreateOrderItemRequest) : String :=
  "\x7b\"product_id\":" ++ toString item.productID ++
    ",\"quantity\":" ++ toString item.quantity ++ "\x7d"

/- The elements of a JSON array, without the brackets. -/
def marshalItems :
    List CreateOrderItemRequest → String
| [] => ""
| [item] => marshalItem item
| item :: items => marshalItem item ++ "," ++ marshalItems items

/-
  The JSON payload of the hash. The sorted copy of an empty
  slice is nil, which is written as null.
-/
def marshalPayload
    (items : List CreateOrderItemRequest) : String :=
  "\x7b\"version\":1,\"items\":" ++
    (if items = [] then
      "null"
    else
      "[" ++ marshalItems items ++ "]") ++ "\x7d"

section Hash

variable [Deployment]

def buildCreateOrderRequestHash
    (req : CreateOrderRequest) : String :=
  Deployment.sha256Hex
    (marshalPayload (sortedOrderItems req.items))

/-
  What CreateOrder does before it touches a store: it
  validates, hashes the request, and sorts its items.
-/
def OrderService.checkCreateOrder
    (userID : Int)
    (req : CreateOrderRequest) :
    Except Err (String × List CreateOrderItemRequest) := do
  if userID ≤ 0 then
    throw .invalidUserID
  if isBlank req.idempotencyKey ∨
      128 < req.idempotencyKey.utf8ByteSize then
    throw .invalidIdempotencyKey
  validateDuplicateItems req.items
  return (buildCreateOrderRequestHash req,
    sortedOrderItems req.items)

end Hash

------------------------------------------------------------
-- Duplicates
------------------------------------------------------------

/- The loop finds a duplicate exactly when there is one. -/
theorem hasDuplicate_eq_false_iff
    {seen : List Int}
    {items : List CreateOrderItemRequest} :
    hasDuplicate seen items = false ↔
      (∀ item ∈ items, item.productID ∉ seen) ∧
        (items.map CreateOrderItemRequest.productID).Nodup := by
  induction items generalizing seen with
  | nil => simp [hasDuplicate]
  | cons item items ih =>
      rw [hasDuplicate]
      by_cases hSeen : item.productID ∈ seen
      · simp [hSeen]
      · rw [if_neg hSeen, ih, List.map_cons, List.nodup_cons]
        constructor
        · rintro ⟨hRest, hNodup⟩
          refine ⟨?_, ?_, hNodup⟩
          · intro other hOther
            rcases List.mem_cons.mp hOther with rfl | hOther
            · exact hSeen
            · exact fun hMem =>
                hRest other hOther (List.mem_cons_of_mem _ hMem)
          · intro hMem
            rcases List.mem_map.mp hMem with ⟨other, hOther, hEq⟩
            exact hRest other hOther (by simp [hEq])
        · rintro ⟨hFresh, hHead, hNodup⟩
          refine ⟨?_, hNodup⟩
          intro other hOther hMem
          rcases List.mem_cons.mp hMem with hEq | hMem
          · exact hHead
              (hEq ▸ List.mem_map_of_mem hOther)
          · exact hFresh other
              (List.mem_cons_of_mem _ hOther) hMem

theorem validateDuplicateItems_eq_ok_iff
    {items : List CreateOrderItemRequest} :
    validateDuplicateItems items = .ok () ↔
      (items.map CreateOrderItemRequest.productID).Nodup := by
  have hLoop :=
    @hasDuplicate_eq_false_iff [] items
  unfold validateDuplicateItems
  cases hDup : hasDuplicate [] items with
  | true => simp [hDup] at hLoop ⊢; exact hLoop
  | false => simp [hDup] at hLoop ⊢; exact hLoop

------------------------------------------------------------
-- Sorting
------------------------------------------------------------

instance : Std.Total itemLE where
  total a b := by
    unfold itemLE
    omega

instance : IsTrans CreateOrderItemRequest itemLE where
  trans a b c := by
    unfold itemLE
    omega

instance : Std.Antisymm itemLE where
  antisymm a b hab hba := by
    cases a
    cases b
    simp only [itemLE] at hab hba
    simp only [CreateOrderItemRequest.mk.injEq]
    omega

theorem sortedOrderItems_perm
    (items : List CreateOrderItemRequest) :
    (sortedOrderItems items).Perm items :=
  List.perm_insertionSort itemLE items

/- Sorting forgets the order of the items and no more. -/
theorem sortedOrderItems_eq_iff_perm
    {items items' : List CreateOrderItemRequest} :
    sortedOrderItems items = sortedOrderItems items' ↔
      items.Perm items' := by
  constructor
  · intro hEq
    exact (sortedOrderItems_perm items).symm.trans
      (hEq ▸ sortedOrderItems_perm items')
  · intro hPerm
    have hSorted :
        (sortedOrderItems items).Perm
          (sortedOrderItems items') :=
      ((sortedOrderItems_perm items).trans hPerm).trans
        (sortedOrderItems_perm items').symm
    exact hSorted.eq_of_pairwise'
      (List.pairwise_insertionSort itemLE items)
      (List.pairwise_insertionSort itemLE items')

------------------------------------------------------------
-- Payloads
------------------------------------------------------------

/- The two numbers of an item, in an object whose texts
   around them do not matter. -/
theorem selfDelimiting_itemText
    (front middle : List Char) :
    Encoding.SelfDelimiting
      (fun item : CreateOrderItemRequest =>
        (front ++ (Encoding.decimal item.productID ++ [','])) ++
          (middle ++
            (Encoding.decimal item.quantity ++ ['\x7d']))) := by
  have hProduct :=
    @Encoding.selfDelimiting_decimal ',' (by decide)
      (by decide)
  have hQuantity :=
    @Encoding.selfDelimiting_decimal '\x7d' (by decide)
      (by decide)
  have hFields :
      Function.Injective
        (fun item : CreateOrderItemRequest =>
          (item.productID, item.quantity)) := by
    intro a b hEq
    cases a
    cases b
    simpa using hEq
  have hText :=
    ((hProduct.literal front).append
      (hQuantity.literal middle)).comap hFields
  exact hText

theorem marshalItem_toList
    (item : CreateOrderItemRequest) :
    (marshalItem item).toList =
      ("\x7b\"product_id\":".toList ++
          (Encoding.decimal item.productID ++ [','])) ++
        ("\"quantity\":".toList ++
          (Encoding.decimal item.quantity ++ ['\x7d'])) := by
  have hComma :
      ",\"quantity\":".toList =
        [','] ++ "\"quantity\":".toList := by decide
  have hBrace : "\x7d".toList = ['\x7d'] := by decide
  unfold marshalItem Encoding.decimal
  simp only [String.toList_append, hComma, hBrace,
    List.append_assoc]

/- The object of an item shows where it ends. -/
theorem selfDelimiting_marshalItem :
    Encoding.SelfDelimiting
      (fun item => (marshalItem item).toList) := by
  simp only [marshalItem_toList]
  apply selfDelimiting_itemText

/- The elements of an array, up to its closing bracket. -/
theorem marshalItems_cons
    (item : CreateOrderItemRequest)
    (items : List CreateOrderItemRequest) :
    (marshalItems (item :: items)).toList ++ [']'] =
      (marshalItem item).toList ++
        Encoding.rest (fun item => (marshalItem item).toList)
          ',' ']' items := by
  induction items generalizing item with
  | nil => rfl
  | cons next items ih =>
      simp only [marshalItems, String.toList_append,
        List.append_assoc, ih next, Encoding.rest]
      rfl

/- The value of the field items of the payload. -/
def marshalArray
    (items : List CreateOrderItemRequest) : List Char :=
  match items with
  | [] => "null".toList
  | item :: items =>
      '[' :: ((marshalItem item).toList ++
        Encoding.rest (fun item => (marshalItem item).toList)
          ',' ']' items)

theorem marshalPayload_toList
    (items : List CreateOrderItemRequest) :
    (marshalPayload items).toList =
      "\x7b\"version\":1,\"items\":".toList ++
        (marshalArray items ++ ['\x7d']) := by
  unfold marshalPayload
  rw [String.toList_append, String.toList_append,
    List.append_assoc]
  cases items with
  | nil => rfl
  | cons item items =>
      rw [if_neg (List.cons_ne_nil item items),
        String.toList_append, String.toList_append,
        marshalArray, ← marshalItems_cons]
      rfl

/- The payload tells which items it was made from. -/
theorem marshalPayload_injective :
    Function.Injective marshalPayload := by
  intro items items' hEq
  have hChars := congrArg String.toList hEq
  rw [marshalPayload_toList, marshalPayload_toList] at hChars
  have hArray :=
    List.append_cancel_right (List.append_cancel_left hChars)
  cases items with
  | nil =>
      cases items' with
      | nil => rfl
      | cons item' items' => cases hArray
  | cons item items =>
      cases items' with
      | nil => cases hArray
      | cons item' items' =>
          have hApart : ',' ≠ ']' := by decide
          have hPair :=
            (selfDelimiting_marshalItem.append
              (selfDelimiting_marshalItem.rest
                hApart)).injective
          have hSame :=
            @hPair (item, items) (item', items')
              (List.cons.inj hArray).2
          rw [Prod.mk.injEq] at hSame
          rw [hSame.1, hSame.2]

/- Equal payloads were made from the same items. -/
theorem marshalPayload_sorted_inj
    {items items' : List CreateOrderItemRequest} :
    marshalPayload (sortedOrderItems items) =
        marshalPayload (sortedOrderItems items') ↔
      items.Perm items' := by
  rw [marshalPayload_injective.eq_iff,
    sortedOrderItems_eq_iff_perm]

------------------------------------------------------------
-- Checked Requests
------------------------------------------------------------

/- What a checked request is known to satisfy. -/
theorem OrderService.checkCreateOrder_eq_ok_iff
    [Deployment]
    {userID : Int}
    {req : CreateOrderRequest}
    {requestHash : String}
    {items : List CreateOrderItemRequest} :
    checkCreateOrder userID req = .ok (requestHash, items) ↔
      0 < userID ∧
        isBlank req.idempotencyKey = false ∧
        req.idempotencyKey.utf8ByteSize ≤ 128 ∧
        (req.items.map
          CreateOrderItemRequest.productID).Nodup ∧
        requestHash = buildCreateOrderRequestHash req ∧
        items = sortedOrderItems req.items := by
  unfold checkCreateOrder
  by_cases hUser : userID ≤ 0
  · have hNot : ¬ 0 < userID := by omega
    simp [hUser, hNot, throw, throwThe, MonadExceptOf.throw,
      bind, Except.bind]
  by_cases hKey :
      isBlank req.idempotencyKey ∨
        128 < req.idempotencyKey.utf8ByteSize
  · simp only [if_neg hUser, if_pos hKey]
    constructor
    · intro hOk
      cases hOk
    · rintro ⟨_, hBlank, hLength, _⟩
      rcases hKey with hBlank' | hLong
      · rw [hBlank] at hBlank'
        cases hBlank'
      · omega
  · simp only [if_neg hUser, if_neg hKey]
    rw [← validateDuplicateItems_eq_ok_iff]
    rw [not_or, Bool.not_eq_true, Nat.not_lt] at hKey
    have hUser' : 0 < userID := by omega
    cases hDup : validateDuplicateItems req.items with
    | error e => simp [bind, Except.bind]
    | ok u =>
        simp [bind, Except.bind, pure, Except.pure, hUser',
          hKey.1, hKey.2, eq_comm]

------------------------------------------------------------
-- What the Hash Identifies
------------------------------------------------------------

/- The text of a request of which the digest is taken. -/
def requestPayload
    (req : CreateOrderRequest) : String :=
  marshalPayload (sortedOrderItems req.items)

/-
  The hash of a request tells the items that are ordered, in
  any order, and nothing else: not the idempotency key.
-/
structure RequestHashLaw
    [Deployment]
    (considered : Set CreateOrderRequest) : Prop where
  identifies :
    ∀ req ∈ considered, ∀ req' ∈ considered,
      (buildCreateOrderRequestHash req =
          buildCreateOrderRequestHash req' ↔
        req.items.Perm req'.items)
  sameItems :
    ∀ key key' items items', items.Perm items' →
      buildCreateOrderRequestHash ⟨key, items⟩ =
        buildCreateOrderRequestHash ⟨key', items'⟩

theorem request_hash_law
    [Deployment]
    {considered : Set CreateOrderRequest}
    (hDigest :
      Set.InjOn Deployment.sha256Hex
        (Set.image requestPayload considered)) :
    RequestHashLaw considered where
  identifies req hReq req' hReq' := by
    have hPayloads :
        buildCreateOrderRequestHash req =
            buildCreateOrderRequestHash req' ↔
          requestPayload req = requestPayload req' :=
      hDigest.eq_iff (Set.mem_image_of_mem _ hReq)
        (Set.mem_image_of_mem _ hReq')
    rw [hPayloads]
    exact marshalPayload_sorted_inj
  sameItems key key' items items' hPerm := by
    unfold buildCreateOrderRequestHash
    rw [sortedOrderItems_eq_iff_perm.mpr hPerm]

/- Digests of the payloads of two orders for two products. -/
@[reducible] def pairDigests : Deployment where
  collate := id
  sha256Hex s :=
    if s = marshalPayload [⟨1, 4⟩, ⟨2, 1⟩] then
      "64bc773533b5469a5d6935eb148af2135b9c376a7cd54a0d6fdf4e23fcc7c87c"
    else if s = marshalPayload [⟨1, 4⟩, ⟨2, 2⟩] then
      "e03aaddb1da201e74952a057a6ee54611831027087342306a5f776758e8eb2ac"
    else
      s
  orderTimeout := 1800000

/- The first two requests are one order, the third is not. -/
def pairRequests : List CreateOrderRequest :=
  [ ⟨"k1", [⟨1, 4⟩, ⟨2, 1⟩]⟩,
    ⟨"k2", [⟨2, 1⟩, ⟨1, 4⟩]⟩,
    ⟨"k1", [⟨2, 2⟩, ⟨1, 4⟩]⟩ ]

theorem request_hash_law_pairs :
    @RequestHashLaw pairDigests
      { req | req ∈ pairRequests } := by
  have hDigests :
      ∀ req ∈ pairRequests, ∀ req' ∈ pairRequests,
        pairDigests.sha256Hex (requestPayload req) =
            pairDigests.sha256Hex (requestPayload req') →
          requestPayload req = requestPayload req' := by
    decide +kernel
  refine @request_hash_law pairDigests _ ?_
  rintro _ ⟨req, hReq, rfl⟩ _ ⟨req', hReq', rfl⟩ hSame
  exact hDigests req hReq req' hReq' hSame

end OrderManagement
