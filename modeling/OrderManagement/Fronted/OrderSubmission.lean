import OrderManagement.Service.OrderRequest

/-
  The order form of the web client: the key that it sends
  with a submission, and when it forgets that key.

  Main declarations:
    * `prepareOrderSubmission`
    * `OrdersPage` and its handlers
    * `OrdersPage.KeyedFor`
-/

namespace OrderManagement

------------------------------------------------------------
-- Submissions
------------------------------------------------------------

structure PendingOrderSubmission where
  fingerprint : String
  idempotencyKey : String
deriving DecidableEq

structure CreateOrderPayload where
  items : List CreateOrderItemRequest
deriving DecidableEq

/- `JSON.stringify(payload.items)` -/
def fingerprintOrder
    (payload : CreateOrderPayload) : String :=
  "[" ++ marshalItems payload.items ++ "]"

/- The key of one submission, if `createKey` is the next key
   that the browser makes. -/
def prepareOrderSubmission
    (payload : CreateOrderPayload)
    (previous : Option PendingOrderSubmission)
    (createKey : String) : PendingOrderSubmission :=
  let fresh : PendingOrderSubmission :=
    { fingerprint := fingerprintOrder payload
      idempotencyKey := createKey }
  match previous with
  | none => fresh
  | some previous =>
      if previous.fingerprint = fingerprintOrder payload then
        previous
      else
        fresh

/- Either way the submission has the payload's fingerprint. -/
theorem prepareOrderSubmission_fingerprint
    (payload : CreateOrderPayload)
    (previous : Option PendingOrderSubmission)
    (createKey : String) :
    (prepareOrderSubmission payload previous
      createKey).fingerprint = fingerprintOrder payload := by
  unfold prepareOrderSubmission
  split
  · rfl
  · split
    case isTrue hSame => exact hSame
    case isFalse => rfl

------------------------------------------------------------
-- The Page
------------------------------------------------------------

/-
  The state of the page. The draft is what the rows of the
  form parse to, if they do, and `mutation` is the key of
  the request that the page waits for.
-/
structure OrdersPage where
  draft : Option CreateOrderPayload
  pendingSubmission : Option PendingOrderSubmission
  mutation : Option String
deriving DecidableEq

namespace OrdersPage

/- `createOrderMutation.isPending` -/
def isPending
    (page : OrdersPage) : Bool :=
  page.mutation.isSome

/- The page after a submit, and the request it sends. The
   button is disabled while a request is pending. -/
def handleCreateOrder
    (page : OrdersPage)
    (createKey : String) :
    OrdersPage × Option CreateOrderRequest :=
  if page.isPending then
    (page, none)
  else
    match page.draft with
    | none => (page, none)
    | some payload =>
        let submission :=
          prepareOrderSubmission payload
            page.pendingSubmission createKey
        ({ page with
            pendingSubmission := some submission
            mutation := some submission.idempotencyKey },
          some ⟨submission.idempotencyKey, payload.items⟩)

/- The draft is reset to one empty row. -/
def onSuccess
    (page : OrdersPage) : OrdersPage :=
  { page with
    draft := none
    pendingSubmission := none
    mutation := none }

def onError
    (page : OrdersPage) : OrdersPage :=
  { page with
    pendingSubmission := none
    mutation := none }

def handleResetForm
    (page : OrdersPage) : OrdersPage :=
  { page with
    draft := none
    pendingSubmission := none }

/- The user changes the rows of the form. -/
def edit
    (page : OrdersPage)
    (draft : Option CreateOrderPayload) : OrdersPage :=
  { page with draft := draft }

/- The page holds this key for its draft. -/
def KeyedFor
    (page : OrdersPage)
    (key : String) : Prop :=
  ∃ payload,
    page.draft = some payload ∧
      page.pendingSubmission =
        some ⟨fingerprintOrder payload, key⟩

/- A submit keeps the draft, and what it sends has the key
   that the page holds from then on: the old one if there
   was one. -/
theorem handleCreateOrder_sent
    {page page' : OrdersPage}
    {createKey : String}
    {request : CreateOrderRequest}
    (hSubmit :
      page.handleCreateOrder createKey =
        (page', some request)) :
    page'.KeyedFor request.idempotencyKey ∧
      ∀ key, page.KeyedFor key →
        request.idempotencyKey = key := by
  unfold handleCreateOrder at hSubmit
  split at hSubmit
  · cases hSubmit
  · cases hDraft : page.draft with
    | none =>
        rw [hDraft] at hSubmit
        cases hSubmit
    | some payload =>
        rw [hDraft] at hSubmit
        cases hSubmit
        constructor
        · refine ⟨payload, rfl, ?_⟩
          dsimp only
          rw [← prepareOrderSubmission_fingerprint payload
            page.pendingSubmission createKey]
        · rintro key ⟨payload', hDraft', hHeld⟩
          rw [hDraft] at hDraft'
          cases hDraft'
          rw [hHeld]
          unfold prepareOrderSubmission
          simp

/- A submit that sends nothing changes nothing. -/
theorem handleCreateOrder_none
    {page page' : OrdersPage}
    {createKey : String}
    (hSubmit :
      page.handleCreateOrder createKey = (page', none)) :
    page' = page := by
  unfold handleCreateOrder at hSubmit
  split at hSubmit
  · cases hSubmit
    rfl
  · cases hDraft : page.draft with
    | none =>
        rw [hDraft] at hSubmit
        cases hSubmit
        rfl
    | some payload =>
        rw [hDraft] at hSubmit
        cases hSubmit

end OrdersPage

end OrderManagement
