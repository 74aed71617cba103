import OrderManagement.Bizcache.InventoryStockGuard
import OrderManagement.Library.Decimal
import OrderManagement.Library.Mirror

/-
  The available quantities of Redis as the texts that they
  are: the keys of the products, the command MGET and what
  `GetInventoryStocks` makes of its answer, and the command
  SET of `SetInventoryStock`.

  Main declarations:
    * `inventoryAvailableKey`
    * `RedisTexts` and `RedisTexts.quantity`
    * `StockGuard.getInventoryStocks` and
      `StockGuard.setInventoryStock`
    * `StockGuard.getInventoryStocks_of_readable` and
      `StockGuard.getInventoryStocks_of_unreadable`
    * `quantity_patch`
-/

namespace OrderManagement

------------------------------------------------------------
-- Keys and Texts
------------------------------------------------------------

def inventoryAvailableKeyPrefix : String :=
  "inventory:\x7bstock\x7d:available:"

/- An integer as `%d` and the Redis client write it. -/
def formatInt
    (n : Int) : String :=
  String.ofList (Encoding.decimal n)

def inventoryAvailableKey
    (productID : Int) : String :=
  inventoryAvailableKeyPrefix ++ formatInt productID

/- The texts under the keys of Redis. -/
abbrev RedisTexts := String → Option String

/- `strconv.ParseInt` for a word of 64 bits. -/
def parseInt64
    (text : String) : Option Int :=
  Decimal.parseInt 64 text.toList

/- The quantity under the available key of a product, if
   there is one and it is a number. -/
def RedisTexts.quantity
    (redis : RedisTexts)
    (productID : Int) : Option Int :=
  (redis (inventoryAvailableKey productID)).bind parseInt64

/- The value of a product is missing or a number. -/
def RedisTexts.Readable
    (redis : RedisTexts)
    (productID : Int) : Prop :=
  ∀ text,
    redis (inventoryAvailableKey productID) = some text →
      (parseInt64 text).isSome = true

instance
    (redis : RedisTexts)
    (productID : Int) :
    Decidable (redis.Readable productID) :=
  Option.decidableForallMem
    (redis (inventoryAvailableKey productID))

theorem formatInt_injective :
    Function.Injective formatInt := by
  intro m n hEq
  exact Encoding.decimal_injective
    (String.ofList_injective hEq)

theorem inventoryAvailableKey_injective :
    Function.Injective inventoryAvailableKey := by
  intro p q hEq
  exact formatInt_injective
    (String.append_right_inj _ |>.mp hEq)

theorem parseInt64_formatInt
    {n : Int}
    (hWord : Decimal.InWord 64 n) :
    parseInt64 (formatInt n) = some n := by
  rw [parseInt64, formatInt, String.toList_ofList]
  exact Decimal.parseInt_decimal hWord

/- What a column holds is a word. -/
theorem inWord_of_bigint
    {n : Int}
    (hNonneg : 0 ≤ n)
    (hFits : n ≤ bigintMax) :
    Decimal.InWord 64 n := by
  have hPower : (2 : Int) ^ (64 - 1) = bigintMax + 1 := by
    decide
  unfold Decimal.InWord
  rw [hPower]
  unfold bigintMax at hFits ⊢
  constructor <;> omega

theorem RedisTexts.readable_of_quantity
    {redis : RedisTexts}
    {p n : Int}
    (hShown : redis.quantity p = some n) :
    redis.Readable p := by
  intro text hText
  unfold RedisTexts.quantity at hShown
  rw [hText, Option.bind_some] at hShown
  exact Option.isSome_of_eq_some hShown

------------------------------------------------------------
-- The Guard
------------------------------------------------------------

/- The guard, with its client or without one. -/
structure StockGuard where
  hasClient : Bool
deriving DecidableEq

/- A `map[int64]*int64`: whether a product is in the map,
   and the quantity unless the pointer is nil. -/
abbrev StockMap := Int → Option (Option Int)

/- MGET: a value or nil for every key. -/
def RedisTexts.mget
    (redis : RedisTexts)
    (keys : List String) : List (Option String) :=
  keys.map redis

/-
  The loop over the answer of MGET. There is a value for
  each key, so that the index is in range.
-/
def readStocks
    (validProductIDs : List Int) :
    Nat → List (Option String) → StockMap →
      Except String StockMap
| _, [], stocks => .ok stocks
| i, raw :: values, stocks =>
    let productID := validProductIDs.getD i 0
    match raw with
    | none =>
        readStocks validProductIDs (i + 1) values
          (Function.update stocks productID (some none))
    | some text =>
        match parseInt64 text with
        | none =>
            .error
              ("parse redis stock for product " ++
                formatInt productID ++ ": " ++
                Decimal.intError "ParseInt" text)
        | some quantity =>
            readStocks validProductIDs (i + 1) values
              (Function.update stocks productID
                (some (some quantity)))

namespace StockGuard

/- What is recorded as a sync, and the answer; `mgetError`
   is the error of MGET, if it has one. -/
def getInventoryStocks
    (g : StockGuard)
    (mgetError : Option String)
    (redis : RedisTexts)
    (productIDs : List Int) :
    String × Except String StockMap :=
  if g.hasClient = false then
    ("reconcile_disabled",
      .error "redis inventory stock guard unavailable")
  else if productIDs = [] then
    ("reconcile_success", .ok fun _ => none)
  else
    let validProductIDs :=
      productIDs.filter fun productID => 0 < productID
    let keys := validProductIDs.map inventoryAvailableKey
    if keys = [] then
      ("reconcile_success", .ok fun _ => none)
    else
      match mgetError with
      | some e => ("reconcile_error", .error e)
      | none =>
          match
            readStocks validProductIDs 0 (redis.mget keys)
              (fun _ => none)
          with
          | .error e => ("reconcile_error", .error e)
          | .ok stocks => ("reconcile_success", .ok stocks)

/- What is recorded as a sync, and the key and the value of
   the SET that Redis runs, if it runs one. -/
def setInventoryStock
    (g : StockGuard)
    (delivery : Delivery)
    (productID quantity : Int) :
    String × Option (String × String) :=
  if g.hasClient = false ∨ productID ≤ 0 ∨ quantity < 0 then
    ("disabled", none)
  else
    let set :=
      (inventoryAvailableKey productID, formatInt quantity)
    match delivery with
    | .answered => ("success", some set)
    | .unanswered => ("error", some set)
    | .unsent => ("error", none)

end StockGuard

------------------------------------------------------------
-- The Answer of MGET
------------------------------------------------------------

theorem readStocks_readable
    {redis : RedisTexts}
    {p : Int}
    (hReadable : redis.Readable p)
    (ids : List Int)
    (i : Nat)
    (values : List (Option String))
    (stocks : StockMap) :
    readStocks ids i
        (redis (inventoryAvailableKey p) :: values) stocks =
      readStocks ids (i + 1) values
        (Function.update stocks (ids.getD i 0)
          (some (redis.quantity p))) := by
  unfold RedisTexts.Readable at hReadable
  unfold RedisTexts.quantity
  cases hRaw : redis (inventoryAvailableKey p) with
  | none => rfl
  | some text =>
      rcases Option.isSome_iff_exists.mp
        (hReadable text hRaw) with ⟨quantity, hRead⟩
      simp only [readStocks, Option.bind_some, hRead]

theorem readStocks_unreadable
    {redis : RedisTexts}
    {p : Int}
    (hUnreadable : ¬ redis.Readable p)
    (ids : List Int)
    (i : Nat)
    (values : List (Option String))
    (stocks : StockMap) :
    ∃ e,
      readStocks ids i
          (redis (inventoryAvailableKey p) :: values)
          stocks = .error e := by
  unfold RedisTexts.Readable at hUnreadable
  push Not at hUnreadable
  rcases hUnreadable with ⟨text, hRaw, hNoNumber⟩
  rw [ne_eq, Option.not_isSome_iff_eq_none] at hNoNumber
  rw [hRaw]
  simp only [readStocks, hNoNumber]
  exact ⟨_, rfl⟩

/-
  The loop over the products that are left, which stand in
  the list behind those that have been read. The values go
  by their position to the products that they are of.
-/
theorem readStocks_ok
    {redis : RedisTexts}
    {before rest : List Int}
    {stocks : StockMap}
    (hReadable : ∀ p ∈ rest, redis.Readable p) :
    readStocks (before ++ rest) before.length
        (redis.mget (rest.map inventoryAvailableKey))
        stocks =
      .ok fun p =>
        if p ∈ rest then some (redis.quantity p)
        else stocks p := by
  induction rest generalizing before stocks with
  | nil => simp [RedisTexts.mget, readStocks]
  | cons p rest ih =>
      have hHere :
          (before ++ p :: rest).getD before.length 0 = p := by
        simp
      have hRest :
          ∀ q ∈ rest, redis.Readable q := fun q hMem =>
        hReadable q (List.mem_cons_of_mem p hMem)
      unfold RedisTexts.mget at ih ⊢
      rw [List.map_cons, List.map_cons,
        readStocks_readable
          (hReadable p List.mem_cons_self), hHere]
      have hNext :=
        @ih (before ++ [p])
          (Function.update stocks p (some (redis.quantity p)))
          hRest
      rw [List.append_assoc, List.length_append] at hNext
      refine hNext.trans ?_
      congr 1
      funext q
      by_cases hSame : q = p
      · subst hSame
        simp
      · simp [hSame]

theorem readStocks_error
    {redis : RedisTexts}
    {rest : List Int}
    (ids : List Int)
    (i : Nat)
    (stocks : StockMap)
    (hUnreadable : ∃ p ∈ rest, ¬ redis.Readable p) :
    ∃ e,
      readStocks ids i
          (redis.mget (rest.map inventoryAvailableKey))
          stocks = .error e := by
  induction rest generalizing i stocks with
  | nil => simp at hUnreadable
  | cons p rest ih =>
      unfold RedisTexts.mget at ih ⊢
      rw [List.map_cons, List.map_cons]
      by_cases hReadable : redis.Readable p
      · rw [readStocks_readable hReadable]
        apply ih
        rcases hUnreadable with ⟨q, hMem, hBad⟩
        rcases List.mem_cons.mp hMem with rfl | hLater
        · exact absurd hReadable hBad
        · exact ⟨q, hLater, hBad⟩
      · exact readStocks_unreadable hReadable _ _ _ _

namespace StockGuard

/- Without a failure the answer is that of the loop, also
   where no key is asked for. -/
theorem getInventoryStocks_eq
    {g : StockGuard}
    (hClient : g.hasClient = true)
    (redis : RedisTexts)
    (productIDs : List Int) :
    (g.getInventoryStocks none redis productIDs).2 =
      readStocks (productIDs.filter fun p => 0 < p) 0
        (redis.mget
          ((productIDs.filter fun p => 0 < p).map
            inventoryAvailableKey))
        (fun _ => none) := by
  unfold getInventoryStocks
  rw [if_neg (by simp [hClient])]
  by_cases hNone : productIDs = []
  · subst hNone
    rfl
  · rw [if_neg hNone]
    by_cases hKeys :
        (productIDs.filter fun p => 0 < p).map
          inventoryAvailableKey = []
    · simp only [hKeys, if_true]
      rfl
    · simp only [hKeys, if_false]
      split
      case h_1 e hRead => exact hRead.symm
      case h_2 stocks hRead => exact hRead.symm

/- The map has every valid product, with its quantity. -/
theorem getInventoryStocks_of_readable
    {g : StockGuard}
    {redis : RedisTexts}
    {productIDs : List Int}
    (hClient : g.hasClient = true)
    (hReadable :
      ∀ p ∈ productIDs, 0 < p → redis.Readable p) :
    (g.getInventoryStocks none redis productIDs).2 =
      .ok fun p =>
        if p ∈ productIDs ∧ 0 < p then
          some (redis.quantity p)
        else
          none := by
  have hValid :
      ∀ p ∈ productIDs.filter fun p => 0 < p,
        redis.Readable p := by
    intro p hMem
    rcases List.mem_filter.mp hMem with ⟨hListed, hPositive⟩
    exact hReadable p hListed (by simpa using hPositive)
  rw [getInventoryStocks_eq hClient]
  refine (@readStocks_ok redis [] _ _ hValid).trans ?_
  simp only [List.mem_filter, decide_eq_true_eq]

/- One text that is no number, and there is no answer. -/
theorem getInventoryStocks_of_unreadable
    {g : StockGuard}
    {redis : RedisTexts}
    {productIDs : List Int}
    {p : Int}
    (hClient : g.hasClient = true)
    (hMem : p ∈ productIDs)
    (hPositive : 0 < p)
    (hUnreadable : ¬ redis.Readable p) :
    ∃ e,
      (g.getInventoryStocks none redis productIDs).2 =
        .error e := by
  rw [getInventoryStocks_eq hClient]
  apply readStocks_error
  exact ⟨p, by simp [hMem, hPositive], hUnreadable⟩

end StockGuard

------------------------------------------------------------
-- Writes
------------------------------------------------------------

/-
  The SETs of quantities that are words are writes to the
  quantities of the products, whatever the texts are.
-/
theorem quantity_patch
    {redis : RedisTexts}
    {writes : List (Int × Int)}
    (hWords : ∀ w ∈ writes, Decimal.InWord 64 w.2) :
    RedisTexts.quantity
        (Mirror.patch redis
          (writes.map fun w =>
            (inventoryAvailableKey w.1, formatInt w.2))) =
      Mirror.patch redis.quantity writes := by
  induction writes generalizing redis with
  | nil => rfl
  | cons w writes ih =>
      rw [List.map_cons, Mirror.patch_cons,
        Mirror.patch_cons,
        ih fun v hMem =>
          hWords v (List.mem_cons_of_mem w hMem)]
      congr 1
      funext p
      unfold RedisTexts.quantity
      by_cases hSame : p = w.1
      · subst hSame
        rw [Function.update_self, Function.update_self,
          Option.bind_some,
          parseInt64_formatInt
            (hWords w List.mem_cons_self)]
      · rw [Function.update_of_ne hSame,
          Function.update_of_ne fun hEq =>
            hSame (inventoryAvailableKey_injective hEq)]

end OrderManagement
