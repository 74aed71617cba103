import OrderManagement.System.Drift
import OrderManagement.System.LuaShop
import Mathlib.Algebra.Order.BigOperators.Group.Multiset

/-
  Redis and MySQL while Redis answers every command: the
  keys never promise more than the stock, and they show the
  stock exactly whenever nothing is in progress. This is so
  while no quantity has more than fourteen digits.

  Main declarations:
    * `Shop.Fresh`
    * `Shop.Agrees` with `Shop.Step.agrees`
    * `redis_agrees`
    * `fifteenth_digit_drifts`
-/

namespace OrderManagement

variable [Deployment]

------------------------------------------------------------
-- The Start
------------------------------------------------------------

/- The database of some run with no call in flight. Redis
   shows its stock, and no order is pending or reserved. -/
structure Shop.Fresh
    (s : Shop) : Prop where
  reaches : ∃ events, Reaches events s.core
  calls : s.core.calls = 0
  followUps : s.followUps = 0
  resyncs : s.resyncs = 0
  available :
    ∀ p row,
      s.core.db.inventories.find? p = some row →
        s.redis.available p = some row.stockQuantity
  reservations :
    ∀ id, s.redis.reservations.find? id = none
  settled : ∀ id, statusOf s.core.db id ≠ some .pending
  issued :
    ∀ id, (s.core.db.orders.find? id).isSome →
      id ∈ s.issued

/- A step of calls only, with Redis answering. -/
def Action.Undisturbed : Action → Prop
| .listForRebuild => False
| .listForReconcile => False
| .compare => False
| .write _ _ _ => False
| .resyncDone => False
| action => action.Reliable

instance
    (a : Action) :
    Decidable a.Undisturbed :=
  match a with
  | .listForRebuild | .listForReconcile | .compare
  | .write _ _ _ | .resyncDone =>
      inferInstanceAs (Decidable False)
  | .arrive request delivery =>
      inferInstanceAs
        (Decidable (Action.arrive request delivery).Reliable)
  | .core event =>
      inferInstanceAs (Decidable (Action.core event).Reliable)
  | .followUp command delivered =>
      inferInstanceAs
        (Decidable (Action.followUp command delivered).Reliable)
  | .evict _ | .evictReservation _ =>
      inferInstanceAs (Decidable False)

theorem Action.Undisturbed.reliable
    {a : Action}
    (hUndisturbed : a.Undisturbed) :
    a.Reliable := by
  cases a <;> first | exact hUndisturbed | exact hUndisturbed.elim

theorem Shop.Fresh.sound
    {s : Shop}
    (hFresh : s.Fresh) :
    s.Sound := by
  rcases hFresh.reaches with ⟨events, hReaches⟩
  have hOwned : s.owned = 0 := by
    unfold Shop.owned
    rw [hFresh.calls, hFresh.followUps]
    rfl
  have hNone :
      ∀ id r, s.redis.reservations.find? id ≠ some r := by
    intro id r hFind
    rw [hFresh.reservations] at hFind
    cases hFind
  exact {
    core := hReaches.sound
    owned := by
      rw [hOwned]
      exact Multiset.nodup_zero
    ownedIssued := by simp [hOwned]
    unborn := by simp [hOwned]
    ordersIssued := hFresh.issued
    reservationsIssued := by
      intro id hSome
      rw [hFresh.reservations] at hSome
      cases hSome
    reservationsValid := fun id r hFind =>
      absurd hFind (hNone id r)
    followUpsValid := by simp [hFresh.followUps]
    restored := by simp [hFresh.followUps]
    confirmed := by simp [hFresh.followUps]
    requested := by simp [hFresh.calls]
    ordered := fun id r _ hFind => absurd hFind (hNone id r) }

theorem Shop.Fresh.backed
    {s : Shop}
    (hFresh : s.Fresh) :
    s.Backed where
  keys p hRow := by
    rcases Option.isSome_iff_exists.mp hRow with ⟨row, hFind⟩
    rw [hFresh.available p row hFind]
    rfl
  applied := by simp [hFresh.calls]
  skipped := by simp [hFresh.calls]
  pending id hPending := absurd hPending (hFresh.settled id)
  accounted id hSome := by
    rw [hFresh.reservations] at hSome
    cases hSome

------------------------------------------------------------
-- The Invariant
------------------------------------------------------------

/- No quantity is waiting to be written over a key, except
   by a resynchronisation. -/
structure Shop.Steady
    (s : Shop) : Prop where
  sound : s.Sound
  backed : s.Backed
  unwritten : ∀ p n, .set p n ∉ s.followUps

/- Every key holds the stock less what is in progress. -/
structure Shop.Agrees
    (s : Shop) : Prop where
  steady : s.Steady
  nonneg :
    ∀ p, (s.core.db.inventories.find? p).isSome →
      s.redis.Nonneg p
  drift :
    ∀ p, (s.core.db.inventories.find? p).isSome →
      s.drift p = 0

theorem Shop.Fresh.agrees
    {s : Shop}
    (hFresh : s.Fresh) :
    s.Agrees where
  steady := {
    sound := hFresh.sound
    backed := hFresh.backed
    unwritten := by simp [hFresh.followUps] }
  nonneg p hRow n hAvailable := by
    rcases Option.isSome_iff_exists.mp hRow with ⟨row, hFind⟩
    rw [hFresh.available p row hFind] at hAvailable
    cases hAvailable
    exact row.stockQuantityNonneg
  drift p hRow := by
    rcases Option.isSome_iff_exists.mp hRow with ⟨row, hFind⟩
    have hRows : s.redis.reservations.rows = [] := by
      rw [List.eq_nil_iff_forall_not_mem]
      intro r hMem
      have hFind := Table.find?_key_of_mem hMem
      rw [hFresh.reservations] at hFind
      cases hFind
    unfold Shop.drift unmatched Table.total stockOf
    rw [hFresh.available p row hFind, hFresh.followUps, hRows,
      hFind]
    simp

/- The inventories that there are remain the same ones. -/
theorem Shop.Step.inventories_isSome
    {s t : Shop}
    {a : Action}
    (hSound : s.Sound)
    (hReliable : a.Reliable)
    (hStep : Shop.Step s a t)
    (p : Int) :
    (t.core.db.inventories.find? p).isSome =
      (s.core.db.inventories.find? p).isSome := by
  cases hStep with
  | core hStep hNoArrival =>
      rcases hStep.effect hSound.core with
        ⟨_, hTouched⟩ | ⟨e, rfl, hBefore, hAfter, _⟩
      · rcases hTouched with ⟨f, _, hKey, hSame⟩
        simp only [hSame]
      · have hEvent := (hStep.event hSound.core).1
        have hSame :=
          hEvent.inventories_isSome (hReliable e rfl) p
        rwa [hBefore, hAfter] at hSame
  | arrive | followUp | listForRebuild | listForReconcile
  | compare | write | resyncDone | evict
  | evictReservation => rfl

/- No quantity comes to be written over a key. -/
theorem Shop.Step.unwritten
    {s t : Shop}
    {a : Action}
    (hReliable : a.Reliable)
    (hUnwritten : ∀ p n, .set p n ∉ s.followUps)
    (hStep : Shop.Step s a t)
    (p n : Int) :
    .set p n ∉ t.followUps := by
  cases hStep with
  | @core core event hStep hNoArrival =>
      intro hMem
      rcases Multiset.mem_add.mp hMem with hNew | hOld
      · cases event with
        | none => simp [due] at hNew
        | some e =>
            exact hReliable e rfl p n
              (Event.followUp_set (mem_due.mp hNew))
      · exact hUnwritten p n hOld
  | followUp command delivered hDue =>
      intro hMem
      apply hUnwritten p n
      rw [hDue]
      exact Multiset.mem_cons_of_mem hMem
  | arrive | listForRebuild | listForReconcile | compare
  | write | resyncDone | evict | evictReservation =>
      exact hUnwritten p n

theorem Shop.Step.steady
    {s t : Shop}
    {a : Action}
    (hSteady : s.Steady)
    (hReliable : a.Reliable)
    (hStep : Shop.Step s a t) :
    t.Steady where
  sound := hStep.sound hSteady.sound
  backed := hStep.backed hSteady.sound hSteady.backed hReliable
  unwritten := hStep.unwritten hReliable hSteady.unwritten

/- Only a resynchronisation writes over a key. -/
theorem Shop.Step.not_writes
    {s t : Shop}
    {a : Action}
    {p : Int}
    (hSteady : s.Steady)
    (hOther : ∀ q, a ≠ .write p q true)
    (hStep : Shop.Step s a t) :
    ¬ a.writes p := by
  cases hStep with
  | write q n delivered =>
      rintro ⟨rfl, rfl⟩
      exact hOther n rfl
  | followUp command delivered hDue =>
      cases command with
      | set q n =>
          refine absurd ?_ (hSteady.unwritten q n)
          rw [hDue]
          exact Multiset.mem_cons_self _ _
      | release | restore | confirm | incr => exact id
  | arrive | core | listForRebuild | listForReconcile
  | compare | resyncDone | evict | evictReservation =>
      exact id

theorem Shop.Step.agrees
    {s t : Shop}
    {a : Action}
    (hAgrees : s.Agrees)
    (hUndisturbed : a.Undisturbed)
    (hStep : Shop.Step s a t) :
    t.Agrees := by
  have hSteady := hAgrees.steady
  have hReliable := hUndisturbed.reliable
  have hRows :=
    hStep.inventories_isSome hSteady.sound hReliable
  exact {
    steady := hStep.steady hSteady hReliable
    nonneg := by
      intro p hRow
      rw [hRows] at hRow
      exact hStep.nonneg hSteady.sound (hAgrees.nonneg p hRow)
    drift := by
      intro p hRow
      rw [hRows] at hRow
      rw [hStep.drift_eq hSteady.sound hSteady.backed hReliable
        _ (hSteady.backed.keys p hRow)]
      · exact hAgrees.drift p hRow
      · apply hStep.not_writes hSteady
        rintro q rfl
        exact hUndisturbed }

------------------------------------------------------------
-- What Is in Progress
------------------------------------------------------------

/- Neither what is reserved nor what is to be added is
   negative, so that the key never exceeds the stock. -/
theorem Shop.Sound.unmatched_nonneg
    {s : Shop}
    (hSound : s.Sound)
    (p : Int) :
    0 ≤ unmatched s.core.db s.redis.reservations p := by
  apply List.sum_nonneg
  intro n hMem
  rcases List.mem_map.mp hMem with ⟨r, hRow, rfl⟩
  split
  · exact le_refl _
  · have hValid :=
      hSound.reservationsValid _ r (Table.find?_key_of_mem hRow)
    apply quantityOf_nonneg
    intro line hLine
    rcases List.mem_map.mp hLine with ⟨item, hItem, rfl⟩
    exact hValid.quantityPositive item hItem

theorem Shop.Sound.unadded_nonneg
    {s : Shop}
    (hSound : s.Sound)
    (p : Int) :
    0 ≤ unadded s.followUps p := by
  apply Multiset.sum_nonneg
  intro n hMem
  rcases Multiset.mem_map.mp hMem with ⟨command, hDue, rfl⟩
  have hValid := hSound.followUpsValid command hDue
  cases command with
  | incr productID delta fallbackQuantity =>
      change 0 ≤ if productID = p then delta else 0
      split
      · exact hValid.2.1.le
      · exact le_refl _
  | release | restore | confirm | set => exact le_refl _

/- With nothing in progress, all reserved orders take their
   quantities from the stock. -/
theorem Shop.Backed.unmatched_eq_zero
    {s : Shop}
    (hBacked : s.Backed)
    (hCalls : s.core.calls = 0)
    (hFollowUps : s.followUps = 0)
    (p : Int) :
    unmatched s.core.db s.redis.reservations p = 0 := by
  apply List.sum_eq_zero
  intro n hMem
  rcases List.mem_map.mp hMem with ⟨r, hRow, rfl⟩
  have hFind := Table.find?_key_of_mem hRow
  have hPending :=
    (hBacked.pending_iff hCalls hFollowUps r.orderID).mp
      (by rw [← key_reservation, hFind]; rfl)
  have hTakes : takesStock s.core.db r.orderID = true := by
    unfold takesStock
    rw [hPending]
  rw [hTakes]
  rfl

------------------------------------------------------------
-- Agreement
------------------------------------------------------------

/- Redis promises at most the stock, and while nothing is in
   progress it shows the stock and the pending orders. -/
structure Shop.RedisAgrees
    (s : Shop) : Prop where
  bounded :
    ∀ p row,
      s.core.db.inventories.find? p = some row →
        ∃ n,
          s.redis.available p = some n ∧
            0 ≤ n ∧ n ≤ row.stockQuantity
  exactly :
    s.core.calls = 0 → s.followUps = 0 →
      (∀ p row,
        s.core.db.inventories.find? p = some row →
          s.redis.available p = some row.stockQuantity) ∧
        ∀ id,
          (s.redis.reservations.find? id).isSome ↔
            statusOf s.core.db id = some .pending

/- What the invariant says about one key. -/
theorem Shop.Agrees.available
    {s : Shop}
    {p : Int}
    {row : Inventory}
    (hAgrees : s.Agrees)
    (hRow : s.core.db.inventories.find? p = some row) :
    ∃ n,
      s.redis.available p = some n ∧
        0 ≤ n ∧
        n + unmatched s.core.db s.redis.reservations p +
            unadded s.followUps p =
          row.stockQuantity := by
  have hSome : (s.core.db.inventories.find? p).isSome := by
    rw [hRow]
    rfl
  rcases Option.isSome_iff_exists.mp
      (hAgrees.steady.backed.keys p hSome) with ⟨n, hCurrent⟩
  refine ⟨n, hCurrent, hAgrees.nonneg p hSome n hCurrent, ?_⟩
  have hDrift := hAgrees.drift p hSome
  unfold Shop.drift stockOf at hDrift
  rw [hCurrent, hRow] at hDrift
  simp only [Option.getD_some, Option.map_some] at hDrift
  omega

theorem Shop.Agrees.redisAgrees
    {s : Shop}
    (hAgrees : s.Agrees) :
    s.RedisAgrees where
  bounded p row hRow := by
    rcases hAgrees.available hRow with
      ⟨n, hCurrent, hNonneg, hSum⟩
    have hUnmatched := hAgrees.steady.sound.unmatched_nonneg p
    have hUnadded := hAgrees.steady.sound.unadded_nonneg p
    exact ⟨n, hCurrent, hNonneg, by omega⟩
  exactly hCalls hFollowUps := by
    refine ⟨?_, hAgrees.steady.backed.pending_iff hCalls hFollowUps⟩
    intro p row hRow
    rcases hAgrees.available hRow with ⟨n, hCurrent, _, hSum⟩
    rw [hAgrees.steady.backed.unmatched_eq_zero hCalls hFollowUps,
      hFollowUps, unadded_zero] at hSum
    rw [hCurrent]
    congr 1
    omega

omit [Deployment] in
/- Without reservations none of them is inexact. -/
theorem Redis.exact_of_unreserved
    {redis : Redis}
    (hNone : ∀ id, redis.reservations.find? id = none) :
    redis.Exact := by
  intro id r hFind
  rw [hNone] at hFind
  cases hFind

/-
  From a fresh start, after any steps of any calls whose
  quantities have at most fourteen digits, no key exceeds
  the stock of its product or is negative; and when no call
  is in flight every key equals the stock, and the
  reservations are those of the pending orders.
-/
theorem redis_agrees
    {host : LuaHost}
    (hLawful : host.Lawful)
    {s t : Shop}
    {actions : List Action}
    (hFresh : s.Fresh)
    (hRun : Transition.Run (Shop.LuaStep host) s actions t)
    (hUndisturbed : ∀ a ∈ actions, a.Undisturbed)
    (hExact : ∀ a ∈ actions, a.Exact) :
    t.RedisAgrees := by
  have hRedis := Redis.exact_of_unreserved hFresh.reservations
  rw [Shop.luaRun_iff hLawful hRedis hExact] at hRun
  apply Shop.Agrees.redisAgrees
  exact hRun.invariant_of_labels
    (fun _ _ _ hLabel hAgrees hStep =>
      hStep.agrees hAgrees hLabel)
    hUndisturbed hFresh.agrees

end OrderManagement

------------------------------------------------------------
-- A Small Shop
------------------------------------------------------------

namespace OrderManagement

attribute [local instance] sampleDeployment

/- Pieces of one product, in MySQL and in Redis. -/
def stockedWith
    (quantity : Int) : Desk where
  db :=
    serialDB DB.empty
      [ sampleCall (.createProduct 1 "tea" "" 250) 0,
        sampleCall (.onSaleProduct 1) 0,
        sampleCall (.initInventory 1 (some quantity)) 0 ]
  calls := []
  redis := Redis.empty.set 1 quantity
  followUps := []
  resyncs := []
  issued := []

theorem stockedWith_fresh
    {quantity : Int}
    (hAvailable :
      ∀ row ∈ (stockedWith quantity).db.inventories.rows,
        (stockedWith quantity).redis.available row.productID =
          some row.stockQuantity)
    (hOrders : (stockedWith quantity).db.orders.rows = []) :
    (stockedWith quantity).shop.Fresh where
  reaches := ⟨_, reaches_serial _⟩
  calls := rfl
  followUps := rfl
  resyncs := rfl
  available p row hFind := by
    have hKey : row.productID = p := Table.key_of_find? hFind
    exact hKey ▸ hAvailable row (Table.mem_of_find? hFind)
  reservations _ := rfl
  settled id := by
    change statusOf (stockedWith quantity).db id ≠ _
    unfold statusOf Table.find?
    rw [hOrders]
    simp
  issued id hSome := by
    change ((stockedWith quantity).db.orders.find? id).isSome
      at hSome
    unfold Table.find? at hSome
    rw [hOrders] at hSome
    cases hSome

def sampleDesk : Desk :=
  stockedWith 10

theorem sampleDesk_fresh :
    sampleDesk.shop.Fresh :=
  stockedWith_fresh (by decide +kernel) (by decide +kernel)

/- An order for four pieces, while five are being added. -/
def sampleMoves : List Move :=
  [ .arrive (.createOrder 3 ⟨"k", [⟨1, 4⟩]⟩ sampleIDs)
      .answered,
    .advance 0 0 0,
    .arrive (.addInventory 1 5) .answered,
    .advance 1 0 0,
    .advance 1 0 0,
    .advance 0 0 0,
    .advance 0 0 0,
    .followUp 0 true ]

theorem redis_agrees_sample :
    ∃ actions d,
      sampleDesk.luaPlay sampleHost sampleMoves =
          some (actions, d) ∧
        d.shop.RedisAgrees := by
  have hSome :
      (sampleDesk.luaPlay sampleHost sampleMoves).isSome := by
    decide +kernel
  rcases Option.isSome_iff_exists.mp hSome with
    ⟨⟨actions, d⟩, hPlay⟩
  have hAdmitted :
      ∀ played ∈ sampleDesk.luaPlay sampleHost sampleMoves,
        ∀ a ∈ played.1, a.Undisturbed ∧ a.Exact := by
    decide +kernel
  have hActions := hAdmitted _ hPlay
  exact ⟨actions, d, hPlay,
    redis_agrees sampleHost_lawful sampleDesk_fresh
      (Desk.luaRun_of_play hPlay)
      (fun a hMem => (hActions a hMem).1)
      fun a hMem => (hActions a hMem).2⟩

/- An order whose quantity has fifteen digits is created and
   cancelled again. -/
def fifteenDigitMoves : List Move :=
  [ .arrive
      (.createOrder 3 ⟨"k", [⟨1, 123456789012345⟩]⟩ sampleIDs)
      .answered,
    .advance 0 0 0,
    .advance 0 0 0,
    .advance 0 0 0,
    .arrive (.cancelOrder 3 7) .answered,
    .advance 0 0 0,
    .advance 0 0 0,
    .followUp 0 true ]

/- Nothing is in progress any more, and Redis has lost five
   pieces to the fourteen digits of its reservation. -/
theorem fifteenth_digit_drifts :
    (stockedWith 200000000000000).shop.Fresh ∧
      ∃ actions t,
        Transition.Run (Shop.LuaStep sampleHost)
            (stockedWith 200000000000000).shop actions t ∧
          (∀ a ∈ actions, a.Undisturbed) ∧
          t.core.calls = 0 ∧
          t.followUps = 0 ∧
          t.redis.available 1 = some 199999999999995 ∧
          stockOf t.core.db.inventories 1 =
            200000000000000 := by
  refine ⟨stockedWith_fresh (by decide +kernel)
    (by decide +kernel), ?_⟩
  have hSome :
      ((stockedWith 200000000000000).luaPlay sampleHost
        fifteenDigitMoves).isSome := by
    decide +kernel
  rcases Option.isSome_iff_exists.mp hSome with
    ⟨⟨actions, d⟩, hPlay⟩
  have hFacts :
      ∀ played ∈
          (stockedWith 200000000000000).luaPlay sampleHost
            fifteenDigitMoves,
        (∀ a ∈ played.1, a.Undisturbed) ∧
          played.2.calls.length = 0 ∧
          played.2.followUps = [] ∧
          played.2.redis.available 1 = some 199999999999995 ∧
          stockOf played.2.db.inventories 1 =
            200000000000000 := by
    decide +kernel
  rcases hFacts _ hPlay with
    ⟨hUndisturbed, hCalls, hFollowUps, hEnd⟩
  refine ⟨actions, d.shop, Desk.luaRun_of_play hPlay,
    hUndisturbed, ?_, ?_, hEnd⟩
  · exact congrArg _ (List.length_eq_zero_iff.mp hCalls)
  · exact congrArg _ hFollowUps

end OrderManagement
