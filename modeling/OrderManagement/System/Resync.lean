import OrderManagement.System.Agreement

/-
  Resynchronisation beside calls in flight. A rebuild and a
  reconciliation write absolute quantities that they have
  read earlier; the key agrees with the stock afterwards
  exactly if the last quantity written was the right one at
  the moment at which it was written.

  Main declarations:
    * `Shop.AtRest` and `Shop.expected`
    * `Shop.Settling` with `Shop.Settling.run`
    * `resync_law`
    * `resync_creates_drift`
-/

namespace OrderManagement

variable [Deployment]

------------------------------------------------------------
-- Quantities to Be Written
------------------------------------------------------------

omit [Deployment] in
/- The guard accepts what is left to be written. -/
def Resync.Valid : Resync → Prop
| .listed rows => ∀ row ∈ rows, 0 < row.1 ∧ 0 ≤ row.2
| .writing writes => ∀ row ∈ writes, 0 < row.1 ∧ 0 ≤ row.2

theorem rebuildWrites_valid
    (view : DB) :
    (Resync.writing (rebuildWrites view)).Valid := by
  intro row hMem
  rcases List.mem_map.mp hMem with ⟨inventory, hRow, rfl⟩
  simpa using (List.mem_filter.mp hRow).2

theorem reconcileRows_valid
    (view : DB) :
    (Resync.listed (reconcileRows view)).Valid := by
  intro row hMem
  rcases List.mem_map.mp hMem with ⟨inventory, hRow, rfl⟩
  have hPositive := (List.mem_filter.mp hRow).2
  exact ⟨by simpa using hPositive,
    inventory.stockQuantityNonneg⟩

theorem Shop.Step.resyncs_valid
    {s t : Shop}
    {a : Action}
    (hValid : ∀ r ∈ s.resyncs, r.Valid)
    (hStep : Shop.Step s a t) :
    ∀ r ∈ t.resyncs, r.Valid := by
  cases hStep with
  | arrive | core | followUp | evict | evictReservation =>
      exact hValid
  | listForRebuild =>
      intro r hMem
      rcases Multiset.mem_cons.mp hMem with rfl | hOld
      · exact rebuildWrites_valid s.core.db
      · exact hValid r hOld
  | listForReconcile =>
      intro r hMem
      rcases Multiset.mem_cons.mp hMem with rfl | hOld
      · exact reconcileRows_valid s.core.db
      · exact hValid r hOld
  | @compare rest rows hListed =>
      rw [hListed] at hValid
      have hRows := hValid _ (Multiset.mem_cons_self _ _)
      intro r hMem
      rcases Multiset.mem_cons.mp hMem with rfl | hOld
      · intro row hRow
        exact hRows row (List.mem_filter.mp hRow).1
      · exact hValid r (Multiset.mem_cons_of_mem hOld)
  | @write rest writes productID quantity delivered
      hWriting =>
      rw [hWriting] at hValid
      have hWrites := hValid _ (Multiset.mem_cons_self _ _)
      intro r hMem
      rcases Multiset.mem_cons.mp hMem with rfl | hOld
      · intro row hRow
        exact hWrites row (List.mem_cons_of_mem _ hRow)
      · exact hValid r (Multiset.mem_cons_of_mem hOld)
  | resyncDone hWritten =>
      rw [hWritten] at hValid
      intro r hMem
      exact hValid r (Multiset.mem_cons_of_mem hMem)

------------------------------------------------------------
-- Runs with Resynchronisation
------------------------------------------------------------

/- Nothing is in progress, Redis shows the stock, every
   pending order has its reservation, and no other order has
   one left. -/
structure Shop.AtRest
    (s : Shop) : Prop where
  sound : s.Sound
  backed : s.Backed
  calls : s.core.calls = 0
  followUps : s.followUps = 0
  resyncs : s.resyncs = 0
  available :
    ∀ p row,
      s.core.db.inventories.find? p = some row →
        s.redis.available p = some row.stockQuantity

/- The invariant of reliable runs, resynchronised or not. -/
structure Shop.Settling
    (s : Shop) : Prop where
  steady : s.Steady
  resyncs : ∀ r ∈ s.resyncs, r.Valid

theorem Shop.AtRest.settling
    {s : Shop}
    (hRest : s.AtRest) :
    s.Settling where
  steady := {
    sound := hRest.sound
    backed := hRest.backed
    unwritten := by simp [hRest.followUps] }
  resyncs := by simp [hRest.resyncs]

theorem Shop.Step.settling
    {s t : Shop}
    {a : Action}
    (hSettling : s.Settling)
    (hReliable : a.Reliable)
    (hStep : Shop.Step s a t) :
    t.Settling where
  steady := hStep.steady hSettling.steady hReliable
  resyncs := hStep.resyncs_valid hSettling.resyncs

/- The quantity that agrees with the work in progress. -/
def Shop.expected
    (s : Shop)
    (p : Int) : Int :=
  stockOf s.core.db.inventories p -
    unmatched s.core.db s.redis.reservations p -
    unadded s.followUps p

theorem Shop.drift_eq_zero_iff
    {s : Shop}
    {p n : Int}
    (hAvailable : s.redis.available p = some n) :
    s.drift p = 0 ↔ n = s.expected p := by
  unfold Shop.drift Shop.expected
  rw [hAvailable, Option.getD_some]
  omega

/- Over a whole run without a write the drift is kept. -/
theorem Shop.Settling.run
    {s t : Shop}
    {actions : List Action}
    (hSettling : s.Settling)
    (hRun : Transition.Run Shop.Step s actions t)
    (hReliable : ∀ a ∈ actions, a.Reliable)
    (p : Int) :
    t.Settling ∧
      (t.core.db.inventories.find? p).isSome =
        (s.core.db.inventories.find? p).isSome ∧
      ((∀ q, Action.write p q true ∉ actions) →
        (s.core.db.inventories.find? p).isSome →
          t.drift p = s.drift p) := by
  induction hRun with
  | refl => exact ⟨hSettling, rfl, fun _ _ => rfl⟩
  | @snoc t u ls l hRun hLast ih =>
      rcases ih fun a hMem =>
          hReliable a (List.mem_append_left _ hMem) with
        ⟨hMid, hRows, hDrift⟩
      have hLabel := hReliable l (by simp)
      have hSteady := hMid.steady
      refine ⟨hLast.settling hMid hLabel, ?_, ?_⟩
      · rw [hLast.inventories_isSome hSteady.sound hLabel,
          hRows]
      · intro hUnwritten hRow
        rw [hLast.drift_eq hSteady.sound hSteady.backed hLabel]
        · apply hDrift _ hRow
          intro q hMem
          exact hUnwritten q (List.mem_append_left _ hMem)
        · apply hLast.not_writes hSteady
          rintro q rfl
          exact hUnwritten q (by simp)
        · apply hSteady.backed.keys
          rwa [hRows]

/- At rest the drift is the whole difference. -/
theorem Shop.Backed.agrees_iff
    {s : Shop}
    {p : Int}
    {row : Inventory}
    (hBacked : s.Backed)
    (hCalls : s.core.calls = 0)
    (hFollowUps : s.followUps = 0)
    (hRow : s.core.db.inventories.find? p = some row) :
    s.redis.available p = some row.stockQuantity ↔
      s.drift p = 0 := by
  rcases Option.isSome_iff_exists.mp
      (hBacked.keys p (by rw [hRow]; rfl)) with
    ⟨n, hAvailable⟩
  rw [Shop.drift_eq_zero_iff hAvailable, hAvailable]
  unfold Shop.expected stockOf
  rw [hBacked.unmatched_eq_zero hCalls hFollowUps, hFollowUps,
    hRow]
  simp

/- A write leaves the difference between what it has written
   and what was expected of it. -/
theorem Shop.Step.drift_of_write
    {s t : Shop}
    {p q : Int}
    (hSettling : s.Settling)
    (hStep : Shop.Step s (.write p q true) t) :
    t.drift p = q - s.expected p := by
  cases hStep with
  | write _ _ _ hWriting =>
      have hWrites :=
        hSettling.resyncs _
          (by rw [hWriting]; exact Multiset.mem_cons_self _ _)
      have hValid : 0 < p ∧ 0 ≤ q :=
        hWrites (p, q) (List.mem_cons_self ..)
      have hAccepted : ¬ (p ≤ 0 ∨ q < 0) := by
        have hPositive := hValid.1
        have hNonneg := hValid.2
        omega
      unfold Shop.drift Shop.expected
      simp only [if_true,
        InventoryStockGuard.setInventoryStock,
        if_neg hAccepted, Redis.available_set,
        Redis.reservations_set, Option.getD_some]
      omega

/- What resynchronisation does on exact quantities. -/
theorem Shop.AtRest.resynced
    {s t : Shop}
    {actions : List Action}
    {p : Int}
    {row : Inventory}
    (hStart : s.AtRest)
    (hRun : Transition.Run Shop.Step s actions t)
    (hReliable : ∀ a ∈ actions, a.Reliable)
    (hCalls : t.core.calls = 0)
    (hFollowUps : t.followUps = 0)
    (hRow : t.core.db.inventories.find? p = some row) :
    ((∀ q, Action.write p q true ∉ actions) →
        t.redis.available p = some row.stockQuantity) ∧
      ∀ before q after u v,
        actions = before ++ .write p q true :: after →
        (∀ q', Action.write p q' true ∉ after) →
        Transition.Run Shop.Step s before u →
        Shop.Step u (.write p q true) v →
        Transition.Run Shop.Step v after t →
          (t.redis.available p = some row.stockQuantity ↔
            q = u.expected p) := by
  have hSettling := hStart.settling
  rcases hSettling.run hRun hReliable p with
    ⟨hEnd, hRows, hDrift⟩
  rw [hEnd.steady.backed.agrees_iff hCalls hFollowUps hRow]
  have hSome : (t.core.db.inventories.find? p).isSome := by
    rw [hRow]
    rfl
  constructor
  · intro hUnwritten
    rw [hRows] at hSome
    rw [hDrift hUnwritten hSome]
    rcases Option.isSome_iff_exists.mp hSome with
      ⟨first, hFirst⟩
    exact (hStart.backed.agrees_iff hStart.calls
      hStart.followUps hFirst).mp
        (hStart.available p first hFirst)
  · rintro before q after u v rfl hLast hBefore hWrite hAfter
    rcases hSettling.run hBefore
        (fun a hMem => hReliable a (by simp [hMem])) p with
      ⟨hWritten, _, _⟩
    have hNext := hWrite.settling hWritten
      (hReliable _ (by simp))
    rcases hNext.run hAfter
        (fun a hMem => hReliable a (by simp [hMem])) p with
      ⟨_, hRows', hDrift'⟩
    rw [hRows'] at hSome
    rw [hDrift' hLast hSome, hWrite.drift_of_write hWritten]
    omega

/-
  Once all calls have finished, a product that was never
  written over shows its stock; any other does so exactly
  if its last write was the expected quantity of that
  moment. No quantity has more than fourteen digits.
-/
theorem resync_law
    {host : LuaHost}
    (hLawful : host.Lawful)
    {s t : Shop}
    {actions : List Action}
    {p : Int}
    {row : Inventory}
    (hStart : s.AtRest)
    (hRedis : s.redis.Exact)
    (hRun : Transition.Run (Shop.LuaStep host) s actions t)
    (hReliable : ∀ a ∈ actions, a.Reliable)
    (hExact : ∀ a ∈ actions, a.Exact)
    (hCalls : t.core.calls = 0)
    (hFollowUps : t.followUps = 0)
    (hRow : t.core.db.inventories.find? p = some row) :
    ((∀ q, Action.write p q true ∉ actions) →
        t.redis.available p = some row.stockQuantity) ∧
      ∀ before q after u v,
        actions = before ++ .write p q true :: after →
        (∀ q', Action.write p q' true ∉ after) →
        Transition.Run (Shop.LuaStep host) s before u →
        Shop.LuaStep host u (.write p q true) v →
        Transition.Run (Shop.LuaStep host) v after t →
          (t.redis.available p = some row.stockQuantity ↔
            q = u.expected p) := by
  rw [Shop.luaRun_iff hLawful hRedis hExact] at hRun
  have hLaw :=
    hStart.resynced hRun hReliable hCalls hFollowUps hRow
  refine ⟨hLaw.1, ?_⟩
  rintro before q after u v hActions hLast hBefore hWrite
    hAfter
  have hParts :
      (∀ a ∈ before, a.Exact) ∧ ∀ a ∈ after, a.Exact := by
    constructor
    · intro a hMem
      exact hExact a (by simp [hActions, hMem])
    · intro a hMem
      exact hExact a (by simp [hActions, hMem])
  rw [Shop.luaRun_iff hLawful hRedis hParts.1] at hBefore
  have hRedisU := Shop.exact_of_run hRedis hParts.1 hBefore
  have hOwn : (Action.write p q true).Exact := trivial
  rw [Shop.luaStep_iff hLawful hRedisU hOwn] at hWrite
  have hRedisV := hWrite.exact hRedisU hOwn
  rw [Shop.luaRun_iff hLawful hRedisV hParts.2] at hAfter
  exact hLaw.2 before q after u v hActions hLast hBefore
    hWrite hAfter

end OrderManagement

------------------------------------------------------------
-- A Small Shop
------------------------------------------------------------

namespace OrderManagement

attribute [local instance] sampleDeployment

theorem sampleDesk_atRest :
    sampleDesk.shop.AtRest where
  sound := sampleDesk_fresh.sound
  backed := sampleDesk_fresh.backed
  calls := rfl
  followUps := rfl
  resyncs := rfl
  available := sampleDesk_fresh.available

/- The reconciliation lists ten pieces, sees six of them in
   Redis because four are being ordered, and writes ten. -/
def racingMoves : List Move :=
  [ .listForReconcile,
    .arrive (.createOrder 3 ⟨"k", [⟨1, 4⟩]⟩ sampleIDs)
      .answered,
    .compare 0,
    .advance 0 0 0,
    .advance 0 0 0,
    .advance 0 0 0,
    .write 0 true,
    .resyncDone 0 ]

/- A rebuild after the same order writes the right quantity. -/
def timelyMoves : List Move :=
  [ .arrive (.createOrder 3 ⟨"k", [⟨1, 4⟩]⟩ sampleIDs)
      .answered,
    .advance 0 0 0,
    .advance 0 0 0,
    .advance 0 0 0,
    .listForRebuild ]

theorem resync_law_sample :
    ∃ actions t,
      Transition.Run (Shop.LuaStep sampleHost) sampleDesk.shop
          (actions ++ [.write 1 6 true]) t ∧
        t.redis.available 1 = some 6 := by
  have hSome :
      (sampleDesk.luaPlay sampleHost timelyMoves).isSome := by
    decide +kernel
  rcases Option.isSome_iff_exists.mp hSome with
    ⟨⟨actions, d⟩, hPlay⟩
  have hFacts :
      ∀ played ∈ sampleDesk.luaPlay sampleHost timelyMoves,
        (∀ a ∈ played.1, a.Reliable ∧ a.Exact) ∧
          played.2.calls.length = 0 ∧
          played.2.followUps = [] ∧
          played.2.resyncs = [.writing [(1, 6)]] ∧
          stockOf played.2.db.inventories 1 = 6 ∧
          played.2.shop.expected 1 = 6 := by
    decide +kernel
  rcases hFacts _ hPlay with
    ⟨hAdmitted, hCalls, hFollowUps, hResyncs, hStock,
      hExpected⟩
  have hBefore := Desk.luaRun_of_play hPlay
  have hWriting :
      d.shop.resyncs =
        .writing ((1, 6) :: []) ::ₘ (0 : Multiset Resync) :=
    congrArg (fun l : List Resync => (l : Multiset Resync))
      hResyncs
  have hWrite :
      Shop.LuaStep sampleHost d.shop (.write 1 6 true) _ :=
    .scriptless trivial (Shop.Step.write 1 6 true hWriting)
  have hRun := hBefore.snoc hWrite
  have hActions :
      ∀ a ∈ actions ++ [Action.write 1 6 true],
        a.Reliable ∧ a.Exact := by
    intro a hMem
    rcases List.mem_append.mp hMem with hOld | hNew
    · exact hAdmitted a hOld
    · rw [List.mem_singleton.mp hNew]
      exact ⟨rfl, trivial⟩
  refine ⟨actions, _, hRun, ?_⟩
  unfold stockOf at hStock
  cases hRow : d.db.inventories.find? 1 with
  | none =>
      rw [hRow] at hStock
      cases hStock
  | some row =>
      rw [hRow] at hStock
      have hLaw :=
        resync_law sampleHost_lawful sampleDesk_atRest
          (Redis.exact_of_unreserved
            sampleDesk_fresh.reservations)
          hRun (fun a hMem => (hActions a hMem).1)
          (fun a hMem => (hActions a hMem).2)
          (congrArg _ (List.length_eq_zero_iff.mp hCalls))
          (congrArg _ hFollowUps) hRow
      have hAgrees :=
        (hLaw.2 actions 6 [] _ _ rfl (by simp) hBefore hWrite
          (Transition.Run.refl _)).mpr hExpected.symm
      rw [hAgrees]
      exact congrArg some hStock

/- Everything has finished, and Redis promises ten pieces of
   which MySQL has six. -/
theorem resync_creates_drift :
    sampleDesk.shop.AtRest ∧
      ∃ actions t,
        Transition.Run (Shop.LuaStep sampleHost)
            sampleDesk.shop actions t ∧
          (∀ a ∈ actions, a.Reliable) ∧
          t.core.calls = 0 ∧
          t.followUps = 0 ∧
          t.resyncs = 0 ∧
          t.redis.available 1 = some 10 ∧
          stockOf t.core.db.inventories 1 = 6 := by
  refine ⟨sampleDesk_atRest, ?_⟩
  have hSome :
      (sampleDesk.luaPlay sampleHost racingMoves).isSome := by
    decide +kernel
  rcases Option.isSome_iff_exists.mp hSome with
    ⟨⟨actions, d⟩, hPlay⟩
  have hFacts :
      ∀ played ∈ sampleDesk.luaPlay sampleHost racingMoves,
        (∀ a ∈ played.1, a.Reliable) ∧
          played.2.calls.length = 0 ∧
          played.2.followUps = [] ∧ played.2.resyncs = [] ∧
          played.2.redis.available 1 = some 10 ∧
          stockOf played.2.db.inventories 1 = 6 := by
    decide +kernel
  rcases hFacts _ hPlay with
    ⟨hReliable, hCalls, hFollowUps, hResyncs, hEnd⟩
  refine ⟨actions, d.shop, Desk.luaRun_of_play hPlay,
    hReliable, ?_, ?_, ?_, hEnd⟩
  · exact congrArg _ (List.length_eq_zero_iff.mp hCalls)
  · exact congrArg _ hFollowUps
  · exact congrArg _ hResyncs

end OrderManagement
