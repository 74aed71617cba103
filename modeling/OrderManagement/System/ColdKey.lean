import OrderManagement.Library.Counter
import OrderManagement.System.Restoration

/-
  The key of a product that is missing in Redis while its
  stock is initialised and added to. Every such call sends a
  command after its commit, and the commands may overtake
  each other on their way.

  Main declarations:
    * `FollowUp.refill` and `Shop.refills`
    * `Shop.RestockStep`
    * `Shop.Refilled` with `Shop.Refilled.step`
    * `cold_key_agrees_iff`
-/

namespace OrderManagement

open Counter (Command Chain total)

------------------------------------------------------------
-- Commands for a Key
------------------------------------------------------------

/- What a command does to the key of a product. -/
def FollowUp.refill
    (p : Int) : FollowUp → Option Command
| .set productID quantity =>
    if productID = p then some (.set quantity) else none
| .incr productID delta fallbackQuantity =>
    if productID = p then
      some (.incr delta fallbackQuantity)
    else
      none
| _ => none

/- The guard runs the command on the key of the product. -/
theorem FollowUp.run_refill
    {command : FollowUp}
    {p : Int}
    {c : Command}
    (hValid : command.Valid)
    (hRefill : command.refill p = some c)
    (redis : Redis) :
    (command.run redis).available p =
      c.run (redis.available p) := by
  cases command with
  | release | restore | confirm => cases hRefill
  | set productID quantity =>
      simp only [refill, Option.ite_none_right_eq_some,
        Option.some.injEq] at hRefill
      rcases hRefill with ⟨rfl, rfl⟩
      unfold run InventoryStockGuard.setInventoryStock
      dsimp only
      rw [if_neg (not_or.mpr
        ⟨by simpa using hValid.1, by simpa using hValid.2⟩),
        Redis.available_set, if_pos rfl]
      rfl
  | incr productID delta fallbackQuantity =>
      simp only [refill, Option.ite_none_right_eq_some,
        Option.some.injEq] at hRefill
      rcases hRefill with ⟨rfl, rfl⟩
      have hSent :
          ¬ (productID ≤ 0 ∨ delta ≤ 0 ∨
            fallbackQuantity < 0) := by
        have hP := hValid.1
        have hDelta := hValid.2.1
        have hFallback := hValid.2.2
        omega
      unfold run InventoryStockGuard.incrInventoryStock
      dsimp only
      rw [if_neg hSent,
        Redis.incrInventoryStockScript_available, if_pos rfl]
      cases redis.available productID <;> rfl

variable [Deployment]

/- The command for the key that becomes due in a step. -/
def Action.due
    (p : Int) : Action → Option Command
| .core (some e) => e.followUp.bind (FollowUp.refill p)
| _ => none

/- The command for the key that runs in a step. -/
def Action.sent
    (p : Int) : Action → Option Command
| .followUp command true => command.refill p
| _ => none

/- The command for the key that is lost in a step. -/
def Action.lost
    (p : Int) : Action → Option Command
| .followUp command false => command.refill p
| _ => none

/- The commands in the order of the commits that they are
   for, and in the order in which Redis runs them. -/
def refillsDue
    (p : Int)
    (actions : List Action) : List Command :=
  actions.filterMap (Action.due p)

def refillsSent
    (p : Int)
    (actions : List Action) : List Command :=
  actions.filterMap (Action.sent p)

/- The commands for the key that calls still owe. -/
def Shop.refills
    (s : Shop)
    (p : Int) : Multiset Command :=
  s.followUps.filterMap (FollowUp.refill p)

/-
  A step while the stock of a product is initialised and
  added to. Every other step, whatever it belongs to, leaves
  the stock of the product and its key as they are, and no
  command for the key is lost.
-/
structure Shop.RestockStep
    (p : Int)
    (s : Shop)
    (a : Action)
    (t : Shop) : Prop where
  step : Shop.Step s a t
  only :
    (a.due p).isSome ∨ (a.sent p).isSome ∨
      (t.core.db.inventories.find? p).map
            Inventory.stockQuantity =
          (s.core.db.inventories.find? p).map
            Inventory.stockQuantity ∧
        t.redis.available p = s.redis.available p
  delivered : a.lost p = none

------------------------------------------------------------
-- Commits
------------------------------------------------------------

/- What a call that owes a command for the key has done to
   the stock. -/
theorem Event.Sound.refill
    {e : Event}
    {p : Int}
    {f : FollowUp}
    {c : Command}
    (hSound : e.Sound)
    (hDue : e.followUp = some f)
    (hRefill : f.refill p = some c) :
    (e.after.inventories.find? p).isSome ∧
      stockOf e.after.inventories p =
        stockOf e.before.inventories p + c.amount ∧
      ((∃ quantity,
          c = .set quantity ∧
            e.before.inventories.find? p = none) ∨
        ∃ delta,
          0 < delta ∧
            c = .incr delta
              (stockOf e.before.inventories p + delta)) := by
  cases f with
  | release | restore | confirm => cases hRefill
  | set productID quantity =>
      simp only [FollowUp.refill,
        Option.ite_none_right_eq_some,
        Option.some.injEq] at hRefill
      rcases hRefill with ⟨rfl, rfl⟩
      rcases hSound.effect (Event.followUp_set hDue) with
        ⟨view, _, hEffect⟩
      generalize e.request = request at hEffect
      generalize e.before = db at hEffect ⊢
      generalize e.after = db' at hEffect ⊢
      cases hEffect with
      | inventoryInitialised hQuantity hProduct hKey hStock
          hLocked hInsert hEntry hBefore =>
          rename_i inventory inventories log
          have hFree : db.inventories.find? productID = none := by
            rw [← hKey]
            exact (Table.insert?_eq_some_iff.mp hInsert).1
          have hRow :
              inventories.find? productID = some inventory := by
            rw [Table.find?_of_insert? hInsert, key_inventory,
              if_pos hKey]
          refine ⟨by simp [hRow], ?_,
            Or.inl ⟨quantity, rfl, hFree⟩⟩
          unfold stockOf
          rw [hRow, hFree]
          simp [hStock, Command.amount]
  | incr productID delta fallbackQuantity =>
      simp only [FollowUp.refill,
        Option.ite_none_right_eq_some,
        Option.some.injEq] at hRefill
      rcases hRefill with ⟨rfl, rfl⟩
      rcases hSound.effect (Event.followUp_incr hDue) with
        ⟨view, _, hEffect⟩
      generalize hOutcome :
        Outcome.inventoryAdded productID delta
          fallbackQuantity = outcome at hEffect
      generalize e.request = request at hEffect
      generalize e.before = db at hEffect ⊢
      generalize e.after = db' at hEffect ⊢
      cases hEffect with
      | inventoryAdded hQuantity hInventory hMoved hEntry
          hBefore =>
          cases hOutcome
          refine ⟨?_, ?_, Or.inr ⟨delta, hQuantity, rfl⟩⟩
          · rw [hMoved.isSome]
            exact hInventory
          · rw [hMoved.stockOf, Pi.single_eq_same]
            rfl
      | _ => cases hOutcome

------------------------------------------------------------
-- The Key over Steps
------------------------------------------------------------

/-
  What the commits so far have made of the stock, and the
  commands so far of the key.
-/
structure Shop.Refilled
    (p base : Int)
    (actions : List Action)
    (s : Shop) : Prop where
  chain : Chain base (refillsDue p actions)
  stock :
    stockOf s.core.db.inventories p =
      base + total (refillsDue p actions)
  row :
    refillsDue p actions ≠ [] →
      (s.core.db.inventories.find? p).isSome
  owed :
    (refillsDue p actions : Multiset Command) =
      refillsSent p actions + s.refills p
  available :
    s.redis.available p =
      (refillsSent p actions).foldl Command.run none

theorem refillsDue_append
    (p : Int)
    (actions : List Action)
    (a : Action) :
    refillsDue p (actions ++ [a]) =
      refillsDue p actions ++ (a.due p).toList := by
  unfold refillsDue
  rw [List.filterMap_append, List.filterMap_cons,
    List.filterMap_nil]
  cases a.due p <;> rfl

theorem refillsSent_append
    (p : Int)
    (actions : List Action)
    (a : Action) :
    refillsSent p (actions ++ [a]) =
      refillsSent p actions ++ (a.sent p).toList := by
  unfold refillsSent
  rw [List.filterMap_append, List.filterMap_cons,
    List.filterMap_nil]
  cases a.sent p <;> rfl

/- A commit that owes a command is the next change of the
   stock. -/
theorem Shop.Refilled.committed
    {p base : Int}
    {actions : List Action}
    {s : Shop}
    {core : State}
    {e : Event}
    {c : Command}
    (hSound : s.Sound)
    (hRefilled : s.Refilled p base actions)
    (hStep : OrderManagement.Step s.core (some e) core)
    (hDue : (Action.core (some e)).due p = some c) :
    Shop.Refilled p base (actions ++ [.core (some e)])
      { s with
        core := core
        followUps := due (some e) + s.followUps } := by
  rcases Option.bind_eq_some_iff.mp hDue with
    ⟨f, hFollowUp, hRefill⟩
  rcases hStep.event hSound.core with
    ⟨hEvent, hBefore, hAfter⟩
  rcases hEvent.refill hFollowUp hRefill with
    ⟨hRow, hStock, hKind⟩
  rw [hBefore] at hStock hKind
  rw [hAfter] at hRow hStock
  have hDueList :
      refillsDue p (actions ++ [.core (some e)]) =
        refillsDue p actions ++ [c] := by
    rw [refillsDue_append, hDue]
    rfl
  have hSentList :
      refillsSent p (actions ++ [.core (some e)]) =
        refillsSent p actions := by
    rw [refillsSent_append]
    exact List.append_nil _
  have hOwed :
      (due (some e) + s.followUps).filterMap
          (FollowUp.refill p) =
        c ::ₘ s.refills p := by
    have hSingle : due (some e) = {f} := by
      unfold due
      rw [Option.bind_some, hFollowUp]
      rfl
    rw [hSingle, Multiset.singleton_add,
      Multiset.filterMap_cons_some _ _ _ hRefill]
    rfl
  constructor
  · rw [hDueList]
    rcases hKind with ⟨quantity, rfl, hFree⟩ |
      ⟨delta, hPositive, rfl⟩
    · have hFirst : refillsDue p actions = [] := by
        by_contra hSome
        have hTaken := hRefilled.row hSome
        rw [hFree] at hTaken
        cases hTaken
      have hBase := hRefilled.stock
      unfold stockOf at hBase
      rw [hFree, hFirst, Counter.total_nil,
        Int.add_zero] at hBase
      rw [hFirst, ← hBase]
      exact .starts (.nil quantity)
    · rw [hRefilled.stock]
      exact hRefilled.chain.snoc hPositive
  · rw [hDueList, Counter.total_append, Counter.total_cons,
      Counter.total_nil, Int.add_zero, hStock,
      hRefilled.stock, Int.add_assoc]
  · intro _
    exact hRow
  · rw [hDueList, hSentList, ← Multiset.coe_add,
      hRefilled.owed]
    show _ = _ + (due (some e) + s.followUps).filterMap _
    rw [hOwed, Multiset.coe_singleton, Multiset.add_cons,
      Multiset.add_comm _ {c}, Multiset.singleton_add]
  · rw [hSentList]
    exact hRefilled.available

/- Redis runs a command for the key. -/
theorem Shop.Refilled.delivered
    {p base : Int}
    {actions : List Action}
    {s t : Shop}
    {command : FollowUp}
    {c : Command}
    (hSound : s.Sound)
    (hRefilled : s.Refilled p base actions)
    (hStep : Shop.Step s (.followUp command true) t)
    (hRefill : command.refill p = some c) :
    t.Refilled p base
      (actions ++ [.followUp command true]) := by
  have hDueList :
      refillsDue p (actions ++ [.followUp command true]) =
        refillsDue p actions := by
    rw [refillsDue_append]
    exact List.append_nil _
  have hSentList :
      refillsSent p (actions ++ [.followUp command true]) =
        refillsSent p actions ++ [c] := by
    rw [refillsSent_append]
    show _ ++ (command.refill p).toList = _
    rw [hRefill]
    rfl
  cases hStep with
  | @followUp rest _ _ hQueued =>
      have hValid : command.Valid :=
        hSound.followUpsValid command (by
          rw [hQueued]
          exact Multiset.mem_cons_self _ _)
      have hOwed :
          s.refills p = c ::ₘ rest.filterMap
            (FollowUp.refill p) := by
        unfold Shop.refills
        rw [hQueued, Multiset.filterMap_cons_some _ _ _ hRefill]
      constructor
      · rw [hDueList]
        exact hRefilled.chain
      · rw [hDueList]
        exact hRefilled.stock
      · rw [hDueList]
        exact hRefilled.row
      · rw [hDueList, hSentList, hRefilled.owed, hOwed,
          ← Multiset.coe_add, Multiset.coe_singleton,
          Multiset.add_assoc, Multiset.singleton_add]
        rfl
      · rw [hSentList, List.foldl_append, List.foldl_cons,
          List.foldl_nil, ← hRefilled.available]
        exact FollowUp.run_refill hValid hRefill s.redis

/- The command that a step neither owes nor runs. -/
theorem Shop.Refilled.spared
    {p base : Int}
    {actions : List Action}
    {a : Action}
    {s t : Shop}
    (hRefilled : s.Refilled p base actions)
    (hDue : a.due p = none)
    (hSent : a.sent p = none)
    (hOwed : t.refills p = s.refills p)
    (hStock :
      (t.core.db.inventories.find? p).map
          Inventory.stockQuantity =
        (s.core.db.inventories.find? p).map
          Inventory.stockQuantity)
    (hAvailable : t.redis.available p = s.redis.available p) :
    t.Refilled p base (actions ++ [a]) := by
  have hDueList :
      refillsDue p (actions ++ [a]) = refillsDue p actions := by
    rw [refillsDue_append, hDue]
    exact List.append_nil _
  have hSentList :
      refillsSent p (actions ++ [a]) =
        refillsSent p actions := by
    rw [refillsSent_append, hSent]
    exact List.append_nil _
  constructor
  · rw [hDueList]
    exact hRefilled.chain
  · rw [hDueList, ← hRefilled.stock]
    unfold stockOf
    rw [hStock]
  · rw [hDueList]
    intro hSome
    have hRow := hRefilled.row hSome
    rw [← Option.isSome_map (f := Inventory.stockQuantity),
      ← hStock, Option.isSome_map] at hRow
    exact hRow
  · rw [hDueList, hSentList, hOwed]
    exact hRefilled.owed
  · rw [hSentList, hAvailable]
    exact hRefilled.available

/- Such a step leaves what is owed to the key as it is. -/
theorem Shop.RestockStep.refills
    {p : Int}
    {s t : Shop}
    {a : Action}
    (hStep : Shop.RestockStep p s a t)
    (hDue : a.due p = none)
    (hSent : a.sent p = none) :
    t.refills p = s.refills p := by
  have hDelivered := hStep.delivered
  unfold Shop.refills
  cases hStep.step with
  | arrive | listForRebuild | listForReconcile | compare
  | write | resyncDone | evict | evictReservation => rfl
  | @core core event hCore hNoArrival =>
      have hNothing :
          (OrderManagement.due event).filterMap
              (FollowUp.refill p) = 0 := by
        unfold OrderManagement.due
        cases event with
        | none => rfl
        | some e =>
            change e.followUp.bind (FollowUp.refill p) = none
              at hDue
            rw [Option.bind_some]
            cases hFollowUp : e.followUp with
            | none => rfl
            | some f =>
                rw [hFollowUp, Option.bind_some] at hDue
                exact Multiset.filterMap_cons_none f 0 hDue
      rw [Multiset.filterMap_add, hNothing, Multiset.zero_add]
  | @followUp rest command delivered hQueued =>
      have hOther : command.refill p = none := by
        cases delivered with
        | false => exact hDelivered
        | true => exact hSent
      rw [hQueued, Multiset.filterMap_cons_none _ _ hOther]

theorem Shop.Refilled.step
    {p base : Int}
    {actions : List Action}
    {a : Action}
    {s t : Shop}
    (hSound : s.Sound)
    (hRefilled : s.Refilled p base actions)
    (hStep : Shop.RestockStep p s a t) :
    t.Refilled p base (actions ++ [a]) := by
  cases hDue : a.due p with
  | some c =>
      cases a with
      | core event =>
          cases event with
          | none => cases hDue
          | some e =>
              cases hStep.step with
              | core hCore hNoArrival =>
                  exact hRefilled.committed hSound hCore hDue
      | _ => cases hDue
  | none =>
      cases hSent : a.sent p with
      | some c =>
          cases a with
          | followUp command delivered =>
              cases delivered with
              | false => cases hSent
              | true =>
                  exact hRefilled.delivered hSound hStep.step
                    hSent
          | _ => cases hSent
      | none =>
          have hSame :=
            (hStep.only.resolve_left (by rw [hDue]; simp)
              ).resolve_left (by rw [hSent]; simp)
          exact hRefilled.spared hDue hSent
            (hStep.refills hDue hSent) hSame.1 hSame.2

/-
  A missing key that is filled while stock is initialised
  and added to. When every command has run, the key holds
  the stock exactly if a call has committed at all, and the
  command of the call that has committed first was also the
  first one to run.
-/
theorem cold_key_agrees_iff
    {s t : Shop}
    {actions : List Action}
    {p : Int}
    (hReachable : s.Reachable)
    (hCold : s.redis.available p = none)
    (hStart : s.refills p = 0)
    (hRun :
      Transition.Run (Shop.RestockStep p) s actions t)
    (hDone : t.refills p = 0) :
    t.redis.available p =
        some (stockOf t.core.db.inventories p) ↔
      ∃ c,
        (refillsDue p actions).head? = some c ∧
          (refillsSent p actions).head? = some c := by
  have hInitial :
      s.Refilled p (stockOf s.core.db.inventories p) [] := {
    chain := .additions (.nil _)
    stock := (Int.add_zero _).symm
    row := fun hSome => absurd rfl hSome
    owed := by rw [hStart]; rfl
    available := hCold }
  have hRefilled :=
    (hRun.history
      (P := fun ls u =>
        u.Sound ∧
          u.Refilled p (stockOf s.core.db.inventories p) ls)
      ⟨hReachable.sound, hInitial⟩
      (fun ls u a v _ hInv hStep =>
        ⟨hStep.step.sound hInv.1, hInv.2.step hInv.1 hStep⟩)).2
  have hPerm :
      (refillsSent p actions).Perm (refillsDue p actions) := by
    have hOwed := hRefilled.owed
    rw [hDone, Multiset.add_zero] at hOwed
    exact (Multiset.coe_eq_coe.mp hOwed).symm
  rw [hRefilled.available, hRefilled.stock]
  exact hRefilled.chain.run_eq_iff hPerm

end OrderManagement

------------------------------------------------------------
-- Overtaking Commands
------------------------------------------------------------

namespace OrderManagement

section

variable [Deployment]

/- Plays a schedule while the stock of a product is added
   to, if nothing else happens to the product. -/
def Desk.restock
    (p : Int)
    (d : Desk) : List Move → Option (List Action × Desk)
| [] => some ([], d)
| m :: ms => do
    let (a, d') ← d.move m
    if ((a.due p).isSome ∨ (a.sent p).isSome ∨
          (d'.db.inventories.find? p).map
                Inventory.stockQuantity =
              (d.db.inventories.find? p).map
                Inventory.stockQuantity ∧
            d'.redis.available p = d.redis.available p) ∧
        a.lost p = none then
      let (actions, d'') ← Desk.restock p d' ms
      return (a :: actions, d'')
    else
      none

theorem Desk.run_of_restock
    {p : Int}
    {d d' : Desk}
    {ms : List Move}
    {actions : List Action}
    (hRestock : d.restock p ms = some (actions, d')) :
    Transition.Run (Shop.RestockStep p) d.shop actions
      d'.shop := by
  induction ms generalizing d actions with
  | nil =>
      cases hRestock
      exact Transition.Run.refl _
  | cons m ms ih =>
      unfold Desk.restock at hRestock
      simp only [Option.bind_eq_bind,
        Option.bind_eq_some_iff] at hRestock
      rcases hRestock with ⟨⟨a, mid⟩, hMove, hRest⟩
      split at hRest
      case isFalse => cases hRest
      case isTrue hAdmitted =>
        rcases Option.bind_eq_some_iff.mp hRest with
          ⟨⟨rest, last⟩, hPlay, hEnd⟩
        cases hEnd
        have hFirst :
            Shop.RestockStep p d.shop a mid.shop := {
          step := Desk.step_of_move hMove
          only := hAdmitted.1
          delivered := hAdmitted.2 }
        exact (Transition.Run.single hFirst).append (ih hPlay)

end

attribute [local instance] sampleDeployment

/- Five and three pieces are added to ten, and one of the
   two commands runs before the other. -/
def addingMoves
    (first : Nat) : List Move :=
  [ .arrive (.addInventory 1 5) .answered,
    .advance 0 0 0,
    .advance 0 0 0,
    .arrive (.addInventory 1 3) .answered,
    .advance 0 0 0,
    .advance 0 0 0,
    .followUp first true,
    .followUp 0 true ]

/- A shop whose first SET was lost, and the same shop after
   the additions. -/
def refilledShop
    (first : Nat) : Option (Desk × List Action × Desk) := do
  let (_, d) ← Desk.initial.play ((openingMoves false).take 10)
  let (actions, d') ← d.restock 1 (addingMoves first)
  return (d, actions, d')

theorem refilledShop_runs
    {first : Nat}
    {d d' : Desk}
    {actions : List Action}
    (hShop : refilledShop first = some (d, actions, d')) :
    d.shop.Reachable ∧
      Transition.Run (Shop.RestockStep 1) d.shop actions
        d'.shop := by
  unfold refilledShop at hShop
  simp only [Option.bind_eq_bind, Option.bind_eq_some_iff,
    Option.pure_def, Option.some.injEq, Prod.mk.injEq] at hShop
  rcases hShop with
    ⟨⟨_, _⟩, hOpening, ⟨_, _⟩, hAdding, rfl, rfl, rfl⟩
  exact ⟨Desk.reachable_of_play hOpening,
    Desk.run_of_restock hAdding⟩

/- In the order of the commits the key shows the stock. -/
theorem cold_key_agrees_iff_sample :
    ∃ s t : Shop,
      s.redis.available 1 = none ∧
        t.redis.available 1 =
          some (stockOf t.core.db.inventories 1) := by
  have hSome : (refilledShop 0).isSome := by
    decide +kernel
  rcases Option.isSome_iff_exists.mp hSome with
    ⟨⟨d, actions, d'⟩, hShop⟩
  have hFacts :
      ∀ run ∈ refilledShop 0,
        run.1.redis.available 1 = none ∧
          run.1.followUps = [] ∧ run.2.2.followUps = [] ∧
          (refillsDue 1 run.2.1).head? =
            some (.incr 5 15) ∧
          (refillsSent 1 run.2.1).head? =
            some (.incr 5 15) := by
    decide +kernel
  rcases hFacts _ hShop with
    ⟨hCold, hStart, hDone, hDue, hSent⟩
  rcases refilledShop_runs hShop with ⟨hReachable, hRun⟩
  refine ⟨d.shop, d'.shop, hCold, ?_⟩
  exact (cold_key_agrees_iff hReachable hCold
    (congrArg (fun fs : List FollowUp =>
      (fs : Multiset FollowUp).filterMap (FollowUp.refill 1))
      hStart)
    hRun
    (congrArg (fun fs : List FollowUp =>
      (fs : Multiset FollowUp).filterMap (FollowUp.refill 1))
      hDone)).mpr ⟨_, hDue, hSent⟩

/- The second command runs first and sets the key to the
   stock after both additions; the first one then adds its
   five pieces once more. -/
theorem cold_key_overfilled :
    ∃ (s t : Shop) (actions : List Action),
      s.Reachable ∧
        s.Quiet ∧
        s.redis.available 1 = none ∧
        Transition.Run (Shop.RestockStep 1) s actions t ∧
        t.Quiet ∧
        stockOf t.core.db.inventories 1 = 18 ∧
        t.redis.available 1 = some 23 := by
  have hSome : (refilledShop 1).isSome := by
    decide +kernel
  rcases Option.isSome_iff_exists.mp hSome with
    ⟨⟨d, actions, d'⟩, hShop⟩
  have hFacts :
      ∀ run ∈ refilledShop 1,
        (run.1.calls.length = 0 ∧ run.1.followUps = [] ∧
            run.1.resyncs = []) ∧
          run.1.redis.available 1 = none ∧
          (run.2.2.calls.length = 0 ∧
            run.2.2.followUps = [] ∧
              run.2.2.resyncs = []) ∧
          stockOf run.2.2.db.inventories 1 = 18 ∧
          run.2.2.redis.available 1 = some 23 := by
    decide +kernel
  rcases hFacts _ hShop with
    ⟨⟨hCalls, hFollowUps, hResyncs⟩, hCold,
      ⟨hCalls', hFollowUps', hResyncs'⟩, hStock, hKey⟩
  rcases refilledShop_runs hShop with ⟨hReachable, hRun⟩
  exact ⟨d.shop, d'.shop, actions, hReachable, {
    calls := congrArg _ (List.length_eq_zero_iff.mp hCalls)
    followUps := congrArg _ hFollowUps
    resyncs := congrArg _ hResyncs }, hCold, hRun, {
    calls := congrArg _ (List.length_eq_zero_iff.mp hCalls')
    followUps := congrArg _ hFollowUps'
    resyncs := congrArg _ hResyncs' }, hStock, hKey⟩

end OrderManagement
