import OrderManagement.Library.Transition
import Mathlib.Data.Fintype.Basic
import Mathlib.Data.Set.Finite.Basic
import Mathlib.Logic.Function.Basic
import Mathlib.Order.WellFounded
import Mathlib.Order.RelClasses

/-
  Transactions that take exclusive locks one by one and keep
  them until they end. If all of them take their locks in
  the order of one rank, none waits for itself through the
  others, and some transaction can always go on.

  Main declarations:
    * `Locking.Holder` and `Locking.Step`
    * `Locking.WaitsFor` and `Locking.Enabled`
    * `Locking.Ascending`
    * `Locking.not_waitsFor_self`
    * `Locking.exists_enabled`
-/

namespace Locking

variable {ι ρ κ : Type}

------------------------------------------------------------
-- Transactions and Locks
------------------------------------------------------------

/- The locks that a transaction holds, and those that it has
   yet to take, in this order. -/
inductive Holder (ρ : Type)
| running (held todo : List ρ)
| ended

def Holder.held : Holder ρ → List ρ
| .running held _ => held
| .ended => []

/- The lock that a transaction takes next. -/
def Holder.next : Holder ρ → Option ρ
| .running _ todo => todo.head?
| .ended => none

/- No transaction has taken a lock. -/
def start
    (locks : ι → List ρ) : ι → Holder ρ :=
  fun i => .running [] (locks i)

/-
  A transaction takes its next lock if no other one holds
  it. It may end at any time, with a commit or a rollback,
  and it then gives all its locks back.
-/
inductive Step [DecidableEq ι] :
    (ι → Holder ρ) → ι → (ι → Holder ρ) → Prop
| acquire
    {s : ι → Holder ρ}
    {i : ι}
    {held todo : List ρ}
    {r : ρ}
    (hNext : s i = .running held (r :: todo))
    (hFree : ∀ j, j ≠ i → r ∉ (s j).held) :
    Step s i
      (Function.update s i (.running (r :: held) todo))
| finish
    {s : ι → Holder ρ}
    {i : ι}
    {held todo : List ρ}
    (hRunning : s i = .running held todo) :
    Step s i (Function.update s i .ended)

def Unfinished
    (s : ι → Holder ρ)
    (i : ι) : Prop :=
  ∃ held todo, s i = .running held todo

/- The next lock of one transaction is held by another. -/
def WaitsFor
    (s : ι → Holder ρ)
    (i j : ι) : Prop :=
  j ≠ i ∧ ∃ r, (s i).next = some r ∧ r ∈ (s j).held

/- A transaction can take its next lock, or it has all its
   locks and can commit. -/
def Enabled
    (s : ι → Holder ρ)
    (i : ι) : Prop :=
  Unfinished s i ∧ ∀ j, ¬ WaitsFor s i j

theorem Enabled.step
    [DecidableEq ι]
    {s : ι → Holder ρ}
    {i : ι}
    (hEnabled : Enabled s i) :
    ∃ t, Step s i t ∧
      ∀ r, (s i).next = some r → r ∈ (t i).held := by
  rcases hEnabled with ⟨⟨held, todo, hRunning⟩, hFree⟩
  cases todo with
  | nil =>
      refine ⟨_, .finish hRunning, ?_⟩
      rw [hRunning]
      exact nofun
  | cons r todo =>
      have hNext : (s i).next = some r := by
        rw [hRunning]
        rfl
      refine ⟨_, .acquire hRunning ?_, ?_⟩
      · exact fun j hOther hHeld =>
          hFree j ⟨hOther, r, hNext, hHeld⟩
      · intro r' hNext'
        rw [hNext] at hNext'
        cases hNext'
        simp [Holder.held]

/- A transaction that is running and not enabled waits. -/
theorem exists_waitsFor
    {s : ι → Holder ρ}
    {i : ι}
    (hUnfinished : Unfinished s i)
    (hBlocked : ¬ Enabled s i) :
    ∃ j, WaitsFor s i j := by
  by_contra hNone
  exact hBlocked ⟨hUnfinished, not_exists.mp hNone⟩

/- Only a running transaction holds locks. -/
theorem WaitsFor.unfinished
    {s : ι → Holder ρ}
    {i j : ι}
    (hWaits : WaitsFor s i j) :
    Unfinished s j := by
  rcases hWaits with ⟨_, r, _, hHeld⟩
  cases hHolder : s j with
  | running held todo => exact ⟨held, todo, hHolder⟩
  | ended =>
      rw [hHolder] at hHeld
      cases hHeld

------------------------------------------------------------
-- Ranked Locks
------------------------------------------------------------

variable [Preorder κ] {rank : ρ → κ}

/- The locks are taken in the order of their ranks. -/
def Ascending
    (rank : ρ → κ)
    (locks : List ρ) : Prop :=
  locks.Pairwise fun a b => rank a < rank b

/- What a transaction has yet to take ranks above what it
   holds. -/
def Holder.Ascending
    (rank : ρ → κ) : Holder ρ → Prop
| .running held todo =>
    Locking.Ascending rank todo ∧
      ∀ a ∈ held, ∀ b ∈ todo, rank a < rank b
| .ended => True

theorem Step.ascending
    [DecidableEq ι]
    {s t : ι → Holder ρ}
    {i : ι}
    (hAscending : ∀ j, (s j).Ascending rank)
    (hStep : Step s i t) :
    ∀ j, (t j).Ascending rank := by
  intro j
  by_cases hHere : j = i
  · subst hHere
    cases hStep with
    | acquire hNext =>
        have hOld := hAscending j
        rw [hNext] at hOld
        rcases hOld with ⟨hTodo, hAbove⟩
        rcases List.pairwise_cons.mp hTodo with
          ⟨hFirst, hRest⟩
        rw [Function.update_self]
        refine ⟨hRest, ?_⟩
        intro a hHeld b hMem
        rcases List.mem_cons.mp hHeld with rfl | hOlder
        · exact hFirst b hMem
        · exact hAbove a hOlder b
            (List.mem_cons_of_mem _ hMem)
    | finish =>
        rw [Function.update_self]
        trivial
  · cases hStep with
    | acquire | finish =>
        rw [Function.update_of_ne hHere]
        exact hAscending j

theorem ascending_of_run
    [DecidableEq ι]
    {locks : ι → List ρ}
    {s : ι → Holder ρ}
    {ls : List ι}
    (hLocks : ∀ i, Ascending rank (locks i))
    (hRun : Transition.Run Step (start locks) ls s) :
    ∀ i, (s i).Ascending rank :=
  hRun.invariant (P := fun s => ∀ i, (s i).Ascending rank)
    (fun _ _ _ hAscending hStep => hStep.ascending hAscending)
    fun i => ⟨hLocks i, nofun⟩

/- Who is waited for waits for a higher rank. -/
theorem WaitsFor.rank_lt
    {s : ι → Holder ρ}
    {i j : ι}
    {r r' : ρ}
    (hAscending : ∀ i, (s i).Ascending rank)
    (hWaits : WaitsFor s i j)
    (hNext : (s i).next = some r)
    (hNext' : (s j).next = some r') :
    rank r < rank r' := by
  rcases hWaits with ⟨_, r₁, hSame, hHeld⟩
  rw [hNext] at hSame
  cases hSame
  have hHolder := hAscending j
  cases hState : s j with
  | running held todo =>
      rw [hState] at hHolder hHeld hNext'
      exact hHolder.2 r hHeld r' (List.mem_of_mem_head? hNext')
  | ended =>
      rw [hState] at hHeld
      cases hHeld

/- Along a chain of waiting transactions the rank that is
   waited for grows. -/
theorem rank_lt_of_transGen
    {s : ι → Holder ρ}
    {i j : ι}
    {r r' : ρ}
    (hAscending : ∀ i, (s i).Ascending rank)
    (hChain : Relation.TransGen (WaitsFor s) i j)
    (hNext : (s i).next = some r)
    (hNext' : (s j).next = some r') :
    rank r < rank r' := by
  induction hChain generalizing r' with
  | single hWaits =>
      exact hWaits.rank_lt hAscending hNext hNext'
  | tail _ hWaits ih =>
      rcases hWaits.2 with ⟨r₁, hNext₁, _⟩
      exact (ih hNext₁).trans
        (hWaits.rank_lt hAscending hNext₁ hNext')

/- There is no cycle of waiting transactions. -/
theorem not_waitsFor_self
    {s : ι → Holder ρ}
    (hAscending : ∀ i, (s i).Ascending rank)
    (i : ι) :
    ¬ Relation.TransGen (WaitsFor s) i i := by
  intro hCycle
  have hNext : ∃ r, (s i).next = some r := by
    rcases Relation.TransGen.head'_iff.mp hCycle with
      ⟨j, ⟨_, r, hNext, _⟩, _⟩
    exact ⟨r, hNext⟩
  rcases hNext with ⟨r, hNext⟩
  exact lt_irrefl _
    (rank_lt_of_transGen hAscending hCycle hNext hNext)

/- Of finitely many transactions, one can go on as long as
   one is unfinished. -/
theorem exists_enabled
    [Finite ι]
    {s : ι → Holder ρ}
    (hAscending : ∀ i, (s i).Ascending rank)
    (hUnfinished : ∃ i, Unfinished s i) :
    ∃ i, Enabled s i := by
  by_contra hNone
  rw [not_exists] at hNone
  let Behind : ι → ι → Prop :=
    fun j i => Relation.TransGen (WaitsFor s) i j
  have hTrans : IsTrans ι Behind :=
    ⟨fun _ _ _ hFirst hSecond => hSecond.trans hFirst⟩
  have hIrrefl : Std.Irrefl Behind :=
    ⟨not_waitsFor_self hAscending⟩
  have hWellFounded : WellFounded Behind :=
    Finite.wellFounded_of_trans_of_irrefl Behind
  -- A transaction that nobody running is behind is enabled.
  rcases hWellFounded.has_min { i | Unfinished s i }
      hUnfinished with ⟨last, hLast, hMin⟩
  rcases exists_waitsFor hLast (hNone last) with
    ⟨j, hWaits⟩
  exact hMin j hWaits.unfinished (.single hWaits)

end Locking
