import Mathlib.Data.List.Chain
import Mathlib.Data.List.Nodup
import Mathlib.Tactic.Common

/-
  A register that is changed by compare-and-swap: a change
  names the value that it expects and sets a new one. The
  register may tell values apart by a key only. If no key
  comes twice, who finds the key that he expects finds the
  value, so that the changes form one line.

  Main declarations:
    * `Swap.Change`, `Swap.current`, and `Swap.values`
    * `Swap.Linear`
    * `Swap.eq_current_of_key`
    * `Swap.Linear.snoc` and `Swap.Linear.chain`
-/

namespace Swap

variable {α κ : Type}

/- A change that took effect. -/
structure Change (α : Type) where
  expected : α
  new : α

/- The value after some changes. -/
def current
    (start : α) : List (Change α) → α
| [] => start
| change :: changes => current change.new changes

/- All values that the register has had. -/
def values
    (start : α)
    (changes : List (Change α)) : List α :=
  start :: changes.map Change.new

/- Every change expects what the one before it has set. -/
def Linear
    (start : α) : List (Change α) → Prop
| [] => True
| change :: changes =>
    change.expected = start ∧ Linear change.new changes

------------------------------------------------------------
-- Values
------------------------------------------------------------

theorem current_snoc
    (start : α)
    (changes : List (Change α))
    (change : Change α) :
    current start (changes ++ [change]) = change.new := by
  induction changes generalizing start with
  | nil => rfl
  | cons first changes ih => exact ih first.new

theorem values_snoc
    (start : α)
    (changes : List (Change α))
    (change : Change α) :
    values start (changes ++ [change]) =
      values start changes ++ [change.new] := by
  simp [values]

theorem current_mem_values
    (start : α)
    (changes : List (Change α)) :
    current start changes ∈ values start changes := by
  induction changes generalizing start with
  | nil => exact List.mem_cons_self
  | cons change changes ih =>
      exact List.mem_cons_of_mem _ (ih change.new)

theorem current_eq_getLast?
    (start : α)
    (changes : List (Change α)) :
    current start changes =
      (changes.getLast?.map Change.new).getD start := by
  rcases List.eq_nil_or_concat changes with
    rfl | ⟨init, last, rfl⟩
  · rfl
  · rw [List.concat_eq_append, current_snoc,
      List.getLast?_concat]
    rfl

/- A value that was seen, and whose key is still there, is
   the value that is there. -/
theorem eq_current_of_key
    {key : α → κ}
    {start value : α}
    {changes : List (Change α)}
    (hFresh : ((values start changes).map key).Nodup)
    (hSeen : value ∈ values start changes)
    (hKey : key value = key (current start changes)) :
    value = current start changes :=
  List.inj_on_of_nodup_map hFresh hSeen
    (current_mem_values start changes) hKey

------------------------------------------------------------
-- Lines
------------------------------------------------------------

namespace Linear

theorem snoc
    {start : α}
    {changes : List (Change α)}
    {change : Change α}
    (hLinear : Linear start changes)
    (hExpected : change.expected = current start changes) :
    Linear start (changes ++ [change]) := by
  induction changes generalizing start with
  | nil => exact ⟨hExpected, trivial⟩
  | cons first changes ih =>
      exact ⟨hLinear.1, ih hLinear.2 hExpected⟩

theorem head
    {start : α}
    {changes : List (Change α)}
    {change : Change α}
    (hLinear : Linear start changes)
    (hHead : changes.head? = some change) :
    change.expected = start := by
  cases changes with
  | nil => cases hHead
  | cons first changes =>
      cases hHead
      exact hLinear.1

theorem chain
    {start : α}
    {changes : List (Change α)}
    (hLinear : Linear start changes) :
    changes.IsChain fun change next =>
      next.expected = change.new := by
  induction changes generalizing start with
  | nil => exact .nil
  | cons first changes ih =>
      rw [List.isChain_cons]
      exact ⟨fun _ hNext => hLinear.2.head hNext,
        ih hLinear.2⟩

/- The changes expect the values that came before the last
   one, so that no two expect the same value. -/
theorem expected_eq
    {start : α}
    {changes : List (Change α)}
    (hLinear : Linear start changes) :
    changes.map Change.expected =
      (values start changes).dropLast := by
  induction changes generalizing start with
  | nil => rfl
  | cons first changes ih =>
      rw [List.map_cons, hLinear.1, ih hLinear.2]
      rfl

theorem nodup_expected
    {key : α → κ}
    {start : α}
    {changes : List (Change α)}
    (hLinear : Linear start changes)
    (hFresh : ((values start changes).map key).Nodup) :
    (changes.map fun change => key change.expected).Nodup := by
  have hKeys :
      (changes.map Change.expected).map key =
        ((values start changes).map key).dropLast := by
    rw [hLinear.expected_eq, List.map_dropLast]
  rw [List.map_map] at hKeys
  change (changes.map (key ∘ Change.expected)).Nodup
  rw [hKeys]
  exact hFresh.sublist (List.dropLast_sublist _)

end Linear

end Swap
