import Mathlib.Data.List.Basic
import Mathlib.Tactic.Common

/-
  Ledgers of a running balance. An entry notes the balance
  before and after it, and entries chain when each one
  starts from the balance that the one before it has left.

  Main declarations:
    * `Ledger.Chained`
    * `Ledger.Chained.append`
    * `Ledger.Chained.first`, `Ledger.Chained.link`, and
      `Ledger.Chained.last`
-/

namespace Ledger

variable {E α : Type}

section Chains

variable (before after : E → α)

/- The entries lead from the first balance to the second. -/
def Chained : α → List E → α → Prop
| a, [], b => a = b
| a, e :: entries, b =>
    before e = a ∧ Chained (after e) entries b

end Chains

namespace Chained

variable {before after : E → α}

theorem nil
    (a : α) :
    Chained before after a [] a := rfl

theorem single
    (e : E) :
    Chained before after (before e) [e] (after e) :=
  ⟨rfl, rfl⟩

/- A ledger goes on from the balance that it has reached. -/
theorem append
    {a b c : α}
    {entries entries' : List E}
    (hFirst : Chained before after a entries b)
    (hSecond : Chained before after b entries' c) :
    Chained before after a (entries ++ entries') c := by
  induction entries generalizing a with
  | nil =>
      have hStart : a = b := hFirst
      rw [hStart]
      exact hSecond
  | cons e entries ih => exact ⟨hFirst.1, ih hFirst.2⟩

/- A ledger may be cut between any two of its entries. -/
theorem split
    {a c : α}
    {entries entries' : List E}
    (hChain : Chained before after a (entries ++ entries') c) :
    ∃ b,
      Chained before after a entries b ∧
        Chained before after b entries' c := by
  induction entries generalizing a with
  | nil => exact ⟨a, rfl, hChain⟩
  | cons e entries ih =>
      rcases ih hChain.2 with ⟨b, hFirst, hSecond⟩
      exact ⟨b, ⟨hChain.1, hFirst⟩, hSecond⟩

/- The first entry starts from the first balance. -/
theorem first
    {a b : α}
    {e : E}
    {entries : List E}
    (hChain : Chained before after a (e :: entries) b) :
    before e = a :=
  hChain.1

/- Each entry starts from what the previous one has left. -/
theorem link
    {a b : α}
    {e f : E}
    {entries entries' : List E}
    (hChain :
      Chained before after a (entries ++ e :: f :: entries')
        b) :
    before f = after e := by
  rcases hChain.split with ⟨_, _, hRest⟩
  exact hRest.2.1

/- The last entry leaves the balance that was reached. -/
theorem last
    {a b : α}
    {e : E}
    {entries : List E}
    (hChain : Chained before after a (entries ++ [e]) b) :
    after e = b := by
  rcases hChain.split with ⟨_, _, hRest⟩
  exact hRest.2

end Chained

end Ledger
