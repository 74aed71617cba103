import Mathlib.Data.Finmap
import Mathlib.Data.List.Sort
import Mathlib.Tactic.Common

/-
  A map of Go. A loop over it sees every entry once, in an
  order that nothing is known about.

  Main declarations:
    * `GoMap` and `GoMap.Ranges`
    * `GoMap.Ranges.mem_iff`, `GoMap.Ranges.nodup_keys`, and
      `GoMap.Ranges.perm`
    * `GoMap.Ranges.insertionSort_eq`
-/

/- A finite map from keys to values. -/
abbrev GoMap
    (α β : Type) : Type := Finmap fun _ : α => β

namespace GoMap

variable {α β : Type}

/- A list is an order in which a loop may see the entries. -/
def Ranges
    (m : GoMap α β)
    (entries : List (Σ _ : α, β)) : Prop :=
  (entries : Multiset (Σ _ : α, β)) = m.entries

instance
    [DecidableEq α]
    [DecidableEq β]
    (m : GoMap α β)
    (entries : List (Σ _ : α, β)) :
    Decidable (Ranges m entries) :=
  inferInstanceAs
    (Decidable
      ((entries : Multiset (Σ _ : α, β)) = m.entries))

/- The value of a key, or else a given one. -/
def getD
    [DecidableEq α]
    (m : GoMap α β)
    (key : α)
    (value : β) : β :=
  (Finmap.lookup key m).getD value

namespace Ranges

variable
  {m : GoMap α β}
  {entries : List (Σ _ : α, β)}

theorem mem_iff
    [DecidableEq α]
    (hRanges : Ranges m entries)
    {key : α}
    {value : β} :
    ⟨key, value⟩ ∈ entries ↔
      Finmap.lookup key m = some value := by
  rw [← Multiset.mem_coe, hRanges]
  exact Finmap.lookup_eq_some_iff.symm

theorem nodup_keys
    (hRanges : Ranges m entries) :
    (entries.map Sigma.fst).Nodup := by
  have hKeys := m.nodupKeys
  rw [← hRanges] at hKeys
  exact Multiset.coe_nodupKeys.mp hKeys

/- Any two orders are permutations of each other. -/
theorem perm
    {entries' : List (Σ _ : α, β)}
    (hRanges : Ranges m entries)
    (hRanges' : Ranges m entries') :
    entries.Perm entries' :=
  Multiset.coe_eq_coe.mp (hRanges.trans hRanges'.symm)

/- Sorted by their keys, all orders are the same one. -/
theorem insertionSort_eq
    {γ : Type}
    [LinearOrder γ]
    {rank : α → γ}
    (hRank : Function.Injective rank)
    {less : (Σ _ : α, β) → (Σ _ : α, β) → Prop}
    [DecidableRel less]
    (hLess : ∀ a b, less a b ↔ rank a.1 < rank b.1)
    {entries' : List (Σ _ : α, β)}
    (hRanges : Ranges m entries)
    (hRanges' : Ranges m entries') :
    entries.insertionSort (fun a b => ¬ less b a) =
      entries'.insertionSort fun a b => ¬ less b a := by
  have hSorted
      (es : List (Σ _ : α, β)) :
      (es.insertionSort fun a b => ¬ less b a).Pairwise
        fun a b => ¬ less b a := by
    have : Std.Total
        (fun a b : Σ _ : α, β => ¬ less b a) := by
      constructor
      intro a b
      rw [hLess, hLess, not_lt, not_lt]
      exact le_total _ _
    have : IsTrans (Σ _ : α, β) fun a b => ¬ less b a := by
      constructor
      intro a b c hFirst hSecond
      rw [hLess, not_lt] at hFirst hSecond ⊢
      exact hFirst.trans hSecond
    exact List.pairwise_insertionSort _ _
  have hPerm :
      (entries.insertionSort fun a b => ¬ less b a).Perm
        (entries'.insertionSort fun a b => ¬ less b a) :=
    (List.perm_insertionSort _ _).trans
      ((hRanges.perm hRanges').trans
        (List.perm_insertionSort _ _).symm)
  apply hPerm.eq_of_pairwise _ (hSorted _) (hSorted _)
  intro a b hMem hMem' hLow hHigh
  rw [hLess, not_lt] at hLow hHigh
  have hKey : a.1 = b.1 := hRank (hLow.antisymm hHigh)
  rw [List.mem_insertionSort] at hMem hMem'
  have hHere := (hRanges.perm hRanges').mem_iff.mpr hMem'
  exact List.inj_on_of_nodup_map hRanges.nodup_keys hMem hHere
    hKey

end Ranges

end GoMap
