import Mathlib.Data.Set.Finite.Lemmas
import Mathlib.Order.Bounds.Basic
import Mathlib.Tactic.Common

/-
  The rung of a ladder that a demand selects: the least one
  that suffices, or the greatest one if none does. On a
  sorted list the first rung that suffices is the least.

  Main declarations:
    * `Rungs.Selects`
    * `Rungs.Selects.mono` and `Rungs.Selects.exists_below`
    * `Rungs.isLeast_of_find?` and `Rungs.isGreatest_getLast`
-/

namespace Rungs

variable {α κ : Type} [LinearOrder κ]

/- What is selected, over any set of rungs. -/
structure Selects
    (rungs : Set κ)
    (demand chosen : κ) : Prop where
  least :
    (∃ rung ∈ rungs, demand ≤ rung) →
      IsLeast {rung ∈ rungs | demand ≤ rung} chosen
  greatest :
    (∀ rung ∈ rungs, rung < demand) →
      IsGreatest rungs chosen

/- The rungs of a list. -/
def rungsOf
    (key : α → κ)
    (l : List α) : Set κ :=
  {rung | ∃ x ∈ l, key x = rung}

------------------------------------------------------------
-- Selection
------------------------------------------------------------

namespace Selects

variable
  {rungs : Set κ}
  {demand demand' chosen chosen' : κ}

theorem mem
    (hSelects : Selects rungs demand chosen) :
    chosen ∈ rungs := by
  by_cases hSome : ∃ rung ∈ rungs, demand ≤ rung
  · exact (hSelects.least hSome).1.1
  · refine (hSelects.greatest ?_).1
    intro rung hRung
    exact lt_of_not_ge fun hLE => hSome ⟨rung, hRung, hLE⟩

/- A greater demand never selects a lower rung. -/
theorem mono
    (hSelects : Selects rungs demand chosen)
    (hSelects' : Selects rungs demand' chosen')
    (hDemand : demand ≤ demand') :
    chosen ≤ chosen' := by
  by_cases hSome : ∃ rung ∈ rungs, demand' ≤ rung
  · have hLeast' := hSelects'.least hSome
    have hEnough : demand ≤ chosen' :=
      hDemand.trans hLeast'.1.2
    exact (hSelects.least ⟨chosen', hSelects'.mem, hEnough⟩).2
      ⟨hSelects'.mem, hEnough⟩
  · refine (hSelects'.greatest ?_).2 hSelects.mem
    intro rung hRung
    exact lt_of_not_ge fun hLE => hSome ⟨rung, hRung, hLE⟩

/- A rung below the selected one does not suffice. -/
theorem lt_demand
    {rung : κ}
    (hSelects : Selects rungs demand chosen)
    (hSome : ∃ rung ∈ rungs, demand ≤ rung)
    (hRung : rung ∈ rungs)
    (hBelow : rung < chosen) :
    rung < demand := by
  refine lt_of_not_ge fun hEnough => ?_
  exact not_le_of_gt hBelow
    ((hSelects.least hSome).2 ⟨hRung, hEnough⟩)

/- A demand above some rung lies between the selected rung
   and the next one below it. -/
theorem exists_below
    (hSelects : Selects rungs demand chosen)
    (hFinite : rungs.Finite)
    (hSome : ∃ rung ∈ rungs, demand ≤ rung)
    (hAbove : ∃ rung ∈ rungs, rung < demand) :
    ∃ below,
      IsGreatest {rung ∈ rungs | rung < chosen} below ∧
        below < demand ∧ demand ≤ chosen := by
  have hLeast := hSelects.least hSome
  rcases hAbove with ⟨first, hFirst, hLT⟩
  have hNonempty :
      {rung ∈ rungs | rung < chosen}.Nonempty :=
    ⟨first, hFirst, hLT.trans_le hLeast.1.2⟩
  rcases Set.exists_max_image {rung ∈ rungs | rung < chosen}
      id (hFinite.subset fun _ hMem => hMem.1) hNonempty with
    ⟨below, hMem, hMax⟩
  exact ⟨below, ⟨hMem, fun rung hRung => hMax rung hRung⟩,
    hSelects.lt_demand hSome hMem.1 hMem.2, hLeast.1.2⟩

end Selects

------------------------------------------------------------
-- Sorted Lists
------------------------------------------------------------

variable
  {key : α → κ}
  {l : List α}

omit [LinearOrder κ] in
theorem finite_rungsOf
    (key : α → κ)
    (l : List α) :
    (rungsOf key l).Finite := by
  refine (l.map key).finite_toSet.subset ?_
  rintro rung ⟨x, hMem, rfl⟩
  exact List.mem_map_of_mem hMem

omit [LinearOrder κ] in
theorem rungsOf_perm
    {l' : List α}
    (hPerm : l.Perm l') :
    rungsOf key l = rungsOf key l' := by
  ext rung
  constructor
  · rintro ⟨x, hMem, rfl⟩
    exact ⟨x, hPerm.mem_iff.mp hMem, rfl⟩
  · rintro ⟨x, hMem, rfl⟩
    exact ⟨x, hPerm.mem_iff.mpr hMem, rfl⟩

/- What comes before the first rung that suffices is too
   low, and what comes after it is no lower. -/
theorem isLeast_of_find?
    {demand : κ}
    {x : α}
    (hSorted : l.Pairwise fun a b => key a ≤ key b)
    (hFind : l.find? (fun a => demand ≤ key a) = some x) :
    IsLeast {rung ∈ rungsOf key l | demand ≤ rung} (key x) := by
  rcases List.find?_eq_some_iff_append.mp hFind with
    ⟨hEnough, before, after, rfl, hBefore⟩
  refine ⟨⟨⟨x, by simp, rfl⟩, by simpa using hEnough⟩, ?_⟩
  rintro rung ⟨⟨y, hMem, rfl⟩, hLE⟩
  rcases List.mem_append.mp hMem with hFirst | hRest
  · have hShort := hBefore y hFirst
    simp only [Bool.not_eq_true', decide_eq_false_iff_not]
      at hShort
    exact absurd hLE hShort
  · rcases List.mem_cons.mp hRest with rfl | hAfter
    · exact le_refl _
    · have hTail := (List.pairwise_append.mp hSorted).2.1
      exact (List.pairwise_cons.mp hTail).1 y hAfter

theorem isGreatest_getLast
    (hSorted : l.Pairwise fun a b => key a ≤ key b)
    (hSome : l ≠ []) :
    IsGreatest (rungsOf key l) (key (l.getLast hSome)) := by
  refine ⟨⟨_, List.getLast_mem hSome, rfl⟩, ?_⟩
  rintro rung ⟨y, hMem, rfl⟩
  rw [← List.dropLast_append_getLast hSome] at hMem hSorted
  rcases List.mem_append.mp hMem with hBefore | hLast
  · exact (List.pairwise_append.mp hSorted).2.2 y hBefore _
      List.mem_cons_self
  · rw [List.mem_singleton.mp hLast]

end Rungs
