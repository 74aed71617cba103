import Mathlib.Data.List.Basic
import Mathlib.Tactic.Common

/-
  Runs of a labelled transition system. A run keeps the
  labels of its steps in order, so that a property may
  speak about what happened and not only about the state
  that was reached.

  Main declarations:
    * `Transition.Run`
    * `Transition.Run.invariant`
    * `Transition.Run.invariant_of_labels`
    * `Transition.Run.append` and `Transition.Run.split`
    * `Transition.Run.map`
-/

namespace Transition

variable {S T L M : Type}

/- A run performs the steps of its labels in order. -/
inductive Run (Step : S → L → S → Prop) : S → List L → S → Prop
| refl (s : S) : Run Step s [] s
| snoc
    {s t u : S}
    {ls : List L}
    {l : L} :
    Run Step s ls t →
    Step t l u →
    Run Step s (ls ++ [l]) u

namespace Run

variable {Step : S → L → S → Prop}

------------------------------------------------------------
-- Invariants
------------------------------------------------------------

/- What holds at the start and survives steps always holds. -/
theorem invariant
    {P : S → Prop}
    (hStep : ∀ s l t, P s → Step s l t → P t)
    {s t : S}
    {ls : List L}
    (hRun : Run Step s ls t)
    (hStart : P s) :
    P t := by
  induction hRun with
  | refl => exact hStart
  | snoc hRun hLast ih => exact hStep _ _ _ ih hLast

/-
  The same rule for runs all of whose labels are admitted:
  only admitted steps have to keep the invariant.
-/
theorem invariant_of_labels
    {P : S → Prop}
    {Admitted : L → Prop}
    (hStep :
      ∀ s l t, Admitted l → P s → Step s l t → P t)
    {s t : S}
    {ls : List L}
    (hRun : Run Step s ls t)
    (hLabels : ∀ l ∈ ls, Admitted l)
    (hStart : P s) :
    P t := by
  induction hRun with
  | refl => exact hStart
  | snoc hRun hLast ih =>
      refine hStep _ _ _ (hLabels _ (by simp)) ?_ hLast
      exact ih fun l hl => hLabels l (by simp [hl])

/- An invariant that relates the state to what happened. -/
theorem history
    {s : S}
    {P : List L → S → Prop}
    (hStart : P [] s)
    (hStep :
      ∀ ls t l u,
        Run Step s ls t → P ls t → Step t l u →
        P (ls ++ [l]) u)
    {t : S}
    {ls : List L}
    (hRun : Run Step s ls t) :
    P ls t := by
  induction hRun with
  | refl => exact hStart
  | snoc hRun hLast ih => exact hStep _ _ _ _ hRun ih hLast

------------------------------------------------------------
-- Composition
------------------------------------------------------------

/- A single step is a run. -/
theorem single
    {s t : S}
    {l : L}
    (hStep : Step s l t) :
    Run Step s [l] t :=
  snoc (refl s) hStep

/- Two consecutive runs are one run. -/
theorem append
    {s t u : S}
    {ls ms : List L}
    (hFirst : Run Step s ls t)
    (hSecond : Run Step t ms u) :
    Run Step s (ls ++ ms) u := by
  induction hSecond with
  | refl => simpa using hFirst
  | snoc _ hLast ih =>
      rw [← List.append_assoc]
      exact snoc ih hLast

/- A step may come before a run. -/
theorem cons
    {s t u : S}
    {l : L}
    {ls : List L}
    (hStep : Step s l t)
    (hRun : Run Step t ls u) :
    Run Step s (l :: ls) u :=
  append (single hStep) hRun

/- A run may be cut between any two of its labels. -/
theorem split
    {s u : S}
    {ls ms : List L}
    (hRun : Run Step s (ls ++ ms) u) :
    ∃ t, Run Step s ls t ∧ Run Step t ms u := by
  generalize hAll : ls ++ ms = all at hRun
  induction hRun generalizing ms with
  | refl =>
      rcases List.append_eq_nil_iff.mp hAll with ⟨rfl, rfl⟩
      exact ⟨s, refl s, refl s⟩
  | @snoc t u all l hRun hLast ih =>
      rcases List.eq_nil_or_concat ms with rfl | ⟨ms', m, rfl⟩
      · rw [List.append_nil] at hAll
        exact ⟨u, hAll ▸ snoc hRun hLast, refl u⟩
      · rw [List.concat_eq_append, ← List.append_assoc] at hAll
        rcases List.append_inj' hAll rfl with ⟨hInit, hEnd⟩
        cases hEnd
        rcases ih hInit with ⟨mid, hBefore, hAfter⟩
        refine ⟨mid, hBefore, ?_⟩
        rw [List.concat_eq_append]
        exact snoc hAfter hLast

/- The step of a label stands between two shorter runs. -/
theorem step_at
    {s u : S}
    {before after : List L}
    {l : L}
    (hRun : Run Step s (before ++ l :: after) u) :
    ∃ t t',
      Run Step s before t ∧
        Step t l t' ∧
        Run Step t' after u := by
  rcases split hRun with ⟨t, hBefore, hRest⟩
  rw [← List.singleton_append] at hRest
  rcases split hRest with ⟨t', hHere, hAfter⟩
  refine ⟨t, t', hBefore, ?_, hAfter⟩
  generalize hOne : [l] = one at hHere
  cases hHere with
  | refl => cases hOne
  | snoc hNil hStep =>
      rw [← List.nil_append [l]] at hOne
      rcases List.append_inj' hOne rfl with ⟨hInit, hEnd⟩
      cases hEnd
      cases hInit
      generalize hEmpty : ([] : List L) = none at hNil
      cases hNil with
      | refl => exact hStep
      | snoc _ _ => simp at hEmpty

theorem exists_step_of_mem
    {s u : S}
    {ls : List L}
    {l : L}
    (hRun : Run Step s ls u)
    (hMem : l ∈ ls) :
    ∃ before after t t',
      ls = before ++ l :: after ∧
        Run Step s before t ∧
        Step t l t' ∧
        Run Step t' after u := by
  rcases List.append_of_mem hMem with
    ⟨before, after, rfl⟩
  rcases step_at hRun with ⟨t, t', hBefore, hHere, hAfter⟩
  exact ⟨before, after, t, t', rfl, hBefore, hHere, hAfter⟩

------------------------------------------------------------
-- Simulation
------------------------------------------------------------

/- A run of a system is one of any system with more steps. -/
theorem mono
    {Step' : S → L → S → Prop}
    (hMore : ∀ s l t, Step s l t → Step' s l t)
    {s t : S}
    {ls : List L}
    (hRun : Run Step s ls t) :
    Run Step' s ls t := by
  induction hRun with
  | refl => exact refl _
  | snoc _ hLast ih => exact snoc ih (hMore _ _ _ hLast)

/-
  A projection under which every step is matched by a run
  carries runs to runs.
-/
theorem map
    {Step' : T → M → T → Prop}
    {project : S → T}
    {labels : L → List M}
    (hMatch :
      ∀ s l t, Step s l t →
        Run Step' (project s) (labels l) (project t))
    {s t : S}
    {ls : List L}
    (hRun : Run Step s ls t) :
    Run Step' (project s) (ls.flatMap labels)
      (project t) := by
  induction hRun with
  | refl => exact refl _
  | snoc _ hLast ih =>
      rw [List.flatMap_append, List.flatMap_singleton]
      exact append ih (hMatch _ _ _ hLast)

end Run

end Transition
