import Mathlib.Tactic.Common

/-
  Settings from layers. A layer above decides, if it has a
  value. A program may pass its layers on in one value each,
  in which a fixed value stands for one that is not set; the
  lemma says when nothing is lost by that.

  Main declarations:
    * `Layers.prefer` and `Layers.overlay`
    * `Layers.Told`
    * `Layers.overlay_eq_prefer_iff`
-/

namespace Layers

variable {α : Type}

/- The value of the uppermost layer that has one. -/
def prefer
    (top middle : Option α)
    (bottom : α) : α :=
  top.getD (middle.getD bottom)

/- One value laid over another, unless it is the value that
   stands for none. -/
def overlay
    [DecidableEq α]
    (unset upper lower : α) : α :=
  if upper = unset then lower else upper

theorem overlay_eq_ite_ne
    [DecidableEq α]
    (unset upper lower : α) :
    overlay unset upper lower =
      if upper ≠ unset then upper else lower := by
  rw [ite_not]
  rfl

/-
  What the single values tell of their layers. The upper one
  is from the top layer, or else from the bottom layer,
  unless that is discarded; the lower one is from the middle
  layer. The top layer must not set the value that stands
  for none over another one, and the bottom layer must not
  show through.
-/
def Told
    (unset : α)
    (top middle : Option α)
    (discarded : Prop)
    (bottom : α) : Prop :=
  ∀ value, middle = some value →
    (top = some unset → value = unset) ∧
      (top = none → ¬ discarded →
        bottom = unset ∨ bottom = value)

variable [DecidableEq α]

instance
    (unset : α)
    (top middle : Option α)
    (discarded : Prop)
    [Decidable discarded]
    (bottom : α) :
    Decidable (Told unset top middle discarded bottom) :=
  Option.decidableForallMem middle

theorem overlay_eq_prefer_iff
    {unset bottom : α}
    {top middle : Option α}
    {discarded : Prop}
    [Decidable discarded]
    (hDiscarded : discarded → middle.isSome = true) :
    overlay unset
          (top.getD (if discarded then unset else bottom))
          (middle.getD unset) =
        prefer top middle bottom ↔
      Told unset top middle discarded bottom := by
  unfold overlay prefer Told
  cases top with
  | some upper =>
      cases middle with
      | none => simp [eq_comm]
      | some value =>
          by_cases hUnset : upper = unset
          · simp [hUnset]
          · simp [hUnset]
  | none =>
      cases middle with
      | none =>
          have hKept : ¬ discarded := by simpa using hDiscarded
          simp [hKept, eq_comm]
      | some value =>
          by_cases hKept : discarded
          · simp [hKept]
          · by_cases hUnset : bottom = unset
            · simp [hKept, hUnset]
            · simp [hKept, hUnset]

end Layers
