import Mathlib.Algebra.Order.Group.Int
import Mathlib.Algebra.Order.Monoid.Defs
import Mathlib.Tactic.Common

/-
  A lease on a resource that anyone may put off: it is
  granted for a fixed term when it has expired, and its end
  may be moved by parties that do not hold it. As long as
  they move it no nearer than a term from now, any two
  grants are a term apart.

  Main declarations:
    * `Lease`, `Lease.grant`, `Lease.postpone`
    * `Lease.Valid`
    * `Lease.Valid.wait`, `Lease.Valid.grant`,
      `Lease.Valid.postpone`
-/

/- The end of the lease, and the times of its grants. -/
structure Lease (T : Type) where
  expires : T
  grants : List T

namespace Lease

variable {T : Type} [AddCommMonoid T] [LinearOrder T]

/- Hold the resource for a term from now on. -/
def grant
    (lease : Lease T)
    (term now : T) : Lease T where
  expires := now + term
  grants := lease.grants ++ [now]

/- Let the lease end at another time. -/
def postpone
    (lease : Lease T)
    (expires : T) : Lease T :=
  { lease with expires := expires }

/- What was granted is over or still covered. -/
structure Valid
    (term clock : T)
    (lease : Lease T) : Prop where
  elapsed : ∀ t ∈ lease.grants, t ≤ clock
  covered : ∀ t ∈ lease.grants, t + term ≤ lease.expires
  spaced : lease.grants.Pairwise fun t u => t + term ≤ u

theorem valid_fresh
    (term clock expires : T) :
    Valid term clock ⟨expires, []⟩ where
  elapsed _ hMem := by cases hMem
  covered _ hMem := by cases hMem
  spaced := List.Pairwise.nil

namespace Valid

variable {term clock now expires : T} {lease : Lease T}

theorem wait
    (hValid : Valid term clock lease)
    (hLater : clock ≤ now) :
    Valid term now lease where
  elapsed t hMem := (hValid.elapsed t hMem).trans hLater
  covered := hValid.covered
  spaced := hValid.spaced

variable [IsOrderedAddMonoid T]

theorem grant
    (hValid : Valid term now lease)
    (hTerm : 0 ≤ term)
    (hExpired : lease.expires ≤ now) :
    Valid term now (lease.grant term now) := by
  have hOver :
      ∀ t ∈ lease.grants, t + term ≤ now :=
    fun t hMem => (hValid.covered t hMem).trans hExpired
  constructor
  · intro t hMem
    rcases List.mem_append.mp hMem with hOld | hNew
    · exact hValid.elapsed t hOld
    · exact (List.mem_singleton.mp hNew).le
  · intro t hMem
    rcases List.mem_append.mp hMem with hOld | hNew
    · exact (hOver t hOld).trans (le_add_of_nonneg_right hTerm)
    · rw [List.mem_singleton.mp hNew]
      exact le_rfl
  · refine List.pairwise_append.mpr
      ⟨hValid.spaced, List.pairwise_singleton _ _, ?_⟩
    intro t hMem u hNew
    rw [List.mem_singleton.mp hNew]
    exact hOver t hMem

/- Nobody has to hold the lease to put off its end. -/
theorem postpone
    (hValid : Valid term now lease)
    (hAhead : now + term ≤ expires) :
    Valid term now (lease.postpone expires) where
  elapsed := hValid.elapsed
  covered t hMem := by
    calc
      t + term ≤ now + term := by
        gcongr
        exact hValid.elapsed t hMem
      _ ≤ expires := hAhead
  spaced := hValid.spaced

end Valid

end Lease
