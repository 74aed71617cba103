import OrderManagement.Library.Transaction
import Mathlib.Order.Defs.Unbundled

/-
  What a transaction guarantees: a preorder between the
  state it starts from and any state it commits, and a set
  that its errors are from. The rules follow the structure
  of a transaction, so that only its writing and its failing
  statements have to be looked at.

  Main declarations:
    * `Transaction.Guarantees`, with `Guarantees.bind` and
      `Guarantees.forM`
    * `Transaction.Raises`, with `Raises.bind` and
      `Raises.forM`
-/

namespace Transaction

variable {σ ε α β : Type}

/- Every commit of the transaction is related by `R`. -/
def Guarantees
    (R : σ → σ → Prop)
    (x : Transaction σ ε α) : Prop :=
  ∀ s a t, Commits x s a t → R s t

namespace Guarantees

variable {R : σ → σ → Prop} [IsPreorder σ R]

------------------------------------------------------------
-- Statements That Write Nothing
------------------------------------------------------------

theorem pure
    (a : α) :
    Guarantees R (pure a : Transaction σ ε α) := by
  intro s b t hCommit
  rw [(commits_pure.mp hCommit).2]
  exact refl_of R t

theorem get :
    Guarantees R (get : Transaction σ ε σ) := by
  intro s a t hCommit
  rw [(commits_get.mp hCommit).2]
  exact refl_of R t

omit [IsPreorder σ R] in
theorem throw
    (e : ε) :
    Guarantees R (throw e : Transaction σ ε α) := by
  intro s a t hCommit
  exact (commits_throw.mp hCommit).elim

theorem fetch
    (o : Option α)
    (e : ε) :
    Guarantees R
      (Transaction.fetch o e : Transaction σ ε α) := by
  intro s a t hCommit
  rw [(commits_fetch.mp hCommit).2]
  exact refl_of R t

theorem ensure
    (p : Prop)
    [Decidable p]
    (e : ε) :
    Guarantees R
      (Transaction.ensure p e : Transaction σ ε Unit) := by
  intro s a t hCommit
  rw [(commits_ensure.mp hCommit).2]
  exact refl_of R t

theorem check
    (p : Prop)
    [Decidable p]
    (e : ε) :
    Guarantees R
      (Transaction.check p e :
        Transaction σ ε (PLift p)) := by
  intro s a t hCommit
  rw [commits_check.mp hCommit]
  exact refl_of R t

------------------------------------------------------------
-- Composition
------------------------------------------------------------

/- The second part may rely on what the first one commits. -/
theorem bind
    {x : Transaction σ ε α}
    {f : α → Transaction σ ε β}
    (hFirst : Guarantees R x)
    (hSecond :
      ∀ s a t, Commits x s a t → Guarantees R (f a)) :
    Guarantees R (x >>= f) := by
  intro s b u hCommit
  rcases commits_bind.mp hCommit with ⟨a, t, hx, hf⟩
  exact trans_of R (hFirst s a t hx)
    (hSecond s a t hx t b u hf)

omit [IsPreorder σ R] in
theorem onError
    {translate : ε → ε}
    {x : Transaction σ ε α}
    (hBody : Guarantees R x) :
    Guarantees R (Transaction.onError translate x) :=
  fun s a t hCommit =>
    hBody s a t (commits_onError.mp hCommit)

omit [IsPreorder σ R] in
theorem ite
    {p : Prop}
    [Decidable p]
    {x y : Transaction σ ε α}
    (hThen : p → Guarantees R x)
    (hElse : ¬ p → Guarantees R y) :
    Guarantees R (if p then x else y) := by
  by_cases h : p
  · rw [if_pos h]
    exact hThen h
  · rw [if_neg h]
    exact hElse h

/- A loop guarantees what each of its rounds does. -/
theorem forM
    {items : List α}
    {body : α → Transaction σ ε PUnit}
    (hBody : ∀ a ∈ items, Guarantees R (body a)) :
    Guarantees R (forM items body) := by
  induction items with
  | nil =>
      rw [List.forM_nil]
      exact pure _
  | cons a items ih =>
      rw [List.forM_cons]
      apply bind (hBody a (List.mem_cons_self ..))
      intro _ _ _ _
      exact ih fun b hb => hBody b (List.mem_cons_of_mem a hb)

end Guarantees

------------------------------------------------------------
-- Errors
------------------------------------------------------------

/- Every error of the transaction is one of these. -/
def Raises
    (errors : ε → Prop)
    (x : Transaction σ ε α) : Prop :=
  ∀ s e, Aborts x s e → errors e

namespace Raises

variable {errors : ε → Prop}

theorem pure
    (a : α) :
    Raises errors (pure a : Transaction σ ε α) := by
  intro s e hAbort
  cases hAbort

theorem get :
    Raises errors (get : Transaction σ ε σ) := by
  intro s e hAbort
  cases hAbort

theorem set
    (s : σ) :
    Raises errors (set s : Transaction σ ε PUnit) := by
  intro t e hAbort
  cases hAbort

theorem throw
    {e : ε}
    (hError : errors e) :
    Raises errors (throw e : Transaction σ ε α) := by
  intro s e' hAbort
  rw [← aborts_throw.mp hAbort]
  exact hError

theorem fetch
    (o : Option α)
    {e : ε}
    (hError : errors e) :
    Raises errors
      (Transaction.fetch o e : Transaction σ ε α) := by
  unfold Transaction.fetch
  cases o with
  | none => exact throw hError
  | some a => exact pure a

theorem ensure
    (p : Prop)
    [Decidable p]
    {e : ε}
    (hError : errors e) :
    Raises errors
      (Transaction.ensure p e : Transaction σ ε Unit) := by
  unfold Transaction.ensure
  split
  · exact pure ()
  · exact throw hError

theorem check
    (p : Prop)
    [Decidable p]
    {e : ε}
    (hError : errors e) :
    Raises errors
      (Transaction.check p e :
        Transaction σ ε (PLift p)) := by
  by_cases h : p
  · rw [Transaction.check_pos e h]
    exact pure _
  · rw [Transaction.check_neg e h]
    exact throw hError

theorem bind
    {x : Transaction σ ε α}
    {f : α → Transaction σ ε β}
    (hFirst : Raises errors x)
    (hSecond : ∀ a, Raises errors (f a)) :
    Raises errors (x >>= f) := by
  intro s e hAbort
  rcases aborts_bind.mp hAbort with hx | ⟨a, t, _, hf⟩
  · exact hFirst s e hx
  · exact hSecond a t e hf

/- Renaming turns the errors into those under new names. -/
theorem onError
    {errors' : ε → Prop}
    {translate : ε → ε}
    {x : Transaction σ ε α}
    (hBody : Raises errors x)
    (hNames : ∀ e, errors e → errors' (translate e)) :
    Raises errors' (Transaction.onError translate x) := by
  intro s e hAbort
  rcases aborts_onError.mp hAbort with ⟨e', hError, rfl⟩
  exact hNames e' (hBody s e' hError)

theorem forM
    {items : List α}
    {body : α → Transaction σ ε PUnit}
    (hBody : ∀ a ∈ items, Raises errors (body a)) :
    Raises errors (forM items body) := by
  induction items with
  | nil =>
      rw [List.forM_nil]
      exact pure _
  | cons a items ih =>
      rw [List.forM_cons]
      apply bind (hBody a (List.mem_cons_self ..))
      intro _
      exact ih fun b hb => hBody b (List.mem_cons_of_mem a hb)

end Raises

end Transaction
