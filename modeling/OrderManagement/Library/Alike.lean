import OrderManagement.Library.Transaction

/-
  Two runs of a transaction that cannot be told apart: from
  states that are related, both end with the same value and
  in related states, or both with the same error. The rules
  follow the structure of a transaction, and only what it
  reads from the state has to be looked at.

  Main declarations:
    * `Transaction.EndsAlike` and `Transaction.Alike`
    * `EndsAlike.bind` and `EndsAlike.get_bind`
    * `Alike.forM`
-/

namespace Transaction

variable {σ ε α β : Type}

/- Both transactions commit the same value, or they abort
   with the same error. -/
inductive EndsAlike
    (R : σ → σ → Prop)
    (x : Transaction σ ε α)
    (s : σ)
    (y : Transaction σ ε α)
    (s' : σ) : Prop
| commits
    {a : α}
    {t t' : σ}
    (hFirst : Commits x s a t)
    (hSecond : Commits y s' a t')
    (hRelated : R t t')
| aborts
    {e : ε}
    (hFirst : Aborts x s e)
    (hSecond : Aborts y s' e)

/- A transaction ends alike from all related states. -/
def Alike
    (R : σ → σ → Prop)
    (x : Transaction σ ε α) : Prop :=
  ∀ s s', R s s' → EndsAlike R x s x s'

namespace EndsAlike

variable {Q R : σ → σ → Prop} {s s' : σ}

------------------------------------------------------------
-- Statements
------------------------------------------------------------

theorem pure
    (a : α)
    (hRelated : R s s') :
    EndsAlike R (pure a : Transaction σ ε α) s
      (pure a : Transaction σ ε α) s' :=
  .commits (commits_pure.mpr ⟨rfl, rfl⟩)
    (commits_pure.mpr ⟨rfl, rfl⟩) hRelated

theorem throw
    (e : ε) :
    EndsAlike R (throw e : Transaction σ ε α) s
      (throw e : Transaction σ ε α) s' :=
  .aborts (aborts_throw.mpr rfl) (aborts_throw.mpr rfl)

theorem write
    {t t' : σ}
    (hRelated : R t t') :
    EndsAlike R (set t : Transaction σ ε PUnit) s
      (set t' : Transaction σ ε PUnit) s' :=
  .commits (a := ⟨⟩) (commits_set.mpr rfl)
    (commits_set.mpr rfl) hRelated

------------------------------------------------------------
-- Composition
------------------------------------------------------------

theorem bind
    {x y : Transaction σ ε α}
    {f g : α → Transaction σ ε β}
    (hFirst : EndsAlike Q x s y s')
    (hSecond :
      ∀ a t t', Q t t' → EndsAlike R (f a) t (g a) t') :
    EndsAlike R (x >>= f) s (y >>= g) s' := by
  cases hFirst with
  | @commits a t t' hx hy hRelated =>
      cases hSecond a t t' hRelated with
      | commits hf hg hEnd =>
          exact .commits
            (commits_bind.mpr ⟨a, t, hx, hf⟩)
            (commits_bind.mpr ⟨a, t', hy, hg⟩) hEnd
      | aborts hf hg =>
          exact .aborts
            (aborts_bind.mpr (Or.inr ⟨a, t, hx, hf⟩))
            (aborts_bind.mpr (Or.inr ⟨a, t', hy, hg⟩))
  | aborts hx hy =>
      exact .aborts (aborts_bind.mpr (Or.inl hx))
        (aborts_bind.mpr (Or.inl hy))

/- What is read from the two states may differ. -/
theorem get_bind
    {f g : σ → Transaction σ ε β}
    (hRest : EndsAlike R (f s) s (g s') s') :
    EndsAlike R (get >>= f) s (get >>= g) s' := by
  have hRead :
      ∀ u : σ, Commits (get : Transaction σ ε σ) u u u :=
    fun u => commits_get.mpr ⟨rfl, rfl⟩
  cases hRest with
  | commits hf hg hEnd =>
      exact .commits (commits_bind.mpr ⟨s, s, hRead s, hf⟩)
        (commits_bind.mpr ⟨s', s', hRead s', hg⟩) hEnd
  | aborts hf hg =>
      exact .aborts
        (aborts_bind.mpr (Or.inr ⟨s, s, hRead s, hf⟩))
        (aborts_bind.mpr (Or.inr ⟨s', s', hRead s', hg⟩))

/- The state is replaced before the rest. -/
theorem set_bind
    {t t' : σ}
    {f g : PUnit → Transaction σ ε β}
    (hRest : EndsAlike R (f ⟨⟩) t (g ⟨⟩) t') :
    EndsAlike R (set t >>= f) s (set t' >>= g) s' := by
  have hWrite :
      ∀ u v : σ,
        Commits (set v : Transaction σ ε PUnit) u ⟨⟩ v :=
    fun u v => commits_set.mpr rfl
  cases hRest with
  | commits hf hg hEnd =>
      exact .commits
        (commits_bind.mpr ⟨⟨⟩, t, hWrite s t, hf⟩)
        (commits_bind.mpr ⟨⟨⟩, t', hWrite s' t', hg⟩) hEnd
  | aborts hf hg =>
      exact .aborts
        (aborts_bind.mpr (Or.inr ⟨⟨⟩, t, hWrite s t, hf⟩))
        (aborts_bind.mpr
          (Or.inr ⟨⟨⟩, t', hWrite s' t', hg⟩))

theorem fetch
    (o : Option α)
    (e : ε)
    (hRelated : R s s') :
    EndsAlike R (Transaction.fetch o e) s
      (Transaction.fetch o e) s' := by
  cases o with
  | none => exact throw e
  | some a => exact pure a hRelated

/- Both options have a value, not necessarily the same. -/
theorem fetch_bind
    {a b : α}
    {e : ε}
    {f g : α → Transaction σ ε β}
    (hRest : EndsAlike R (f a) s (g b) s') :
    EndsAlike R (Transaction.fetch (some a) e >>= f) s
      (Transaction.fetch (some b) e >>= g) s' := by
  unfold Transaction.fetch
  rw [pure_bind, pure_bind]
  exact hRest

/- The same option is fetched, and what follows ends alike
   for its value. -/
theorem fetch_bind_same
    {o : Option α}
    {e : ε}
    {f g : α → Transaction σ ε β}
    (hRest : ∀ a, o = some a → EndsAlike R (f a) s (g a) s') :
    EndsAlike R (Transaction.fetch o e >>= f) s
      (Transaction.fetch o e >>= g) s' := by
  cases o with
  | none =>
      exact .bind (Q := fun _ _ => False) (throw _)
        fun _ _ _ hNever => hNever.elim
  | some a => exact fetch_bind (hRest a rfl)

/- A condition that holds in both states or in none. -/
theorem ensure
    {p q : Prop}
    [Decidable p]
    [Decidable q]
    (e : ε)
    (hSame : p ↔ q)
    (hRelated : R s s') :
    EndsAlike R (Transaction.ensure p e) s
      (Transaction.ensure q e) s' := by
  unfold Transaction.ensure
  by_cases h : p
  · rw [if_pos h, if_pos (hSame.mp h)]
    exact pure () hRelated
  · rw [if_neg h, if_neg fun hq => h (hSame.mpr hq)]
    exact throw e

theorem check
    (p : Prop)
    [Decidable p]
    (e : ε)
    (hRelated : R s s') :
    EndsAlike R (Transaction.check p e) s
      (Transaction.check p e) s' := by
  by_cases h : p
  · rw [Transaction.check_pos e h]
    exact pure _ hRelated
  · rw [Transaction.check_neg e h]
    exact throw e

theorem onError
    {translate : ε → ε}
    {x y : Transaction σ ε α}
    (hBody : EndsAlike R x s y s') :
    EndsAlike R (Transaction.onError translate x) s
      (Transaction.onError translate y) s' := by
  cases hBody with
  | commits hx hy hRelated =>
      exact .commits (commits_onError.mpr hx)
        (commits_onError.mpr hy) hRelated
  | @aborts e hx hy =>
      exact .aborts (e := translate e)
        (aborts_onError.mpr ⟨e, hx, rfl⟩)
        (aborts_onError.mpr ⟨e, hy, rfl⟩)

end EndsAlike

/- A loop over the same list, each of whose rounds ends
   alike. -/
theorem Alike.forM
    {R : σ → σ → Prop}
    {items : List α}
    {body : α → Transaction σ ε PUnit}
    (hBody : ∀ a ∈ items, Alike R (body a)) :
    Alike R (forM items body) := by
  intro s s' hRelated
  induction items generalizing s s' with
  | nil =>
      rw [List.forM_nil]
      exact .pure _ hRelated
  | cons a items ih =>
      rw [List.forM_cons]
      refine (hBody a (List.mem_cons_self ..) s s'
        hRelated).bind ?_
      intro _ t t' hNext
      exact ih (fun b hMem =>
        hBody b (List.mem_cons_of_mem a hMem)) t t' hNext

end Transaction
