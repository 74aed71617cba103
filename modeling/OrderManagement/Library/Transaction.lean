import Mathlib.Tactic.Common

/-
  Transactions over a store: a computation that reads and
  writes a state and either commits with a value or aborts
  with an error. An aborted transaction has no final state,
  so nothing of it can be seen afterwards.

  Main declarations:
    * `Transaction`, `Commits`, `Aborts`
    * `Transaction.fetch`, `Transaction.ensure`,
      `Transaction.check`, `Transaction.onError`
    * `Transaction.commits_bind`
    * `Transaction.Commits.forM_induction`
-/

/- A state-passing computation whose errors roll back. -/
abbrev Transaction (σ ε α : Type) :=
  StateT σ (Except ε) α

namespace Transaction

variable {σ ε α β : Type}

/- The transaction ends well, with this value and state. -/
def Commits
    (x : Transaction σ ε α)
    (s : σ)
    (a : α)
    (t : σ) : Prop :=
  x.run s = .ok (a, t)

/- The transaction is rolled back with this error. -/
def Aborts
    (x : Transaction σ ε α)
    (s : σ)
    (e : ε) : Prop :=
  x.run s = .error e

/- The value of an option, or an error when there is none. -/
def fetch
    (o : Option α)
    (e : ε) : Transaction σ ε α :=
  match o with
  | some a => pure a
  | none => throw e

/- Go on only if a condition holds. -/
def ensure
    (p : Prop)
    [Decidable p]
    (e : ε) : Transaction σ ε Unit :=
  if p then pure () else throw e

/- Go on with a proof of a condition, if it holds. -/
def check
    (p : Prop)
    [Decidable p]
    (e : ε) : Transaction σ ε (PLift p) :=
  if h : p then pure ⟨h⟩ else throw e

theorem check_pos
    {p : Prop}
    [Decidable p]
    (e : ε)
    (hHolds : p) :
    (check p e : Transaction σ ε (PLift p)) =
      pure ⟨hHolds⟩ :=
  dif_pos hHolds

theorem check_neg
    {p : Prop}
    [Decidable p]
    (e : ε)
    (hFails : ¬ p) :
    (check p e : Transaction σ ε (PLift p)) = throw e :=
  dif_neg hFails

theorem check_bind_pos
    {p : Prop}
    [Decidable p]
    (e : ε)
    (f : PLift p → Transaction σ ε α)
    (hHolds : p) :
    check p e >>= f = f ⟨hHolds⟩ := by
  rw [check_pos e hHolds, pure_bind]

theorem check_bind_neg
    {p : Prop}
    [Decidable p]
    (e : ε)
    (f : PLift p → Transaction σ ε α)
    (hFails : ¬ p) :
    check p e >>= f = throw e := by
  rw [check_neg e hFails]
  rfl

/- Report the errors of a transaction under other names. -/
def onError
    (translate : ε → ε)
    (x : Transaction σ ε α) : Transaction σ ε α :=
  fun s =>
    match x.run s with
    | .ok r => .ok r
    | .error e => .error (translate e)

------------------------------------------------------------
-- Commits
------------------------------------------------------------

@[simp] theorem commits_pure
    {a b : α}
    {s t : σ} :
    Commits (pure a : Transaction σ ε α) s b t ↔
      a = b ∧ s = t := by
  change (Except.ok (a, s) : Except ε (α × σ)) = .ok (b, t) ↔ _
  rw [Except.ok.injEq, Prod.mk.injEq]

/- A sequence commits when both of its parts do. -/
@[simp] theorem commits_bind
    {x : Transaction σ ε α}
    {f : α → Transaction σ ε β}
    {s u : σ}
    {b : β} :
    Commits (x >>= f) s b u ↔
      ∃ a t, Commits x s a t ∧ Commits (f a) t b u := by
  unfold Commits
  rw [StateT.run_bind]
  cases hRun : x.run s with
  | error e => simp [bind, Except.bind]
  | ok r =>
      cases r
      simp [bind, Except.bind]

@[simp] theorem commits_get
    {s t a : σ} :
    Commits (get : Transaction σ ε σ) s a t ↔
      s = a ∧ s = t := by
  simp [Commits, get, getThe, MonadStateOf.get, StateT.get,
    StateT.run, pure, Except.pure]

@[simp] theorem commits_set
    {s t u : σ}
    {a : PUnit} :
    Commits (set u : Transaction σ ε PUnit) s a t ↔
      u = t := by
  change
    (Except.ok (PUnit.unit, u) : Except ε (PUnit × σ)) =
      .ok (a, t) ↔ _
  rw [Except.ok.injEq, Prod.mk.injEq]
  exact and_iff_right rfl

@[simp] theorem commits_throw
    {e : ε}
    {s t : σ}
    {a : α} :
    Commits (throw e : Transaction σ ε α) s a t ↔ False := by
  simp [Commits, throw, throwThe, MonadExceptOf.throw,
    StateT.lift, StateT.run, bind, Except.bind]

@[simp] theorem commits_fetch
    {o : Option α}
    {e : ε}
    {s t : σ}
    {a : α} :
    Commits (fetch o e : Transaction σ ε α) s a t ↔
      o = some a ∧ s = t := by
  cases o with
  | none => simp [fetch]
  | some b => simp [fetch]

@[simp] theorem commits_ensure
    {p : Prop}
    [Decidable p]
    {e : ε}
    {s t : σ}
    {a : Unit} :
    Commits (ensure p e : Transaction σ ε Unit) s a t ↔
      p ∧ s = t := by
  unfold ensure
  split
  case isTrue h => simp [h]
  case isFalse h => simp [h]

/- A check that commits has its proof as the value. -/
@[simp] theorem commits_check
    {p : Prop}
    [Decidable p]
    {e : ε}
    {s t : σ}
    {a : PLift p} :
    Commits (check p e : Transaction σ ε (PLift p)) s a t ↔
      s = t := by
  rw [check_pos e a.down, commits_pure]
  exact and_iff_right rfl

theorem run_onError
    (translate : ε → ε)
    (x : Transaction σ ε α)
    (s : σ) :
    (onError translate x).run s =
      (x.run s).mapError translate := by
  unfold onError
  change
    (match x.run s with
      | .ok r => Except.ok r
      | .error e => .error (translate e)) = _
  cases x.run s with
  | ok r => rfl
  | error e => rfl

/- Renaming errors does not touch what commits. -/
@[simp] theorem commits_onError
    {translate : ε → ε}
    {x : Transaction σ ε α}
    {s t : σ}
    {a : α} :
    Commits (onError translate x) s a t ↔
      Commits x s a t := by
  unfold Commits
  rw [run_onError]
  cases x.run s with
  | ok r => simp [Except.mapError]
  | error e => simp [Except.mapError]

/- A transaction commits in at most one way. -/
theorem Commits.unique
    {x : Transaction σ ε α}
    {s t t' : σ}
    {a a' : α}
    (hFirst : Commits x s a t)
    (hSecond : Commits x s a' t') :
    a = a' ∧ t = t' := by
  unfold Commits at hFirst hSecond
  rw [hFirst] at hSecond
  cases hSecond
  exact ⟨rfl, rfl⟩

------------------------------------------------------------
-- Loops
------------------------------------------------------------

/-
  The rule for a loop over a list: a relation that holds of
  the empty loop and is extended by one committed round
  holds of every committed loop.
-/
theorem Commits.forM_induction
    {R : List α → σ → σ → Prop}
    {body : α → Transaction σ ε PUnit}
    (hNil : ∀ s, R [] s s)
    (hCons :
      ∀ a rest s t u,
        Commits (body a) s ⟨⟩ t → R rest t u →
        R (a :: rest) s u)
    {items : List α}
    {s t : σ}
    {r : PUnit}
    (hLoop : Commits (forM items body) s r t) :
    R items s t := by
  induction items generalizing s with
  | nil =>
      rw [List.forM_nil, commits_pure] at hLoop
      rw [← hLoop.2]
      exact hNil s
  | cons item rest ih =>
      rw [List.forM_cons, commits_bind] at hLoop
      rcases hLoop with ⟨⟨⟩, mid, hBody, hRest⟩
      exact hCons item rest s mid t hBody (ih hRest)

------------------------------------------------------------
-- Aborts
------------------------------------------------------------

@[simp] theorem aborts_throw
    {e e' : ε}
    {s : σ} :
    Aborts (throw e : Transaction σ ε α) s e' ↔
      e = e' := by
  simp [Aborts, throw, throwThe, MonadExceptOf.throw,
    StateT.lift, StateT.run, bind, Except.bind]

/- A condition that fails is the error of its name. -/
theorem aborts_ensure
    {p : Prop}
    [Decidable p]
    {e : ε}
    {s : σ}
    (hFails : ¬ p) :
    Aborts (ensure p e : Transaction σ ε Unit) s e := by
  unfold ensure
  rw [if_neg hFails]
  exact aborts_throw.mpr rfl

/- Renamed errors come from errors of the transaction. -/
theorem aborts_onError
    {translate : ε → ε}
    {x : Transaction σ ε α}
    {s : σ}
    {e : ε} :
    Aborts (onError translate x) s e ↔
      ∃ e', Aborts x s e' ∧ translate e' = e := by
  unfold Aborts
  rw [run_onError]
  cases x.run s with
  | ok r => simp [Except.mapError]
  | error e => simp [Except.mapError]

/- A sequence aborts in its first part or in its second. -/
theorem aborts_bind
    {x : Transaction σ ε α}
    {f : α → Transaction σ ε β}
    {s : σ}
    {e : ε} :
    Aborts (x >>= f) s e ↔
      Aborts x s e ∨
        ∃ a t, Commits x s a t ∧ Aborts (f a) t e := by
  unfold Commits Aborts
  rw [StateT.run_bind]
  cases hRun : x.run s with
  | error e' => simp [bind, Except.bind]
  | ok r =>
      cases r
      simp [bind, Except.bind]

end Transaction
