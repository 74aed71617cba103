import OrderManagement.Library.Transition
import Mathlib.Data.Multiset.AddSub
import Mathlib.Logic.Function.Basic

/-
  The cache-aside protocol. A reader that misses fetches a
  value from the store and fills the cache with it later; a
  writer changes the store and deletes the entry later. In
  between, any other step may be taken. What is asked of the
  steps is asked for one key; other keys may go wrong.

  Main declarations:
    * `CacheAside.State`, `CacheAside.Event`,
      `CacheAside.Step`
    * `CacheAside.Admitted` and `CacheAside.AdmittedStep`
    * `CacheAside.Covered` with `CacheAside.Covered.step`
    * `CacheAside.Covered.coherent`
-/

namespace CacheAside

variable {κ ν : Type} [DecidableEq κ]

/- The values that readers have fetched and not yet written
   to the cache, and the entries that writers will delete. -/
@[ext]
structure State (κ ν : Type) where
  store : κ → ν
  cache : κ → Option ν
  fills : Multiset (κ × ν)
  deletes : Multiset κ

inductive Event (κ ν : Type)
| fetch (k : κ)
| fill (k : κ) (v : ν)
| skip (k : κ) (v : ν)
| write (k : κ) (v : ν)
| delete (k : κ)
| insert (k : κ) (v : ν)
| expire

/- A write announces a deletion, an insertion does not. Any
   entries may expire at any time. -/
inductive Step : State κ ν → Event κ ν → State κ ν → Prop
| fetch
    (s : State κ ν)
    (k : κ) :
    Step s (.fetch k)
      { s with fills := (k, s.store k) ::ₘ s.fills }
| fill
    {s : State κ ν}
    {k : κ}
    {v : ν}
    {rest : Multiset (κ × ν)}
    (hFills : s.fills = (k, v) ::ₘ rest) :
    Step s (.fill k v)
      { s with
        cache := Function.update s.cache k (some v)
        fills := rest }
| skip
    {s : State κ ν}
    {k : κ}
    {v : ν}
    {rest : Multiset (κ × ν)}
    (hFills : s.fills = (k, v) ::ₘ rest) :
    Step s (.skip k v) { s with fills := rest }
| write
    (s : State κ ν)
    (k : κ)
    (v : ν) :
    Step s (.write k v)
      { s with
        store := Function.update s.store k v
        deletes := k ::ₘ s.deletes }
| delete
    {s : State κ ν}
    {k : κ}
    {rest : Multiset κ}
    (hDeletes : s.deletes = k ::ₘ rest) :
    Step s (.delete k)
      { s with
        cache := Function.update s.cache k none
        deletes := rest }
| insert
    (s : State κ ν)
    (k : κ)
    (v : ν) :
    Step s (.insert k v)
      { s with store := Function.update s.store k v }
| expire
    {s : State κ ν}
    {cache : κ → Option ν}
    (hLess : ∀ k v, cache k = some v → s.cache k = some v) :
    Step s .expire { s with cache := cache }

/-
  The steps that do a key no harm: what a reader fills in
  under it is still the value of the store, or will be
  deleted, and what is inserted under it has no entry.
-/
def Admitted
    (k : κ)
    (s : State κ ν) : Event κ ν → Prop
| .fill k' v => k' = k → v = s.store k ∨ k ∈ s.deletes
| .insert k' _ => k' = k → s.cache k = none
| .fetch _ | .skip .. | .write .. | .delete _ | .expire =>
    True

def AdmittedStep
    (k : κ)
    (s : State κ ν)
    (l : Event κ ν)
    (t : State κ ν) : Prop :=
  Step s l t ∧ Admitted k s l

/- The entry is that of the store, or will be deleted. -/
def Covered
    (k : κ)
    (s : State κ ν) : Prop :=
  ∀ v, s.cache k = some v → v = s.store k ∨ k ∈ s.deletes

/- The entry agrees with the store. -/
def Coherent
    (k : κ)
    (s : State κ ν) : Prop :=
  ∀ v, s.cache k = some v → v = s.store k

namespace Covered

variable {k : κ}

omit [DecidableEq κ] in
theorem coherent
    {s : State κ ν}
    (hCovered : Covered k s)
    (hIdle : k ∉ s.deletes) :
    Coherent k s := by
  intro v hEntry
  exact (hCovered v hEntry).resolve_right hIdle

theorem step
    {s t : State κ ν}
    {l : Event κ ν}
    (hCovered : Covered k s)
    (hStep : Step s l t)
    (hAdmitted : Admitted k s l) :
    Covered k t := by
  intro v hEntry
  cases hStep with
  | fetch | skip => exact hCovered v hEntry
  | @fill k' v' rest hFills =>
      dsimp only at hEntry
      by_cases hKey : k' = k
      · subst hKey
        rw [Function.update_self] at hEntry
        cases hEntry
        exact hAdmitted rfl
      · rw [Function.update_of_ne (Ne.symm hKey)] at hEntry
        exact hCovered v hEntry
  | write k' v' =>
      by_cases hKey : k = k'
      · exact Or.inr (hKey ▸ Multiset.mem_cons_self k' _)
      · rcases hCovered v hEntry with hSame | hPending
        · left
          rw [hSame]
          exact (Function.update_of_ne hKey _ _).symm
        · exact Or.inr (Multiset.mem_cons_of_mem hPending)
  | @delete k' rest hDeletes =>
      dsimp only at hEntry
      by_cases hKey : k = k'
      · subst hKey
        rw [Function.update_self] at hEntry
        cases hEntry
      · rw [Function.update_of_ne hKey] at hEntry
        rcases hCovered v hEntry with hSame | hPending
        · exact Or.inl hSame
        · rw [hDeletes] at hPending
          exact Or.inr
            ((Multiset.mem_cons.mp hPending).resolve_left hKey)
  | insert k' v' =>
      have hKey : k' ≠ k := by
        intro hSame
        rw [show s.cache k = none from hAdmitted hSame]
          at hEntry
        cases hEntry
      rcases hCovered v hEntry with hSame | hPending
      · left
        rw [hSame]
        exact (Function.update_of_ne (Ne.symm hKey) _ _).symm
      · exact Or.inr hPending
  | expire hLess => exact hCovered v (hLess k v hEntry)

theorem run
    {s t : State κ ν}
    {ls : List (Event κ ν)}
    (hCovered : Covered k s)
    (hRun : Transition.Run (AdmittedStep k) s ls t) :
    Covered k t :=
  hRun.invariant
    (fun _ _ _ hCovered hStep =>
      hCovered.step hStep.1 hStep.2)
    hCovered

end Covered

end CacheAside
