import Mathlib.Data.List.Nodup
import Mathlib.Algebra.BigOperators.Group.List.Basic
import Mathlib.Algebra.Order.BigOperators.Group.List
import Mathlib.Algebra.Order.Ring.Int
import Mathlib.Tactic.Common

/-
  Tables with a unique key, as a relational store keeps
  them: a list of rows in insertion order, no two of which
  carry the same key.

  Main declarations:
    * `Keyed` and `Table`
    * `Table.find?`, `Table.insert?`, `Table.update`,
      `Table.erase`, `Table.put`
    * `Table.find?_eq_some_iff`
    * `Table.find?_of_insert?`, `Table.find?_update`
    * `Table.total_of_insert?`, `Table.total_update`,
      `Table.total_erase`
-/

------------------------------------------------------------
-- Keyed Rows
------------------------------------------------------------

/- Rows of type `ν` are identified by a key of type `κ`. -/
class Keyed (ν : Type) (κ : outParam Type) where
  key : ν → κ

/-
  A table is a list of rows whose keys are distinct, so a
  table that breaks its unique index cannot be built.
-/
structure Table (ν : Type) {κ : Type} [Keyed ν κ] where
  rows : List ν
  nodup : (rows.map Keyed.key).Nodup
deriving DecidableEq

namespace Table

variable {ν κ : Type} [Keyed ν κ]

/- The table without rows. -/
def empty : Table ν where
  rows := []
  nodup := List.nodup_nil

/- Two tables with the same rows are equal. -/
theorem ext
    {t u : Table ν}
    (hRows : t.rows = u.rows) :
    t = u := by
  cases t
  cases u
  cases hRows
  rfl

variable [DecidableEq κ]

/- The row stored under a key. -/
def find?
    (t : Table ν)
    (k : κ) : Option ν :=
  t.rows.find? (fun r => Keyed.key r = k)

/- Store a new row, unless its key is already taken. -/
def insert?
    (t : Table ν)
    (r : ν) : Option (Table ν) :=
  if hTaken : Keyed.key r ∈ t.rows.map Keyed.key then
    none
  else
    some
      { rows := t.rows ++ [r]
        nodup := by
          simpa [List.nodup_append, t.nodup] using hTaken }

/-
  Overwrite the row that carries the key of `r`. A table
  that does not hold the key stays as it is.
-/
def update
    (t : Table ν)
    (r : ν) : Table ν where
  rows := t.rows.map fun s =>
    if Keyed.key s = Keyed.key r then r else s
  nodup := by
    rw [List.map_map]
    convert t.nodup using 2
    funext s
    by_cases hKey : Keyed.key s = Keyed.key r
    · simp [hKey]
    · simp [hKey]

/- Drop the row with a key, if there is one. -/
def erase
    (t : Table ν)
    (k : κ) : Table ν where
  rows := t.rows.filter fun r => Keyed.key r ≠ k
  nodup := t.nodup.sublist (List.filter_sublist.map _)

/- Store a row, in place of any row with the same key. -/
def put
    (t : Table ν)
    (r : ν) : Table ν where
  rows := (t.erase (Keyed.key r)).rows ++ [r]
  nodup := by
    rw [List.map_append, List.nodup_append]
    refine ⟨(t.erase (Keyed.key r)).nodup, by simp, ?_⟩
    intro k hKey k' hNew
    rcases List.mem_map.mp hKey with ⟨s, hKept, rfl⟩
    rcases List.mem_map.mp hNew with ⟨s', hHere, rfl⟩
    rw [List.mem_singleton.mp hHere]
    simpa using (List.mem_filter.mp hKept).2

/- Rewrite all rows by a function that keeps their keys. -/
def map
    (t : Table ν)
    (f : ν → ν)
    (hKey : ∀ r, Keyed.key (f r) = Keyed.key r) :
    Table ν where
  rows := t.rows.map f
  nodup := by
    rw [List.map_map]
    convert t.nodup using 2
    funext r
    exact hKey r

/- The sum of a measure over all rows. -/
def total
    (t : Table ν)
    (measure : ν → Int) : Int :=
  (t.rows.map measure).sum

------------------------------------------------------------
-- Lookups
------------------------------------------------------------

@[simp] theorem find?_empty
    (k : κ) :
    (empty : Table ν).find? k = none := rfl

/- A lookup returns exactly the stored row with that key. -/
theorem find?_eq_some_iff
    {t : Table ν}
    {k : κ}
    {r : ν} :
    t.find? k = some r ↔
      r ∈ t.rows ∧ Keyed.key r = k := by
  unfold find?
  constructor
  · intro hFind
    exact ⟨List.mem_of_find?_eq_some hFind,
      by simpa using List.find?_some hFind⟩
  · rintro ⟨hMem, rfl⟩
    cases hFind :
        t.rows.find? (fun s => Keyed.key s = Keyed.key r) with
    | none =>
        have hAbsent := List.find?_eq_none.mp hFind r hMem
        simp at hAbsent
    | some s =>
        have hStored := List.mem_of_find?_eq_some hFind
        have hKey : Keyed.key s = Keyed.key r := by
          simpa using List.find?_some hFind
        rw [List.inj_on_of_nodup_map t.nodup hStored
          hMem hKey]

/- A lookup that returns a row returns one with the key. -/
theorem key_of_find?
    {t : Table ν}
    {k : κ}
    {r : ν}
    (hFind : t.find? k = some r) :
    Keyed.key r = k :=
  (find?_eq_some_iff.mp hFind).2

/- A row that a lookup returns is stored. -/
theorem mem_of_find?
    {t : Table ν}
    {k : κ}
    {r : ν}
    (hFind : t.find? k = some r) :
    r ∈ t.rows :=
  (find?_eq_some_iff.mp hFind).1

/- A stored row is found under its own key. -/
theorem find?_key_of_mem
    {t : Table ν}
    {r : ν}
    (hMem : r ∈ t.rows) :
    t.find? (Keyed.key r) = some r :=
  find?_eq_some_iff.mpr ⟨hMem, rfl⟩

omit [DecidableEq κ] in
/- A key belongs to one stored row. -/
theorem eq_of_key_eq
    {t : Table ν}
    {r s : ν}
    (hMem : r ∈ t.rows)
    (hMem' : s ∈ t.rows)
    (hKey : Keyed.key r = Keyed.key s) :
    r = s :=
  List.inj_on_of_nodup_map t.nodup hMem hMem' hKey

omit [DecidableEq κ] in
/- Rows in the order of a table are the ones that a test
   picks, if it picks these. -/
theorem filter_eq_of_sublist
    {t : Table ν}
    {rows : List ν}
    {test : ν → Bool}
    (hSublist : rows.Sublist t.rows)
    (hTest : ∀ r ∈ t.rows, test r = true ↔ r ∈ rows) :
    t.rows.filter test = rows := by
  have hKept : rows.filter test = rows :=
    List.filter_eq_self.mpr fun r hMem =>
      (hTest r (hSublist.subset hMem)).mpr hMem
  have hInto : rows.Sublist (t.rows.filter test) :=
    hKept ▸ hSublist.filter test
  have hNodup : (t.rows.filter test).Nodup :=
    (List.Nodup.of_map _ t.nodup).filter test
  refine (hInto.eq_of_length_le ?_).symm
  refine (List.subperm_of_subset hNodup ?_).length_le
  intro r hMem
  rcases List.mem_filter.mp hMem with ⟨hStored, hPicked⟩
  exact (hTest r hStored).mp hPicked

/- A lookup fails exactly when no stored row has the key. -/
theorem find?_eq_none_iff
    {t : Table ν}
    {k : κ} :
    t.find? k = none ↔
      k ∉ t.rows.map Keyed.key := by
  simp [find?, List.find?_eq_none]

------------------------------------------------------------
-- Insertion
------------------------------------------------------------

/- An insertion succeeds exactly on a free key. -/
theorem insert?_eq_some_iff
    {t u : Table ν}
    {r : ν} :
    t.insert? r = some u ↔
      t.find? (Keyed.key r) = none ∧
        u.rows = t.rows ++ [r] := by
  rw [find?_eq_none_iff]
  unfold insert?
  split
  case isTrue hTaken =>
    simp [hTaken]
  case isFalse hFree =>
    constructor
    · intro hSome
      cases hSome
      exact ⟨hFree, rfl⟩
    · rintro ⟨_, hRows⟩
      exact congrArg some (ext hRows.symm)

theorem exists_insert?
    {t : Table ν}
    {r : ν}
    (hFree : t.find? (Keyed.key r) = none) :
    ∃ u, t.insert? r = some u := by
  rw [find?_eq_none_iff] at hFree
  unfold insert?
  rw [dif_neg hFree]
  exact ⟨_, rfl⟩

/- An insertion fails exactly on a taken key. -/
theorem insert?_eq_none_iff
    {t : Table ν}
    {r : ν} :
    t.insert? r = none ↔
      (t.find? (Keyed.key r)).isSome := by
  rw [← Option.ne_none_iff_isSome, Ne, find?_eq_none_iff]
  unfold insert?
  split
  case isTrue hTaken => simpa using hTaken
  case isFalse hFree => simpa using hFree

/- After an insertion only the new key answers anew. -/
theorem find?_of_insert?
    {t u : Table ν}
    {r : ν}
    (hInsert : t.insert? r = some u)
    (k : κ) :
    u.find? k =
      if Keyed.key r = k then some r else t.find? k := by
  rcases insert?_eq_some_iff.mp hInsert with
    ⟨hFree, hRows⟩
  unfold find?
  rw [hRows, List.find?_append]
  by_cases hKey : Keyed.key r = k
  · subst hKey
    have hNone :
        t.rows.find?
          (fun s => Keyed.key s = Keyed.key r) = none :=
      hFree
    simp [hNone]
  · simp [hKey]

/- An insertion keeps every row that was there. -/
theorem find?_mono_of_insert?
    {t u : Table ν}
    {r s : ν}
    {k : κ}
    (hInsert : t.insert? r = some u)
    (hFind : t.find? k = some s) :
    u.find? k = some s := by
  rw [find?_of_insert? hInsert]
  split
  case isTrue hKey =>
    have hFree := (insert?_eq_some_iff.mp hInsert).1
    rw [hKey, hFind] at hFree
    cases hFree
  case isFalse => exact hFind

/- An insertion adds the measure of the new row. -/
theorem total_of_insert?
    {t u : Table ν}
    {r : ν}
    (hInsert : t.insert? r = some u)
    (measure : ν → Int) :
    u.total measure = t.total measure + measure r := by
  unfold total
  rw [(insert?_eq_some_iff.mp hInsert).2]
  simp

------------------------------------------------------------
-- Updates
------------------------------------------------------------

/- An update is seen under its key and nowhere else. -/
theorem find?_update
    (t : Table ν)
    (r : ν)
    (k : κ) :
    (t.update r).find? k =
      if Keyed.key r = k then
        (t.find? k).map (fun _ => r)
      else
        t.find? k := by
  have hSame :
      ∀ s : ν,
        Keyed.key
            (if Keyed.key s = Keyed.key r then r else s) =
          Keyed.key s := by
    intro s
    split
    case isTrue hKey => exact hKey.symm
    case isFalse => rfl
  unfold find? update
  simp only [List.find?_map, Function.comp_def, hSame]
  cases hFind : t.rows.find? (fun s => Keyed.key s = k) with
  | none => simp
  | some s =>
      have hRow : Keyed.key s = k := by
        simpa using List.find?_some hFind
      subst hRow
      by_cases hKey : Keyed.key s = Keyed.key r
      · simp [hKey]
      · have hOther : ¬ Keyed.key r = Keyed.key s :=
          fun hEq => hKey hEq.symm
        simp [hKey, hOther]

/- A rewrite of all rows is seen under every key. -/
@[simp] theorem find?_map
    (t : Table ν)
    (f : ν → ν)
    (hKey : ∀ r, Keyed.key (f r) = Keyed.key r)
    (k : κ) :
    (t.map f hKey).find? k = (t.find? k).map f := by
  unfold find? map
  simp only [List.find?_map, Function.comp_def, hKey]

/- A stored row stands between rows with other keys. -/
theorem exists_split_of_find?
    {t : Table ν}
    {k : κ}
    {r : ν}
    (hFind : t.find? k = some r) :
    ∃ pre post,
      t.rows = pre ++ r :: post ∧
        ∀ s ∈ pre ++ post, Keyed.key s ≠ k := by
  rcases find?_eq_some_iff.mp hFind with ⟨hMem, rfl⟩
  rcases List.append_of_mem hMem with ⟨pre, post, hRows⟩
  refine ⟨pre, post, hRows, ?_⟩
  have hPerm :
      ((pre ++ r :: post).map Keyed.key).Perm
        ((r :: (pre ++ post)).map Keyed.key) :=
    List.perm_middle.map _
  have hNodup := t.nodup
  rw [hRows, hPerm.nodup_iff, List.map_cons,
    List.nodup_cons] at hNodup
  intro s hRow hEq
  exact hNodup.1 (hEq ▸ List.mem_map_of_mem hRow)

/- An update of a stored row replaces its measure. -/
theorem total_update
    {t : Table ν}
    {r s : ν}
    (hFind : t.find? (Keyed.key r) = some s)
    (measure : ν → Int) :
    (t.update r).total measure =
      t.total measure - measure s + measure r := by
  rcases exists_split_of_find? hFind with
    ⟨pre, post, hRows, hApart⟩
  have hKey := key_of_find? hFind
  have hKept :
      ∀ l : List ν, (∀ x ∈ l, x ∈ pre ++ post) →
        (l.map fun x =>
          if Keyed.key x = Keyed.key r then r else x) =
          l := by
    intro l hl
    conv_rhs => rw [← List.map_id l]
    apply List.map_congr_left
    intro x hx
    simp [hApart x (hl x hx)]
  have hPre := hKept pre fun x hx =>
    List.mem_append_left post hx
  have hPost := hKept post fun x hx =>
    List.mem_append_right pre hx
  unfold total update
  simp only [hRows, List.map_append, List.map_cons, hKey,
    if_true, hPre, hPost, List.sum_append, List.sum_cons]
  omega

omit [DecidableEq κ] in
/- Measures that agree on all rows have the same total. -/
theorem total_congr
    {t : Table ν}
    {f g : ν → Int}
    (hSame : ∀ r ∈ t.rows, f r = g r) :
    t.total f = t.total g := by
  unfold total
  rw [List.map_congr_left hSame]

omit [DecidableEq κ] in
/- No row measures more than all of them. -/
theorem le_total
    {t : Table ν}
    {r : ν}
    {measure : ν → Int}
    (hNonneg : ∀ s, 0 ≤ measure s)
    (hRow : r ∈ t.rows) :
    measure r ≤ t.total measure := by
  refine List.single_le_sum ?_ _ (List.mem_map_of_mem hRow)
  intro amount hAmount
  rcases List.mem_map.mp hAmount with ⟨s, _, rfl⟩
  exact hNonneg s

------------------------------------------------------------
-- Removal
------------------------------------------------------------

/- A removed key is free, and all others are as before. -/
theorem find?_erase
    (t : Table ν)
    (k k' : κ) :
    (t.erase k).find? k' =
      if k = k' then none else t.find? k' := by
  unfold find? erase
  rw [List.find?_filter]
  split
  case isTrue hSame =>
    subst hSame
    rw [List.find?_eq_none]
    intro r _
    simp
  case isFalse hApart =>
    congr 1
    funext r
    by_cases hKey : Keyed.key r = k'
    · simp [hKey, Ne.symm hApart]
    · simp [hKey]

/- Removing a free key does nothing. -/
theorem erase_of_free
    {t : Table ν}
    {k : κ}
    (hFree : t.find? k = none) :
    t.erase k = t := by
  rw [find?_eq_none_iff] at hFree
  apply ext
  unfold erase
  rw [List.filter_eq_self]
  intro r hRow
  rw [decide_eq_true_eq]
  rintro rfl
  exact hFree (List.mem_map_of_mem hRow)

/- A stored row answers under its key and nowhere else. -/
theorem find?_put
    (t : Table ν)
    (r : ν)
    (k : κ) :
    (t.put r).find? k =
      if Keyed.key r = k then some r else t.find? k := by
  have hErased := t.find?_erase (Keyed.key r) k
  unfold find? at hErased
  unfold find? put
  rw [List.find?_append, hErased]
  by_cases hKey : Keyed.key r = k
  · simp [hKey]
  · simp [hKey]

/- Removing what was just stored under a free key. -/
theorem erase_put
    {t : Table ν}
    {r : ν}
    (hFree : t.find? (Keyed.key r) = none) :
    (t.put r).erase (Keyed.key r) = t := by
  have hKept := erase_of_free hFree
  apply ext
  unfold put
  simp only [hKept]
  change (t.rows ++ [r]).filter _ = _
  rw [List.filter_append]
  have hRows := congrArg rows hKept
  change t.rows.filter _ = t.rows at hRows
  rw [hRows]
  simp

/- Storing under a free key adds the measure of the row. -/
theorem total_put
    {t : Table ν}
    {r : ν}
    (hFree : t.find? (Keyed.key r) = none)
    (measure : ν → Int) :
    (t.put r).total measure = t.total measure + measure r := by
  have hRows : (t.put r).rows = t.rows ++ [r] := by
    unfold put
    simp only [erase_of_free hFree]
  unfold total
  rw [hRows]
  simp

/- A removed row takes its measure with it. -/
theorem total_erase
    {t : Table ν}
    {k : κ}
    {r : ν}
    (hFind : t.find? k = some r)
    (measure : ν → Int) :
    (t.erase k).total measure =
      t.total measure - measure r := by
  rcases exists_split_of_find? hFind with
    ⟨pre, post, hRows, hApart⟩
  have hKey := key_of_find? hFind
  have hKept :
      ∀ l : List ν, (∀ s ∈ l, s ∈ pre ++ post) →
        l.filter (fun s => Keyed.key s ≠ k) = l := by
    intro l hl
    rw [List.filter_eq_self]
    intro s hRow
    simpa using hApart s (hl s hRow)
  have hPre := hKept pre fun s hs =>
    List.mem_append_left post hs
  have hPost := hKept post fun s hs =>
    List.mem_append_right pre hs
  unfold total erase
  simp only [hRows, List.filter_append, List.filter_cons, hKey,
    ne_eq, not_true_eq_false, decide_false, hPre, hPost,
    Bool.false_eq_true, if_false, List.map_append,
    List.map_cons, List.sum_append, List.sum_cons]
  omega

/- Measures that differ at one stored row differ by it. -/
theorem total_change
    {t : Table ν}
    {k : κ}
    {r : ν}
    {f g : ν → Int}
    (hFind : t.find? k = some r)
    (hSame :
      ∀ s ∈ t.rows, Keyed.key s ≠ k → f s = g s) :
    t.total g = t.total f - f r + g r := by
  have hRest :
      (t.erase k).total f = (t.erase k).total g := by
    apply total_congr
    intro s hRow
    rcases List.mem_filter.mp hRow with ⟨hMem, hKey⟩
    exact hSame s hMem (by simpa using hKey)
  have hLeft := total_erase hFind f
  have hRight := total_erase hFind g
  omega

end Table
