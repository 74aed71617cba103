import Mathlib.Data.List.Nodup
import Mathlib.Logic.Function.Basic
import Mathlib.Tactic.Common

/-
  A mirror of a source of keyed values. The entries of the
  source that the mirror does not show are written to it.
  It shows every entry then, and other keys are as before.

  Main declarations:
    * `Mirror.diff` and `Mirror.patch`
    * `Mirror.patch_of_notMem` and `Mirror.patch_of_mem`
    * `Mirror.patch_diff` and `Mirror.diff_patch_diff`
-/

namespace Mirror

variable {κ ν : Type}

/- The entries that the mirror does not show. -/
def diff
    [DecidableEq ν]
    (source : List (κ × ν))
    (mirror : κ → Option ν) : List (κ × ν) :=
  source.filter fun entry => mirror entry.1 ≠ some entry.2

/- The mirror after some writes, in their order. -/
def patch
    [DecidableEq κ]
    (mirror : κ → Option ν)
    (writes : List (κ × ν)) : κ → Option ν :=
  writes.foldl
    (fun shown entry =>
      Function.update shown entry.1 (some entry.2))
    mirror

------------------------------------------------------------
-- Writes
------------------------------------------------------------

section Writes

variable [DecidableEq κ]

@[simp] theorem patch_nil
    (mirror : κ → Option ν) :
    patch mirror [] = mirror := rfl

theorem patch_cons
    (mirror : κ → Option ν)
    (entry : κ × ν)
    (writes : List (κ × ν)) :
    patch mirror (entry :: writes) =
      patch (Function.update mirror entry.1 (some entry.2))
        writes := rfl

theorem patch_of_notMem
    {mirror : κ → Option ν}
    {writes : List (κ × ν)}
    {k : κ}
    (hAbsent : k ∉ writes.map Prod.fst) :
    patch mirror writes k = mirror k := by
  induction writes generalizing mirror with
  | nil => rfl
  | cons entry writes ih =>
      rw [List.map_cons, List.mem_cons, not_or] at hAbsent
      rw [patch_cons, ih hAbsent.2,
        Function.update_of_ne hAbsent.1]

/- No two writes have one key, so that each of them lasts. -/
theorem patch_of_mem
    {mirror : κ → Option ν}
    {writes : List (κ × ν)}
    {entry : κ × ν}
    (hNodup : (writes.map Prod.fst).Nodup)
    (hMem : entry ∈ writes) :
    patch mirror writes entry.1 = some entry.2 := by
  induction writes generalizing mirror with
  | nil => cases hMem
  | cons first writes ih =>
      rw [List.map_cons, List.nodup_cons] at hNodup
      rw [patch_cons]
      rcases List.mem_cons.mp hMem with rfl | hLater
      · rw [patch_of_notMem hNodup.1, Function.update_self]
      · exact ih hNodup.2 hLater

end Writes

------------------------------------------------------------
-- Differences
------------------------------------------------------------

section Differences

variable [DecidableEq ν]

theorem diff_sublist
    (source : List (κ × ν))
    (mirror : κ → Option ν) :
    (diff source mirror).Sublist source :=
  List.filter_sublist

theorem mem_diff
    {source : List (κ × ν)}
    {mirror : κ → Option ν}
    {entry : κ × ν} :
    entry ∈ diff source mirror ↔
      entry ∈ source ∧ mirror entry.1 ≠ some entry.2 := by
  simp [diff]

theorem diff_eq_nil_iff
    {source : List (κ × ν)}
    {mirror : κ → Option ν} :
    diff source mirror = [] ↔
      ∀ entry ∈ source, mirror entry.1 = some entry.2 := by
  simp [diff]

theorem nodup_diff
    {source : List (κ × ν)}
    (hNodup : (source.map Prod.fst).Nodup)
    (mirror : κ → Option ν) :
    ((diff source mirror).map Prod.fst).Nodup :=
  hNodup.sublist ((diff_sublist source mirror).map _)

variable [DecidableEq κ]

/- After the differences are written, every entry shows. -/
theorem patch_diff
    {source : List (κ × ν)}
    {mirror : κ → Option ν}
    {entry : κ × ν}
    (hNodup : (source.map Prod.fst).Nodup)
    (hMem : entry ∈ source) :
    patch mirror (diff source mirror) entry.1 =
      some entry.2 := by
  by_cases hShown : mirror entry.1 = some entry.2
  · rw [patch_of_notMem, hShown]
    intro hKey
    rcases List.mem_map.mp hKey with ⟨other, hDiff, hSame⟩
    rcases mem_diff.mp hDiff with ⟨hOther, hHidden⟩
    -- the entry with the key is this one
    have hEq : other = entry :=
      List.inj_on_of_nodup_map hNodup hOther hMem hSame
    exact hHidden (hEq ▸ hShown)
  · exact patch_of_mem (nodup_diff hNodup mirror)
      (mem_diff.mpr ⟨hMem, hShown⟩)

/- Nothing differs a second time. -/
theorem diff_patch_diff
    {source : List (κ × ν)}
    (hNodup : (source.map Prod.fst).Nodup)
    (mirror : κ → Option ν) :
    diff source (patch mirror (diff source mirror)) = [] :=
  diff_eq_nil_iff.mpr fun _ hMem => patch_diff hNodup hMem

end Differences

end Mirror
