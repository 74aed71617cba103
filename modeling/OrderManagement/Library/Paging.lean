import Mathlib.Data.List.NodupEquivFin
import Mathlib.Order.WellFounded
import Mathlib.Data.List.Sort
import Mathlib.Algebra.Order.Ring.Int
import Mathlib.Tactic.Common

/-
  Lists that are read page by page, with an offset and a
  limit. Other parties may add rows between two pages: a row
  then moves towards the end, past pages that were not read
  yet, so a reader who goes on to the end does not miss it.

  Main declarations:
    * `Paging.page` and `Paging.pages`
    * `Paging.flatMap_pages_eq_keys`
    * `Paging.mem_flatten_pages` and
      `Paging.exists_mem_pages_of_key`
    * `Paging.pairwise_gt_map_insertionSort`
    * `Paging.sublist_of_subset_of_pairwise`
-/

namespace Paging

variable {α β : Type}

------------------------------------------------------------
-- Pages
------------------------------------------------------------

/- The rows of a page; the first page has the number zero. -/
def page
    (size n : Nat)
    (rows : List α) : List α :=
  (rows.drop (n * size)).take size

/- What is read if the page after the n-th one is read from
   the first list, the next page from the second, and so on. -/
def pages
    (size : Nat) : Nat → List (List α) → List (List α)
| _, [] => []
| n, view :: views => page size n view :: pages size (n + 1) views

@[simp] theorem pages_nil
    (size n : Nat) :
    pages size n ([] : List (List α)) = [] := rfl

@[simp] theorem pages_cons
    (size n : Nat)
    (view : List α)
    (views : List (List α)) :
    pages size n (view :: views) =
      page size n view :: pages size (n + 1) views := rfl

theorem page_sublist
    (size n : Nat)
    (rows : List α) :
    (page size n rows).Sublist rows :=
  (List.take_sublist _ _).trans (List.drop_sublist _ _)

theorem map_page
    (f : α → β)
    (size n : Nat)
    (rows : List α) :
    (page size n rows).map f = page size n (rows.map f) := by
  simp only [page, List.map_take, List.map_drop]

theorem map_pages
    (f : α → β)
    (size n : Nat)
    (views : List (List α)) :
    (pages size n views).map (List.map f) =
      pages size n (views.map (List.map f)) := by
  induction views generalizing n with
  | nil => rfl
  | cons view views ih =>
      simp only [pages_cons, List.map_cons, map_page, ih]

theorem pages_append
    (size n : Nat)
    (views : List (List α))
    (view : List α) :
    pages size n (views ++ [view]) =
      pages size n views ++
        [page size (n + views.length) view] := by
  induction views generalizing n with
  | nil => rfl
  | cons first views ih =>
      simp only [List.cons_append, pages_cons, ih,
        List.length_cons]
      rw [Nat.add_assoc, Nat.add_comm 1]

/- A row stands on the page that its position belongs to. -/
theorem mem_page_of_getElem?
    {size n i : Nat}
    {rows : List α}
    {row : α}
    (hRow : rows[i]? = some row)
    (hLow : n * size ≤ i)
    (hHigh : i < (n + 1) * size) :
    row ∈ page size n rows := by
  rw [Nat.add_mul, Nat.one_mul] at hHigh
  refine List.mem_of_getElem? (i := i - n * size) ?_
  rw [page, List.getElem?_take_of_lt (by omega),
    List.getElem?_drop, Nat.add_sub_cancel' hLow, hRow]

/- A page with room left is the last one. -/
theorem length_page_lt_iff
    {size n : Nat}
    {rows : List α}
    (hSize : 0 < size) :
    (page size n rows).length < size ↔
      rows.length < (n + 1) * size := by
  rw [page, List.length_take, List.length_drop, Nat.add_mul,
    Nat.one_mul]
  omega

------------------------------------------------------------
-- A List at Rest
------------------------------------------------------------

/- Pages of one list, read one after the other, are the list
   up to where the reader has come. -/
theorem flatten_pages_replicate
    (size n count : Nat)
    (rows : List α) :
    (pages size n (List.replicate count rows)).flatten =
      (rows.drop (n * size)).take (count * size) := by
  induction count generalizing n with
  | zero => simp
  | succ count ih =>
      rw [List.replicate_succ, pages_cons, List.flatten_cons,
        ih, page, Nat.add_mul, Nat.one_mul, Nat.add_mul,
        Nat.one_mul, Nat.add_comm (count * size),
        List.take_add, List.drop_drop]

/- Up to a page with room left, every row is read once, and
   in the order of the list. -/
theorem flatten_pages_eq
    {size count : Nat}
    {rows : List α}
    (hEnd : rows.length ≤ count * size) :
    (pages size 0 (List.replicate count rows)).flatten =
      rows := by
  rw [flatten_pages_replicate, Nat.zero_mul, List.drop_zero,
    List.take_of_length_le hEnd]

/- A last page with room left shows where the list ends. -/
theorem length_lt_of_getLast?_pages
    {size : Nat}
    {views : List (List α)}
    {last : List α}
    (hLast : (pages size 0 views).getLast? = some last)
    (hShort : last.length < size) :
    ∃ view ∈ views, view.length < views.length * size := by
  rcases List.eq_nil_or_concat views with
    rfl | ⟨init, view, rfl⟩
  · cases hLast
  · rw [List.concat_eq_append] at hLast ⊢
    rw [pages_append, List.getLast?_concat,
      Nat.zero_add] at hLast
    cases hLast
    have hLength :=
      (length_page_lt_iff (Nat.zero_lt_of_lt hShort)).mp
        hShort
    refine ⟨view, by simp, ?_⟩
    rwa [List.length_append, List.length_singleton]

/- Pages of lists with the same keys in the same order, up to
   one with room left, have these keys, one time each. -/
theorem flatMap_pages_eq_keys
    {key : α → β}
    {size : Nat}
    {views : List (List α)}
    {keys : List β}
    {last : List α}
    (hSame : ∀ view ∈ views, view.map key = keys)
    (hLast : (pages size 0 views).getLast? = some last)
    (hShort : last.length < size) :
    (pages size 0 views).flatMap (List.map key) = keys := by
  have hViews :
      views.map (List.map key) =
        List.replicate views.length keys :=
    List.map_eq_replicate_iff.mpr hSame
  rcases length_lt_of_getLast?_pages hLast hShort with
    ⟨view, hView, hLength⟩
  rw [← List.length_map key, hSame view hView] at hLength
  rw [List.flatMap_def, map_pages, hViews,
    flatten_pages_eq hLength.le]

------------------------------------------------------------
-- A List that Grows
------------------------------------------------------------

/- A row that later rows are put around only moves back. -/
theorem exists_getElem?_of_sublist
    {rows rows' : List α}
    {i : Nat}
    {row : α}
    (hSublist : rows.Sublist rows')
    (hRow : rows[i]? = some row) :
    ∃ j, i ≤ j ∧ rows'[j]? = some row := by
  rcases List.sublist_iff_exists_orderEmbedding_getElem?_eq.mp
    hSublist with ⟨f, hf⟩
  exact ⟨f i, StrictMono.le_apply f.strictMono,
    (hf i).symm.trans hRow⟩

/-
  While a list grows between its pages, a row that is not
  before the first page is read, if the reader does not stop
  before a page with room left. The induction is on the
  lists: a row that is not on the page at hand is behind it,
  and stays behind it.
-/
theorem mem_flatten_pages
    {size n i : Nat}
    {view : List α}
    {views : List (List α)}
    {row : α}
    (hSize : 0 < size)
    (hGrows : (view :: views).IsChain List.Sublist)
    (hRow : view[i]? = some row)
    (hAhead : n * size ≤ i)
    (hEnd :
      ∀ last ∈ (pages size n (view :: views)).getLast?,
        last.length < size) :
    row ∈ (pages size n (view :: views)).flatten := by
  induction views generalizing view n i with
  | nil =>
      have hLength :=
        (length_page_lt_iff hSize).mp (hEnd _ rfl)
      have hIndex := (List.getElem?_eq_some_iff.mp hRow).1
      rw [pages_cons, List.flatten_cons]
      exact List.mem_append_left _
        (mem_page_of_getElem? hRow hAhead
          (hIndex.trans hLength))
  | cons next views ih =>
      rcases List.isChain_cons_cons.mp hGrows with
        ⟨hNext, hRest⟩
      rw [pages_cons, List.flatten_cons]
      rcases Nat.lt_or_ge i ((n + 1) * size) with
        hHere | hBehind
      · exact List.mem_append_left _
          (mem_page_of_getElem? hRow hAhead hHere)
      · rcases exists_getElem?_of_sublist hNext hRow with
          ⟨j, hMoved, hRow'⟩
        refine List.mem_append_right _
          (ih hRest hRow' (hBehind.trans hMoved) ?_)
        intro last hLast
        refine hEnd last ?_
        rw [pages_cons, pages_cons, List.getLast?_cons_cons]
        exact hLast

/-
  The same for rows that change but keep their keys: what is
  read under a key may be a later row than the one that the
  reader began with.
-/
theorem exists_mem_pages_of_key
    {key : α → β}
    {size : Nat}
    {view : List α}
    {views : List (List α)}
    {k : β}
    (hSize : 0 < size)
    (hGrows :
      ((view :: views).map (List.map key)).IsChain
        List.Sublist)
    (hKey : k ∈ view.map key)
    (hEnd :
      ∀ last ∈ (pages size 0 (view :: views)).getLast?,
        last.length < size) :
    ∃ rows ∈ pages size 0 (view :: views),
      ∃ row ∈ rows, key row = k := by
  rcases List.mem_iff_getElem?.mp hKey with ⟨i, hIndex⟩
  have hRead :
      k ∈
        (pages size 0
          ((view :: views).map (List.map key))).flatten := by
    apply mem_flatten_pages hSize hGrows hIndex (by omega)
    intro keys hLast
    rw [← List.map_cons, ← map_pages, List.getLast?_map,
      Option.mem_def, Option.map_eq_some_iff] at hLast
    rcases hLast with ⟨last, hLast, rfl⟩
    rw [List.length_map]
    exact hEnd last hLast
  rw [← map_pages, List.mem_flatten] at hRead
  rcases hRead with ⟨keys, hKeys, hHere⟩
  rcases List.mem_map.mp hKeys with ⟨rows, hRows, rfl⟩
  rcases List.mem_map.mp hHere with ⟨row, hRow, hSame⟩
  exact ⟨rows, hRows, row, hRow, hSame⟩

/- A row that is read stands in one of the lists. -/
theorem exists_mem_of_mem_pages
    {size n : Nat}
    {views : List (List α)}
    {rows : List α}
    (hRows : rows ∈ pages size n views) :
    ∃ view ∈ views, rows.Sublist view := by
  induction views generalizing n with
  | nil => simp at hRows
  | cons view views ih =>
      rw [pages_cons, List.mem_cons] at hRows
      rcases hRows with rfl | hRows
      · exact ⟨view, by simp, page_sublist size n view⟩
      · rcases ih hRows with ⟨seen, hSeen, hSublist⟩
        exact ⟨seen, List.mem_cons_of_mem _ hSeen, hSublist⟩

------------------------------------------------------------
-- Sorted Rows
------------------------------------------------------------

/- Rows with distinct keys, the greatest key first. -/
theorem pairwise_gt_map_insertionSort
    {κ : Type}
    [LinearOrder κ]
    (key : α → κ)
    {rows : List α}
    (hNodup : (rows.map key).Nodup) :
    ((rows.insertionSort fun a b => key b ≤ key a).map
      key).Pairwise (· > ·) := by
  rw [List.map_insertionSort (fun a b => key b ≤ key a)
    (fun a b : κ => b ≤ a) key rows fun _ _ _ _ => Iff.rfl]
  have hSorted :=
    List.pairwise_insertionSort (fun a b : κ => b ≤ a)
      (rows.map key)
  have hDistinct :
      ((rows.map key).insertionSort
        fun a b : κ => b ≤ a).Nodup :=
    (List.perm_insertionSort _ _).nodup_iff.mpr hNodup
  exact (hSorted.and hDistinct).imp fun hBoth =>
    lt_of_le_of_ne hBoth.1 hBoth.2.symm

/- A strictly ordered list is in each strictly ordered list
   that has its rows. -/
theorem sublist_of_subset_of_pairwise
    {r : α → α → Prop}
    [Std.Asymm r]
    {rows rows' : List α}
    (hRows : rows.Pairwise r)
    (hRows' : rows'.Pairwise r)
    (hSubset : rows ⊆ rows') :
    rows.Sublist rows' := by
  have hNodup : rows.Nodup := hRows.imp ne_of_irrefl
  exact List.sublist_of_subperm_of_pairwise
    (List.subperm_of_subset hNodup hSubset) hRows hRows'

end Paging
