import Mathlib.Tactic.Common

/-
  The text format of Prometheus: a page of lines, each of
  which is a comment, or a series and its value with a blank
  between them. A series may hold blanks itself. It is taken
  as it is written: of its escapes a reader decodes those of
  a backslash, of a quote, and of a line feed.

  Main declarations:
    * `Exposition.Line` and `Exposition.render`
    * `Exposition.scrape` and `Exposition.valueOf`
    * `Exposition.scrape_append`, `Exposition.scrape_render`
-/

namespace Exposition

------------------------------------------------------------
-- Writing
------------------------------------------------------------

inductive Line
| comment (text : String)
| sample (series value : String)

def Line.text : Line → String
| .comment text => "# " ++ text
| .sample series value => series ++ " " ++ value

/- Every line is ended. -/
def render
    (lines : List Line) : String :=
  String.join (lines.map fun l => l.text ++ "\n")

def samples
    (lines : List Line) : List (String × String) :=
  lines.filterMap fun
    | .comment _ => none
    | .sample series value => some (series, value)

/- What a text must not hold to stand in its line. -/
inductive Line.Fits : Line → Prop
| comment
    {text : String}
    (hLine : '\n' ∉ text.toList) :
    Fits (.comment text)
| sample
    {series value : String}
    (hSeries : '\n' ∉ series.toList)
    (hValue : '\n' ∉ value.toList)
    (hStart : ∃ c rest, series.toList = c :: rest ∧ c ≠ '#')
    (hBlank : ' ' ∉ value.toList) :
    Fits (.sample series value)

------------------------------------------------------------
-- Reading
------------------------------------------------------------

/- The value is what follows the last blank. -/
def readSample
    (line : List Char) : String × String :=
  ( String.ofList
      ((line.reverse.dropWhile fun c => c ≠ ' ').tail.reverse),
    String.ofList
      ((line.reverse.takeWhile fun c => c ≠ ' ').reverse) )

def readLine : List Char → Option (String × String)
| [] => none
| c :: line =>
    if c = '#' then none else some (readSample (c :: line))

/- The samples of a page. -/
def scrape
    (page : String) : List (String × String) :=
  (page.toList.splitOnP fun c => c = '\n').filterMap readLine

/- The number of a series; without a sample it is zero. -/
def valueOf
    (page : List (String × String))
    (series : String) : Nat :=
  match page.find? fun sample => sample.1 = series with
  | some sample => Nat.ofDigitChars 10 sample.2.toList 0
  | none => 0

theorem readSample_text
    (series : String)
    {value : String}
    (hBlank : ' ' ∉ value.toList) :
    readSample (Line.sample series value).text.toList =
      (series, value) := by
  have hText :
      (Line.sample series value).text.toList.reverse =
        value.toList.reverse ++
          ' ' :: series.toList.reverse := by
    unfold Line.text
    simp [String.toList_append]
  have hValue :
      ∀ c ∈ value.toList.reverse, decide (c ≠ ' ') = true := by
    intro c hMem
    rw [decide_eq_true_eq]
    rintro rfl
    exact hBlank (List.mem_reverse.mp hMem)
  unfold readSample
  rw [hText, List.dropWhile_append_of_pos hValue,
    List.takeWhile_append_of_pos hValue]
  simp

theorem notMem_text
    {line : Line}
    (hFits : line.Fits) :
    ∀ c ∈ line.text.toList, decide (c = '\n') = false := by
  intro c hMem
  rw [decide_eq_false_iff_not]
  rintro rfl
  cases hFits with
  | comment hLine =>
      unfold Line.text at hMem
      rw [String.toList_append, List.mem_append] at hMem
      rcases hMem with hMark | hText
      · revert hMark
        decide
      · exact hLine hText
  | sample hSeries hValue _ _ =>
      unfold Line.text at hMem
      rw [String.toList_append, String.toList_append,
        List.mem_append, List.mem_append] at hMem
      rcases hMem with (hText | hMark) | hText
      · exact hSeries hText
      · revert hMark
        decide
      · exact hValue hText

/- A line is read as what was written. -/
theorem readLine_text
    {line : Line}
    (hFits : line.Fits) :
    (readLine line.text.toList).toList = samples [line] := by
  cases hFits with
  | comment hLine =>
      unfold Line.text
      rw [String.toList_append]
      rfl
  | @sample series value _ _ hStart hBlank =>
      rcases hStart with ⟨c, rest, hChars, hOther⟩
      have hRead := readSample_text series hBlank
      have hText :
          ∃ more,
            (Line.sample series value).text.toList =
              c :: more := by
        unfold Line.text
        rw [String.toList_append, String.toList_append, hChars]
        exact ⟨_, rfl⟩
      rcases hText with ⟨more, hText⟩
      rw [hText] at hRead ⊢
      rw [readLine, if_neg hOther, hRead]
      rfl

theorem scrape_line
    {line : Line}
    (hFits : line.Fits)
    (page : String) :
    scrape (line.text ++ "\n" ++ page) =
      samples [line] ++ scrape page := by
  have hSplit :
      ((line.text ++ "\n" ++ page).toList.splitOnP
          fun c => c = '\n') =
        line.text.toList ::
          page.toList.splitOnP fun c => c = '\n' := by
    rw [String.toList_append, String.toList_append]
    have hEnd : "\n".toList = ['\n'] := by decide
    rw [hEnd, List.append_assoc, List.singleton_append]
    exact List.splitOnP_append_cons_of_forall_mem
      (notMem_text hFits) '\n' (by decide) _
  unfold scrape
  rw [hSplit, ← readLine_text hFits, List.filterMap_cons]
  cases readLine line.text.toList <;> rfl

/- The lines of a page are read before what follows. -/
theorem scrape_append
    {lines : List Line}
    (hFits : ∀ line ∈ lines, line.Fits)
    (page : String) :
    scrape (render lines ++ page) =
      samples lines ++ scrape page := by
  induction lines with
  | nil =>
      have hNone : render [] ++ page = page :=
        String.empty_append
      rw [hNone]
      rfl
  | cons line lines ih =>
      have hLine := hFits line (by simp)
      have hLines : ∀ l ∈ lines, l.Fits :=
        fun l hMem => hFits l (by simp [hMem])
      have hRender :
          render (line :: lines) =
            line.text ++ "\n" ++ render lines := by
        unfold render
        rw [List.map_cons, String.join_cons]
      rw [hRender, String.append_assoc, scrape_line hLine,
        ih hLines, ← List.append_assoc]
      unfold samples
      rw [← List.filterMap_append, List.singleton_append]

/- A page is read as the samples that were written. -/
theorem scrape_render
    {lines : List Line}
    (hFits : ∀ line ∈ lines, line.Fits) :
    scrape (render lines) = samples lines := by
  have hPage := scrape_append hFits ""
  rw [String.append_empty] at hPage
  rw [hPage]
  exact List.append_nil _

/- A number that is shown once is the one that is read. -/
theorem valueOf_eq
    {page : List (String × String)}
    {series : String}
    {n : Nat}
    (hShown : n = 0 ∨ (series, toString n) ∈ page)
    (hOnly :
      ∀ sample ∈ page, sample.1 = series →
        sample.2 = toString n) :
    valueOf page series = n := by
  have hNumber :
      Nat.ofDigitChars 10 (toString n).toList 0 = n := by
    have hDigits : (toString n).toList = Nat.toDigits 10 n := by
      change (Nat.repr n).toList = _
      simp [Nat.repr]
    rw [hDigits, Nat.ofDigitChars_ten_toDigits]
  unfold valueOf
  cases hFind :
      page.find? fun sample => sample.1 = series with
  | some sample =>
      have hMem := List.mem_of_find?_eq_some hFind
      have hSeries : sample.1 = series := by
        simpa using List.find?_some hFind
      dsimp only
      rw [hOnly sample hMem hSeries, hNumber]
  | none =>
      rcases hShown with rfl | hMem
      · rfl
      · rw [List.find?_eq_none] at hFind
        exact absurd (decide_eq_true rfl) (hFind _ hMem)

end Exposition
