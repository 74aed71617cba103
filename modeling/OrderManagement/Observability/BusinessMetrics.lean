import OrderManagement.Library.Exposition
import OrderManagement.Library.GoMap
import OrderManagement.Library.Quote
import OrderManagement.Service.Inventory
import Mathlib.Data.Prod.Lex
import Mathlib.Data.String.Basic

/-
  The business counters of `business_metrics.go`. Calls of
  any number of goroutines count under one lock, so that what
  happens to the counters is a list of recordings.

  Main declarations:
    * `BusinessMetrics` and `BusinessMetrics.increment`
    * `BusinessRecord` and `BusinessMetrics.recordAll`
    * `BusinessMetrics.renderPrometheus`
    * `BusinessMetrics.lookup_recordAll`
    * `BusinessMetrics.scrape_renderPrometheus`
-/

namespace OrderManagement

open Exposition

/- `unicode.IsPrint`, of which nothing is used but that it
   does not admit control characters. -/
structure Printable where
  isPrint : Char → Bool
  control : ∀ c : Char, c.toNat < 32 → isPrint c = false

------------------------------------------------------------
-- Counters
------------------------------------------------------------

structure BusinessMetricKey where
  name : String
  labels : String
deriving DecidableEq

abbrev BusinessMetrics :=
  GoMap BusinessMetricKey UInt64

def normalizeLabelValue
    (value : String) : String :=
  let value := ProductService.trimSpace value
  if value = "" then "unknown" else value

/- The labels of a map, by its entries in any order. -/
def formatLabels
    (p : Printable)
    (labels : List (String × String)) : String :=
  if labels = [] then
    ""
  else
    "\x7b" ++
      ",".intercalate
        ((labels.insertionSort fun a b => a.1 ≤ b.1).map
          fun label =>
            label.1 ++ "=" ++ Quote.quote p.isPrint label.2) ++
      "\x7d"

namespace BusinessMetrics

variable (p : Printable)

def increment
    (m : BusinessMetrics)
    (name : String)
    (labels : List (String × String)) : BusinessMetrics :=
  let key : BusinessMetricKey := ⟨name, formatLabels p labels⟩
  m.insert key (GoMap.getD m key 0 + 1)

def recordOrderCreate
    (m : BusinessMetrics)
    (result : String) : BusinessMetrics :=
  m.increment p "app_order_create_total"
    [("result", normalizeLabelValue result)]

def recordOrderStateTransition
    (m : BusinessMetrics)
    (action result : String) : BusinessMetrics :=
  m.increment p "app_order_state_transition_total"
    [("action", normalizeLabelValue action),
      ("result", normalizeLabelValue result)]

def recordRedisInventoryPreDeduct
    (m : BusinessMetrics)
    (result : String) : BusinessMetrics :=
  m.increment p "app_redis_inventory_prededuct_total"
    [("result", normalizeLabelValue result)]

def recordRedisInventoryReservation
    (m : BusinessMetrics)
    (action result : String) : BusinessMetrics :=
  m.increment p "app_redis_inventory_reservation_total"
    [("action", normalizeLabelValue action),
      ("result", normalizeLabelValue result)]

def recordRedisInventorySync
    (m : BusinessMetrics)
    (result : String) : BusinessMetrics :=
  m.increment p "app_redis_inventory_sync_total"
    [("result", normalizeLabelValue result)]

def recordOrderTimeoutDeadLetter
    (m : BusinessMetrics)
    (reason handled : String) : BusinessMetrics :=
  m.increment p "app_order_timeout_dead_letter_total"
    [("reason", normalizeLabelValue reason),
      ("handled", normalizeLabelValue handled)]

def recordInventoryReconcileDiff
    (m : BusinessMetrics)
    (status : String) : BusinessMetrics :=
  m.increment p "app_inventory_reconcile_diff_total"
    [("status", normalizeLabelValue status)]

def recordInventoryReconcileAutoFix
    (m : BusinessMetrics)
    (result : String) : BusinessMetrics :=
  m.increment p "app_inventory_reconcile_autofix_total"
    [("result", normalizeLabelValue result)]

end BusinessMetrics

------------------------------------------------------------
-- Recordings
------------------------------------------------------------

/- A call of one of the methods. -/
inductive BusinessRecord
| orderCreate (result : String)
| orderStateTransition (action result : String)
| redisInventoryPreDeduct (result : String)
| redisInventoryReservation (action result : String)
| redisInventorySync (result : String)
| orderTimeoutDeadLetter (reason handled : String)
| inventoryReconcileDiff (status : String)
| inventoryReconcileAutoFix (result : String)
deriving DecidableEq

namespace BusinessRecord

def apply
    (p : Printable)
    (m : BusinessMetrics) : BusinessRecord → BusinessMetrics
| .orderCreate result => m.recordOrderCreate p result
| .orderStateTransition action result =>
    m.recordOrderStateTransition p action result
| .redisInventoryPreDeduct result =>
    m.recordRedisInventoryPreDeduct p result
| .redisInventoryReservation action result =>
    m.recordRedisInventoryReservation p action result
| .redisInventorySync result =>
    m.recordRedisInventorySync p result
| .orderTimeoutDeadLetter reason handled =>
    m.recordOrderTimeoutDeadLetter p reason handled
| .inventoryReconcileDiff status =>
    m.recordInventoryReconcileDiff p status
| .inventoryReconcileAutoFix result =>
    m.recordInventoryReconcileAutoFix p result

/- The metric of a call. -/
def name : BusinessRecord → String
| .orderCreate _ => "app_order_create_total"
| .orderStateTransition _ _ =>
    "app_order_state_transition_total"
| .redisInventoryPreDeduct _ =>
    "app_redis_inventory_prededuct_total"
| .redisInventoryReservation _ _ =>
    "app_redis_inventory_reservation_total"
| .redisInventorySync _ => "app_redis_inventory_sync_total"
| .orderTimeoutDeadLetter _ _ =>
    "app_order_timeout_dead_letter_total"
| .inventoryReconcileDiff _ =>
    "app_inventory_reconcile_diff_total"
| .inventoryReconcileAutoFix _ =>
    "app_inventory_reconcile_autofix_total"

/- The labels of a call in the order of the page. -/
def labels : BusinessRecord → List (String × String)
| .orderCreate result
| .redisInventoryPreDeduct result
| .redisInventorySync result
| .inventoryReconcileAutoFix result =>
    [("result", normalizeLabelValue result)]
| .orderStateTransition action result
| .redisInventoryReservation action result =>
    [("action", normalizeLabelValue action),
      ("result", normalizeLabelValue result)]
| .orderTimeoutDeadLetter reason handled =>
    [("handled", normalizeLabelValue handled),
      ("reason", normalizeLabelValue reason)]
| .inventoryReconcileDiff status =>
    [("status", normalizeLabelValue status)]

def key
    (p : Printable)
    (r : BusinessRecord) : BusinessMetricKey :=
  ⟨r.name, formatLabels p r.labels⟩

/- Two calls count the same. -/
def Same
    (r r' : BusinessRecord) : Prop :=
  r.name = r'.name ∧ r.labels = r'.labels

instance
    (r r' : BusinessRecord) :
    Decidable (r.Same r') :=
  instDecidableAnd

/- The order of the entries of a map does not matter. -/
theorem formatLabels_swap
    (p : Printable)
    (reason handled : String) :
    formatLabels p
        [("reason", reason), ("handled", handled)] =
      formatLabels p
        [("handled", handled), ("reason", reason)] := by
  have hSort :
      [("reason", reason), ("handled", handled)].insertionSort
          (fun a b => a.1 ≤ b.1) =
        [("handled", handled), ("reason", reason)].insertionSort
          fun a b => a.1 ≤ b.1 := by
    have hLess : "handled" ≤ "reason" := by decide
    have hMore : ¬ "reason" ≤ "handled" := by decide
    simp [List.insertionSort, List.orderedInsert, hLess, hMore]
  unfold formatLabels
  rw [hSort]
  rfl

/- A call adds one to its counter. -/
theorem apply_eq
    (p : Printable)
    (m : BusinessMetrics)
    (r : BusinessRecord) :
    r.apply p m =
      m.insert (r.key p) (GoMap.getD m (r.key p) 0 + 1) := by
  cases r with
  | orderTimeoutDeadLetter reason handled =>
      have hKey :
          BusinessMetricKey.mk
              "app_order_timeout_dead_letter_total"
              (formatLabels p
                [("reason", normalizeLabelValue reason),
                  ("handled", normalizeLabelValue handled)]) =
            (orderTimeoutDeadLetter reason handled).key p :=
        congrArg (BusinessMetricKey.mk _)
          (formatLabels_swap p _ _)
      rw [← hKey]
      rfl
  | _ => rfl

end BusinessRecord

namespace BusinessMetrics

/- The counters after calls in the order of the lock. -/
def recordAll
    (p : Printable)
    (records : List BusinessRecord) : BusinessMetrics :=
  records.foldl (fun m r => r.apply p m) ∅

/- A counter has the number of its calls, on 64 bits. -/
theorem lookup_recordAll
    (p : Printable)
    (records : List BusinessRecord)
    (key : BusinessMetricKey) :
    Finmap.lookup key (recordAll p records) =
      if key ∈ records.map (BusinessRecord.key p) then
        some (UInt64.ofNat
          (records.countP fun r => r.key p = key))
      else
        none := by
  induction records using List.reverseRecOn with
  | nil => rfl
  | append_singleton records r ih =>
      unfold recordAll at ih ⊢
      rw [List.foldl_append, List.foldl_cons, List.foldl_nil,
        BusinessRecord.apply_eq]
      by_cases hKey : r.key p = key
      · subst hKey
        have hAll :
            r.key p ∈
              (records ++ [r]).map (BusinessRecord.key p) := by
          simp
        rw [Finmap.lookup_insert, GoMap.getD, ih, if_pos hAll,
          List.countP_append]
        by_cases hMem :
            r.key p ∈ records.map (BusinessRecord.key p)
        · rw [if_pos hMem]
          simp [UInt64.ofNat_add]
        · have hNone :
              records.countP
                (fun r' => r'.key p = r.key p) = 0 := by
            rw [List.countP_eq_zero]
            intro r' hHere
            rw [decide_eq_true_eq]
            intro hSame
            exact hMem (hSame ▸ List.mem_map_of_mem hHere)
          rw [if_neg hMem, hNone]
          simp
      · rw [Finmap.lookup_insert_of_ne _ (Ne.symm hKey), ih]
        simp [hKey, Ne.symm hKey]

end BusinessMetrics

------------------------------------------------------------
-- The Page
------------------------------------------------------------

/- A key with the count that was read under the lock. -/
abbrev BusinessMetricSnapshot :=
  Σ _ : BusinessMetricKey, UInt64

namespace BusinessMetricSnapshot

/- The comparison that the snapshots are sorted with. -/
def less
    (a b : BusinessMetricSnapshot) : Prop :=
  if a.1.name ≠ b.1.name then
    a.1.name < b.1.name
  else
    a.1.labels < b.1.labels

instance
    (a b : BusinessMetricSnapshot) :
    Decidable (less a b) := by
  unfold less
  infer_instance

def sample
    (s : BusinessMetricSnapshot) : String × String :=
  (s.1.name ++ s.1.labels, toString s.2.toNat)

end BusinessMetricSnapshot

namespace BusinessMetrics

/- The snapshots, from the entries as a loop sees them. -/
def snapshot
    (entries : List BusinessMetricSnapshot) :
    List BusinessMetricSnapshot :=
  entries.insertionSort fun a b => ¬ b.less a

/- The loop, with the metric of the line before. -/
def renderLines
    (currentMetric : String) :
    List BusinessMetricSnapshot → List Line
| [] => []
| s :: snapshots =>
    (if s.1.name ≠ currentMetric then
        [ .comment ("HELP " ++ s.1.name ++ " Business counter."),
          .comment ("TYPE " ++ s.1.name ++ " counter") ]
      else []) ++
      .sample s.sample.1 s.sample.2 ::
        renderLines s.1.name snapshots

def renderPrometheus
    (entries : List BusinessMetricSnapshot) : String :=
  let snapshots := snapshot entries
  if snapshots = [] then ""
  else render (renderLines "" snapshots)

theorem renderPrometheus_eq
    (entries : List BusinessMetricSnapshot) :
    renderPrometheus entries =
      render (renderLines "" (snapshot entries)) := by
  unfold renderPrometheus
  dsimp only
  split
  case isTrue hNone =>
    rw [hNone]
    rfl
  case isFalse => rfl

theorem samples_renderLines
    (currentMetric : String)
    (snapshots : List BusinessMetricSnapshot) :
    samples (renderLines currentMetric snapshots) =
      snapshots.map BusinessMetricSnapshot.sample := by
  induction snapshots generalizing currentMetric with
  | nil => rfl
  | cons s snapshots ih =>
      unfold renderLines
      unfold samples at ih ⊢
      rw [List.filterMap_append, List.filterMap_cons, ih]
      split
      · rfl
      · rfl

end BusinessMetrics

------------------------------------------------------------
-- Names of Series
------------------------------------------------------------

/- One label of a series. -/
def labelText
    (p : Printable)
    (label : String × String) : List Char :=
  label.1.toList ++
    '=' :: (Quote.quote p.isPrint label.2).toList

/- Labels under names without an equality sign. -/
abbrev Labelled :=
  { label : String × String // '=' ∉ label.1.toList }

theorem selfDelimiting_labelText
    (p : Printable) :
    Encoding.SelfDelimiting
      (fun label : Labelled => labelText p label.1) := by
  intro a b s t hEq
  unfold labelText at hEq
  simp only [List.append_assoc, List.cons_append] at hEq
  rcases Encoding.append_cons_inj a.2 b.2 hEq with
    ⟨hName, hRest⟩
  rcases Quote.selfDelimiting_quote p.isPrint hRest with
    ⟨hValue, hEnd⟩
  exact ⟨Subtype.ext
    (Prod.ext (String.toList_inj.mp hName) hValue), hEnd⟩

theorem toList_intercalate_labels
    (p : Printable)
    (label : String × String)
    (labels : List (String × String)) :
    (",".intercalate
          ((label :: labels).map fun l =>
            l.1 ++ "=" ++ Quote.quote p.isPrint l.2) ++
        "\x7d").toList =
      labelText p label ++
        Encoding.rest (labelText p) ',' '\x7d' labels := by
  induction labels generalizing label with
  | nil =>
      simp [labelText, Encoding.rest, String.toList_append]
  | cons next labels ih =>
      have hNext := ih next
      rw [List.map_cons] at hNext ⊢
      rw [List.map_cons, String.intercalate_cons_cons,
        String.append_assoc, String.toList_append, hNext]
      simp [labelText, Encoding.rest, String.toList_append]

/- Labels in the order of their names. -/
theorem toList_formatLabels
    {p : Printable}
    {label : String × String}
    {labels : List (String × String)}
    (hSorted :
      (label :: labels).Pairwise fun a b => a.1 ≤ b.1) :
    (formatLabels p (label :: labels)).toList =
      '\x7b' ::
        (labelText p label ++
          Encoding.rest (labelText p) ',' '\x7d' labels) := by
  unfold formatLabels
  rw [if_neg (List.cons_ne_nil _ _), hSorted.insertionSort_eq,
    String.append_assoc, String.toList_append,
    toList_intercalate_labels]
  rfl

theorem rest_labelText
    (p : Printable)
    (labels : List Labelled) :
    Encoding.rest (labelText p) ',' '\x7d'
        (labels.map Subtype.val) =
      Encoding.rest (fun label : Labelled =>
        labelText p label.1) ',' '\x7d' labels := by
  induction labels with
  | nil => rfl
  | cons label labels ih =>
      simp only [List.map_cons, Encoding.rest, ih]

/- Labels are read back from their text. -/
theorem formatLabels_inj
    {p : Printable}
    {labels labels' : List Labelled}
    (hSome : labels ≠ [])
    (hSome' : labels' ≠ [])
    (hSorted :
      (labels.map Subtype.val).Pairwise fun a b => a.1 ≤ b.1)
    (hSorted' :
      (labels'.map Subtype.val).Pairwise fun a b => a.1 ≤ b.1)
    (hSame :
      formatLabels p (labels.map Subtype.val) =
        formatLabels p (labels'.map Subtype.val)) :
    labels = labels' := by
  rcases List.exists_cons_of_ne_nil hSome with ⟨a, as, rfl⟩
  rcases List.exists_cons_of_ne_nil hSome' with ⟨b, bs, rfl⟩
  have hText := congrArg String.toList hSame
  rw [List.map_cons] at hSorted hSorted' hText
  rw [List.map_cons, toList_formatLabels hSorted,
    toList_formatLabels hSorted', rest_labelText,
    rest_labelText] at hText
  have hLabel := selfDelimiting_labelText p
  rcases hLabel (List.cons.inj hText).2 with ⟨rfl, hRest⟩
  have hMore := (hLabel.rest (by decide)).injective hRest
  rw [hMore]

theorem notMem_labelText
    {p : Printable}
    {label : String × String}
    (hName : '\n' ∉ label.1.toList) :
    '\n' ∉ labelText p label := by
  intro hMem
  unfold labelText at hMem
  rw [List.mem_append, List.mem_cons] at hMem
  rcases hMem with hHere | hEqual | hQuoted
  · exact hName hHere
  · cases hEqual
  · have hLarge :=
      Quote.le_toNat_of_mem_quote p.control hQuoted
    revert hLarge
    decide

/- Labels in the order of a page, under names that stand on
   one line. -/
structure SortedLabels
    (labels : List (String × String)) : Prop where
  some : labels ≠ []
  sorted : labels.Pairwise fun a b => a.1 ≤ b.1
  names :
    ∀ l ∈ labels, '=' ∉ l.1.toList ∧ '\n' ∉ l.1.toList

namespace SortedLabels

variable
    {p : Printable}
    {labels labels' : List (String × String)}

theorem exists_labelled
    (hLabels : SortedLabels labels) :
    ∃ labelled : List Labelled,
      labelled.map Subtype.val = labels :=
  ⟨labels.attachWith _
      fun l hMem => (hLabels.names l hMem).1,
    List.attachWith_map_subtype_val _⟩

theorem inj
    (hLabels : SortedLabels labels)
    (hLabels' : SortedLabels labels')
    (hSame : formatLabels p labels = formatLabels p labels') :
    labels = labels' := by
  rcases hLabels.exists_labelled with ⟨ls, rfl⟩
  rcases hLabels'.exists_labelled with ⟨ls', rfl⟩
  rw [formatLabels_inj (mt (congrArg _) hLabels.some)
    (mt (congrArg _) hLabels'.some) hLabels.sorted
    hLabels'.sorted hSame]

theorem exists_text
    (p : Printable)
    (hLabels : SortedLabels labels) :
    ∃ text,
      (formatLabels p labels).toList = '\x7b' :: text := by
  rcases List.exists_cons_of_ne_nil hLabels.some with
    ⟨label, more, rfl⟩
  exact ⟨_, toList_formatLabels hLabels.sorted⟩

/- The labels stand on one line. -/
theorem notMem_text
    (p : Printable)
    (hLabels : SortedLabels labels) :
    '\n' ∉ (formatLabels p labels).toList := by
  rcases List.exists_cons_of_ne_nil hLabels.some with
    ⟨label, more, rfl⟩
  intro hMem
  rw [toList_formatLabels hLabels.sorted, List.mem_cons,
    List.mem_append] at hMem
  rcases hMem with hBrace | hLabel | hRest
  · cases hBrace
  · exact notMem_labelText
      (hLabels.names label (by simp)).2 hLabel
  · rcases Encoding.mem_rest hRest with
      hComma | hBrace | ⟨l, hLabel, hText⟩
    · cases hComma
    · cases hBrace
    · exact notMem_labelText
        (hLabels.names l (by simp [hLabel])).2 hText

/- A series is its metric and its labels. -/
theorem series_inj
    {name name' : String}
    (hName : '\x7b' ∉ name.toList)
    (hName' : '\x7b' ∉ name'.toList)
    (hLabels : SortedLabels labels)
    (hLabels' : SortedLabels labels')
    (hSame :
      name ++ formatLabels p labels =
        name' ++ formatLabels p labels') :
    name = name' ∧ labels = labels' := by
  rcases hLabels.exists_text p with ⟨text, hText⟩
  rcases hLabels'.exists_text p with ⟨text', hText'⟩
  have hChars := congrArg String.toList hSame
  rw [String.toList_append, String.toList_append, hText, hText']
    at hChars
  rcases Encoding.append_cons_inj hName hName' hChars with
    ⟨hNames, hRest⟩
  refine ⟨String.toList_inj.mp hNames, ?_⟩
  apply hLabels.inj hLabels' (p := p)
  rw [← String.toList_inj, hText, hText', hRest]

end SortedLabels

namespace BusinessRecord

/- The metrics that there are. -/
def metricNames : List String :=
  [ "app_order_create_total",
    "app_order_state_transition_total",
    "app_redis_inventory_prededuct_total",
    "app_redis_inventory_reservation_total",
    "app_redis_inventory_sync_total",
    "app_order_timeout_dead_letter_total",
    "app_inventory_reconcile_diff_total",
    "app_inventory_reconcile_autofix_total" ]

theorem name_mem
    (r : BusinessRecord) :
    r.name ∈ metricNames := by
  cases r <;> simp [name, metricNames]

/- A call as it is named on the page. -/
def seriesText
    (p : Printable)
    (r : BusinessRecord) : String :=
  r.name ++ formatLabels p r.labels

theorem sortedLabels
    (r : BusinessRecord) :
    SortedLabels r.labels := by
  have hAction : "action" ≤ "result" := by decide
  have hHandled : "handled" ≤ "reason" := by decide
  refine ⟨?_, ?_, ?_⟩
  all_goals cases r <;> simp [labels, hAction, hHandled]

theorem metricNames_spec :
    ∀ name ∈ metricNames,
      '\x7b' ∉ name.toList ∧ '\n' ∉ name.toList ∧
        ∃ rest, name.toList = 'a' :: rest := by
  have hChars :
      ∀ name ∈ metricNames,
        '\x7b' ∉ name.toList ∧ '\n' ∉ name.toList ∧
          name.toList.head? = some 'a' := by
    decide +kernel
  intro name hMem
  rcases hChars name hMem with ⟨hBrace, hLine, hHead⟩
  exact ⟨hBrace, hLine, List.head?_eq_some_iff.mp hHead⟩

/- Calls are named alike on the page if they count the
   same, and only then. -/
theorem seriesText_eq_iff
    {p : Printable}
    {r r' : BusinessRecord} :
    r.seriesText p = r'.seriesText p ↔ r.Same r' := by
  constructor
  · exact r.sortedLabels.series_inj
      (metricNames_spec _ r.name_mem).1
      (metricNames_spec _ r'.name_mem).1 r'.sortedLabels
  · rintro ⟨hName, hLabels⟩
    unfold seriesText
    rw [hName, hLabels]

theorem key_eq_iff
    {p : Printable}
    {r r' : BusinessRecord} :
    r.key p = r'.key p ↔ r.Same r' := by
  unfold key Same
  rw [BusinessMetricKey.mk.injEq]
  exact and_congr_right fun _ =>
    ⟨r.sortedLabels.inj r'.sortedLabels, congrArg _⟩

end BusinessRecord

------------------------------------------------------------
-- The Page Read Back
------------------------------------------------------------

/- A number is written in digits. -/
theorem isDigit_of_mem_toString
    {n : Nat}
    {c : Char}
    (hMem : c ∈ (toString n).toList) :
    c.isDigit = true := by
  have hDigits : (toString n).toList = Nat.toDigits 10 n := by
    change (Nat.repr n).toList = _
    simp [Nat.repr]
  rw [hDigits] at hMem
  exact Encoding.isDigit_of_mem_digits hMem

namespace BusinessMetrics

/- What a counter shows: a call that was made, and how often
   calls were made that count the same. -/
theorem sample_of_mem
    {p : Printable}
    {records : List BusinessRecord}
    {entries : List BusinessMetricSnapshot}
    (hRanges :
      GoMap.Ranges (recordAll p records) entries)
    {s : BusinessMetricSnapshot}
    (hMem : s ∈ entries) :
    ∃ r ∈ records,
      s.1 = r.key p ∧
        s.2.toNat =
          records.countP (fun r' => r'.Same r) % 2 ^ 64 := by
  rcases s with ⟨key, count⟩
  have hLookup := hRanges.mem_iff.mp hMem
  rw [lookup_recordAll] at hLookup
  split at hLookup
  case isFalse => cases hLookup
  case isTrue hKey =>
    cases hLookup
    rcases List.mem_map.mp hKey with ⟨r, hRecord, rfl⟩
    refine ⟨r, hRecord, rfl, ?_⟩
    simp only [BusinessRecord.key_eq_iff]
    exact UInt64.toNat_ofNat'

/- Every call is counted. -/
theorem mem_of_record
    {p : Printable}
    {records : List BusinessRecord}
    {entries : List BusinessMetricSnapshot}
    (hRanges :
      GoMap.Ranges (recordAll p records) entries)
    {r : BusinessRecord}
    (hRecord : r ∈ records) :
    ∃ s ∈ entries,
      s.1 = r.key p ∧
        s.2.toNat =
          records.countP (fun r' => r'.Same r) % 2 ^ 64 := by
  have hLookup := lookup_recordAll p records (r.key p)
  rw [if_pos (List.mem_map_of_mem hRecord)] at hLookup
  refine ⟨⟨r.key p, _⟩, hRanges.mem_iff.mpr hLookup, rfl, ?_⟩
  simp only [BusinessRecord.key_eq_iff]
  exact UInt64.toNat_ofNat'

theorem fits_renderLines
    {p : Printable}
    {snapshots : List BusinessMetricSnapshot}
    (hKeys :
      ∀ s ∈ snapshots, ∃ r : BusinessRecord, s.1 = r.key p)
    (currentMetric : String) :
    ∀ line ∈ renderLines currentMetric snapshots,
      line.Fits := by
  induction snapshots generalizing currentMetric with
  | nil => simp [renderLines]
  | cons s snapshots ih =>
      rcases hKeys s (by simp) with ⟨r, hKey⟩
      rcases BusinessRecord.metricNames_spec _ r.name_mem with
        ⟨_, hLine, rest, hHead⟩
      have hName : s.1.name = r.name := by rw [hKey]; rfl
      have hLabels : s.1.labels = formatLabels p r.labels := by
        rw [hKey]
        rfl
      intro line hMem
      unfold renderLines at hMem
      rw [List.mem_append, List.mem_cons] at hMem
      rcases hMem with hComment | rfl | hMore
      · split at hComment
        case isTrue =>
          rw [List.mem_cons, List.mem_singleton] at hComment
          rcases hComment with rfl | rfl
          · refine .comment ?_
            rw [hName]
            simp [String.toList_append, hLine]
          · refine .comment ?_
            rw [hName]
            simp [String.toList_append, hLine]
        case isFalse => cases hComment
      · unfold BusinessMetricSnapshot.sample
        rw [hName, hLabels]
        refine .sample ?_ ?_ ⟨'a', ?_⟩ ?_
        · rw [String.toList_append, List.mem_append]
          exact not_or.mpr
            ⟨hLine, r.sortedLabels.notMem_text p⟩
        · exact fun hDigit =>
            absurd (isDigit_of_mem_toString hDigit) (by decide)
        · rw [String.toList_append, hHead]
          exact ⟨_, rfl, by decide⟩
        · exact fun hDigit =>
            absurd (isDigit_of_mem_toString hDigit) (by decide)
      · exact ih (fun t hHere => hKeys t (by simp [hHere])) _
          line hMore

/- The samples of the page are the calls that were made. -/
theorem mem_samples_iff
    {p : Printable}
    {records : List BusinessRecord}
    {entries : List BusinessMetricSnapshot}
    (hRanges :
      GoMap.Ranges (recordAll p records) entries)
    {sample : String × String} :
    sample ∈
        (snapshot entries).map BusinessMetricSnapshot.sample ↔
      ∃ r ∈ records,
        sample =
          (r.seriesText p,
            toString
              (records.countP (fun r' => r'.Same r) %
                2 ^ 64)) := by
  have hSample
      {s : BusinessMetricSnapshot}
      {r : BusinessRecord}
      (hKey : s.1 = r.key p)
      (hCount :
        s.2.toNat =
          records.countP (fun r' => r'.Same r) % 2 ^ 64) :
      s.sample =
        (r.seriesText p,
          toString
            (records.countP (fun r' => r'.Same r) %
              2 ^ 64)) := by
    rw [BusinessMetricSnapshot.sample, hKey, hCount]
    rfl
  rw [List.mem_map]
  constructor
  · rintro ⟨s, hMem, rfl⟩
    rcases sample_of_mem hRanges
        ((List.mem_insertionSort _).mp hMem) with
      ⟨r, hRecord, hKey, hCount⟩
    exact ⟨r, hRecord, hSample hKey hCount⟩
  · rintro ⟨r, hRecord, rfl⟩
    rcases mem_of_record hRanges hRecord with
      ⟨s, hMem, hKey, hCount⟩
    exact ⟨s, (List.mem_insertionSort _).mpr hMem,
      hSample hKey hCount⟩

/- No series stands twice. -/
theorem nodup_series
    {p : Printable}
    {records : List BusinessRecord}
    {entries : List BusinessMetricSnapshot}
    (hRanges :
      GoMap.Ranges (recordAll p records) entries) :
    ((snapshot entries).map fun s => s.sample.1).Nodup := by
  have hPerm :
      (snapshot entries).Perm entries :=
    List.perm_insertionSort _ _
  rw [(hPerm.map _).nodup_iff]
  apply List.Nodup.map_on
  · intro s hMem s' hMem' hSame
    rcases sample_of_mem hRanges hMem with ⟨r, _, hKey, _⟩
    rcases sample_of_mem hRanges hMem' with ⟨r', _, hKey', _⟩
    apply List.inj_on_of_nodup_map hRanges.nodup_keys hMem
      hMem'
    rw [hKey, hKey', BusinessRecord.key_eq_iff,
      ← BusinessRecord.seriesText_eq_iff (p := p)]
    unfold BusinessMetricSnapshot.sample at hSame
    rw [hKey, hKey'] at hSame
    exact hSame
  · exact hRanges.nodup_keys.of_map _

/- The page does not depend on the loop over the map. -/
theorem snapshot_eq
    {m : BusinessMetrics}
    {entries entries' : List BusinessMetricSnapshot}
    (hRanges : GoMap.Ranges m entries)
    (hRanges' : GoMap.Ranges m entries') :
    snapshot entries = snapshot entries' := by
  have hRank :
      Function.Injective
        fun key : BusinessMetricKey =>
          toLex (key.name, key.labels) := by
    rintro ⟨name, labels⟩ ⟨name', labels'⟩ hSame
    cases hSame
    rfl
  have hLess
      (a b : BusinessMetricSnapshot) :
      a.less b ↔
        toLex (a.1.name, a.1.labels) <
          toLex (b.1.name, b.1.labels) := by
    rw [BusinessMetricSnapshot.less, Prod.Lex.toLex_lt_toLex]
    by_cases hName : a.1.name = b.1.name
    · simp [hName]
    · simp [hName]
  exact hRanges.insertionSort_eq hRank hLess hRanges'

/- The page is read back as the sorted counters. -/
theorem scrape_renderPrometheus
    {p : Printable}
    {records : List BusinessRecord}
    {entries : List BusinessMetricSnapshot}
    (hRanges :
      GoMap.Ranges (recordAll p records) entries) :
    scrape (renderPrometheus entries) =
      (snapshot entries).map BusinessMetricSnapshot.sample := by
  have hKeys :
      ∀ s ∈ snapshot entries,
        ∃ r : BusinessRecord, s.1 = r.key p := by
    intro s hMem
    rcases sample_of_mem hRanges
      ((List.mem_insertionSort _).mp hMem) with ⟨r, _, hKey, _⟩
    exact ⟨r, hKey⟩
  rw [renderPrometheus_eq, scrape_render
    (fits_renderLines hKeys ""), samples_renderLines]

end BusinessMetrics

end OrderManagement
