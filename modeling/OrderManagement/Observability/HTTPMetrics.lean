import OrderManagement.Observability.BusinessMetrics

/-
  The request counters of `http_metrics.go`, and the page of
  all metrics. Sums of durations are floating point numbers,
  which are a parameter.

  Main declarations:
    * `HTTPMetrics` and `HTTPMetrics.recordAll`
    * `HTTPMetrics.renderLines`
    * `Metrics.renderPrometheus`
    * `Shown` and `metrics_page_exact`
-/

namespace OrderManagement

open Exposition

------------------------------------------------------------
-- Counters
------------------------------------------------------------

/- What is used of the floating point numbers: a text with
   the verb %.6f has no blank, and no end of line. -/
structure Seconds
    (F : Type) where
  zero : F
  add : F → F → F
  ofDuration : Time → F
  fixed6 : F → String
  plain : ∀ x, ∀ c ∈ (fixed6 x).toList, c ≠ ' ' ∧ c ≠ '\n'

structure HTTPMetricKey where
  method : String
  route : String
  status : Int
deriving DecidableEq

structure HTTPMetricStats
    (F : Type) where
  count : UInt64
  durationSecondsSum : F

abbrev HTTPMetrics
    (F : Type) :=
  GoMap HTTPMetricKey (HTTPMetricStats F)

/- A call of `Record`. -/
structure HTTPRecord where
  method : String
  route : String
  status : Int
  duration : Time
deriving DecidableEq

def HTTPRecord.key
    (r : HTTPRecord) : HTTPMetricKey where
  method := r.method
  route :=
    let route := ProductService.trimSpace r.route
    if route = "" then "unmatched" else route
  status := r.status

namespace HTTPMetrics

variable {F : Type} (f : Seconds F)

def record
    (m : HTTPMetrics F)
    (r : HTTPRecord) : HTTPMetrics F :=
  let stats := GoMap.getD m r.key ⟨0, f.zero⟩
  m.insert r.key
    ⟨stats.count + 1,
      f.add stats.durationSecondsSum (f.ofDuration r.duration)⟩

/- The counters after calls in the order of the lock. -/
def recordAll
    (records : List HTTPRecord) : HTTPMetrics F :=
  records.foldl (record f) ∅

/- How often a key was counted, on 64 bits, and the sum of
   its durations in the order of the calls. -/
def statsOf
    (records : List HTTPRecord)
    (key : HTTPMetricKey) : HTTPMetricStats F where
  count := UInt64.ofNat (records.countP fun r => r.key = key)
  durationSecondsSum :=
    ((records.filter fun r => r.key = key).map fun r =>
      f.ofDuration r.duration).foldl f.add f.zero

theorem lookup_recordAll
    (records : List HTTPRecord)
    (key : HTTPMetricKey) :
    Finmap.lookup key (recordAll f records) =
      if key ∈ records.map HTTPRecord.key then
        some (statsOf f records key)
      else
        none := by
  induction records using List.reverseRecOn with
  | nil => rfl
  | append_singleton records r ih =>
      have hLast :
          recordAll f (records ++ [r]) =
            record f (recordAll f records) r :=
        List.foldl_concat _ _ _ _
      rw [hLast, record]
      by_cases hKey : r.key = key
      · subst hKey
        have hAll :
            r.key ∈ (records ++ [r]).map HTTPRecord.key := by
          simp
        rw [Finmap.lookup_insert, GoMap.getD, ih, if_pos hAll]
        by_cases hMem : r.key ∈ records.map HTTPRecord.key
        · rw [if_pos hMem]
          simp [statsOf, UInt64.ofNat_add]
        · have hNone :
              records.filter
                (fun r' => r'.key = r.key) = [] := by
            rw [List.filter_eq_nil_iff]
            intro r' hHere
            rw [decide_eq_true_eq]
            intro hSame
            exact hMem (hSame ▸ List.mem_map_of_mem hHere)
          rw [if_neg hMem]
          simp [statsOf, List.countP_eq_length_filter, hNone]
      · rw [Finmap.lookup_insert_of_ne _ (Ne.symm hKey), ih]
        simp [hKey, Ne.symm hKey, statsOf]

end HTTPMetrics

------------------------------------------------------------
-- The Page
------------------------------------------------------------

abbrev HTTPMetricSnapshot
    (F : Type) :=
  Σ _ : HTTPMetricKey, HTTPMetricStats F

namespace HTTPMetricKey

/- The comparison that the snapshots are sorted with. -/
def less
    (a b : HTTPMetricKey) : Prop :=
  if a.method ≠ b.method then a.method < b.method
  else if a.route ≠ b.route then a.route < b.route
  else a.status < b.status

instance
    (a b : HTTPMetricKey) :
    Decidable (less a b) := by
  unfold less
  infer_instance

def seriesText
    (p : Printable)
    (name : String)
    (key : HTTPMetricKey) : String :=
  name ++ "\x7bmethod=" ++ Quote.quote p.isPrint key.method ++
    ",route=" ++ Quote.quote p.isPrint key.route ++
    ",status=" ++
      Quote.quote p.isPrint (toString key.status) ++ "\x7d"

def labels
    (key : HTTPMetricKey) : List (String × String) :=
  [ ("method", key.method), ("route", key.route),
    ("status", toString key.status) ]

theorem sortedLabels
    (key : HTTPMetricKey) :
    SortedLabels key.labels := by
  have hRoute : "method" ≤ "route" := by decide
  have hStatus : "method" ≤ "status" := by decide
  have hLast : "route" ≤ "status" := by decide
  refine ⟨?_, ?_, ?_⟩
  all_goals simp [labels, hRoute, hStatus, hLast]

theorem seriesText_eq
    (p : Printable)
    (name : String)
    (key : HTTPMetricKey) :
    key.seriesText p name =
      name ++ formatLabels p key.labels := by
  have hMethod :
      "\x7bmethod=".toList =
        '\x7b' :: ("method".toList ++ ['=']) := by
    decide
  have hRoute :
      ",route=".toList = ',' :: ("route".toList ++ ['=']) := by
    decide
  have hStatus :
      ",status=".toList =
        ',' :: ("status".toList ++ ['=']) := by
    decide
  have hClose : "\x7d".toList = ['\x7d'] := by decide
  rw [← String.toList_inj, String.toList_append, labels,
    toList_formatLabels key.sortedLabels.sorted]
  unfold seriesText
  simp only [String.toList_append, hMethod, hRoute, hStatus,
    hClose, labelText, Encoding.rest, List.append_assoc,
    List.cons_append, List.nil_append]

theorem labels_injective :
    Function.Injective labels := by
  rintro ⟨method, route, status⟩ ⟨method', route', status'⟩
    hSame
  simp only [labels, List.cons.injEq, Prod.mk.injEq, true_and,
    and_true] at hSame
  rcases hSame with ⟨rfl, rfl, hStatus⟩
  rw [Encoding.decimal_injective (congrArg String.toList hStatus)]

end HTTPMetricKey

namespace HTTPMetrics

variable {F : Type} (f : Seconds F)

def snapshot
    (entries : List (HTTPMetricSnapshot F)) :
    List (HTTPMetricSnapshot F) :=
  entries.insertionSort fun a b => ¬ b.1.less a.1

/- The lines of one of the three metrics. -/
def block
    (p : Printable)
    (name help : String)
    (value : HTTPMetricStats F → String)
    (snapshots : List (HTTPMetricSnapshot F)) : List Line :=
  .comment ("HELP " ++ name ++ " " ++ help) ::
    .comment ("TYPE " ++ name ++ " counter") ::
      snapshots.map fun s =>
        .sample (s.1.seriesText p name) (value s.2)

def renderLines
    (p : Printable)
    (entries : List (HTTPMetricSnapshot F)) : List Line :=
  let snapshots := snapshot entries
  block p "app_http_requests_total"
      "Total HTTP requests by method, route and status."
      (fun stats => toString stats.count.toNat) snapshots ++
    block p "app_http_request_duration_seconds_sum"
      ("Total HTTP request duration in seconds by method, " ++
        "route and status.")
      (fun stats => f.fixed6 stats.durationSecondsSum)
      snapshots ++
    block p "app_http_request_duration_seconds_count"
      ("HTTP request duration sample count by method, " ++
        "route and status.")
      (fun stats => toString stats.count.toNat) snapshots

def renderPrometheus
    (p : Printable)
    (entries : List (HTTPMetricSnapshot F)) : String :=
  render (renderLines f p entries)

end HTTPMetrics

/- `Metrics.RenderPrometheus`. -/
def Metrics.renderPrometheus
    {F : Type}
    (f : Seconds F)
    (p : Printable)
    (http : List (HTTPMetricSnapshot F))
    (business : List BusinessMetricSnapshot) : String :=
  HTTPMetrics.renderPrometheus f p http ++
    BusinessMetrics.renderPrometheus business

------------------------------------------------------------
-- One Metric
------------------------------------------------------------

namespace HTTPMetrics

variable {F : Type} {f : Seconds F} {p : Printable}

/- The series of a metric with their values. -/
def blockSamples
    (p : Printable)
    (name : String)
    (value : HTTPMetricStats F → String)
    (snapshots : List (HTTPMetricSnapshot F)) :
    List (String × String) :=
  snapshots.map fun s => (s.1.seriesText p name, value s.2)

theorem samples_block
    (name help : String)
    (value : HTTPMetricStats F → String)
    (snapshots : List (HTTPMetricSnapshot F)) :
    samples (block p name help value snapshots) =
      blockSamples p name value snapshots := by
  unfold block samples blockSamples
  rw [List.filterMap_cons, List.filterMap_cons,
    List.filterMap_map]
  exact congrFun List.filterMap_eq_map snapshots

/- The lines of a metric can be read back. -/
theorem fits_block
    {name help : String}
    (hName :
      '\n' ∉ name.toList ∧
        ∃ rest, name.toList = 'a' :: rest)
    (hHelp : '\n' ∉ help.toList)
    {value : HTTPMetricStats F → String}
    (hValue :
      ∀ stats, ∀ c ∈ (value stats).toList,
        c ≠ ' ' ∧ c ≠ '\n')
    (snapshots : List (HTTPMetricSnapshot F)) :
    ∀ line ∈ block p name help value snapshots,
      line.Fits := by
  rcases hName with ⟨hLine, rest, hHead⟩
  intro line hMem
  unfold block at hMem
  rw [List.mem_cons, List.mem_cons, List.mem_map] at hMem
  rcases hMem with rfl | rfl | ⟨s, _, rfl⟩
  · refine .comment ?_
    simp [String.toList_append, hLine, hHelp]
  · refine .comment ?_
    simp [String.toList_append, hLine]
  · rw [HTTPMetricKey.seriesText_eq]
    refine .sample ?_ ?_ ⟨'a', ?_⟩ ?_
    · rw [String.toList_append, List.mem_append]
      exact not_or.mpr
        ⟨hLine, s.1.sortedLabels.notMem_text p⟩
    · exact fun hMem => (hValue _ _ hMem).2 rfl
    · rw [String.toList_append, hHead]
      exact ⟨_, rfl, by decide⟩
    · exact fun hMem => (hValue _ _ hMem).1 rfl

theorem plain_count
    (n : Nat) :
    ∀ c ∈ (toString n).toList, c ≠ ' ' ∧ c ≠ '\n' := by
  intro c hMem
  have hDigit := isDigit_of_mem_toString hMem
  constructor
  · rintro rfl
    revert hDigit
    decide
  · rintro rfl
    revert hDigit
    decide

variable
    {records : List HTTPRecord}
    {entries : List (HTTPMetricSnapshot F)}

/- Every call has its entry, and no entry is without one. -/
theorem mem_entries_iff
    (hRanges :
      GoMap.Ranges (recordAll f records) entries)
    {s : HTTPMetricSnapshot F} :
    s ∈ entries ↔
      ∃ r ∈ records, s = ⟨r.key, statsOf f records r.key⟩ := by
  rcases s with ⟨key, stats⟩
  rw [hRanges.mem_iff, lookup_recordAll]
  constructor
  · intro hLookup
    split at hLookup
    case isFalse => cases hLookup
    case isTrue hKey =>
      rcases List.mem_map.mp hKey with ⟨r, hMem, rfl⟩
      cases hLookup
      exact ⟨r, hMem, rfl⟩
  · rintro ⟨r, hMem, hSame⟩
    cases hSame
    rw [if_pos (List.mem_map_of_mem hMem)]

theorem mem_blockSamples
    (hRanges :
      GoMap.Ranges (recordAll f records) entries)
    {name : String}
    {value : HTTPMetricStats F → String}
    {sample : String × String} :
    sample ∈ blockSamples p name value (snapshot entries) ↔
      ∃ r ∈ records,
        sample =
          (r.key.seriesText p name,
            value (statsOf f records r.key)) := by
  unfold blockSamples snapshot
  rw [List.mem_map]
  constructor
  · rintro ⟨s, hMem, rfl⟩
    rw [List.mem_insertionSort, mem_entries_iff hRanges] at hMem
    rcases hMem with ⟨r, hRecord, rfl⟩
    exact ⟨r, hRecord, rfl⟩
  · rintro ⟨r, hRecord, rfl⟩
    refine ⟨⟨r.key, statsOf f records r.key⟩, ?_, rfl⟩
    rw [List.mem_insertionSort, mem_entries_iff hRanges]
    exact ⟨r, hRecord, rfl⟩

/- A metric shows a series once. -/
theorem nodup_block
    (hRanges :
      GoMap.Ranges (recordAll f records) entries)
    {name : String}
    (hName : '\x7b' ∉ name.toList)
    (value : HTTPMetricStats F → String) :
    ((blockSamples p name value (snapshot entries)).map
      Prod.fst).Nodup := by
  have hPerm :
      (snapshot entries).Perm entries :=
    List.perm_insertionSort _ _
  have hKeys :
      ((snapshot entries).map Sigma.fst).Nodup :=
    ((hPerm.map _).nodup_iff).mpr hRanges.nodup_keys
  unfold blockSamples
  rw [List.map_map]
  apply List.Nodup.map_on _ (hKeys.of_map _)
  intro s hMem s' hMem' hSame
  apply List.inj_on_of_nodup_map hKeys hMem hMem'
  rw [Function.comp_apply, Function.comp_apply,
    HTTPMetricKey.seriesText_eq,
    HTTPMetricKey.seriesText_eq] at hSame
  exact HTTPMetricKey.labels_injective
    (s.1.sortedLabels.series_inj hName hName s'.1.sortedLabels
      hSame).2

/- The page does not depend on the loop over the map. -/
theorem snapshot_eq
    {m : HTTPMetrics F}
    {entries' : List (HTTPMetricSnapshot F)}
    (hRanges : GoMap.Ranges m entries)
    (hRanges' : GoMap.Ranges m entries') :
    snapshot entries = snapshot entries' := by
  have hRank :
      Function.Injective
        fun key : HTTPMetricKey =>
          toLex (key.method, toLex (key.route, key.status)) := by
    rintro ⟨method, route, status⟩ ⟨method', route', status'⟩
      hSame
    cases hSame
    rfl
  have hLess
      (a b : HTTPMetricSnapshot F) :
      a.1.less b.1 ↔
        toLex (a.1.method, toLex (a.1.route, a.1.status)) <
          toLex (b.1.method,
            toLex (b.1.route, b.1.status)) := by
    rw [HTTPMetricKey.less, Prod.Lex.toLex_lt_toLex,
      Prod.Lex.toLex_lt_toLex]
    by_cases hMethod : a.1.method = b.1.method
    · by_cases hRoute : a.1.route = b.1.route
      · simp [hMethod, hRoute]
      · simp [hMethod, hRoute]
    · simp [hMethod]
  exact hRanges.insertionSort_eq hRank hLess hRanges'

end HTTPMetrics

------------------------------------------------------------
-- The Page Read Back
------------------------------------------------------------

/- What the page has to show after the calls: for every call
   how many calls had its key, their durations, and how many
   calls counted the same event. -/
inductive Shown
    {F : Type}
    (f : Seconds F)
    (p : Printable)
    (requests : List HTTPRecord)
    (calls : List BusinessRecord) : String × String → Prop
| requestsTotal
    {r : HTTPRecord}
    (hMem : r ∈ requests) :
    Shown f p requests calls
      ( r.key.seriesText p "app_http_requests_total",
        toString
          (requests.countP (fun r' => r'.key = r.key) %
            2 ^ 64) )
| durationSum
    {r : HTTPRecord}
    (hMem : r ∈ requests) :
    Shown f p requests calls
      ( r.key.seriesText p
          "app_http_request_duration_seconds_sum",
        f.fixed6
          (((requests.filter fun r' => r'.key = r.key).map
            fun r' => f.ofDuration r'.duration).foldl f.add
              f.zero) )
| durationCount
    {r : HTTPRecord}
    (hMem : r ∈ requests) :
    Shown f p requests calls
      ( r.key.seriesText p
          "app_http_request_duration_seconds_count",
        toString
          (requests.countP (fun r' => r'.key = r.key) %
            2 ^ 64) )
| business
    {r : BusinessRecord}
    (hMem : r ∈ calls) :
    Shown f p requests calls
      ( r.seriesText p,
        toString
          (calls.countP (fun r' => r'.Same r) % 2 ^ 64) )

namespace Metrics

variable
    {F : Type}
    {f : Seconds F}
    {p : Printable}
    {requests : List HTTPRecord}
    {calls : List BusinessRecord}
    {http : List (HTTPMetricSnapshot F)}
    {business : List BusinessMetricSnapshot}

/- The samples of the page, metric after metric. -/
def pageSamples
    (f : Seconds F)
    (p : Printable)
    (http : List (HTTPMetricSnapshot F))
    (business : List BusinessMetricSnapshot) :
    List (String × String) :=
  HTTPMetrics.blockSamples p "app_http_requests_total"
      (fun stats => toString stats.count.toNat)
      (HTTPMetrics.snapshot http) ++
    HTTPMetrics.blockSamples p
      "app_http_request_duration_seconds_sum"
      (fun stats => f.fixed6 stats.durationSecondsSum)
      (HTTPMetrics.snapshot http) ++
    HTTPMetrics.blockSamples p
      "app_http_request_duration_seconds_count"
      (fun stats => toString stats.count.toNat)
      (HTTPMetrics.snapshot http) ++
    (BusinessMetrics.snapshot business).map
      BusinessMetricSnapshot.sample

/- The metrics of requests. -/
def httpMetricNames : List String :=
  [ "app_http_requests_total",
    "app_http_request_duration_seconds_sum",
    "app_http_request_duration_seconds_count" ]

theorem httpMetricNames_spec :
    ∀ name ∈ httpMetricNames,
      '\x7b' ∉ name.toList ∧ '\n' ∉ name.toList ∧
        ∃ rest, name.toList = 'a' :: rest := by
  have hChars :
      ∀ name ∈ httpMetricNames,
        '\x7b' ∉ name.toList ∧ '\n' ∉ name.toList ∧
          name.toList.head? = some 'a' := by
    decide +kernel
  intro name hMem
  rcases hChars name hMem with ⟨hBrace, hLine, hHead⟩
  exact ⟨hBrace, hLine, List.head?_eq_some_iff.mp hHead⟩

theorem fits_renderLines
    (entries : List (HTTPMetricSnapshot F)) :
    ∀ line ∈ HTTPMetrics.renderLines f p entries,
      line.Fits := by
  have hName
      {name : String}
      (hMem : name ∈ httpMetricNames) :
      '\n' ∉ name.toList ∧
        ∃ rest, name.toList = 'a' :: rest :=
    (httpMetricNames_spec name hMem).2
  intro line hMem
  unfold HTTPMetrics.renderLines at hMem
  rw [List.mem_append, List.mem_append] at hMem
  rcases hMem with (hTotal | hSum) | hCount
  · exact HTTPMetrics.fits_block (hName (by decide))
      (by decide) (fun stats => HTTPMetrics.plain_count _) _
      line hTotal
  · exact HTTPMetrics.fits_block (hName (by decide))
      (by decide) (fun stats => f.plain _) _ line hSum
  · exact HTTPMetrics.fits_block (hName (by decide))
      (by decide) (fun stats => HTTPMetrics.plain_count _) _
      line hCount

/- The whole page is read back. -/
theorem scrape_renderPrometheus
    (hBusiness :
      GoMap.Ranges (BusinessMetrics.recordAll p calls)
        business) :
    scrape (renderPrometheus f p http business) =
      pageSamples f p http business := by
  have hSplit
      (lines lines' : List Line) :
      samples (lines ++ lines') =
        samples lines ++ samples lines' :=
    List.filterMap_append
  unfold renderPrometheus HTTPMetrics.renderPrometheus
  rw [scrape_append (fits_renderLines http),
    BusinessMetrics.scrape_renderPrometheus hBusiness]
  unfold HTTPMetrics.renderLines pageSamples
  rw [hSplit, hSplit, HTTPMetrics.samples_block,
    HTTPMetrics.samples_block, HTTPMetrics.samples_block]

theorem mem_pageSamples
    (hHTTP :
      GoMap.Ranges (HTTPMetrics.recordAll f requests) http)
    (hBusiness :
      GoMap.Ranges (BusinessMetrics.recordAll p calls)
        business)
    (sample : String × String) :
    sample ∈ pageSamples f p http business ↔
      Shown f p requests calls sample := by
  have hCount
      (r : HTTPRecord) :
      (HTTPMetrics.statsOf f requests r.key).count.toNat =
        requests.countP (fun r' => r'.key = r.key) % 2 ^ 64 :=
    UInt64.toNat_ofNat'
  unfold pageSamples
  rw [List.mem_append, List.mem_append, List.mem_append,
    HTTPMetrics.mem_blockSamples hHTTP,
    HTTPMetrics.mem_blockSamples hHTTP,
    HTTPMetrics.mem_blockSamples hHTTP,
    BusinessMetrics.mem_samples_iff hBusiness]
  constructor
  · rintro (((⟨r, hMem, rfl⟩ | ⟨r, hMem, rfl⟩) |
      ⟨r, hMem, rfl⟩) | ⟨r, hMem, rfl⟩)
    · rw [hCount]
      exact .requestsTotal hMem
    · exact .durationSum hMem
    · rw [hCount]
      exact .durationCount hMem
    · exact .business hMem
  · intro hShown
    cases hShown with
    | @requestsTotal r hMem =>
        refine .inl (.inl (.inl ⟨r, hMem, ?_⟩))
        rw [hCount]
    | @durationSum r hMem =>
        exact .inl (.inl (.inr ⟨r, hMem, rfl⟩))
    | @durationCount r hMem =>
        refine .inl (.inr ⟨r, hMem, ?_⟩)
        rw [hCount]
    | @business r hMem =>
        exact .inr ⟨r, hMem, rfl⟩

/- Series that stand once each, under some metrics. -/
structure Under
    (p : Printable)
    (names : List String)
    (series : List String) : Prop where
  nodup : series.Nodup
  braces : ∀ name ∈ names, '\x7b' ∉ name.toList
  named :
    ∀ s ∈ series, ∃ name ∈ names, ∃ labels,
      SortedLabels labels ∧ s = name ++ formatLabels p labels

/- Different metrics have different series. -/
theorem Under.append
    {names names' series series' : List String}
    (hUnder : Under p names series)
    (hUnder' : Under p names' series')
    (hApart : ∀ name ∈ names, name ∉ names') :
    Under p (names ++ names') (series ++ series') := by
  refine ⟨?_, ?_, ?_⟩
  · apply hUnder.nodup.append hUnder'.nodup
    intro s hMem hMem'
    rcases hUnder.named s hMem with
      ⟨name, hName, labels, hLabels, rfl⟩
    rcases hUnder'.named _ hMem' with
      ⟨name', hName', labels', hLabels', hSame⟩
    rcases hLabels.series_inj (hUnder.braces name hName)
      (hUnder'.braces name' hName') hLabels' hSame with
      ⟨rfl, _⟩
    exact hApart name hName hName'
  · intro name hMem
    rcases List.mem_append.mp hMem with hName | hName
    · exact hUnder.braces name hName
    · exact hUnder'.braces name hName
  · intro s hMem
    rcases List.mem_append.mp hMem with hHere | hHere
    · rcases hUnder.named s hHere with ⟨name, hName, hMore⟩
      exact ⟨name, List.mem_append_left _ hName, hMore⟩
    · rcases hUnder'.named s hHere with ⟨name, hName, hMore⟩
      exact ⟨name, List.mem_append_right _ hName, hMore⟩

theorem under_block
    (hHTTP :
      GoMap.Ranges (HTTPMetrics.recordAll f requests) http)
    {name : String}
    (hName : '\x7b' ∉ name.toList)
    (value : HTTPMetricStats F → String) :
    Under p [name]
      ((HTTPMetrics.blockSamples p name value
        (HTTPMetrics.snapshot http)).map Prod.fst) where
  nodup := HTTPMetrics.nodup_block hHTTP hName value
  braces := by simpa using hName
  named := by
    intro s hMem
    unfold HTTPMetrics.blockSamples at hMem
    rw [List.map_map, List.mem_map] at hMem
    rcases hMem with ⟨t, _, rfl⟩
    exact ⟨name, List.mem_singleton_self _, t.1.labels,
      t.1.sortedLabels, t.1.seriesText_eq p name⟩

theorem under_business
    (hBusiness :
      GoMap.Ranges (BusinessMetrics.recordAll p calls)
        business) :
    Under p BusinessRecord.metricNames
      (((BusinessMetrics.snapshot business).map
        BusinessMetricSnapshot.sample).map Prod.fst) where
  nodup := by
    rw [List.map_map]
    exact BusinessMetrics.nodup_series hBusiness
  braces := fun name hMem =>
    (BusinessRecord.metricNames_spec name hMem).1
  named := by
    intro s hMem
    rcases List.mem_map.mp hMem with ⟨sample, hSample, rfl⟩
    rcases (BusinessMetrics.mem_samples_iff hBusiness).mp
      hSample with ⟨r, _, rfl⟩
    exact ⟨r.name, r.name_mem, r.labels, r.sortedLabels, rfl⟩

/- No series stands twice on the page. -/
theorem nodup_pageSamples
    (hHTTP :
      GoMap.Ranges (HTTPMetrics.recordAll f requests) http)
    (hBusiness :
      GoMap.Ranges (BusinessMetrics.recordAll p calls)
        business) :
    ((pageSamples f p http business).map Prod.fst).Nodup := by
  have hName
      {name : String}
      (hMem : name ∈ httpMetricNames) :
      '\x7b' ∉ name.toList :=
    (httpMetricNames_spec name hMem).1
  have hTotal :=
    under_block (p := p) hHTTP (hName (List.mem_cons_self ..))
      fun stats => toString stats.count.toNat
  have hSum :=
    under_block (p := p) hHTTP
      (hName (List.mem_cons_of_mem _ (List.mem_cons_self ..)))
      fun stats => f.fixed6 stats.durationSecondsSum
  have hCount :=
    under_block (p := p) hHTTP
      (hName (List.mem_cons_of_mem _
        (List.mem_cons_of_mem _ (List.mem_cons_self ..))))
      fun stats => toString stats.count.toNat
  unfold pageSamples
  rw [List.map_append, List.map_append, List.map_append]
  exact (((hTotal.append hSum (by decide)).append hCount
    (by decide)).append (under_business hBusiness)
    (by decide)).nodup

theorem httpMetricNames_apart :
    ∀ name ∈ httpMetricNames,
      name ∉ BusinessRecord.metricNames := by
  decide

/- The page counts the calls that are like a given one. -/
theorem valueOf_renderPrometheus
    (hHTTP :
      GoMap.Ranges (HTTPMetrics.recordAll f requests) http)
    (hBusiness :
      GoMap.Ranges (BusinessMetrics.recordAll p calls)
        business)
    (r : BusinessRecord) :
    valueOf (scrape (renderPrometheus f p http business))
        (r.seriesText p) =
      calls.countP (fun r' => r'.Same r) % 2 ^ 64 := by
  have hPage := mem_pageSamples hHTTP hBusiness
  have hCount
      {r' : BusinessRecord}
      (hSame : r'.Same r) :
      calls.countP (fun c => c.Same r') =
        calls.countP fun c => c.Same r := by
    rcases hSame with ⟨hName, hLabels⟩
    simp only [BusinessRecord.Same, hName, hLabels]
  have hOther
      {name : String}
      (hName : name ∈ httpMetricNames)
      (r' : HTTPRecord) :
      r'.key.seriesText p name ≠ r.seriesText p := by
    rw [HTTPMetricKey.seriesText_eq]
    intro hSame
    rcases r'.key.sortedLabels.series_inj
        (httpMetricNames_spec name hName).1
        (BusinessRecord.metricNames_spec _ r.name_mem).1
        r.sortedLabels hSame with
      ⟨rfl, _⟩
    exact httpMetricNames_apart _ hName r.name_mem
  rw [scrape_renderPrometheus hBusiness]
  apply valueOf_eq
  · by_cases hNone : calls.countP (fun c => c.Same r) = 0
    · rw [hNone]
      exact Or.inl rfl
    · rcases List.countP_pos_iff.mp (Nat.pos_of_ne_zero hNone)
        with ⟨r', hMem, hSame⟩
      rw [decide_eq_true_eq] at hSame
      rw [← BusinessRecord.seriesText_eq_iff.mpr hSame,
        ← hCount hSame]
      exact Or.inr ((hPage _).mpr (.business hMem))
  · intro sample hMem hSeries
    have hShown := (hPage sample).mp hMem
    cases hShown with
    | requestsTotal =>
        exact absurd hSeries (hOther (by decide) _)
    | durationSum =>
        exact absurd hSeries (hOther (by decide) _)
    | durationCount =>
        exact absurd hSeries (hOther (by decide) _)
    | business hCall =>
        rw [hCount (BusinessRecord.seriesText_eq_iff.mp
          hSeries)]

end Metrics

/- For calls in any order of the locks and any loops over the
   maps, the page has what the calls make of it and nothing
   else, each series once, and its text does not depend on
   the loops. -/
theorem metrics_page_exact
    {F : Type}
    (f : Seconds F)
    (p : Printable)
    (requests : List HTTPRecord)
    (calls : List BusinessRecord)
    (http : List (HTTPMetricSnapshot F))
    (business : List BusinessMetricSnapshot)
    (hHTTP :
      GoMap.Ranges (HTTPMetrics.recordAll f requests) http)
    (hBusiness :
      GoMap.Ranges (BusinessMetrics.recordAll p calls)
        business) :
    let page :=
      scrape (Metrics.renderPrometheus f p http business)
    (∀ sample, sample ∈ page ↔
        Shown f p requests calls sample) ∧
      (page.map Prod.fst).Nodup ∧
      ∀ http' business',
        GoMap.Ranges (HTTPMetrics.recordAll f requests) http' →
        GoMap.Ranges (BusinessMetrics.recordAll p calls)
          business' →
        Metrics.renderPrometheus f p http' business' =
          Metrics.renderPrometheus f p http business := by
  intro page
  have hPage :
      page = Metrics.pageSamples f p http business :=
    Metrics.scrape_renderPrometheus hBusiness
  refine ⟨?_, ?_, ?_⟩
  · rw [hPage]
    exact Metrics.mem_pageSamples hHTTP hBusiness
  · rw [hPage]
    exact Metrics.nodup_pageSamples hHTTP hBusiness
  · intro http' business' hHTTP' hBusiness'
    have hRequests :
        HTTPMetrics.renderPrometheus f p http' =
          HTTPMetrics.renderPrometheus f p http := by
      unfold HTTPMetrics.renderPrometheus
      unfold HTTPMetrics.renderLines
      rw [HTTPMetrics.snapshot_eq hHTTP' hHTTP]
    have hCalls :
        BusinessMetrics.renderPrometheus business' =
          BusinessMetrics.renderPrometheus business := by
      unfold BusinessMetrics.renderPrometheus
      rw [BusinessMetrics.snapshot_eq hBusiness' hBusiness]
    unfold Metrics.renderPrometheus
    rw [hRequests, hCalls]

/- A number of microseconds in seconds, with six places. -/
def microsText
    (n : Nat) : String :=
  toString (n / 1000000) ++ "." ++
    String.ofList
      (toString (1000000 + n % 1000000)).toList.tail

theorem plain_microsText
    (n : Nat) :
    ∀ c ∈ (microsText n).toList, c ≠ ' ' ∧ c ≠ '\n' := by
  intro c hMem
  unfold microsText at hMem
  rw [String.toList_append, String.toList_append,
    List.mem_append, List.mem_append] at hMem
  rcases hMem with (hWhole | hPoint) | hMicros
  · exact HTTPMetrics.plain_count (n / 1000000) c hWhole
  · rw [List.mem_singleton.mp hPoint]
    decide
  · rw [String.toList_ofList] at hMicros
    exact HTTPMetrics.plain_count _ c
      (List.tail_subset _ hMicros)

/- Durations in nanoseconds, cut to microseconds. -/
def microseconds : Seconds Nat where
  zero := 0
  add := Nat.add
  ofDuration := fun duration => (duration / 1000).toNat
  fixed6 := microsText
  plain := plain_microsText

def asciiPrintable : Printable where
  isPrint := fun c => decide (32 ≤ c.toNat ∧ c.toNat < 127)
  control := by
    intro c hControl
    rw [decide_eq_false_iff_not]
    omega

/- Three requests, and two orders. -/
def pageRequests : List HTTPRecord :=
  [ ⟨"GET", "/api/v1/orders", 200, 1500000⟩,
    ⟨"GET", " /api/v1/orders ", 200, 2500000⟩,
    ⟨"POST", "", 404, 1000⟩ ]

def pageCalls : List BusinessRecord :=
  [.orderCreate "success", .orderCreate " success"]

def pageHTTP : List (HTTPMetricSnapshot Nat) :=
  [ ⟨⟨"POST", "unmatched", 404⟩, ⟨1, 1⟩⟩,
    ⟨⟨"GET", "/api/v1/orders", 200⟩, ⟨2, 4000⟩⟩ ]

def pageBusiness : List BusinessMetricSnapshot :=
  [⟨⟨"app_order_create_total", "\x7bresult=\"success\"\x7d"⟩, 2⟩]

theorem pageHTTP_ranges :
    GoMap.Ranges
      (HTTPMetrics.recordAll microseconds pageRequests)
      pageHTTP := by
  rfl

theorem pageBusiness_ranges :
    GoMap.Ranges
      (BusinessMetrics.recordAll asciiPrintable pageCalls)
      pageBusiness := by
  rfl

theorem metrics_page_exact_sample :
    let page :=
      scrape
        (Metrics.renderPrometheus microseconds asciiPrintable
          pageHTTP pageBusiness)
    (∀ sample, sample ∈ page ↔
        Shown microseconds asciiPrintable pageRequests
          pageCalls sample) ∧
      (page.map Prod.fst).Nodup ∧
      ∀ http' business',
        GoMap.Ranges
          (HTTPMetrics.recordAll microseconds pageRequests)
          http' →
        GoMap.Ranges
          (BusinessMetrics.recordAll asciiPrintable pageCalls)
          business' →
        Metrics.renderPrometheus microseconds asciiPrintable
            http' business' =
          Metrics.renderPrometheus microseconds asciiPrintable
            pageHTTP pageBusiness :=
  metrics_page_exact microseconds asciiPrintable pageRequests
    pageCalls pageHTTP pageBusiness pageHTTP_ranges
    pageBusiness_ranges

end OrderManagement
