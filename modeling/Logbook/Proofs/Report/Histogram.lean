import Mathlib.Data.List.Basic
import Logbook.Proofs.Query.SeriesName
import Logbook.Proofs.Response.Histogram
import Logbook.Proofs.Response.Outcome
import Logbook.Proofs.Search.OfQuery
import Logbook.Report.Basic

/-!
# The histogram of a question is the histogram of its report

A histogram is asked for by aggregations under the names of its series, and its series are found
again in the response by those names alone. `histogram_report_of_search`: where the response
answers the aggregations of the search (`Aggregation.Answers`), the report has the instants of the
response's groups and, for each series asked for and in that order, one series with that name and
field and with the values of the answers, group by group and no others.
-/

set_option autoImplicit false

namespace Logbook

theorem SeriesSpec.name_aggregation (spec : SeriesSpec) :
    spec.aggregation.name = spec.seriesName.text := by
  obtain ⟨measure, field⟩ := spec
  cases measure <;> rfl

/-! ## Answers -/

/-- A value as a backend answers an aggregation, with the numbers that it gives under each key:
counts by the text of a group's key, or one number under the name of the aggregation. A number that
is absent or not finite gives none. -/
inductive Aggregation.Answers : Aggregation → Json → List (String × Binary64) → Prop where
  | groups {name field : String} {grouping : Grouping} {children : List Aggregation}
      {fields : List (String × Json)} {items : List Json} {members : List Group}
      (hbuckets : (fields.filter fun field => field.1 == "buckets") =
        [("buckets", .array items)])
      (hitems : Reader.items Group.read items = .ok members) :
      Answers (.groups name field grouping children) (.object fields)
        (members.map fun group => (group.keyText, Binary64.ofNat group.count.toNat))
  | number {name field : String} {m : Metric} {fields : List (String × Json)} {value : Json}
      {result : Option Binary64}
      (hbuckets : ∀ field ∈ fields, field.1 ≠ "buckets")
      (hvalue : (fields.filter fun field => field.1 == "value") = [("value", value)])
      (hresult : Reader.optional Reader.binary64 value = .ok result) :
      Answers (.metric name m field) (.object fields)
        ((result.filter Binary64.isFinite).map fun x => (name, x)).toList

/-- Answers are objects, so they are found inside a group. -/
theorem Aggregation.Answers.outcome? {aggregation : Aggregation} {value : Json}
    {numbers : List (String × Binary64)} (h : aggregation.Answers value numbers) {group : Group}
    {name : String} (hfind : group.inner.find? name = some value) :
    group.outcome? name = some (Outcome.ofJson value) := by
  unfold Group.outcome?
  rw [hfind, Option.bind_some]
  cases h <;> rfl

/-- The answers to the aggregation of a series are the points that are gathered under its name. -/
theorem contribution?_of_answers {spec : SeriesSpec} {value : Json}
    {numbers : List (String × Binary64)} (instant : Int64)
    (hname : SeriesName.ofText? spec.seriesName.text = some spec.seriesName)
    (hanswers : spec.aggregation.Answers value numbers) :
    contribution? .counts spec.aggregation.name instant (Outcome.ofJson value) =
      some (.ok (numbers.map fun number => (number.1, ⟨instant, number.2⟩))) := by
  obtain ⟨measure, field⟩ := spec
  cases measure with
  | counts =>
    cases hanswers with
    | groups hbuckets hitems =>
      have hname' : SeriesName.ofText? (SeriesName.values field).text =
        some (.values field) := hname
      rw [Outcome.ofJson_of_buckets hbuckets hitems, List.map_map]
      simp only [contribution?, SeriesSpec.aggregation, Aggregation.name, SeriesSpec.seriesName,
        hname', Option.bind_some, SeriesName.points?, Function.comp_def]
  | metric m =>
    cases hanswers with
    | number hbuckets hvalue hresult =>
      rename_i result
      have hname' : SeriesName.ofText? (SeriesName.metric m field).text =
        some (.metric m field) := hname
      rw [Outcome.ofJson_of_value hbuckets hvalue hresult]
      simp only [contribution?, SeriesSpec.aggregation, Aggregation.name, SeriesSpec.seriesName,
        hname', Option.bind_some, SeriesName.points?, Outcome.value?]
      cases result.filter Binary64.isFinite <;> rfl

/-! ## The groups of a histogram -/

/-- An integer of 64 bits as the key of a group is the group's instant. -/
theorem keyInstant?_of_int {group : Group} {instant : Int64}
    (h : group.key = .int instant.toInt) : group.keyInstant? = some instant := by
  have hlow := instant.minValue_le_toInt
  have hhigh := instant.toInt_le
  simp only [Group.keyInstant?, h]
  rw [if_pos ⟨hlow, hhigh⟩, Int64.ofInt_toInt]

/-- Groups with integers of 64 bits as keys all belong to the histogram. -/
theorem histogramGroups_eq_zip {response : Response} {members : List Group}
    {instants : List Int64} (hmembers : response.outcome? histogramName = some (.groups members))
    (hkeys : members.map Group.key = instants.map fun instant => Json.int instant.toInt) :
    response.histogramGroups = instants.zip members := by
  simp only [Response.histogramGroups, hmembers, Outcome.groupList]
  clear hmembers
  induction members generalizing instants with
  | nil => rw [List.filterMap_nil, List.zip_nil_right]
  | cons group members ih =>
    cases instants with
    | nil => cases hkeys
    | cons instant instants =>
      simp only [List.map_cons, List.cons.injEq] at hkeys
      simp only [List.filterMap_cons, keyInstant?_of_int hkeys.1, Option.map_some,
        List.zip_cons_cons, ih hkeys.2]

/-- What stands under a name of a histogram whose groups all have answers to an aggregation. -/
theorem exists_series_of_answers {response : Response} {histogram : Histogram}
    {entries : List (Int64 × Group)} {spec : SeriesSpec}
    (numbers : Group → List (String × Binary64))
    (hhistogram : response.histogram .counts = .ok histogram)
    (hentries : response.histogramGroups = entries) (hne : entries ≠ [])
    (hname : SeriesName.ofText? spec.seriesName.text = some spec.seriesName)
    (hanswers : ∀ entry ∈ entries, ∃ value,
      entry.2.inner.find? spec.aggregation.name = some value ∧
        spec.aggregation.Answers value (numbers entry.2)) :
    ∃ series, histogram.series.find? spec.seriesName.text = some series ∧
      series.name = spec.aggregation.name ∧ series.field = spec.field ∧
      series.Holds (entries.flatMap fun entry =>
        (numbers entry.2).map fun number => (number.1, ⟨entry.1, number.2⟩)) := by
  have haggregation : spec.aggregation.name = spec.seriesName.text := spec.name_aggregation
  have hadded : ∀ entry ∈ entries, (entry.2.outcome? spec.seriesName.text).bind
      (contribution? .counts spec.seriesName.text entry.1) =
        some (.ok ((numbers entry.2).map fun number => (number.1, ⟨entry.1, number.2⟩))) := by
    intro entry hentry
    obtain ⟨value, hfind, hvalue⟩ := hanswers entry hentry
    rw [← haggregation, hvalue.outcome? hfind, Option.bind_some]
    exact contribution?_of_answers entry.1 hname hvalue
  obtain ⟨lists, hlists, hgathered⟩ := gathered_histogram hhistogram spec.seriesName.text
  rw [hentries, List.filterMap_eq_map_iff_forall_eq_some.2 hadded] at hlists
  obtain rfl := Fallible.eq_map_of_map_eq_map_ok hlists fun _ _ _ hpoints =>
    (Except.ok.inj hpoints).symm
  obtain ⟨series, hseries, htext, hfield, hholds⟩ := hgathered.some (mt List.map_eq_nil_iff.1 hne)
  rw [hname, Option.map_some, Option.some.injEq, spec.field_seriesName] at hfield
  rw [← List.flatMap_def] at hholds
  exact ⟨series, hseries, by rw [htext, haggregation], hfield.symm, hholds⟩

/-! ## The report -/

theorem hasNoOutcomes_of_outcome? {response : Response} {name : String} {outcome : Outcome}
    (h : response.outcome? name = some outcome) : response.hasNoOutcomes = false := by
  obtain ⟨outcomes, houtcomes, hfind⟩ := Option.bind_eq_some_iff.1 h
  simp only [Response.hasNoOutcomes, houtcomes, Keyed.isEmpty]
  cases hlist : outcomes.toList with
  | nil =>
    rw [Keyed.find?, hlist] at hfind
    cases hfind
  | cons entry rest => rfl

theorem aggregation_of_histogram {scheme : PartitionScheme} {kind : DocumentKind}
    {filter : Filter} {interval : Interval} {specs : List SeriesSpec} {search : Search}
    (h : Search.ofQuery scheme kind ⟨filter, .histogram interval specs⟩ = .ok search) :
    ∃ grouping, search.aggregation = some
      (.groups histogramName timestampField grouping (specs.map SeriesSpec.aggregation)) := by
  obtain ⟨-, -, -, haggregation⟩ := Search.ofQuery_ok h
  simp only [Question.aggregation?] at haggregation
  split at haggregation
  · cases haggregation
  · rw [Except.ok.injEq] at haggregation
    exact ⟨_, haggregation.symm⟩

/-- There is a report of a histogram unless a list that becomes a share counts too much. -/
theorem HistogramReport.ofResponse_eq_error_iff {response : Response} {specs : List SeriesSpec}
    {mode : CountMode} {overflow : Overflow} :
    ofResponse response specs mode = .error overflow ↔
      ¬response.TotalsFit mode ∧ overflow = .sum := by
  rw [← Response.histogram_eq_error_iff]
  unfold ofResponse
  split
  · rename_i hempty
    rw [Response.histogram_of_hasNoOutcomes hempty]
    exact ⟨nofun, nofun⟩
  · exact Fallible.bind_ok_eq_error_iff

/-- **The histogram of a question is the histogram of its report.** -/
theorem histogram_report_of_search {scheme : PartitionScheme} {kind : DocumentKind}
    {filter : Filter} {interval : Interval} {specs : List SeriesSpec} {search : Search}
    {root : Aggregation} {response : Response} {members : List Group} {instants : List Int64}
    {numbers : Group → Aggregation → List (String × Binary64)}
    (hsearch : Search.ofQuery scheme kind ⟨filter, .histogram interval specs⟩ = .ok search)
    (hroot : search.aggregation = some root)
    (hfields : ∀ spec ∈ specs, spec.field ≠ "")
    (hcounts : ∀ inner, inner ≠ "" → ⟨.counts, inner ++ "_range"⟩ ∉ specs)
    (hmembers : response.outcome? root.name = some (.groups members)) (hne : members ≠ [])
    (hkeys : members.map Group.key = instants.map fun instant => Json.int instant.toInt)
    (hanswers : ∀ group ∈ members, ∀ child ∈ root.children, ∃ value,
      group.inner.find? child.name = some value ∧ child.Answers value (numbers group child)) :
    root.name = "by_date" ∧
    ∃ report, HistogramReport.ofResponse response specs .counts = .ok report ∧
    report.instants = instants ∧
    root.children.length = specs.length ∧ report.series.length = specs.length ∧
    ∀ (i : Nat) (spec : SeriesSpec) (child : Aggregation), specs[i]? = some spec →
      root.children[i]? = some child →
      ∃ series : Series, report.series[i]? = some (some series) ∧ series.name = child.name ∧
        series.field = spec.field ∧
        series.Holds ((instants.zip members).flatMap fun entry =>
          (numbers entry.2 child).map fun number => (number.1, ⟨entry.1, number.2⟩)) := by
  obtain ⟨grouping, haggregation⟩ := aggregation_of_histogram hsearch
  rw [haggregation, Option.some.injEq] at hroot
  subst hroot
  have hgroups := histogramGroups_eq_zip hmembers hkeys
  have hlength : instants.length = members.length := by
    rw [← List.length_map (Json.int ·.toInt), ← hkeys, List.length_map]
  obtain ⟨histogram, hhistogram⟩ := response.exists_histogram_counts
  have hreport : HistogramReport.ofResponse response specs .counts = .ok ⟨histogram.instants,
      specs.map fun spec => histogram.series.find? spec.seriesName.text⟩ := by
    rw [HistogramReport.ofResponse, hasNoOutcomes_of_outcome? hmembers, hhistogram]
    rfl
  have hinstants : histogram.instants = instants := by
    rw [Response.instants_histogram hhistogram, hgroups, List.map_fst_zip (Nat.le_of_eq hlength)]
  have hzip : instants.zip members ≠ [] := by
    rw [ne_eq, List.zip_eq_nil_iff, not_or]
    exact ⟨fun hnil => hne (List.eq_nil_of_length_eq_zero (by rw [← hlength, hnil]; rfl)), hne⟩
  refine ⟨rfl, _, hreport, hinstants, List.length_map _, List.length_map _,
    fun i spec child hspec hchild => ?_⟩
  simp only [Aggregation.children, List.getElem?_map, hspec, Option.map_some,
    Option.some.injEq] at hchild
  subst hchild
  have hmem := List.mem_of_getElem? hspec
  have hname : SeriesName.ofText? spec.seriesName.text = some spec.seriesName :=
    spec.ofText?_seriesName (hfields spec hmem) fun inner hinner heq =>
      hcounts inner hinner (heq ▸ hmem)
  obtain ⟨series, hseries, hsame⟩ := exists_series_of_answers
    (fun group => numbers group spec.aggregation) hhistogram hgroups hzip hname fun entry hentry =>
      hanswers entry.2 (List.of_mem_zip hentry).2 spec.aggregation (List.mem_map_of_mem hmem)
  refine ⟨series, ?_, hsame⟩
  simp only [List.getElem?_map, hspec, Option.map_some, hseries]

/-- A histogram of counts and of an average, answered by one group: the counts are found again. -/
theorem histogram_report_of_one_group :
    let specs : List SeriesSpec := [⟨.counts, "status"⟩, ⟨.metric .avg, "response-time"⟩]
    let counts : Json :=
      .object [("buckets", .array [.object [("doc_count", .int 2), ("key", .string "ok")]])]
    let average : Json := .object [("value", .float (Finite64.zero false))]
    let group : Group := ⟨.int 1000, none, 2, none, none,
      .ofList [("by_status", counts), ("avg_response-time", average)]⟩
    let response : Response :=
      ⟨none, false, 2, [], some (.ofList [("by_date", .groups [group])])⟩
    ∃ report, HistogramReport.ofResponse response specs .counts = .ok report ∧
      report.instants = [1000] ∧
      ∃ series : Series, report.series[0]? = some (some series) ∧ series.name = "by_status" ∧
        (series.points.find? "ok").getD [] = [⟨1000, Binary64.ofNat 2⟩] := by
  intro specs counts average group response
  have hsearch : Search.ofQuery ⟨"gravitee", .utc⟩ .request
      ⟨⟨some ⟨0, 2000⟩, none, none⟩, .histogram ⟨1000, by decide⟩ specs⟩ = .ok _ := rfl
  have hgroup : Reader.items Group.read [.object [("doc_count", .int 2), ("key", .string "ok")]] =
      .ok [⟨.string "ok", none, 2, none, none, .empty⟩] := rfl
  have hcounts : Aggregation.Answers (.groups "by_status" "status" (.values none none) []) counts
      [("ok", Binary64.ofNat 2)] := .groups rfl hgroup
  have haverage : Aggregation.Answers (.metric "avg_response-time" .avg "response-time") average
      [("avg_response-time", .finite (Finite64.zero false))] :=
    .number (by decide) rfl (rfl : Reader.optional Reader.binary64 _ =
      .ok (some (.finite (Finite64.zero false))))
  generalize Binary64.ofNat 2 = two at hcounts ⊢
  let numbers (_ : Group) : Aggregation → List (String × Binary64)
    | .groups .. => [("ok", two)]
    | .metric .. => [("avg_response-time", .finite (Finite64.zero false))]
  have hstatus : group.inner.find? (SeriesSpec.aggregation ⟨.counts, "status"⟩).name =
      some counts := by
    show ((Keyed.empty.insert "by_status" counts).insert "avg_response-time" average).find? _ = _
    rw [Keyed.find?_insert, if_neg (by decide), Keyed.find?_insert, if_pos (by decide)]
  have htime : group.inner.find? (SeriesSpec.aggregation ⟨.metric .avg, "response-time"⟩).name =
      some average := by
    show ((Keyed.empty.insert "by_status" counts).insert "avg_response-time" average).find? _ = _
    rw [Keyed.find?_insert, if_pos (by decide)]
  have hanswers : ∀ g ∈ [group], ∀ child ∈ specs.map SeriesSpec.aggregation, ∃ value,
      g.inner.find? child.name = some value ∧ child.Answers value (numbers g child) := by
    simp only [specs, List.map_cons, List.map_nil, List.forall_mem_cons, List.not_mem_nil,
      false_implies, implies_true, and_true]
    exact ⟨⟨counts, hstatus, hcounts⟩, ⟨average, htime, haverage⟩⟩
  have hranges : ∀ inner, inner ≠ "" → (⟨.counts, inner ++ "_range"⟩ : SeriesSpec) ∉ specs := by
    intro inner _ hmem
    simp only [specs, List.mem_cons, SeriesSpec.mk.injEq, List.not_mem_nil, or_false, reduceCtorEq,
      false_and, true_and] at hmem
    have hend : beforeEnd? "_range".toList "status".toList = some inner.toList :=
      beforeEnd?_eq_some_iff.2 (by rw [← hmem, String.toList_append])
    cases hend
  obtain ⟨-, report, hreport, hinstants, -, -, hseries⟩ := histogram_report_of_search hsearch rfl
    (by decide) hranges (rfl : response.outcome? "by_date" = some (.groups [group]))
    (List.cons_ne_nil _ _)
    (rfl : _ = [(1000 : Int64)].map fun instant => Json.int instant.toInt) hanswers
  obtain ⟨series, hfound, hname, -, hholds⟩ := hseries 0 _ _ rfl rfl
  refine ⟨report, hreport, hinstants, series, hfound, hname, ?_⟩
  rw [hholds.points]
  exact pointsUnder_singleton_self "ok" ⟨1000, two⟩

end Logbook
