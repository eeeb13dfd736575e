import Logbook.Proofs.Query.SeriesName
import Logbook.Proofs.Response.Histogram
import Logbook.Proofs.Search.OfQuery
import Logbook.Report.Basic

/-!
# The groups of a question are the groups of its report

Groups are asked for under one name and found again by it. Their counts are not read off the groups
but looked up, by the text of a group's key, in the series gathered under the name:

* `countOf_series`: what is looked up is the count of the first group with that key.
* `valueOf?_of_unnamed`, `valueOf?_of_only`: what a group is valued by besides.
* `groups_report_of_question`: what the report of a question says in each of its three forms.
-/

set_option autoImplicit false

namespace Logbook

/-! ## The name of the groups -/

namespace Question

/-- The name under which a question asks for its groups. -/
def groupsName (field : String) (ranges : List NumberRange) : SeriesName :=
  if ranges.isEmpty then .values field else .ranges field

theorem field_groupsName (field : String) (ranges : List NumberRange) :
    (groupsName field ranges).field = field := by
  unfold groupsName
  split <;> rfl

theorem name_groupsAggregation (field : String) (ranges : List NumberRange)
    (order : Option GroupOrder) :
    (groupsAggregation field ranges order).name = (groupsName field ranges).text := by
  unfold groupsAggregation groupsName
  split
  · cases order <;> rfl
  · rfl

/-- The name is read back, unless the field is empty or it counts by the values of a field that ends
like counts by ranges. -/
theorem ofText?_groupsName {field : String} {ranges : List NumberRange} (hfield : field ≠ "")
    (hvalues : ranges = [] → ∀ inner, inner ≠ "" → field ≠ inner ++ SeriesName.rangesEnd) :
    SeriesName.ofText? (groupsName field ranges).text = some (groupsName field ranges) := by
  refine SeriesName.ofText?_text (by rwa [field_groupsName]) fun inner hinner h => ?_
  unfold groupsName at h
  split at h
  · rename_i hempty
    exact hvalues (List.isEmpty_iff.1 hempty) inner hinner (SeriesName.values.inj h)
  · cases h

/-- Every question about groups that comes down to a search asks for its groups by one
aggregation. -/
theorem aggregation_of_groups {scheme : PartitionScheme} {kind : DocumentKind} {filter : Filter}
    {field : String} {ranges : List NumberRange} {order : Option GroupOrder} {search : Search}
    (h : Search.ofQuery scheme kind ⟨filter, .groups field ranges order⟩ = .ok search) :
    search.aggregation = some (groupsAggregation field ranges order) := by
  obtain ⟨-, -, -, haggregation⟩ := Search.ofQuery_ok h
  exact (Except.ok.inj haggregation).symm

end Question

/-! ## Counts -/

/-- The first of some groups with a key. -/
def firstGroup? (members : List Group) (key : String) : Option Group :=
  members.find? fun group => group.keyText == key

/-- How many documents the first group with a key counts. -/
def firstCount (members : List Group) (key : String) : Binary64 :=
  Binary64.ofNat ((firstGroup? members key).elim 0 fun group => group.count.toNat)

/-- Where keys differ, each group is the first with its key. -/
theorem firstGroup?_of_nodup {members : List Group} {group : Group}
    (hkeys : (members.map Group.keyText).Nodup) (hmem : group ∈ members) :
    firstGroup? members group.keyText = some group := by
  unfold firstGroup?
  induction members with
  | nil => cases hmem
  | cons first rest ih =>
    obtain ⟨hfirst, hrest⟩ := List.nodup_cons.1 hkeys
    rcases List.mem_cons.1 hmem with rfl | hmem
    · rw [List.find?_cons_of_pos (by simp)]
    · have hne : first.keyText ≠ group.keyText := by
        intro heq
        exact hfirst (heq ▸ List.mem_map_of_mem hmem)
      rw [List.find?_cons_of_neg (by simpa using hne)]
      exact ih hrest hmem

theorem head?_pointsUnder (key : String) (point : Group → Point) (members : List Group) :
    (pointsUnder key (members.map fun group => (group.keyText, point group))).head? =
      (firstGroup? members key).map point := by
  rw [pointsUnder, List.head?_map, List.head?_filter, List.find?_map, Option.map_map]
  rfl

/-- The series under the name of some groups, where the response has nothing else. -/
theorem exists_series_of_groups {response : Response} {name : SeriesName} {members : List Group}
    (hname : SeriesName.ofText? name.text = some name) (hcounted : name.isMetric = false)
    (houtcomes : response.outcomes = some (.ofList [(name.text, .groups members)])) :
    ∃ gathered series, response.series = .ok gathered ∧ gathered.find? name.text = some series ∧
      series.Holds
        (members.map fun group => (group.keyText, ⟨0, Binary64.ofNat group.count.toNat⟩)) := by
  have hseries : response.series = gather .counts 0 .empty (name.text, .groups members) := by
    simp only [Response.series, houtcomes]
    exact bind_pure _
  have hpoints : contribution? .counts name.text 0 (.groups members) = some
      (.ok (members.map fun group => (group.keyText, ⟨0, Binary64.ofNat group.count.toNat⟩))) := by
    rw [contribution?, hname, Option.bind_some]
    cases name with
    | values field => rfl
    | ranges field => rfl
    | metric m field => cases hcounted
  obtain ⟨gathered, hgathered⟩ := response.exists_series
  obtain ⟨more, hmore, hadded⟩ := (Gathered.empty name.text).step (hseries.symm.trans hgathered)
  rw [if_pos rfl, hpoints] at hmore
  cases more with
  | none => cases hmore
  | some points =>
    cases hmore
    obtain ⟨series, hfind, -, -, hholds⟩ := hadded.some (by simp)
    exact ⟨gathered, series, hgathered, hfind, by simpa using hholds⟩

/-- What is looked up under a key is the count of the first group that has it. -/
theorem countOf_series {series : Series} {members : List Group} {key : String}
    (hholds : series.Holds
      (members.map fun group => (group.keyText, ⟨0, Binary64.ofNat group.count.toNat⟩)))
    (hkey : ∃ group ∈ members, group.keyText = key) :
    GroupsReport.countOf (some series) key = firstCount members key := by
  have hhead : (series.points.find? key).bind List.head? =
      (firstGroup? members key).map fun group => ⟨0, Binary64.ofNat group.count.toNat⟩ := by
    rw [← head?_pointsUnder, ← hholds.points]
    cases series.points.find? key <;> rfl
  obtain ⟨group, hmem, hgroup⟩ := hkey
  have hsome : (firstGroup? members key).isSome := by
    rw [firstGroup?, List.find?_isSome]
    exact ⟨group, hmem, by rw [hgroup, beq_self_eq_true]⟩
  obtain ⟨first, hfirst⟩ := Option.isSome_iff_exists.1 hsome
  rw [hfirst, Option.map_some] at hhead
  simp only [GroupsReport.countOf, Option.bind_some, hhead, firstCount, hfirst, Option.elim_some]

/-! ## What a group is valued by -/

namespace Group

/-- Under a name the group has an object. -/
def HasObject (group : Group) (name : String) : Prop :=
  ∃ fields, group.inner.find? name = some (.object fields)

theorem outcome?_isSome_iff {group : Group} {name : String} :
    (group.outcome? name).isSome ↔ group.HasObject name := by
  unfold outcome? HasObject
  cases group.inner.find? name with
  | none => simp
  | some value => cases value <;> simp [Json.isObject]

theorem hasObject_of_mem_outcomes {group : Group} {entry : String × Outcome}
    (h : entry ∈ group.outcomes) : group.HasObject entry.1 := by
  rw [← outcome?_isSome_iff, mem_outcomes_iff.1 h]
  rfl

end Group

namespace GroupsReport

/-- A group without any object that is named like a series is valued by its count. -/
theorem valueOf?_of_unnamed {group : Group} (count : Binary64)
    (h : ∀ name, group.HasObject name → SeriesName.ofText? name = none) :
    valueOf? count group = some count := by
  have hnone : group.outcomes.find? (fun entry => (SeriesName.ofText? entry.1).isSome) = none := by
    rw [List.find?_eq_none]
    intro entry hentry
    simp [h entry.1 (Group.hasObject_of_mem_outcomes hentry)]
  rw [valueOf?, hnone]

/-- A group with one object that is named like a series is valued by the number in it. -/
theorem valueOf?_of_only {group : Group} {name : String} (count : Binary64)
    (hname : (SeriesName.ofText? name).isSome) (hobject : group.HasObject name)
    (honly : ∀ other, group.HasObject other → (SeriesName.ofText? other).isSome → other = name) :
    valueOf? count group = (group.outcome? name).bind Outcome.value? := by
  obtain ⟨outcome, houtcome⟩ := Option.isSome_iff_exists.1 (Group.outcome?_isSome_iff.2 hobject)
  have hfind : group.outcomes.find? (fun entry => (SeriesName.ofText? entry.1).isSome) =
      some (name, outcome) := by
    cases hfound : group.outcomes.find? fun entry => (SeriesName.ofText? entry.1).isSome with
    | none =>
      rw [List.find?_eq_none] at hfound
      exact absurd hname (hfound (name, outcome) (Group.mem_outcomes_iff.2 houtcome))
    | some entry =>
      have hmem := List.mem_of_find?_eq_some hfound
      have hsome := List.find?_some hfound
      obtain ⟨other, found⟩ := entry
      obtain rfl := honly other (Group.hasObject_of_mem_outcomes hmem) hsome
      have hsame := Group.mem_outcomes_iff.1 hmem
      rw [houtcome, Option.some.injEq] at hsame
      rw [hsame]
  rw [valueOf?, hfind, houtcome, Option.bind_some]

end GroupsReport

/-! ## The report -/

/-- There is always a report of groups. -/
theorem GroupsReport.exists_ofResponse (response : Response) :
    ∃ report, ofResponse response = .ok report := by
  obtain ⟨series, hseries⟩ := response.exists_series
  unfold ofResponse
  rw [hseries]
  split
  · exact ⟨_, rfl⟩
  · split
    · exact ⟨_, rfl⟩
    · exact ⟨_, rfl⟩

/-- The value of one of some groups under a name, where it has one. -/
def memberValue? (name : SeriesName) (members : List Group) (group : Group) : Option Binary64 :=
  match name with
  | .ranges _ => some (firstCount members group.keyText)
  | _ => GroupsReport.valueOf? (firstCount members group.keyText) group

/-- The report of a response that has nothing but groups under a name. -/
theorem report_of_groups {response : Response} {name : SeriesName} {members : List Group}
    (hname : SeriesName.ofText? name.text = some name) (hcounted : name.isMetric = false)
    (houtcomes : response.outcomes = some (.ofList [(name.text, .groups members)])) :
    GroupsReport.ofResponse response = .ok ⟨name.field, members.filterMap fun group =>
      (memberValue? name members group).map fun value => (group.keyText, value)⟩ := by
  obtain ⟨gathered, series, hgathered, hseries, hholds⟩ :=
    exists_series_of_groups hname hcounted houtcomes
  have hcount : ∀ group ∈ members,
      GroupsReport.countOf (gathered.find? name.text) group.keyText =
        firstCount members group.keyText := by
    intro group hmem
    rw [hseries]
    exact countOf_series hholds ⟨group, hmem, rfl⟩
  have hhead : (response.outcomes.bind fun outcomes => outcomes.toList.head?) =
      some (name.text, .groups members) := by
    rw [houtcomes]
    rfl
  unfold GroupsReport.ofResponse
  rw [hhead, hgathered]
  simp only [hname, Outcome.groupList]
  cases name with
  | values field =>
    refine congrArg (fun values => Except.ok (GroupsReport.mk field values)) ?_
    refine List.filterMap_congr fun group hmem => ?_
    rw [hcount group hmem]
    rfl
  | ranges field =>
    refine congrArg (fun values => Except.ok (GroupsReport.mk field values)) ?_
    rw [← List.filterMap_eq_map]
    refine List.filterMap_congr fun group hmem => ?_
    rw [Function.comp_apply, hcount group hmem]
    rfl
  | metric m field => cases hcounted

/-- Each group has at most one value, and the values are in the order of the groups. -/
theorem exists_sublist_of_filterMap (value : Group → Option Binary64) (members : List Group) :
    ∃ kept : List Group, kept.Sublist members ∧
      (members.filterMap fun group => (value group).map fun x => (group.keyText, x)).map Prod.fst =
        kept.map Group.keyText := by
  refine ⟨members.filter fun group => (value group).isSome, List.filter_sublist, ?_⟩
  induction members with
  | nil => rfl
  | cons group rest ih =>
    cases hvalue : value group with
    | none => simpa [hvalue] using ih
    | some x => simpa [hvalue] using ih

/-- Where every group is valued by its count, that is the count of the first with its key, and its
own where the keys differ. -/
theorem values_of_counts {name : SeriesName} {members : List Group}
    (h : ∀ group ∈ members,
      memberValue? name members group = some (firstCount members group.keyText)) :
    let values := members.filterMap fun group =>
      (memberValue? name members group).map fun value => (group.keyText, value)
    values = members.map (fun group => (group.keyText, firstCount members group.keyText)) ∧
      ((members.map Group.keyText).Nodup →
        values = members.map fun group =>
          (group.keyText, Binary64.ofNat group.count.toNat)) := by
  have hfirst : members.filterMap (fun group =>
      (memberValue? name members group).map fun value => (group.keyText, value)) =
        members.map fun group => (group.keyText, firstCount members group.keyText) := by
    rw [← List.filterMap_eq_map]
    refine List.filterMap_congr fun group hmem => ?_
    rw [h group hmem]
    rfl
  refine ⟨hfirst, fun hkeys => ?_⟩
  show List.filterMap _ members = _
  rw [hfirst]
  refine List.map_congr_left fun group hmem => ?_
  rw [firstCount, firstGroup?_of_nodup hkeys hmem, Option.elim_some]

/-- **The groups of a question are the groups of its report.** -/
theorem groups_report_of_question {field : String} {ranges : List NumberRange}
    {order : Option GroupOrder} {response : Response} {members : List Group}
    (hfield : field ≠ "")
    (hvalues : ranges = [] → ∀ inner, inner ≠ "" → field ≠ inner ++ "_range")
    (horder : ∀ o, order = some o → o.field ≠ "")
    (houtcomes : response.outcomes = some
      (.ofList [((Question.groupsAggregation field ranges order).name, .groups members)])) :
    let root := Question.groupsAggregation field ranges order
    (∀ (scheme : PartitionScheme) (kind : DocumentKind) (filter : Filter) (search : Search),
      Search.ofQuery scheme kind ⟨filter, .groups field ranges order⟩ = .ok search →
        search.aggregation = some root) ∧
    ∃ report, GroupsReport.ofResponse response = .ok report ∧ report.field = field ∧
    (∃ kept : List Group, kept.Sublist members ∧
      report.values.map Prod.fst = kept.map Group.keyText) ∧
    (ranges ≠ [] ∨ (order = none ∧ ∀ group ∈ members, ∀ name, group.HasObject name →
        SeriesName.ofText? name = none) →
      report.values =
          members.map (fun group => (group.keyText, firstCount members group.keyText)) ∧
        ((members.map Group.keyText).Nodup → report.values =
          members.map fun group => (group.keyText, Binary64.ofNat group.count.toNat))) ∧
    (ranges = [] → ∀ o, order = some o → ∃ child, root.children = [child] ∧
      ((∀ group ∈ members, group.HasObject child.name ∧ ∀ name, group.HasObject name →
          (SeriesName.ofText? name).isSome → name = child.name) →
        report.values = members.filterMap fun group =>
          ((group.outcome? child.name).bind Outcome.value?).map fun value =>
            (group.keyText, value))) := by
  intro root
  have hname : SeriesName.ofText? (Question.groupsName field ranges).text =
      some (Question.groupsName field ranges) := Question.ofText?_groupsName hfield hvalues
  have hcounted : (Question.groupsName field ranges).isMetric = false := by
    unfold Question.groupsName
    split <;> rfl
  rw [Question.name_groupsAggregation] at houtcomes
  have hreport := report_of_groups hname hcounted houtcomes
  rw [Question.field_groupsName] at hreport
  refine ⟨fun _ _ _ _ hsearch => Question.aggregation_of_groups hsearch, _, hreport, rfl,
    exists_sublist_of_filterMap _ members, fun hmode => ?_, ?_⟩
  · refine values_of_counts fun group hmem => ?_
    rcases hmode with hranges | ⟨-, hunnamed⟩
    · rw [Question.groupsName, if_neg (by simpa using hranges)]
      rfl
    · unfold Question.groupsName
      split
      · exact GroupsReport.valueOf?_of_unnamed _ (hunnamed group hmem)
      · rfl
  · rintro rfl o rfl
    refine ⟨.metric (SeriesName.metric .avg o.field).text .avg o.field, rfl, fun hmetric => ?_⟩
    have havg : (SeriesName.ofText? (SeriesName.metric .avg o.field).text).isSome := by
      rw [SeriesName.text, SeriesName.ofText?_metric .avg (horder o rfl)]
      rfl
    refine List.filterMap_congr fun group hmem => ?_
    obtain ⟨hobject, honly⟩ := hmetric group hmem
    have hvalue := GroupsReport.valueOf?_of_only (firstCount members group.keyText) havg hobject
      honly
    exact congrArg _ hvalue

/-- Two groups ordered by an average, of which only one has it. -/
theorem groups_report_of_two_groups :
    let average (value : Json) : Keyed Json :=
      .ofList [("avg_response-time", .object [("value", value)])]
    let members : List Group :=
      [⟨.string "a", none, 2, none, none, average (.float (Finite64.zero false))⟩,
        ⟨.string "b", none, 7, none, none, average .null⟩]
    ∃ report, GroupsReport.ofResponse
        ⟨none, false, 9, [], some (.ofList [("by_api", .groups members)])⟩ = .ok report ∧
      report.field = "api" ∧ report.values = [("a", .finite (Finite64.zero false))] := by
  intro average members
  have hapi : ∀ inner, inner ≠ "" → "api" ≠ inner ++ "_range" := by
    intro inner _ heq
    have hend : beforeEnd? "_range".toList "api".toList = some inner.toList :=
      beforeEnd?_eq_some_iff.2 (by rw [heq, String.toList_append])
    cases hend
  have houtcomes : Response.outcomes
      ⟨none, false, 9, [], some (.ofList [("by_api", .groups members)])⟩ = some (.ofList
        [((Question.groupsAggregation "api" [] (some ⟨"response-time", .descending⟩)).name,
          .groups members)]) := rfl
  obtain ⟨-, report, hreport, hfield, -, -, hordered⟩ :=
    groups_report_of_question (by decide) (fun _ => hapi) (by rintro o ⟨⟩; decide) houtcomes
  obtain ⟨child, hchild, hvalues⟩ := hordered rfl _ rfl
  obtain rfl := List.head_eq_of_cons_eq hchild
  have hfind (value : Json) (name : String) : (average value).find? name =
      if name = "avg_response-time" then some (.object [("value", value)]) else none :=
    Keyed.find?_insert .empty "avg_response-time" name _
  have hobject (value : Json) (name : String) (fields : List (String × Json))
      (h : (average value).find? name = some (.object fields)) : name = "avg_response-time" := by
    rw [hfind, Option.ite_none_right_eq_some] at h
    exact h.1
  refine ⟨report, hreport, hfield, (hvalues fun group hmem => ?_).trans rfl⟩
  simp only [members, List.mem_cons, List.not_mem_nil, or_false] at hmem
  rcases hmem with rfl | rfl
  · exact ⟨⟨_, rfl⟩, fun name ⟨fields, h⟩ _ => hobject _ name fields h⟩
  · exact ⟨⟨_, rfl⟩, fun name ⟨fields, h⟩ _ => hobject _ name fields h⟩

end Logbook
