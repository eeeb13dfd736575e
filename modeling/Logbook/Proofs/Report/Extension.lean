import Mathlib.Logic.Relation
import Logbook.Inquiry.Basic
import Logbook.Proofs.Response.Extension
import Logbook.Proofs.Response.Gathering

/-!
# Reports do not see what nobody looks for

Alike responses have the same series, the same histogram and the same reports. What is looked up in
a group, or taken from all outcomes inside it, is taken by names that are looked for; the outcomes
found so are alike again, down to the numbers and the counts of groups that are reported.

* `Group.Alike.outcomes`, `Group.Alike.outcome?`: the two ways to look inside a group.
* `Response.Alike.series`, `Response.Alike.histogram`, `Response.Alike.report`: what alike
  responses have in common.
* `Response.unsought_entries_change_nothing`: so any number of entries under names that nobody
  looks for may come into a response.
-/

set_option autoImplicit false

namespace Logbook

/-! ## Looking inside groups -/

namespace Group

/-- The outcome that a value inside a group is. -/
def outcomeOf? (value : Json) : Option Outcome :=
  if value.isObject then some (Outcome.ofJson value) else none

/-- The outcome that a field inside a group is, with its name. -/
def namedOutcomeOf? (field : String × Json) : Option (String × Outcome) :=
  if field.2.isObject then some (field.1, Outcome.ofJson field.2) else none

/-- The name of an outcome is one of a series. -/
def isSeries (entry : String × Outcome) : Bool := (SeriesName.ofText? entry.1).isSome

namespace Extends

variable {fields fields' : List (String × Json)}

/-- No outcome of a series is added or lost. -/
theorem outcomes (h : Extends fields fields') :
    List.Forall₂ Outcome.EntryAlike ((fields.filterMap namedOutcomeOf?).filter isSeries)
      ((fields'.filterMap namedOutcomeOf?).filter isSeries) := by
  cases h with
  | @here before after name value unsought fresh =>
    have hskip : (((name, value) :: after).filterMap namedOutcomeOf?).filter isSeries =
        (after.filterMap namedOutcomeOf?).filter isSeries := by
      by_cases hobject : value.isObject
      · have hsome : namedOutcomeOf? (name, value) = some (name, Outcome.ofJson value) :=
          if_pos hobject
        rw [List.filterMap_cons_some hsome, List.filter_cons_of_neg]
        simp only [isSeries, unsought.unnamed, Option.isSome_none, Bool.false_eq_true,
          not_false_eq_true]
      · have hnone : namedOutcomeOf? (name, value) = none := if_neg hobject
        rw [List.filterMap_cons_none hnone]
    rw [List.filterMap_append, List.filterMap_append, List.filter_append, List.filter_append, hskip]
    exact forall₂_self Outcome.EntryAlike.refl _
  | @inside before after name frame fields fields' unknown h =>
    have halike : Outcome.EntryAlike (name, Outcome.ofJson (frame.fill fields))
        (name, Outcome.ofJson (frame.fill fields')) := ⟨rfl, Outcome.alike_fill frame h⟩
    refine List.rel_filter (fun entry entry' hentry => ?_) ?_
    · simp only [isSeries, hentry.1]
    · rw [List.filterMap_append, List.filterMap_append]
      exact forall₂_middle Outcome.EntryAlike.refl halike _ _

/-- Under a name that is looked for an outcome is found in the extension where one was found
before, and an alike one. -/
theorem outcome? (h : Extends fields fields') {key : String} (hkey : ¬Unsought key) :
    Option.Rel Outcome.Alike ((fields.lookup key).bind outcomeOf?)
      ((fields'.lookup key).bind outcomeOf?) := by
  cases h with
  | @here before after name value unsought fresh =>
    have hne : key ≠ name := fun heq => hkey (heq.symm ▸ unsought)
    rw [Keyed.lookup_append_cons_of_ne value hne]
    exact rel_self Outcome.Alike.refl _
  | @inside before after name frame fields fields' unknown h =>
    by_cases heq : key = name
    · subst heq
      rw [List.lookup_append, List.lookup_append, Keyed.lookup_cons, Keyed.lookup_cons, if_pos rfl,
        if_pos rfl]
      cases before.lookup key with
      | some first => exact rel_self Outcome.Alike.refl _
      | none => exact .some (Outcome.alike_fill frame h)
    · rw [Keyed.lookup_append_cons_of_ne _ heq, Keyed.lookup_append_cons_of_ne _ heq]
      exact rel_self Outcome.Alike.refl _

end Extends

namespace Alike

variable {group group' : Group}

theorem exists_inner (h : group.Alike group') :
    ∃ inner, group' = { group with inner := inner } := by
  cases h with
  | refl => exact ⟨_, rfl⟩
  | inner inner h => exact ⟨inner, rfl⟩

/-- The outcomes of series inside alike groups are alike one by one. -/
theorem outcomes (h : group.Alike group') :
    List.Forall₂ Outcome.EntryAlike (group.outcomes.filter isSeries)
      (group'.outcomes.filter isSeries) := by
  cases h with
  | refl => exact forall₂_self Outcome.EntryAlike.refl _
  | inner inner h => exact h.outcomes

/-- So are the outcomes of a name that is looked for. -/
theorem outcome? (h : group.Alike group') {name : String} (hname : ¬Unsought name) :
    Option.Rel Outcome.Alike (group.outcome? name) (group'.outcome? name) := by
  cases h with
  | refl => exact rel_self Outcome.Alike.refl _
  | inner inner h => exact h.outcome? hname

end Alike

theorem not_unsought_windows : ¬Unsought healthWindowsName := fun h => h.windows rfl

theorem not_unsought_results : ¬Unsought healthResultsName := fun h => h.results rfl

end Group

/-! ## What is taken from an outcome -/

theorem outcomeTotals_eq_of_alike {members members' : List Group}
    (h : List.Forall₂ Group.Alike members members') :
    outcomeTotals members' = outcomeTotals members := by
  refine foldlM_eq_of_forall₂ (fun totals group group' halike => ?_) h _
  obtain ⟨inner, rfl⟩ := halike.exists_inner
  rfl

theorem availabilityOf_eq_of_alike {members members' : List Group}
    (h : List.Forall₂ Group.Alike members members') :
    availabilityOf members' = availabilityOf members := by
  rw [availabilityOf, availabilityOf, outcomeTotals_eq_of_alike h]

namespace Outcome.Alike

variable {outcome outcome' : Outcome}

theorem groupList (h : outcome.Alike outcome') :
    List.Forall₂ Group.Alike outcome.groupList outcome'.groupList := by
  cases h with
  | refl => exact forall₂_self (fun _ => .refl) _
  | groups h => exact h
  | other => exact .nil

theorem value? (h : outcome.Alike outcome') : outcome'.value? = outcome.value? := by
  cases h <;> rfl

theorem points? (h : outcome.Alike outcome') (name : SeriesName) (mode : CountMode)
    (instant : Int64) : name.points? mode instant outcome' = name.points? mode instant outcome := by
  cases h with
  | refl => rfl
  | other => cases name <;> rfl
  | @groups members members' h =>
    have hcounts : (members'.map fun group : Group =>
          (group.keyText, Point.mk instant (Binary64.ofNat group.count.toNat))) =
        members.map fun group : Group =>
          (group.keyText, Point.mk instant (Binary64.ofNat group.count.toNat)) := by
      refine map_eq_of_forall₂ (fun group group' halike => ?_) h
      obtain ⟨inner, rfl⟩ := halike.exists_inner
      rfl
    cases name with
    | metric => rfl
    | values | ranges =>
      simp only [SeriesName.points?, hcounts, isEmpty_eq_of_forall₂ h,
        availabilityOf_eq_of_alike h]

end Outcome.Alike

/-! ## Gathering -/

theorem gather_eq_of_alike {mode : CountMode} {instant : Int64} (series : Keyed Series)
    {entry entry' : String × Outcome} (h : Outcome.EntryAlike entry entry') :
    gather mode instant series entry' = gather mode instant series entry := by
  simp only [gather, ← h.1, h.2.points?]

/-- What is gathered from outcomes is gathered from those of series. -/
theorem foldlM_gather_filter (mode : CountMode) (instant : Int64) :
    ∀ (entries : List (String × Outcome)) (series : Keyed Series),
      (entries.filter Group.isSeries).foldlM (gather mode instant) series =
        entries.foldlM (gather mode instant) series
  | [], _ => rfl
  | entry :: entries, series => by
    rw [List.filter_cons, List.foldlM_cons]
    split
    · rw [List.foldlM_cons]
      exact bind_congr (foldlM_gather_filter mode instant entries)
    · rename_i hname
      rw [Group.isSeries, Bool.not_eq_true, Option.isSome_eq_false_iff, Option.isNone_iff_eq_none]
        at hname
      rw [foldlM_gather_filter mode instant entries, gather, hname]
      rfl

theorem Group.Alike.foldlM_gather {group group' : Group} (h : group.Alike group')
    (mode : CountMode) (instant : Int64) (series : Keyed Series) :
    group'.outcomes.foldlM (gather mode instant) series =
      group.outcomes.foldlM (gather mode instant) series := by
  rw [← foldlM_gather_filter, ← foldlM_gather_filter mode instant group.outcomes]
  exact foldlM_eq_of_forall₂ (R := Outcome.EntryAlike) (fun series _ _ => gather_eq_of_alike series)
    h.outcomes series

/-! ## Responses -/

theorem Outcome.EntryAlike.lookup {entries entries' : List (String × Outcome)}
    (h : List.Forall₂ EntryAlike entries entries') (name : String) :
    Option.Rel Outcome.Alike (entries.lookup name) (entries'.lookup name) := by
  induction h with
  | nil => exact .none
  | cons hfirst _ ih =>
    rw [Keyed.lookup_cons, Keyed.lookup_cons, ← hfirst.1]
    split
    · exact .some hfirst.2
    · exact ih

namespace Response.Alike

variable {response response' : Response}

/-- Under each name of the response stand alike outcomes. -/
theorem outcome? (h : response.Alike response') (name : String) :
    Option.Rel Outcome.Alike (response.outcome? name) (response'.outcome? name) := by
  rw [Response.outcome?, Response.outcome?]
  rcases response.outcomes, response'.outcomes, h.outcomes with ⟨-, -, hentries | -⟩
  · exact Outcome.EntryAlike.lookup hentries name
  · exact .none

theorem series (h : response.Alike response') : response'.series = response.series := by
  rw [Response.series, Response.series]
  rcases response.outcomes, response'.outcomes, h.outcomes with ⟨-, -, hentries | -⟩
  · exact foldlM_eq_of_forall₂ (R := Outcome.EntryAlike)
      (fun series _ _ => gather_eq_of_alike series) hentries _
  · rfl

/-- The histograms have alike groups at the same instants. -/
theorem histogramGroups (h : response.Alike response') :
    List.Forall₂ (fun entry entry' => entry.1 = entry'.1 ∧ Group.Alike entry.2 entry'.2)
      response.histogramGroups response'.histogramGroups := by
  unfold Response.histogramGroups
  rcases response.outcome? histogramName, response'.outcome? histogramName,
    h.outcome? histogramName with ⟨-, -, houtcome | -⟩
  · refine List.rel_filterMap (fun group group' halike => ?_) houtcome.groupList
    obtain ⟨inner, rfl⟩ := halike.exists_inner
    change Option.Rel _ _ (group.keyInstant?.map fun instant => (instant, { group with inner }))
    cases group.keyInstant? with
    | none => exact .none
    | some instant => exact .some ⟨rfl, halike⟩
  · exact .nil

theorem histogram (h : response.Alike response') (mode : CountMode) :
    response'.histogram mode = response.histogram mode := by
  have hinstants : response'.histogramGroups.map Prod.fst =
      response.histogramGroups.map Prod.fst :=
    map_eq_of_forall₂ (fun entry entry' halike => halike.1.symm) h.histogramGroups
  rw [Response.histogram, Response.histogram, hinstants,
    foldlM_eq_of_forall₂ (fun series entry entry' halike => ?_) h.histogramGroups]
  rw [← halike.1]
  exact halike.2.foldlM_gather mode entry.1 series

theorem hasNoOutcomes (h : response.Alike response') :
    response'.hasNoOutcomes = response.hasNoOutcomes := by
  rw [Response.hasNoOutcomes, Response.hasNoOutcomes]
  rcases response.outcomes, response'.outcomes, h.outcomes with ⟨-, -, hentries | -⟩
  · exact isEmpty_eq_of_forall₂ hentries
  · rfl

theorem head?_outcomes (h : response.Alike response') : Option.Rel Outcome.EntryAlike
    (response.outcomes.bind fun outcomes => outcomes.toList.head?)
    (response'.outcomes.bind fun outcomes => outcomes.toList.head?) := by
  rcases response.outcomes, response'.outcomes, h.outcomes with ⟨-, -, hentries | -⟩
  · exact rel_head?_of_forall₂ hentries
  · exact .none

end Response.Alike

/-! ## Reports -/

namespace Group.Alike

variable {group group' : Group}

/-- The first outcome of a series is alike. -/
theorem find?_outcomes (h : group.Alike group') : Option.Rel Outcome.EntryAlike
    (group.outcomes.find? fun entry => (SeriesName.ofText? entry.1).isSome)
    (group'.outcomes.find? fun entry => (SeriesName.ofText? entry.1).isSome) := by
  rw [← List.head?_filter, ← List.head?_filter]
  exact rel_head?_of_forall₂ h.outcomes

theorem valueOf? (h : group.Alike group') (count : Binary64) :
    GroupsReport.valueOf? count group' = GroupsReport.valueOf? count group := by
  have hfirst := h.find?_outcomes
  unfold GroupsReport.valueOf?
  revert hfirst
  generalize group.outcomes.find? _ = first, group'.outcomes.find? _ = first'
  rintro (halike | -)
  · exact halike.2.value?
  · rfl

end Group.Alike

theorem GroupsReport.ofResponse_eq {response response' : Response}
    (h : response.Alike response') : ofResponse response' = ofResponse response := by
  unfold ofResponse
  rw [h.series]
  rcases response.outcomes.bind fun outcomes => outcomes.toList.head?,
    response'.outcomes.bind fun outcomes => outcomes.toList.head?, h.head?_outcomes
    with ⟨-, -, @⟨⟨text, outcome⟩, ⟨text', outcome'⟩, ⟨htext, halike⟩⟩ | -⟩
  · obtain rfl : text = text' := htext
    dsimp only
    cases SeriesName.ofText? text with
    | none => rfl
    | some name =>
      refine bind_congr fun series => congrArg (Except.ok ∘ GroupsReport.mk name.field) ?_
      cases name with
      | metric => rfl
      | ranges =>
        refine map_eq_of_forall₂ (fun group group' hgroup => ?_) halike.groupList
        obtain ⟨inner, rfl⟩ := hgroup.exists_inner
        rfl
      | values =>
        refine filterMap_eq_of_forall₂ (fun group group' hgroup => ?_) halike.groupList
        rw [hgroup.valueOf?]
        obtain ⟨inner, rfl⟩ := hgroup.exists_inner
        rfl
  · rfl

theorem HistogramReport.ofResponse_eq {response response' : Response}
    (h : response.Alike response') (specs : List SeriesSpec) (mode : CountMode) :
    ofResponse response' specs mode = ofResponse response specs mode := by
  rw [ofResponse, ofResponse, h.hasNoOutcomes, h.histogram]

namespace EndpointValues

variable {α : Type} {value : Group → α}

/-- An endpoint has the same values where each of its windows is valued the same. -/
theorem ofGroup_eq
    (hvalue : ∀ group group' : Group, group.Alike group' → value group' = value group)
    {group group' : Group} (h : group.Alike group') :
    ofGroup value group' = ofGroup value group := by
  have hwindows : List.Forall₂ Group.Alike
      (((group.outcome? healthWindowsName).map Outcome.groupList).getD [])
      (((group'.outcome? healthWindowsName).map Outcome.groupList).getD []) := by
    rcases group.outcome? healthWindowsName, group'.outcome? healthWindowsName,
      h.outcome? Group.not_unsought_windows with ⟨-, -, houtcome | -⟩
    · exact houtcome.groupList
    · exact .nil
  rw [ofGroup, ofGroup, EndpointValues.mk.injEq]
  constructor
  · obtain ⟨inner, rfl⟩ := h.exists_inner
    rfl
  · refine map_eq_of_forall₂ (fun window window' hwindow => ?_) hwindows
    rw [hvalue window window' hwindow]
    obtain ⟨inner, rfl⟩ := hwindow.exists_inner
    rfl

theorem ofResponse_eq
    (hvalue : ∀ group group' : Group, group.Alike group' → value group' = value group)
    {response response' : Response} (h : response.Alike response') :
    ofResponse value response' = ofResponse value response := by
  unfold ofResponse
  rcases response.outcome? healthGroupsName, response'.outcome? healthGroupsName,
    h.outcome? healthGroupsName with ⟨-, -, houtcome | -⟩
  · exact map_eq_of_forall₂ (fun _ _ => ofGroup_eq hvalue) houtcome.groupList
  · rfl

end EndpointValues

theorem windowAvailability_eq (window window' : Group) (h : window.Alike window') :
    windowAvailability window' = windowAvailability window := by
  unfold windowAvailability
  rcases window.outcome? healthResultsName, window'.outcome? healthResultsName,
    h.outcome? Group.not_unsought_results with ⟨-, -, houtcome | -⟩
  · exact availabilityOf_eq_of_alike houtcome.groupList
  · rfl

theorem windowTime_eq (window window' : Group) (h : window.Alike window') :
    windowTime window' = windowTime window := by
  unfold windowTime
  rcases window.outcome? healthResultsName, window'.outcome? healthResultsName,
    h.outcome? Group.not_unsought_results with ⟨-, -, houtcome | -⟩
  · simp only [Option.bind_some, houtcome.value?]
  · rfl

/-- Every report on alike responses is the same, and so is every fault that keeps one from being
made. -/
theorem Response.Alike.report {response response' : Response} (h : response.Alike response')
    (subject : Subject) (question : Question) :
    subject.report question response' = subject.report question response := by
  cases question with
  | count => simp only [Subject.report, h.total]
  | groups => simp only [Subject.report, GroupsReport.ofResponse_eq h]
  | histogram => simp only [Subject.report, HistogramReport.ofResponse_eq h]
  | availability =>
    simp only [Subject.report, availabilities, EndpointValues.ofResponse_eq windowAvailability_eq h]
  | responseTime =>
    simp only [Subject.report, averageTimes, EndpointValues.ofResponse_eq windowTime_eq h]
  | logs =>
    cases subject <;>
      simp only [Subject.report, Report.requestLogsOf, Report.healthLogsOf, h.hits, h.total]

/-! ## Any number of entries -/

/-- **Entries under names that nobody looks for change nothing**: a response into whose groups any
number of them have come is read, it has the same series and the same histogram, and on every
question there is the same report or the same fault. -/
theorem Response.unsought_entries_change_nothing {value value' : Json} {response : Response}
    (hextends : Relation.ReflTransGen Response.Extends value value')
    (hread : Response.read value = .ok response) :
    ∃ response', Response.read value' = .ok response' ∧ response'.series = response.series ∧
      (∀ mode, response'.histogram mode = response.histogram mode) ∧
      ∀ (subject : Subject) (question : Question),
        subject.report question response' = subject.report question response := by
  induction hextends with
  | refl => exact ⟨response, hread, rfl, fun _ => rfl, fun _ _ => rfl⟩
  | tail _ hstep ih =>
    obtain ⟨middle, hmiddle, hseries, hhistogram, hreport⟩ := ih
    obtain ⟨response', hread', halike⟩ := hstep.read hmiddle
    exact ⟨response', hread', halike.series.trans hseries,
      fun mode => (halike.histogram mode).trans (hhistogram mode),
      fun subject question => (halike.report subject question).trans (hreport subject question)⟩

/-- The fields of a window with successes, and with more entries in it and in their group. -/
def checkedWindow (inWindow inSuccesses : List (String × Json)) : List (String × Json) :=
  [("key", .string "1h"), ("results", Outcome.Frame.fill ⟨[], [], [], []⟩
    ([("key", .int 1), ("key_as_string", .string "true")] ++ inSuccesses))] ++ inWindow

/-- A response about one endpoint with a window of the given fields. -/
def endpointResponse (window : List (String × Json)) : Json :=
  .object [("aggregations", .object [("terms", Outcome.Frame.fill ⟨[], [], [], []⟩
    [("key", .string "default"), ("ranges", Outcome.Frame.fill ⟨[], [], [], []⟩ window)])])]

theorem unsought_entries_in_checkedWindow :
    let stamp := ("from_as_string", Json.string "2026-01-01T00:00:00Z")
    let score := ("score", Json.object [("value", .int 3)])
    let value := endpointResponse (checkedWindow [] [])
    let value' := endpointResponse (checkedWindow [stamp] [score])
    Relation.ReflTransGen Response.Extends value value' ∧
      ∃ response response' : Response, response.hasNoOutcomes = false ∧
        Response.read value = .ok response ∧ Response.read value' = .ok response' ∧
        response'.series = response.series ∧
        (∀ mode, response'.histogram mode = response.histogram mode) ∧
        ∀ (subject : Subject) (question : Question),
          subject.report question response' = subject.report question response := by
  intro stamp score value value'
  have hstamp : Group.Unsought stamp.1 := ⟨by decide, by decide, by decide, by decide⟩
  have hscore : Group.Unsought score.1 := ⟨by decide, by decide, by decide, by decide⟩
  have hwindow : Group.Extends (checkedWindow [] []) (checkedWindow [stamp] []) :=
    @Group.Extends.here [_, _] [] _ _ hstamp (by decide)
  have hsuccesses : Group.Extends (checkedWindow [stamp] []) (checkedWindow [stamp] [score]) :=
    @Group.Extends.inside [_] [stamp] _ _ _ _ (by decide)
      (@Group.Extends.here [_, _] [] _ _ hscore (by decide))
  have hendpoint {window window' : List (String × Json)} (h : Group.Extends window window') :
      Response.Extends (endpointResponse window) (endpointResponse window') :=
    @Response.Extends.object [] [] _ _ (@Outcome.Extends.inside [] [] _ _ _ _
      (@Group.Extends.inside [_] [] _ _ _ _ (by decide) h))
  have hextends : Relation.ReflTransGen Response.Extends value value' :=
    .tail (.single (hendpoint hwindow)) (hendpoint hsuccesses)
  have hread : Response.read value = .ok ⟨none, false, 0, [], some (Response.outcomesOf
      [("terms", Outcome.Frame.fill ⟨[], [], [], []⟩ [("key", .string "default"),
        ("ranges", Outcome.Frame.fill ⟨[], [], [], []⟩ (checkedWindow [] []))])])⟩ := rfl
  obtain ⟨response', hread', hsame⟩ := Response.unsought_entries_change_nothing hextends hread
  exact ⟨hextends, _, response', rfl, hread, hread', hsame⟩

end Logbook
