import Logbook.Proofs.Query.SeriesName
import Logbook.Proofs.Response.Gathering
import Logbook.Proofs.Response.Totals

/-!
# A histogram without the fold

The series of a histogram are gathered by inserting points into a map, group by group and outcome by
outcome. `Histogram.IsPlain` says which histogram that is without inserting anything: which
instants, which names, and which points under which key, each as one pass over the groups that have
an instant.

* `Response.termLists`, `Response.numbersUnder`: what the groups hold under one name.
* `SeriesName.plainPoints`: the points of a key, from these alone.
* `Response.TotalsFit`: no list of groups that becomes a share counts more than a word holds.
* `isPlain_histogram` and `IsPlain.eq`: the histogram of a response is the plain one, and no other
  is.
* `histogram_iff_plain`: there is one just where the totals fit, and it is that one.
* `no_histogram_of_total_beyond_word`: a total that does not fit.
-/

set_option autoImplicit false

namespace Logbook

/-! ## What the groups hold under a name -/

namespace SeriesName

/-- The shape of an outcome is that of the name: a number for a metric, groups for counts. -/
def fits (name : SeriesName) (outcome : Outcome) : Bool :=
  if name.isMetric then outcome.isNumber else outcome.isGroups

end SeriesName

namespace Response

/-- The lists of groups under a name, each with its instant. -/
def termLists (response : Response) (text : String) : List (Int64 × List Group) :=
  response.histogramGroups.filterMap fun entry =>
    match entry.2.outcome? text with
    | some (.groups terms) => some (entry.1, terms)
    | _ => none

/-- The finite numbers under a name, each with its instant. -/
def numbersUnder (response : Response) (text : String) : List Point :=
  response.histogramGroups.filterMap fun entry =>
    match entry.2.outcome? text with
    | some (.number (some x)) => if x.isFinite then some ⟨entry.1, x⟩ else none
    | _ => none

end Response

/-- The points of a key in the series of a name. Counts by value stand under the text of the value's
key; shares and numbers have one key, which is the name. -/
def SeriesName.plainPoints (name : SeriesName) (response : Response) (mode : CountMode)
    (text key : String) : List Point :=
  if name.isMetric then
    if key = text then response.numbersUnder text else []
  else
    match mode with
    | .counts =>
      (response.termLists text).flatMap fun entry =>
        (entry.2.filter fun term => term.keyText = key).map fun term =>
          ⟨entry.1, Binary64.ofNat term.count.toNat⟩
    | .availability =>
      if key = text then
        ((response.termLists text).filter fun entry => !entry.2.isEmpty).map fun entry =>
          ⟨entry.1, share (successes entry.2) (failures entry.2)⟩
      else []

/-- Where groups become shares, none of the lists under a name counts more than a word holds. -/
def Response.TotalsFit (response : Response) (mode : CountMode) : Prop :=
  mode = .availability → ∀ text name, SeriesName.ofText? text = some name →
    name.isMetric = false → ∀ entry ∈ response.termLists text,
      successes entry.2 + failures entry.2 < 2 ^ 64

/-! ## The plain histogram -/

/-- The histogram that a response holds, said part by part. -/
structure Histogram.IsPlain (response : Response) (mode : CountMode) (histogram : Histogram) :
    Prop where
  /-- The instants are those of the groups that have one. -/
  instants : histogram.instants =
    ((response.outcome? "by_date").elim [] Outcome.groupList).filterMap Group.keyInstant?
  /-- There is a series where one of these groups holds an object under its name, of the shape that
  the name has. -/
  named : ∀ text, (histogram.series.find? text).isSome ↔
    ∃ name, SeriesName.ofText? text = some name ∧ ∃ entry ∈ response.histogramGroups, ∃ value,
      entry.2.inner.find? text = some value ∧ value.isObject = true ∧
        name.fits (Outcome.ofJson value) = true
  labelled : ∀ text series name, histogram.series.find? text = some series →
    SeriesName.ofText? text = some name → series.name = text ∧ series.field = name.field
  points : ∀ text series name, histogram.series.find? text = some series →
    SeriesName.ofText? text = some name → ∀ key,
      (series.points.find? key).getD [] = name.plainPoints response mode text key
  /-- No key is without points. -/
  ne_nil : ∀ text series, histogram.series.find? text = some series → ∀ key,
    series.points.find? key ≠ some []
  dated : ∀ text series, histogram.series.find? text = some series → ∀ key points,
    series.points.find? key = some points → ∀ point ∈ points, point.instant ∈ histogram.instants

/-! ## Points by key -/

theorem pointsUnder_flatten (key : String) (lists : List (List (String × Point))) :
    pointsUnder key lists.flatten = lists.flatMap (pointsUnder key) := by
  induction lists with
  | nil => rfl
  | cons entries lists ih => rw [List.flatten_cons, pointsUnder_append, ih, List.flatMap_cons]

/-- Points that all stand under one key. -/
theorem pointsUnder_map_const {α : Type} (key text : String) (point : α → Point) (l : List α) :
    pointsUnder key (l.map fun a => (text, point a)) = if key = text then l.map point else [] := by
  by_cases hkey : key = text
  · subst hkey
    simp [pointsUnder, List.filter_map, Function.comp_def]
  · simp [pointsUnder, hkey, Ne.symm hkey]

/-- Points that stand under the texts of the keys of groups. -/
theorem pointsUnder_map_keyText (key : String) (point : Group → Point) (terms : List Group) :
    pointsUnder key (terms.map fun term => (term.keyText, point term)) =
      (terms.filter fun term => term.keyText = key).map point := by
  simp [pointsUnder, List.filter_map, Function.comp_def, beq_eq_decide]

theorem flatten_map_unless {α β : Type} (p : α → Bool) (f : α → β) (l : List α) :
    (l.map fun a => if p a then [] else [f a]).flatten = (l.filter fun a => !p a).map f := by
  induction l with
  | nil => rfl
  | cons a l ih => by_cases hp : p a <;> simp [hp, ih]

/-! ## What is gathered -/

/-- An outcome adds points, perhaps none, where its shape is that of the name. -/
theorem SeriesName.isSome_points? (name : SeriesName) (mode : CountMode) (instant : Int64)
    (outcome : Outcome) : (name.points? mode instant outcome).isSome = name.fits outcome := by
  cases name <;> cases outcome <;> cases mode <;>
    simp [SeriesName.points?, fits, SeriesName.isMetric, Outcome.isGroups, Outcome.isNumber]
  all_goals split <;> rfl

section
variable {name : SeriesName} {text : String} (hname : SeriesName.ofText? text = some name)
include hname

theorem contribution?_eq_points? (mode : CountMode) (instant : Int64) (outcome : Outcome) :
    contribution? mode text instant outcome = name.points? mode instant outcome := by
  rw [contribution?, hname, Option.bind_some]

/-- Counts add the groups of each list, under the texts of their keys. -/
theorem contributions_counts (hcounted : name.isMetric = false) (response : Response) :
    (response.histogramGroups.filterMap fun entry =>
        (entry.2.outcome? text).bind (contribution? .counts text entry.1)) =
      (response.termLists text).map fun entry => .ok (entry.2.map fun term =>
        (term.keyText, ⟨entry.1, Binary64.ofNat term.count.toNat⟩)) := by
  rw [Response.termLists, List.map_filterMap]
  congr
  funext entry
  cases entry.2.outcome? text with
  | none => rfl
  | some outcome =>
    rw [Option.bind_some, contribution?_eq_points? hname]
    cases name <;> cases outcome <;> first | rfl | cases hcounted

/-- Shares of successes are added for each list that is not empty. -/
theorem contributions_availability (hcounted : name.isMetric = false) (response : Response) :
    (response.histogramGroups.filterMap fun entry =>
        (entry.2.outcome? text).bind (contribution? .availability text entry.1)) =
      (response.termLists text).map fun entry => if entry.2.isEmpty then .ok [] else
        (availabilityOf entry.2).map fun share => [(text, ⟨entry.1, share⟩)] := by
  rw [Response.termLists, List.map_filterMap]
  congr
  funext entry
  cases entry.2.outcome? text with
  | none => rfl
  | some outcome =>
    rw [Option.bind_some, contribution?_eq_points? hname]
    have htext := (SeriesName.text_of_ofText? hname).1
    cases name <;> cases outcome <;> try first | rfl | cases hcounted
    all_goals
      simp only [SeriesName.points?, htext, Option.map_some]
      split <;> rfl

/-- Numbers are added where they are finite. -/
theorem contributions_numbers (hmetric : name.isMetric = true) (mode : CountMode)
    (response : Response) {lists : List (List (String × Point))}
    (h : (response.histogramGroups.filterMap fun entry =>
      (entry.2.outcome? text).bind (contribution? mode text entry.1)) = lists.map .ok) :
    lists.flatten = (response.numbersUnder text).map fun point => (text, point) := by
  rw [Response.numbersUnder]
  generalize response.histogramGroups = groups at h ⊢
  induction groups generalizing lists with
  | nil =>
    rw [List.map_eq_nil_iff.1 h.symm]
    rfl
  | cons entry entries ih =>
    rw [filterMap_cons_toList] at h
    obtain ⟨first, rest, rfl, hfirst, hrest⟩ := List.map_eq_append_iff.1 h.symm
    rw [filterMap_cons_toList, List.flatten_append, List.map_append, ih hrest.symm]
    congr 1
    cases houtcome : entry.2.outcome? text with
    | none =>
      rw [houtcome] at hfirst
      rw [List.map_eq_nil_iff.1 hfirst]
      rfl
    | some outcome =>
      rw [houtcome, Option.bind_some, contribution?_eq_points? hname] at hfirst
      have htext := (SeriesName.text_of_ofText? hname).1
      cases name with
      | values field => cases hmetric
      | ranges field => cases hmetric
      | metric m field =>
        cases outcome with
        | groups terms =>
          rw [List.map_eq_nil_iff.1 hfirst]
          rfl
        | other value =>
          rw [List.map_eq_nil_iff.1 hfirst]
          rfl
        | number value =>
          simp only [SeriesName.points?, htext, Option.toList_some, List.map_eq_singleton_iff,
            Except.ok.injEq] at hfirst
          obtain ⟨points, rfl, rfl⟩ := hfirst
          simp only [Outcome.value?, List.flatten_singleton]
          cases value with
          | none => rfl
          | some x => by_cases hx : x.isFinite <;> simp [hx]

/-- The points that are gathered under a key are the plain ones. -/
theorem pointsUnder_contributions (response : Response) (mode : CountMode) (key : String)
    {lists : List (List (String × Point))}
    (h : (response.histogramGroups.filterMap fun entry =>
      (entry.2.outcome? text).bind (contribution? mode text entry.1)) = lists.map .ok) :
    pointsUnder key lists.flatten = name.plainPoints response mode text key := by
  unfold SeriesName.plainPoints
  by_cases hmetric : name.isMetric
  · have hpoints := pointsUnder_map_const key text id (response.numbersUnder text)
    rw [List.map_id] at hpoints
    rw [if_pos hmetric, contributions_numbers hname hmetric mode response h]
    exact hpoints
  · rw [if_neg hmetric]
    rw [Bool.not_eq_true] at hmetric
    cases mode with
    | counts =>
      rw [contributions_counts hname hmetric] at h
      rw [Fallible.eq_map_of_map_eq_map_ok h fun _ _ _ hpoints => (Except.ok.inj hpoints).symm,
        pointsUnder_flatten, List.flatMap_map]
      simp only [pointsUnder_map_keyText]
    | availability =>
      rw [contributions_availability hname hmetric] at h
      have hshares := Fallible.eq_map_of_map_eq_map_ok (g := fun entry => if entry.2.isEmpty then []
        else [(text, ⟨entry.1, share (successes entry.2) (failures entry.2)⟩)]) h
        fun entry _ points hpoints => by
          by_cases hnil : entry.2.isEmpty
          · rw [if_pos hnil] at hpoints ⊢
            exact (Except.ok.inj hpoints).symm
          · rw [if_neg hnil] at hpoints ⊢
            obtain ⟨value, hvalue, rfl⟩ := Fallible.map_eq_ok_iff.1 hpoints
            rw [(availabilityOf_eq_ok_iff.1 hvalue).2]
      rw [hshares, flatten_map_unless, pointsUnder_map_const]

end

/-! ## The histogram of a response -/

/-- There is a series under a name once something has been added under it. -/
theorem Gathered.isSome_iff {series : Keyed Series} {text : String}
    {lists : List (List (String × Point))} (h : Gathered series text lists) :
    (series.find? text).isSome ↔ lists ≠ [] := by
  by_cases hnil : lists = []
  · simp [h.none hnil, hnil]
  · obtain ⟨found, hfound, -⟩ := h.some hnil
    simp [hfound, hnil]

namespace Response

theorem histogramGroups_eq (response : Response) :
    response.histogramGroups =
      ((response.outcome? "by_date").elim [] Outcome.groupList).filterMap fun group =>
        group.keyInstant?.map fun instant => (instant, group) := by
  simp only [histogramGroups, histogramName]
  cases response.outcome? "by_date" <;> rfl

theorem map_fst_histogramGroups (response : Response) :
    response.histogramGroups.map Prod.fst =
      ((response.outcome? "by_date").elim [] Outcome.groupList).filterMap Group.keyInstant? := by
  simp [histogramGroups_eq, List.map_filterMap, Function.comp_def]

/-- A list of groups under a name, at the instant of a group of the histogram. -/
theorem mem_termLists_iff {response : Response} {text : String} {instant : Int64}
    {terms : List Group} : (instant, terms) ∈ response.termLists text ↔
      ∃ group, (instant, group) ∈ response.histogramGroups ∧
        group.outcome? text = some (.groups terms) := by
  rw [termLists, List.mem_filterMap]
  constructor
  · rintro ⟨⟨instant', group⟩, hmem, hsome⟩
    split at hsome
    · rename_i houtcome
      cases hsome
      exact ⟨group, hmem, houtcome⟩
    · cases hsome
  · rintro ⟨group, hmem, houtcome⟩
    exact ⟨(instant, group), hmem, by simp only [houtcome]⟩

/-- An overflow in what is gathered comes from a list of groups that becomes a share. -/
theorem exists_terms_of_contribution? {mode : CountMode} {text : String} {instant : Int64}
    {outcome : Outcome} {overflow : Overflow}
    (h : contribution? mode text instant outcome = some (.error overflow)) :
    mode = .availability ∧ overflow = .sum ∧ ∃ name terms, SeriesName.ofText? text = some name ∧
      name.isMetric = false ∧ outcome = .groups terms ∧
        2 ^ 64 ≤ successes terms + failures terms := by
  obtain ⟨name, hname, hpoints⟩ := Option.bind_eq_some_iff.1 h
  cases name with
  | metric m field => cases outcome <;> simp [SeriesName.points?] at hpoints
  | values field | ranges field =>
    cases outcome with
    | number value => cases hpoints
    | other value => cases hpoints
    | groups terms =>
      cases mode with
      | counts => simp [SeriesName.points?] at hpoints
      | availability =>
        simp only [SeriesName.points?] at hpoints
        split at hpoints
        · cases hpoints
        · obtain ⟨hbeyond, hsum⟩ := availabilityOf_eq_error_iff.1
            (Fallible.map_eq_error_iff.1 (Option.some.inj hpoints))
          exact ⟨rfl, hsum, _, terms, hname, rfl, rfl, hbeyond⟩

/-- Counts are not added up, so there are always the series of a response. -/
theorem exists_series (response : Response) : ∃ series, response.series = .ok series := by
  cases h : response.series with
  | ok series => exact ⟨series, rfl⟩
  | error overflow =>
    unfold series at h
    split at h
    · cases h
    · obtain ⟨entry, -, series, hgather⟩ := Fallible.exists_of_foldlM_eq_error h
      obtain ⟨hmode, -⟩ := exists_terms_of_contribution? (gather_eq_error_iff.1 hgather)
      cases hmode

/-- There is an overflow in a histogram of shares where a list counts more than a word holds. -/
theorem not_totalsFit_of_histogram_eq_error {response : Response} {mode : CountMode}
    {overflow : Overflow} (h : response.histogram mode = .error overflow) :
    ¬response.TotalsFit mode ∧ overflow = .sum := by
  obtain ⟨⟨instant, group⟩, hgroup, series, hfold⟩ :=
    Fallible.exists_of_foldlM_eq_error (Fallible.bind_ok_eq_error_iff.1 h)
  obtain ⟨⟨text, outcome⟩, hmem, series', hgather⟩ := Fallible.exists_of_foldlM_eq_error hfold
  obtain ⟨rfl, hsum, name, terms, hname, hcounted, rfl, hbeyond⟩ :=
    exists_terms_of_contribution? (gather_eq_error_iff.1 hgather)
  refine ⟨fun hfits => ?_, hsum⟩
  have hfit := hfits rfl text name hname hcounted (instant, terms)
    (mem_termLists_iff.2 ⟨group, hgroup, Group.mem_outcomes_iff.1 hmem⟩)
  exact absurd hfit (Nat.not_lt.2 hbeyond)

/-- So there is always a histogram of them. -/
theorem exists_histogram_counts (response : Response) :
    ∃ histogram, response.histogram .counts = .ok histogram := by
  cases h : response.histogram .counts with
  | error overflow => exact absurd nofun (not_totalsFit_of_histogram_eq_error h).1
  | ok histogram => exact ⟨histogram, rfl⟩

section
variable {response : Response} {mode : CountMode} {histogram : Histogram}
  (h : response.histogram mode = .ok histogram)
include h

theorem instants_histogram : histogram.instants = response.histogramGroups.map Prod.fst := by
  obtain ⟨series, -, hhistogram⟩ := Fallible.bind_eq_ok_iff.1 h
  cases hhistogram
  rfl

theorem totalsFit_of_histogram : response.TotalsFit mode := by
  rintro rfl text name hname hcounted entry hentry
  obtain ⟨lists, hlists, -⟩ := gathered_histogram h text
  rw [contributions_availability hname hcounted] at hlists
  by_cases hnil : entry.2.isEmpty
  · rw [List.isEmpty_iff.1 hnil]
    decide
  · obtain ⟨points, -, hpoints⟩ := List.mem_map.1 (hlists ▸ List.mem_map_of_mem hentry)
    rw [if_neg hnil] at hpoints
    obtain ⟨value, hvalue, -⟩ := Fallible.map_eq_ok_iff.1 hpoints.symm
    exact (availabilityOf_eq_ok_iff.1 hvalue).1

end

/-- There is no histogram just where the totals do not fit. -/
theorem histogram_eq_error_iff {response : Response} {mode : CountMode} {overflow : Overflow} :
    response.histogram mode = .error overflow ↔ ¬response.TotalsFit mode ∧ overflow = .sum := by
  constructor
  · exact not_totalsFit_of_histogram_eq_error
  · rintro ⟨hbeyond, rfl⟩
    cases hhistogram : response.histogram mode with
    | error overflow => rw [(not_totalsFit_of_histogram_eq_error hhistogram).2]
    | ok histogram => exact absurd (totalsFit_of_histogram hhistogram) hbeyond

theorem histogram_of_outcome?_eq_none {response : Response} {mode : CountMode}
    (h : response.outcome? "by_date" = none) : response.histogram mode = .ok ⟨[], .empty⟩ := by
  rw [histogram, histogramGroups_eq, h]
  rfl

theorem histogram_of_hasNoOutcomes {response : Response} {mode : CountMode}
    (h : response.hasNoOutcomes = true) : response.histogram mode = .ok ⟨[], .empty⟩ := by
  refine histogram_of_outcome?_eq_none ?_
  unfold hasNoOutcomes at h
  unfold outcome?
  cases houtcomes : response.outcomes with
  | none => rfl
  | some outcomes =>
    rw [houtcomes] at h
    rw [Option.bind_some, Keyed.find?, List.isEmpty_iff.1 h]
    rfl

section
variable {response : Response} {mode : CountMode} {histogram : Histogram}
  (h : response.histogram mode = .ok histogram)
include h

theorem isSome_series_histogram (text : String) :
    (histogram.series.find? text).isSome ↔
      ∃ name, SeriesName.ofText? text = some name ∧ ∃ entry ∈ response.histogramGroups, ∃ value,
        entry.2.inner.find? text = some value ∧ value.isObject = true ∧
          name.fits (Outcome.ofJson value) = true := by
  obtain ⟨lists, hlists, hgathered⟩ := gathered_histogram h text
  have hnil := congrArg (· = []) hlists
  simp only [List.map_eq_nil_iff, List.filterMap_eq_nil_iff] at hnil
  rw [hgathered.isSome_iff, ne_eq, ← hnil]
  constructor
  · intro hsome
    simp only [not_forall] at hsome
    obtain ⟨entry, hentry, hadded⟩ := hsome
    obtain ⟨points, hpoints⟩ := Option.ne_none_iff_exists'.1 hadded
    obtain ⟨outcome, houtcome, hpoints⟩ := Option.bind_eq_some_iff.1 hpoints
    obtain ⟨name, hname, hpoints⟩ := Option.bind_eq_some_iff.1 hpoints
    obtain ⟨value, hvalue, hobject⟩ := Option.bind_eq_some_iff.1 houtcome
    simp only [Option.ite_none_right_eq_some, Option.some.injEq] at hobject
    obtain ⟨hobject, rfl⟩ := hobject
    refine ⟨name, hname, entry, hentry, value, hvalue, hobject, ?_⟩
    rw [← name.isSome_points? mode entry.1, hpoints]
    rfl
  · rintro ⟨name, hname, entry, hentry, value, hvalue, hobject, hfits⟩ hnone
    have hadded := hnone entry hentry
    rw [Group.outcome?, hvalue, Option.bind_some, if_pos hobject, Option.bind_some,
      contribution?_eq_points? hname] at hadded
    rw [← name.isSome_points? mode entry.1, hadded] at hfits
    cases hfits

end

theorem mem_instants_of_mem_termLists {response : Response} {text : String}
    {entry : Int64 × List Group} (h : entry ∈ response.termLists text) :
    entry.1 ∈ response.histogramGroups.map Prod.fst := by
  obtain ⟨dated, hdated, hsome⟩ := List.mem_filterMap.1 h
  split at hsome
  · cases hsome
    exact List.mem_map_of_mem hdated
  · cases hsome

theorem mem_instants_of_mem_numbersUnder {response : Response} {text : String} {point : Point}
    (h : point ∈ response.numbersUnder text) :
    point.instant ∈ response.histogramGroups.map Prod.fst := by
  obtain ⟨dated, hdated, hsome⟩ := List.mem_filterMap.1 h
  split at hsome
  · simp only [Option.ite_none_right_eq_some, Option.some.injEq] at hsome
    obtain ⟨-, rfl⟩ := hsome
    exact List.mem_map_of_mem hdated
  · cases hsome

/-- Points stand at instants of the histogram. -/
theorem mem_instants_of_mem_plainPoints {response : Response} {name : SeriesName}
    {mode : CountMode} {text key : String} {point : Point}
    (h : point ∈ name.plainPoints response mode text key) :
    point.instant ∈ response.histogramGroups.map Prod.fst := by
  unfold SeriesName.plainPoints at h
  split at h
  · split at h
    · exact mem_instants_of_mem_numbersUnder h
    · cases h
  · cases mode with
    | counts =>
      obtain ⟨entry, hentry, hpoint⟩ := List.mem_flatMap.1 h
      obtain ⟨term, -, rfl⟩ := List.mem_map.1 hpoint
      exact mem_instants_of_mem_termLists hentry
    | availability =>
      simp only at h
      split at h
      · obtain ⟨entry, hentry, rfl⟩ := List.mem_map.1 h
        exact mem_instants_of_mem_termLists (List.mem_filter.1 hentry).1
      · cases h

/-- The histogram of a response is the plain one. -/
theorem isPlain_histogram {response : Response} {mode : CountMode} {histogram : Histogram}
    (h : response.histogram mode = .ok histogram) : histogram.IsPlain response mode := by
  have hfound (text : String) (series : Series)
      (hseries : histogram.series.find? text = some series) :
      series.name = text ∧ (SeriesName.ofText? text).map SeriesName.field = some series.field ∧
        (∀ name, SeriesName.ofText? text = some name → ∀ key,
          (series.points.find? key).getD [] = name.plainPoints response mode text key) ∧
        ∀ key, series.points.find? key ≠ some [] := by
    obtain ⟨lists, hlists, hgathered⟩ := gathered_histogram h text
    have hne := hgathered.isSome_iff.1 (by rw [hseries]; rfl)
    obtain ⟨found, hfound, htext, hfield, hholds⟩ := hgathered.some hne
    rw [hseries, Option.some.injEq] at hfound
    subst hfound
    refine ⟨htext, hfield, fun name hname key => ?_, hholds.ne_nil⟩
    rw [hholds.points key]
    exact pointsUnder_contributions hname response mode key hlists
  refine ⟨?_, isSome_series_histogram h, fun text series name hseries hname => ?_,
    fun text series name hseries hname => (hfound text series hseries).2.2.1 name hname,
    fun text series hseries => (hfound text series hseries).2.2.2, ?_⟩
  · rw [instants_histogram h, map_fst_histogramGroups]
  · obtain ⟨htext, hfield, -⟩ := hfound text series hseries
    rw [hname, Option.map_some, Option.some.injEq] at hfield
    exact ⟨htext, hfield.symm⟩
  · intro text series hseries key points hkey point hpoint
    obtain ⟨name, hname, -⟩ := (isSome_series_histogram h text).1 (by rw [hseries]; rfl)
    obtain ⟨-, -, hpoints, -⟩ := hfound text series hseries
    have hplain := hpoints name hname key
    rw [hkey, Option.getD_some] at hplain
    rw [hplain] at hpoint
    rw [instants_histogram h]
    exact mem_instants_of_mem_plainPoints hpoint

end Response

/-! ## No other histogram is plain -/

theorem eq_of_getD_nil {α : Type} {xs ys : Option (List α)} (hxs : xs ≠ some [])
    (hys : ys ≠ some []) (h : xs.getD [] = ys.getD []) : xs = ys := by
  cases xs <;> cases ys <;> simp_all

/-- What is plain is determined by the response. -/
theorem Histogram.IsPlain.eq {response : Response} {mode : CountMode} {histogram other : Histogram}
    (h : histogram.IsPlain response mode) (h' : other.IsPlain response mode) :
    histogram = other := by
  have hseries : histogram.series = other.series := by
    refine Keyed.ext_find? fun text => ?_
    have hsome : (histogram.series.find? text).isSome ↔ (other.series.find? text).isSome := by
      rw [h.named, h'.named]
    cases hfind : histogram.series.find? text with
    | none =>
      have hnone : other.series.find? text = none := by simpa [hfind] using hsome
      rw [hnone]
    | some series =>
      obtain ⟨name, hname, -⟩ := (h.named text).1 (by rw [hfind]; rfl)
      rw [hfind] at hsome
      obtain ⟨series', hfind'⟩ := Option.isSome_iff_exists.1 (hsome.1 rfl)
      rw [hfind']
      obtain ⟨htext, hfield⟩ := h.labelled text series name hfind hname
      obtain ⟨htext', hfield'⟩ := h'.labelled text series' name hfind' hname
      have hpoints : series.points = series'.points := by
        refine Keyed.ext_find? fun key => eq_of_getD_nil (h.ne_nil text series hfind key)
          (h'.ne_nil text series' hfind' key) ?_
        rw [h.points text series name hfind hname, h'.points text series' name hfind' hname]
      cases series
      cases series'
      simp_all
  have hinstants := h.instants.trans h'.instants.symm
  cases histogram
  cases other
  simp_all

/-- A key has an instant where it is a number. -/
theorem Group.isSome_keyInstant?_iff {group : Group} :
    group.keyInstant?.isSome ↔ (∃ n, group.key = .int n) ∨ ∃ x, group.key = .float x := by
  unfold Group.keyInstant?
  cases group.key with
  | int n => simp only [Json.int.injEq, exists_eq', true_or, iff_true]; split <;> rfl
  | _ => simp

/-- **The histogram of a response is the plain one and no other**, in both modes, unless a list that
becomes a share counts more than a word holds: then there is an overflow. The groups that a
histogram is made of are those with a number as key, and without groups it is empty. -/
theorem histogram_iff_plain (response : Response) (mode : CountMode) :
    (∀ histogram : Histogram, response.histogram mode = .ok histogram ↔
      response.TotalsFit mode ∧ histogram.IsPlain response mode) ∧
    (∀ overflow, response.histogram mode = .error overflow ↔
      ¬response.TotalsFit mode ∧ overflow = .sum) ∧
    (∀ group : Group, group.keyInstant?.isSome ↔
      (∃ n, group.key = .int n) ∨ ∃ x, group.key = .float x) ∧
    (response.outcome? "by_date" = none → response.histogram mode = .ok ⟨[], .empty⟩) := by
  refine ⟨fun histogram => ⟨fun h => ?_, fun h => ?_⟩,
    fun overflow => Response.histogram_eq_error_iff, fun group => Group.isSome_keyInstant?_iff,
    Response.histogram_of_outcome?_eq_none⟩
  · exact ⟨Response.totalsFit_of_histogram h, Response.isPlain_histogram h⟩
  · obtain ⟨hfits, hplain⟩ := h
    cases hhistogram : response.histogram mode with
    | error overflow => exact absurd hfits (Response.histogram_eq_error_iff.1 hhistogram).1
    | ok other => rw [hplain.eq (Response.isPlain_histogram hhistogram)]

/-- A response with one group by date, whose documents are half available and half not. -/
def Response.ofHalvedDate : Response :=
  { ofTotal 0 with
    outcomes := some (Keyed.ofList [("by_date", .groups
      [⟨.int 0, none, 2, none, none, Keyed.ofList [("by_available", halvedCounts)]⟩])]) }

/-- Half of the documents of a date failed, and together they are one more than a word holds. There
is no histogram of shares, though the plain one has a point of a half. -/
theorem no_histogram_of_total_beyond_word :
    Response.ofHalvedDate.histogram .availability = .error .sum ∧
      (SeriesName.values "available").plainPoints .ofHalvedDate .availability "by_available"
        "by_available" = [⟨0, Binary64.ofNat 50⟩] := by
  constructor
  · refine Fallible.fault?_eq_some_iff.1 ?_
    decide +kernel
  · decide +kernel

end Logbook
