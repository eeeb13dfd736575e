import Logbook.Proofs.Search.OfQuery
import Logbook.Proofs.Text.Blank

/-!
# Which queries are refused, and what comes of the others

* `Query.Malformed`: what can be wrong with a query, told by its time range and its question alone;
  `Query.Refused` adds which fault is reported where more than one thing is wrong.
* `refused_of_ofQuery`: a query is refused for these faults and no others; and it is refused for
  them unless its time range leaves the calendar (`ofQuery_eq_refused_iff`).
* `Search.Formed`: what every search of a query has, part by part (`formed_of_ofQuery`).
* `query_refused_or_well_formed`: both together.
-/

set_option autoImplicit false

namespace Logbook

/-! ## Malformed queries -/

namespace Query

/-- A time range that ends before it starts, a histogram without a time range, or a page without a
number or a size. -/
def Malformed (query : Query) : Prop :=
  (∃ range, query.filter.range = some range ∧ range.stop < range.start) ∨
    (query.filter.range = none ∧ ∃ interval series, query.question = .histogram interval series) ∨
    ∃ page size, query.question = .logs page size ∧ (page = 0 ∨ size = 0)

/-- The faults that a query is refused for: the time range comes first, then the number of the page,
then its size. -/
inductive Refused (query : Query) : QueryFault → Prop
  | inverted {range : TimeRange} (hrange : query.filter.range = some range)
      (hlt : range.stop < range.start) : Refused query (.inverted range.start range.stop)
  | noTimeRange {interval : Interval} {series : List SeriesSpec}
      (hrange : query.filter.range = none)
      (hquestion : query.question = .histogram interval series) : Refused query .noTimeRange
  | zeroPage {size : UInt32}
      (hordered : ∀ range, query.filter.range = some range → range.start ≤ range.stop)
      (hquestion : query.question = .logs 0 size) : Refused query .zeroPage
  | zeroSize {page : UInt32}
      (hordered : ∀ range, query.filter.range = some range → range.start ≤ range.stop)
      (hquestion : query.question = .logs page 0) (hpage : page ≠ 0) : Refused query .zeroSize

/-- There is something to refuse a query for just where it is malformed. -/
theorem exists_refused_iff {query : Query} : (∃ fault, query.Refused fault) ↔ query.Malformed := by
  constructor
  · rintro ⟨fault, hrefused⟩
    cases hrefused with
    | inverted hrange hlt => exact .inl ⟨_, hrange, hlt⟩
    | noTimeRange hrange hquestion => exact .inr (.inl ⟨hrange, _, _, hquestion⟩)
    | zeroPage _ hquestion => exact .inr (.inr ⟨_, _, hquestion, .inl rfl⟩)
    | zeroSize _ hquestion _ => exact .inr (.inr ⟨_, _, hquestion, .inr rfl⟩)
  · intro hmalformed
    by_cases hinverted : ∃ range, query.filter.range = some range ∧ range.stop < range.start
    · obtain ⟨range, hrange, hlt⟩ := hinverted
      exact ⟨_, .inverted hrange hlt⟩
    have hordered : ∀ range, query.filter.range = some range → range.start ≤ range.stop :=
      fun range hrange => Int64.not_lt.1 fun hlt => hinverted ⟨range, hrange, hlt⟩
    rcases hmalformed with h | ⟨hrange, _, _, hquestion⟩ | ⟨page, size, hquestion, hzero⟩
    · exact absurd h hinverted
    · exact ⟨_, .noTimeRange hrange hquestion⟩
    · by_cases hpage : page = 0
      · subst hpage
        exact ⟨_, .zeroPage hordered hquestion⟩
      · obtain rfl := hzero.resolve_left hpage
        exact ⟨_, .zeroSize hordered hquestion hpage⟩

end Query

/-! ## Refusals -/

namespace Question

/-- A question cannot be asked where it is of a histogram without a time range or of a page without
a number or a size. -/
theorem aggregation?_eq_error_iff {question : Question} {scheme : PartitionScheme}
    {range : Option TimeRange} {fault : QueryFault} :
    question.aggregation? scheme range = .error fault ↔
      (range = none ∧ (∃ interval series, question = .histogram interval series) ∧
        fault = .noTimeRange) ∨
      (∃ size, question = .logs 0 size ∧ fault = .zeroPage) ∨
      ∃ page, question = .logs page 0 ∧ page ≠ 0 ∧ fault = .zeroSize := by
  cases question with
  | histogram interval series => cases range <;> simp [aggregation?, eq_comm]
  | logs page size =>
    by_cases hpage : page = 0
    · simp [aggregation?, hpage, eq_comm]
    · by_cases hsize : size = 0
      · simp [aggregation?, hpage, hsize, eq_comm]
      · simp [aggregation?, hpage, hsize]
  | count | groups | availability | responseTime => simp [aggregation?]

theorem logs_of_aggregation? {page size : UInt32} {scheme : PartitionScheme}
    {range : Option TimeRange} {aggregation : Option Aggregation}
    (h : (logs page size).aggregation? scheme range = .ok aggregation) :
    page ≠ 0 ∧ size ≠ 0 ∧ aggregation = none := by
  simp only [aggregation?] at h
  split at h
  · cases h
  · split at h <;> simp_all

/-- Only the number of documents and the documents themselves are asked for without aggregations. -/
theorem isSome_of_aggregation? {question : Question} {scheme : PartitionScheme}
    {range : Option TimeRange} {aggregation : Option Aggregation}
    (h : question.aggregation? scheme range = .ok aggregation) :
    aggregation.isSome ↔ question ≠ .count ∧ ∀ page size, question ≠ .logs page size := by
  cases question with
  | histogram interval series =>
    cases range with
    | none => cases h
    | some range => cases h; simp
  | logs page size =>
    obtain ⟨-, -, rfl⟩ := logs_of_aggregation? h
    simp
  | count | groups | availability | responseTime => cases h; simp

/-- Steps of time are asked for by a histogram, from the beginning of the time range to its end. -/
theorem histogram_of_aggregation? {question : Question} {scheme : PartitionScheme}
    {range : Option TimeRange} {name field offset : String} {interval : UInt64}
    {start stop : Int64} {children : List Aggregation}
    (h : question.aggregation? scheme range =
      .ok (some (.groups name field (.histogram interval start stop offset) children))) :
    range = some ⟨start, stop⟩ := by
  cases question with
  | groups groupField ranges order =>
    simp only [aggregation?, groupsAggregation] at h
    split at h
    · cases order <;> cases h
    · cases h
  | histogram steps series =>
    cases range with
    | none => cases h
    | some range => cases h; rfl
  | logs page size => cases (logs_of_aggregation? h).2.2
  | count | availability | responseTime => cases h

end Question

namespace Search

section
variable {scheme : PartitionScheme} {kind : DocumentKind} {query : Query} {fault : QueryFault}

/-- A query is refused for its faults and for nothing else. -/
theorem refused_of_ofQuery (h : ofQuery scheme kind query = .error (.fault fault)) :
    query.Refused fault := by
  rcases ofQuery_eq_fault_iff.1 h with ⟨range, hrange, hlt, rfl⟩ | ⟨hle, -, hunasked⟩
  · exact .inverted hrange hlt
  · rcases Question.aggregation?_eq_error_iff.1 hunasked with
      ⟨hrange, ⟨_, _, hquestion⟩, rfl⟩ | ⟨_, hquestion, rfl⟩ | ⟨_, hquestion, hpage, rfl⟩
    · exact .noTimeRange hrange hquestion
    · exact .zeroPage hle hquestion
    · exact .zeroSize hle hquestion hpage

/-- A query that does not leave the calendar is refused where it has a fault. -/
theorem ofQuery_eq_refused_iff (hstays : ¬query.LeavesCalendar scheme.offset) :
    ofQuery scheme kind query = .error (.fault fault) ↔ query.Refused fault := by
  refine ⟨refused_of_ofQuery, fun hrefused => ofQuery_eq_fault_iff.2 ?_⟩
  cases hrefused with
  | inverted hrange hlt => exact .inl ⟨_, hrange, hlt, rfl⟩
  | noTimeRange hrange hquestion =>
    refine .inr ⟨by simp [hrange], exists_partitionsOf hstays (by simp [hrange]), ?_⟩
    exact Question.aggregation?_eq_error_iff.2 (.inl ⟨hrange, ⟨_, _, hquestion⟩, rfl⟩)
  | zeroPage hle hquestion =>
    refine .inr ⟨hle, exists_partitionsOf hstays hle, ?_⟩
    exact Question.aggregation?_eq_error_iff.2 (.inr (.inl ⟨_, hquestion, rfl⟩))
  | zeroSize hle hquestion hpage =>
    refine .inr ⟨hle, exists_partitionsOf hstays hle, ?_⟩
    exact Question.aggregation?_eq_error_iff.2 (.inr (.inr ⟨_, hquestion, hpage, rfl⟩))

end

end Search

/-! ## Searches -/

namespace Filter

/-- The clauses of a filter: its time range, its scope and its text, each where there is one. A text
of white space counts as none; any other is taken as it is. -/
theorem clauses_eq (filter : Filter) :
    filter.clauses =
      (filter.range.toList.map fun range => .within "@timestamp" range.start range.stop) ++
      (filter.scope.toList.map fun scope => .equals scope.field scope.id) ++
      (filter.text.toList.filter fun text => !text.toList.all isBlank).map .text := by
  have hblank (text : String) : decide (trim text ≠ "") = !text.toList.all isBlank := by
    rw [decide_not, Bool.not_inj_iff, Bool.eq_iff_iff, decide_eq_true_iff, trim_eq_empty_iff,
      List.all_eq_true]
  simp only [clauses, timestampField, hblank, Option.toList_map, Option.toList_filter]

/-- The time range is written first. -/
theorem head?_clauses {filter : Filter} {range : TimeRange} (h : filter.range = some range) :
    filter.clauses.head? = some (.within "@timestamp" range.start range.stop) := by
  simp [clauses, h, timestampField]

end Filter

namespace PartitionScheme

theorem partitionsOf_ne_nil {scheme : PartitionScheme} {range : Option TimeRange}
    {partitions : List String} (h : scheme.partitionsOf range = .ok partitions) :
    partitions ≠ [] := by
  cases range with
  | none => simp [← Except.ok.inj h]
  | some bounds =>
    rw [partitionsOf_some] at h
    obtain ⟨names, -, rfl⟩ := Fallible.map_eq_ok_iff.1 h
    split
    · exact List.cons_ne_nil _ _
    · assumption

end PartitionScheme

namespace Search

/-- What the search of a query has. -/
structure Formed (query : Query) (kind : DocumentKind) (search : Search) : Prop where
  kind_eq : search.kind = kind
  partitions : search.partitions ≠ []
  clauses : search.clauses =
    (query.filter.range.toList.map fun range => .within "@timestamp" range.start range.stop) ++
    (query.filter.scope.toList.map fun scope => .equals scope.field scope.id) ++
    (query.filter.text.toList.filter fun text => !text.toList.all isBlank).map .text
  aggregation : search.aggregation.isSome ↔
    query.question ≠ .count ∧ ∀ page size, query.question ≠ .logs page size
  /-- Without a page no hits are asked for. -/
  noHits : (∀ page size, query.question ≠ .logs page size) →
    search.size = 0 ∧ search.skip = 0 ∧ search.order = none ∧ search.excludes = []
  page : ∀ page size, query.question = .logs page size →
    search.size = size ∧ search.order = some ⟨"@timestamp", .descending⟩
  /-- The contents of recorded exchanges are left out of pages. -/
  payloads : search.excludes = ["*.client", "*.proxy"] ↔
    (∃ page size, query.question = .logs page size) ∧ (kind = .request ∨ kind = .log)
  excludes : search.excludes = ["*.client", "*.proxy"] ∨ search.excludes = []
  /-- A histogram is asked for by its steps in time. -/
  steps : ∀ interval series, query.question = .histogram interval series →
    ∃ name field start stop offset children, search.aggregation =
      some (.groups name field (.histogram interval.millis start stop offset) children)
  /-- Steps in time have the bounds of the range clause. -/
  bounds : ∀ name field interval start stop offset children, search.aggregation =
      some (.groups name field (.histogram interval start stop offset) children) →
    search.clauses.head? = some (.within "@timestamp" start stop)

theorem formed_of_ofQuery {scheme : PartitionScheme} {kind : DocumentKind} {query : Query}
    {search : Search} (h : ofQuery scheme kind query = .ok search) : search.Formed query kind := by
  obtain ⟨-, partitions, aggregation, hpartitions, haggregation, rfl⟩ := ofQuery_eq_ok_iff.1 h
  obtain ⟨filter, question⟩ := query
  simp only at haggregation
  have hclauses := paged_clauses (ofFilter kind filter partitions aggregation) question
  have haggregated := paged_aggregation (ofFilter kind filter partitions aggregation) question
  constructor
  case kind_eq => cases question <;> rfl
  case partitions =>
    rw [paged_partitions]
    exact PartitionScheme.partitionsOf_ne_nil hpartitions
  case clauses =>
    rw [hclauses]
    exact filter.clauses_eq
  case aggregation =>
    rw [haggregated]
    exact Question.isSome_of_aggregation? haggregation
  case noHits =>
    intro hpage
    cases question with
    | logs page size => exact absurd rfl (hpage page size)
    | _ => exact ⟨rfl, rfl, rfl, rfl⟩
  case page =>
    rintro page size rfl
    exact ⟨rfl, rfl⟩
  case payloads =>
    cases question with
    | logs page size => cases kind <;> simp [paged, ofFilter, Search.payloads]
    | _ => simp [paged, ofFilter]
  case excludes =>
    cases question with
    | logs page size => cases kind <;> simp [paged, ofFilter, Search.payloads]
    | _ => simp [paged, ofFilter]
  case steps =>
    rintro interval series rfl
    rw [haggregated]
    simp only [Question.aggregation?] at haggregation
    split at haggregation
    · cases haggregation
    · cases haggregation
      exact ⟨_, _, _, _, _, _, rfl⟩
  case bounds =>
    intro name field interval start stop offset children hroot
    rw [haggregated] at hroot
    change aggregation = _ at hroot
    rw [hclauses]
    rw [hroot] at haggregation
    exact Filter.head?_clauses (Question.histogram_of_aggregation? haggregation)

end Search

/-- **Malformed queries are refused, each for the first of its faults, and every other query comes
down to a well-formed search**, unless its time range leaves the calendar. That needs a bound in the
first two or the last two days of the calendar, and ends without a search whatever is asked. -/
theorem query_refused_or_well_formed (scheme : PartitionScheme) (kind : DocumentKind)
    (query : Query) :
    ((∀ range, query.filter.range = some range →
      isNearEnd range.start.toInt = false ∧ isNearEnd range.stop.toInt = false) →
        ¬query.LeavesCalendar scheme.offset) ∧
    (∀ overflow, Search.ofQuery scheme kind query = .error (.overflow overflow) ↔
      query.LeavesCalendar scheme.offset ∧ overflow = .date) ∧
    (¬query.LeavesCalendar scheme.offset →
      ((∃ halt, Search.ofQuery scheme kind query = .error halt) ↔ query.Malformed) ∧
      (∀ fault, Search.ofQuery scheme kind query = .error (.fault fault) ↔ query.Refused fault) ∧
      (¬query.Malformed → ∃ search, Search.ofQuery scheme kind query = .ok search)) ∧
    ∀ search, Search.ofQuery scheme kind query = .ok search → search.Formed query kind := by
  refine ⟨Query.not_leavesCalendar_of_far, fun overflow => Search.ofQuery_eq_overflow_iff,
    fun hstays => ?_, fun search hsearch => Search.formed_of_ofQuery hsearch⟩
  have hrefused (fault : QueryFault) :
      Search.ofQuery scheme kind query = .error (.fault fault) ↔ query.Refused fault :=
    Search.ofQuery_eq_refused_iff hstays
  have hmalformed : (∃ halt, Search.ofQuery scheme kind query = .error halt) ↔
      query.Malformed := by
    rw [← Query.exists_refused_iff]
    constructor
    · rintro ⟨fault | overflow, h⟩
      · exact ⟨fault, (hrefused fault).1 h⟩
      · exact absurd (Search.ofQuery_eq_overflow_iff.1 h).1 hstays
    · rintro ⟨fault, h⟩
      exact ⟨.fault fault, (hrefused fault).2 h⟩
  refine ⟨hmalformed, hrefused, fun hformed => ?_⟩
  cases hresult : Search.ofQuery scheme kind query with
  | error halt => exact absurd (hmalformed.1 ⟨halt, hresult⟩) hformed
  | ok search => exact ⟨search, rfl⟩

end Logbook
