import Logbook.Proofs.Partition.Days
import Logbook.Proofs.Query.TimeRange
import Logbook.Search.OfQuery

/-!
# What a query comes down to

The steps from a query to its search, said once for all proofs about the searches of queries:

* `ofQuery_eq_ok_iff`: when a query comes down to a search, and to which (`ofQuery_ok` for the parts
  that do not depend on pages).
* `ofQuery_eq_error_iff`: which step it ends in where there is none.
* `ofQuery_eq_overflow_iff`: when it ends because a day has no date, which is where its time range
  leaves the calendar (`Query.LeavesCalendar`).
* `mem_clauses_within_iff`: the range clause of a search holds the time range of its query.
-/

set_option autoImplicit false

namespace Logbook

namespace Filter

/-- The range clause of a filter holds its time range. -/
theorem mem_clauses_within_iff {filter : Filter} {start stop : Int64} :
    .within timestampField start stop ∈ filter.clauses ↔ filter.range = some ⟨start, stop⟩ := by
  simp only [clauses, List.mem_append, Option.mem_toList, Option.map_eq_some_iff]
  constructor
  · rintro ((⟨range, hrange, hclause⟩ | ⟨scope, -, hclause⟩) | ⟨text, -, hclause⟩)
    · cases hclause
      exact hrange
    · cases hclause
    · cases hclause
  · intro hrange
    exact .inl (.inl ⟨_, hrange, rfl⟩)

end Filter

namespace PartitionScheme

variable {scheme : PartitionScheme}

theorem partitionsOf_some (scheme : PartitionScheme) (range : TimeRange) :
    scheme.partitionsOf (some range) =
      (scheme.partitionsFor range.start range.stop).map fun names =>
        if names = [] then [scheme.everyPartition] else names := by
  simp only [partitionsOf]
  cases scheme.partitionsFor range.start range.stop with
  | error overflow => rfl
  | ok names => cases names <;> rfl

/-- Partitions can be named but for a range with a bound on a day outside the calendar. -/
theorem partitionsOf_eq_error_iff {range : Option TimeRange} {overflow : Overflow} :
    scheme.partitionsOf range = .error overflow ↔
      (∃ bounds, range = some bounds ∧ (leavesCalendar scheme.offset bounds.start.toInt = true ∨
        leavesCalendar scheme.offset bounds.stop.toInt = true)) ∧ overflow = .date := by
  cases range with
  | none => simp [partitionsOf]
  | some bounds =>
    rw [partitionsOf_some, Fallible.map_eq_error_iff, partitionsFor_eq_error_iff]
    simp

end PartitionScheme

/-- The time range is in order, but a bound of it is an instant of the calendar on a local day
outside it. -/
def Query.LeavesCalendar (query : Query) (offset : Offset) : Prop :=
  ∃ range, query.filter.range = some range ∧ range.start ≤ range.stop ∧
    (leavesCalendar offset range.start.toInt = true ∨
      leavesCalendar offset range.stop.toInt = true)

/-- A time range away from the ends of the calendar does not leave it. -/
theorem Query.not_leavesCalendar_of_far {query : Query} {offset : Offset}
    (hfar : ∀ range, query.filter.range = some range →
      isNearEnd range.start.toInt = false ∧ isNearEnd range.stop.toInt = false) :
    ¬query.LeavesCalendar offset := by
  rintro ⟨range, hrange, -, hleaves⟩
  obtain ⟨hstart, hstop⟩ := hfar range hrange
  rw [leavesCalendar_of_far offset hstart, leavesCalendar_of_far offset hstop] at hleaves
  simp at hleaves

namespace Search

/-! ## The steps of `ofQuery` -/

/-- The search of the documents that pass a filter, without any hits. -/
def ofFilter (kind : DocumentKind) (filter : Filter) (partitions : List String)
    (aggregation : Option Aggregation) : Search :=
  { kind
    partitions
    clauses := filter.clauses
    aggregation
    skip := 0
    size := 0
    order := none
    excludes := [] }

/-- A search with the part of its hits that a question wants. -/
def paged (search : Search) : Question → Search
  | .logs page size =>
    { search with
      skip := skipped page size
      size
      order := some newestFirst
      excludes := if search.kind = .request ∨ search.kind = .log then payloads else [] }
  | _ => search

/-- What is wrong with a time range is told first, then come its partitions, and the question comes
last. -/
theorem ofQuery_eq (scheme : PartitionScheme) (kind : DocumentKind) (query : Query) :
    ofQuery scheme kind query =
      (((query.filter.range.map TimeRange.check).getD (.ok ())).mapError .fault >>= fun _ =>
        (scheme.partitionsOf query.filter.range).mapError .overflow >>= fun partitions =>
          ((query.question.aggregation? scheme query.filter.range).mapError .fault).map
            fun aggregation =>
              (ofFilter kind query.filter partitions aggregation).paged query.question) := by
  obtain ⟨⟨range, scope, text⟩, question⟩ := query
  cases range <;> cases question <;> rfl

theorem paged_partitions (search : Search) (question : Question) :
    (search.paged question).partitions = search.partitions := by
  cases question <;> rfl

theorem paged_clauses (search : Search) (question : Question) :
    (search.paged question).clauses = search.clauses := by
  cases question <;> rfl

theorem paged_aggregation (search : Search) (question : Question) :
    (search.paged question).aggregation = search.aggregation := by
  cases question <;> rfl

/-! ## What comes of a query -/

section
variable {scheme : PartitionScheme} {kind : DocumentKind} {query : Query}

theorem check_eq_ok_iff : (query.filter.range.map TimeRange.check).getD (.ok ()) = .ok () ↔
    ∀ range, query.filter.range = some range → range.start ≤ range.stop := by
  cases query.filter.range with
  | none => simp
  | some range => simp [TimeRange.check_eq_ok_iff]

theorem check_eq_error_iff {fault : QueryFault} :
    (query.filter.range.map TimeRange.check).getD (.ok ()) = .error fault ↔
      ∃ range, query.filter.range = some range ∧ range.stop < range.start ∧
        fault = .inverted range.start range.stop := by
  cases query.filter.range with
  | none => simp
  | some range => simp [TimeRange.check_eq_error_iff]

/-- A time range in order that does not leave the calendar has partitions. -/
theorem exists_partitionsOf (hstays : ¬query.LeavesCalendar scheme.offset)
    (hordered : ∀ range, query.filter.range = some range → range.start ≤ range.stop) :
    ∃ partitions, scheme.partitionsOf query.filter.range = .ok partitions := by
  cases hpartitions : scheme.partitionsOf query.filter.range with
  | ok partitions => exact ⟨partitions, rfl⟩
  | error overflow =>
    obtain ⟨⟨range, hrange, hleaves⟩, -⟩ :=
      PartitionScheme.partitionsOf_eq_error_iff.1 hpartitions
    exact absurd ⟨range, hrange, hordered range hrange, hleaves⟩ hstays

/-- A query comes down to a search where its time range is in order, the partitions of that range
can be named and its question can be asked of it; the search then has those partitions, the filter's
clauses, the question's aggregation and the page that it wants. -/
theorem ofQuery_eq_ok_iff {search : Search} :
    ofQuery scheme kind query = .ok search ↔
      (∀ range, query.filter.range = some range → range.start ≤ range.stop) ∧
        ∃ partitions aggregation,
          scheme.partitionsOf query.filter.range = .ok partitions ∧
            query.question.aggregation? scheme query.filter.range = .ok aggregation ∧
              search =
                (ofFilter kind query.filter partitions aggregation).paged query.question := by
  rw [ofQuery_eq, Fallible.bind_eq_ok_iff]
  simp only [Fallible.mapError_eq_ok_iff, Fallible.bind_eq_ok_iff, Fallible.map_eq_ok_iff]
  constructor
  · rintro ⟨⟨⟩, hrange, partitions, hpartitions, aggregation, haggregation, h⟩
    cases h
    exact ⟨check_eq_ok_iff.1 hrange, partitions, aggregation, hpartitions, haggregation, rfl⟩
  · rintro ⟨hordered, partitions, aggregation, hpartitions, haggregation, rfl⟩
    exact ⟨(), check_eq_ok_iff.2 hordered, partitions, hpartitions, aggregation, haggregation, rfl⟩

/-- The partitions and clauses of a search are those of its query's filter. -/
theorem ofQuery_ok {search : Search} (h : ofQuery scheme kind query = .ok search) :
    (∀ range, query.filter.range = some range → range.start ≤ range.stop) ∧
      scheme.partitionsOf query.filter.range = .ok search.partitions ∧
      search.clauses = query.filter.clauses ∧
      query.question.aggregation? scheme query.filter.range = .ok search.aggregation := by
  obtain ⟨hordered, partitions, aggregation, hpartitions, haggregation, rfl⟩ :=
    ofQuery_eq_ok_iff.1 h
  rw [paged_partitions, paged_clauses, paged_aggregation]
  exact ⟨hordered, hpartitions, rfl, haggregation⟩

/-- A query ends in the first step that fails: the check of its time range, the names of the
partitions of that range, or the question. -/
theorem ofQuery_eq_error_iff {halt : Halt QueryFault} :
    ofQuery scheme kind query = .error halt ↔
      (∃ range, query.filter.range = some range ∧ range.stop < range.start ∧
        halt = .fault (.inverted range.start range.stop)) ∨
      (∀ range, query.filter.range = some range → range.start ≤ range.stop) ∧
        ((∃ overflow, scheme.partitionsOf query.filter.range = .error overflow ∧
            halt = .overflow overflow) ∨
          (∃ partitions, scheme.partitionsOf query.filter.range = .ok partitions) ∧
            ∃ fault, query.question.aggregation? scheme query.filter.range = .error fault ∧
              halt = .fault fault) := by
  rw [ofQuery_eq]
  simp only [Fallible.bind_eq_error_iff, Fallible.mapError_eq_error_iff,
    Fallible.mapError_eq_ok_iff, Fallible.map_eq_error_iff, check_eq_error_iff]
  constructor
  · rintro (⟨_, ⟨range, hrange, hlt, rfl⟩, rfl⟩ | ⟨⟨⟩, hcheck, hlater⟩)
    · exact .inl ⟨range, hrange, hlt, rfl⟩
    · refine .inr ⟨check_eq_ok_iff.1 hcheck, ?_⟩
      rcases hlater with ⟨overflow, hpartitions, rfl⟩ | ⟨partitions, hpartitions, hquestion⟩
      · exact .inl ⟨overflow, hpartitions, rfl⟩
      · obtain ⟨fault, hquestion, rfl⟩ := hquestion
        exact .inr ⟨⟨partitions, hpartitions⟩, fault, hquestion, rfl⟩
  · rintro (⟨range, hrange, hlt, rfl⟩ | ⟨hordered, hlater⟩)
    · exact .inl ⟨_, ⟨range, hrange, hlt, rfl⟩, rfl⟩
    · refine .inr ⟨(), check_eq_ok_iff.2 hordered, ?_⟩
      rcases hlater with ⟨overflow, hpartitions, rfl⟩ | ⟨⟨partitions, hpartitions⟩, hquestion⟩
      · exact .inl ⟨overflow, hpartitions, rfl⟩
      · obtain ⟨fault, hquestion, rfl⟩ := hquestion
        exact .inr ⟨partitions, hpartitions, fault, hquestion, rfl⟩

/-- A query is refused for the order of its time range, or else for its question. -/
theorem ofQuery_eq_fault_iff {fault : QueryFault} :
    ofQuery scheme kind query = .error (.fault fault) ↔
      (∃ range, query.filter.range = some range ∧ range.stop < range.start ∧
        fault = .inverted range.start range.stop) ∨
      ((∀ range, query.filter.range = some range → range.start ≤ range.stop) ∧
        (∃ partitions, scheme.partitionsOf query.filter.range = .ok partitions) ∧
          query.question.aggregation? scheme query.filter.range = .error fault) := by
  simp only [ofQuery_eq_error_iff, Halt.fault.injEq, reduceCtorEq, and_false, exists_false,
    false_or, exists_eq_right']

/-- A query ends without a search or a fault where its time range leaves the calendar, whatever it
asks. -/
theorem ofQuery_eq_overflow_iff {overflow : Overflow} :
    ofQuery scheme kind query = .error (.overflow overflow) ↔
      query.LeavesCalendar scheme.offset ∧ overflow = .date := by
  simp only [ofQuery_eq_error_iff, Halt.overflow.injEq, reduceCtorEq, and_false, exists_false,
    false_or, or_false, exists_eq_right', PartitionScheme.partitionsOf_eq_error_iff]
  constructor
  · rintro ⟨hordered, ⟨range, hrange, hleaves⟩, hdate⟩
    exact ⟨⟨range, hrange, hordered range hrange, hleaves⟩, hdate⟩
  · rintro ⟨⟨range, hrange, hle, hleaves⟩, hdate⟩
    refine ⟨fun other hother => ?_, ⟨range, hrange, hleaves⟩, hdate⟩
    obtain rfl := Option.some.inj (hrange.symm.trans hother)
    exact hle

end

/-- How a gateway is at an instant is searched for in the partition of that instant alone. -/
theorem partitions_of_latestMonitoring {scheme : PartitionScheme} {gateway : String} {now : Int64}
    {search : Search} (h : latestMonitoring scheme gateway now = .ok search) :
    ∃ today, scheme.partitionAt? now = some today ∧ search.partitions = [today] := by
  unfold latestMonitoring at h
  split at h
  · cases h
  · rename_i today htoday
    cases h
    exact ⟨today, htoday, rfl⟩

end Search

end Logbook
