import Logbook.Proofs.Partition.Days
import Logbook.Proofs.Search.OfQuery

/-!
# The partitions of a search cover its time range

A search names its documents twice: by the instants of its range clause and by the days of its
partitions. `partitions_cover_range`: the two agree. No instant of the range clause is without its
partition, no partition is without an instant of the range clause, and all partitions are searched
only where there is no time range or a bound of it is outside the calendar.
-/

set_option autoImplicit false

namespace Logbook

namespace PartitionScheme

/-- The name of a day holds points, so it is not the pattern that all names match. -/
theorem nameOfDay_ne_everyPartition (scheme : PartitionScheme) (day : Int) :
    scheme.nameOfDay day ≠ scheme.everyPartition := by
  intro h
  have hchars : (Date.ofDay day).chars = ['*'] := by
    have hlists := congrArg String.toList h
    simp only [nameOfDay, everyPartition, String.toList_append, String.toList_ofList,
      List.append_assoc] at hlists
    exact List.tail_eq_of_cons_eq (List.append_cancel_left hlists)
  have hpoint : '.' ∈ (Date.ofDay day).chars := by
    simp only [Date.chars, List.mem_append, List.mem_cons, true_or, or_true]
  rw [hchars] at hpoint
  exact absurd hpoint (by decide)

theorem everyPartition_not_mem_namesBetween (scheme : PartitionScheme) (start stop : Int64) :
    scheme.everyPartition ∉ scheme.namesBetween start stop := by
  unfold namesBetween
  split
  · intro hmem
    obtain ⟨day, -, hday⟩ := List.mem_map.1 hmem
    exact nameOfDay_ne_everyPartition scheme day hday
  · exact List.not_mem_nil

section
variable {scheme : PartitionScheme} {range : TimeRange} {partitions : List String}
  (hpartitions : scheme.partitionsOf (some range) = .ok partitions)
include hpartitions

theorem partitionsOf_some_eq :
    partitions = if scheme.namesBetween range.start range.stop = [] then [scheme.everyPartition]
      else scheme.namesBetween range.start range.stop := by
  rw [partitionsOf_some] at hpartitions
  obtain ⟨names, hnames, rfl⟩ := Fallible.map_eq_ok_iff.1 hpartitions
  obtain ⟨-, -, rfl⟩ := partitionsFor_eq_ok_iff.1 hnames
  rfl

/-- All partitions are searched where the list of partitions is empty, and only there. -/
theorem partitionsOf_some_eq_every_iff :
    partitions = [scheme.everyPartition] ↔ scheme.namesBetween range.start range.stop = [] := by
  rw [partitionsOf_some_eq hpartitions]
  constructor
  · intro h
    split at h
    · assumption
    · have hmem := everyPartition_not_mem_namesBetween scheme range.start range.stop
      rw [h] at hmem
      exact absurd List.mem_cons_self hmem
  · intro h
    rw [if_pos h]

variable (hstart : isNearEnd range.start.toInt = false)
  (hstop : isNearEnd range.stop.toInt = false) (hordered : range.start ≤ range.stop)
include hstart hstop hordered

/-- Where the partitions of a range are not all of them, its bounds are in the calendar and they
are the partitions of its instants. -/
theorem partitionsOf_some_ne_every (hne : partitions ≠ [scheme.everyPartition]) :
    inCalendar (dayOf range.start.toInt) = true ∧ inCalendar (dayOf range.stop.toInt) = true ∧
      partitions = scheme.namesBetween range.start range.stop := by
  have hnil := mt (partitionsOf_some_eq_every_iff hpartitions).2 hne
  have hin := mt (namesBetween_eq_nil_iff hstart hstop hordered).2 hnil
  simp only [not_or, Bool.not_eq_false] at hin
  exact ⟨hin.1, hin.2, by rw [partitionsOf_some_eq hpartitions, if_neg hnil]⟩

/-- No instant of a range is without its partition. -/
theorem partitionAt?_mem_partitionsOf {t : Int64} (hfrom : range.start ≤ t)
    (hto : t ≤ range.stop) :
    partitions = [scheme.everyPartition] ∨
      ∃ name ∈ partitions, scheme.partitionAt? t = some name := by
  by_cases hall : partitions = [scheme.everyPartition]
  · exact .inl hall
  · obtain ⟨hinStart, hinStop, heq⟩ :=
      partitionsOf_some_ne_every hpartitions hstart hstop hordered hall
    have hname : ∃ name, scheme.partitionAt? t = some name :=
      exists_partitionAt? hinStart hinStop hstart hstop hfrom hto
    obtain ⟨name, hname⟩ := hname
    rw [heq]
    exact .inr ⟨name, (mem_namesBetween_iff hinStart hinStop hstart hstop hordered).2
      ⟨t, hfrom, hto, hname⟩, hname⟩

/-- No partition is without an instant of the range. -/
theorem exists_instant_of_mem_partitionsOf {name : String} (hname : name ∈ partitions)
    (hne : name ≠ scheme.everyPartition) :
    ∃ t : Int64, range.start ≤ t ∧ t ≤ range.stop ∧ scheme.partitionAt? t = some name := by
  have hall : partitions ≠ [scheme.everyPartition] := by
    intro hall
    rw [hall] at hname
    exact hne (List.mem_singleton.1 hname)
  obtain ⟨hinStart, hinStop, heq⟩ :=
    partitionsOf_some_ne_every hpartitions hstart hstop hordered hall
  rw [heq] at hname
  exact (mem_namesBetween_iff hinStart hinStop hstart hstop hordered).1 hname

end

end PartitionScheme

open PartitionScheme in
/-- **The partitions of a search are those of the instants in its range clause**, or all of them
where it has no time range or one that leaves the calendar. -/
theorem partitions_cover_range {scheme : PartitionScheme} {kind : DocumentKind} {query : Query}
    {search : Search} (h : Search.ofQuery scheme kind query = .ok search)
    (hends : ∀ range, query.filter.range = some range →
      isNearEnd range.start.toInt = false ∧ isNearEnd range.stop.toInt = false) :
    (∀ start stop : Int64, .within timestampField start stop ∈ search.clauses ↔
      query.filter.range = some ⟨start, stop⟩) ∧
    (∀ start stop t : Int64, .within timestampField start stop ∈ search.clauses →
      start ≤ t → t ≤ stop →
        search.partitions = [scheme.everyPartition] ∨
          ∃ name ∈ search.partitions, scheme.partitionAt? t = some name) ∧
    (∀ name ∈ search.partitions, name ≠ scheme.everyPartition →
      ∃ start stop t : Int64, .within timestampField start stop ∈ search.clauses ∧
        start ≤ t ∧ t ≤ stop ∧ scheme.partitionAt? t = some name) ∧
    (scheme.everyPartition ∈ search.partitions → search.partitions = [scheme.everyPartition]) ∧
    (search.partitions = [scheme.everyPartition] ↔
      query.filter.range = none ∨ ∃ range, query.filter.range = some range ∧
        (inCalendar (dayOf range.start.toInt) = false ∨
          inCalendar (dayOf range.stop.toInt) = false)) := by
  obtain ⟨hordered, hpartitions, hclauses, -⟩ := Search.ofQuery_ok h
  have hwithin (start stop : Int64) : .within timestampField start stop ∈ search.clauses ↔
      query.filter.range = some ⟨start, stop⟩ := by
    rw [hclauses]
    exact Filter.mem_clauses_within_iff
  refine ⟨hwithin, ?_⟩
  simp only [hwithin]
  cases hrange : query.filter.range with
  | none =>
    rw [hrange] at hpartitions
    rw [← Except.ok.inj hpartitions]
    refine ⟨fun start stop t hsome => (by cases hsome), fun name hname hne => ?_,
      fun _ => rfl, fun _ => .inl rfl, fun _ => rfl⟩
    exact absurd (List.mem_singleton.1 hname) hne
  | some range =>
    obtain ⟨hstart, hstop⟩ := hends range hrange
    have hle := hordered range hrange
    rw [hrange] at hpartitions
    refine ⟨fun start stop t hsome hfrom hto => ?_, fun name hname hne => ?_, fun hmem => ?_, ?_⟩
    · cases hsome
      exact partitionAt?_mem_partitionsOf hpartitions hstart hstop hle hfrom hto
    · obtain ⟨t, hfrom, hto, ht⟩ :=
        exists_instant_of_mem_partitionsOf hpartitions hstart hstop hle hname hne
      exact ⟨range.start, range.stop, t, rfl, hfrom, hto, ht⟩
    · apply Decidable.byContradiction
      intro hall
      rw [(partitionsOf_some_ne_every hpartitions hstart hstop hle hall).2.2] at hmem
      exact everyPartition_not_mem_namesBetween scheme range.start range.stop hmem
    · rw [partitionsOf_some_eq_every_iff hpartitions, namesBetween_eq_nil_iff hstart hstop hle]
      simp only [reduceCtorEq, false_or, Option.some.injEq, exists_eq_left']

/-- Two days around a leap day, seen from an offset of five and a half hours: not all partitions
are searched, and the last instant of the leap day has its own among them. -/
theorem partitions_cover_leap_day :
    let scheme : PartitionScheme := ⟨"gravitee", ⟨330, by decide, by decide⟩⟩
    let query : Query := ⟨⟨some ⟨1709145000000, 1709231400000⟩, none, none⟩, .count⟩
    ∃ search, Search.ofQuery scheme .request query = .ok search ∧
      search.partitions ≠ [scheme.everyPartition] ∧
      ∃ name ∈ search.partitions, scheme.partitionAt? 1709231399999 = some name := by
  intro scheme query
  have hends : ∀ range, query.filter.range = some range →
      isNearEnd range.start.toInt = false ∧ isNearEnd range.stop.toInt = false := by
    intro range hrange
    cases hrange
    decide
  obtain ⟨hwithin, hcover, -, -, hevery⟩ :=
    partitions_cover_range (rfl : Search.ofQuery scheme .request query = .ok _) hends
  have hne := mt hevery.1 (by
    rintro (hnone | ⟨range, hrange, hout⟩)
    · cases hnone
    · cases hrange
      exact absurd hout (by decide))
  have hmem := hcover 1709145000000 1709231400000 1709231399999 ((hwithin _ _).2 rfl)
    (by decide) (by decide)
  exact ⟨_, rfl, hne, hmem.resolve_left hne⟩

end Logbook
