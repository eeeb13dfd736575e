import Logbook.Proofs.Partition.Coverage

/-!
# The ends of the calendar

The lists of partitions over all instants, the first and the last days of the calendar included.

* `getLast?_daysBetween`: the last day of the calendar has no day after it and is never listed. So
  a range that ends on it lacks its last partition (`partitions_lack_last_day`).
* `partitions_end_before_last_day`: all other lists end with the last local day of their range, and
  are empty only where a bound is outside the calendar or the days are in the wrong order.
-/

set_option autoImplicit false

namespace Logbook

namespace PartitionScheme

variable {scheme : PartitionScheme} {start stop : Int64}

theorem daysBetween_eq_nil_iff {first last : Int} :
    daysBetween first last = [] ↔ last < first ∨ lastDay ≤ first := by
  rw [List.eq_nil_iff_forall_not_mem]
  constructor
  · intro h
    have hfirst := h first
    rw [mem_daysBetween] at hfirst
    omega
  · intro h day hday
    rw [mem_daysBetween] at hday
    omega

/-- The last day listed is the last one of all, or the one before the end of the calendar. -/
theorem getLast?_daysBetween {first last : Int} (hne : daysBetween first last ≠ []) :
    (daysBetween first last).getLast? = some (min last (lastDay - 1)) := by
  rw [ne_eq, daysBetween_eq_nil_iff] at hne
  simp only [daysBetween, List.getLast?_map, List.getLast?_range]
  rw [if_neg (by omega), Option.map_some, Option.some.injEq]
  omega

theorem namesBetween_eq_daysBetween (hstart : leavesCalendar scheme.offset start.toInt = false)
    (hstop : leavesCalendar scheme.offset stop.toInt = false)
    (hinStart : inCalendar (dayOf start.toInt) = true)
    (hinStop : inCalendar (dayOf stop.toInt) = true) :
    scheme.namesBetween start stop =
      (daysBetween (localDay scheme.offset start.toInt)
        (localDay scheme.offset stop.toInt)).map scheme.nameOfDay := by
  unfold namesBetween
  rw [localDay?_of_not_leavesCalendar hstart, localDay?_of_not_leavesCalendar hstop,
    if_pos hinStart, if_pos hinStop]

/-- What is listed, and what is not, where no bound leaves the calendar. -/
theorem namesBetween_eq_nil_iff_of_not_leavesCalendar
    (hstart : leavesCalendar scheme.offset start.toInt = false)
    (hstop : leavesCalendar scheme.offset stop.toInt = false) :
    scheme.namesBetween start stop = [] ↔
      inCalendar (dayOf start.toInt) = false ∨ inCalendar (dayOf stop.toInt) = false ∨
        localDay scheme.offset stop.toInt < localDay scheme.offset start.toInt ∨
          localDay scheme.offset start.toInt = lastDay := by
  by_cases hinStart : inCalendar (dayOf start.toInt) = true
  · by_cases hinStop : inCalendar (dayOf stop.toInt) = true
    · have hday := (inCalendar_iff.1 (leavesCalendar_eq_false_iff.1 hstart hinStart)).2
      rw [namesBetween_eq_daysBetween hstart hstop hinStart hinStop, List.map_eq_nil_iff,
        daysBetween_eq_nil_iff, hinStart, hinStop]
      simp only [Bool.true_eq_false, false_or]
      omega
    · rw [Bool.not_eq_true] at hinStop
      simp [hinStop, namesBetween_of_not_inCalendar (.inr hinStop)]
  · rw [Bool.not_eq_true] at hinStart
    simp [hinStart, namesBetween_of_not_inCalendar (.inl hinStart)]

/-- A list that is not empty ends with the last local day, or with the day before the last one of
the calendar. -/
theorem getLast?_namesBetween (hstart : leavesCalendar scheme.offset start.toInt = false)
    (hstop : leavesCalendar scheme.offset stop.toInt = false)
    (hne : scheme.namesBetween start stop ≠ []) :
    (scheme.namesBetween start stop).getLast? =
      some (scheme.nameOfDay (min (localDay scheme.offset stop.toInt) (lastDay - 1))) := by
  have hin := mt (namesBetween_eq_nil_iff_of_not_leavesCalendar hstart hstop).2 hne
  simp only [not_or, Bool.not_eq_false] at hin
  rw [namesBetween_eq_daysBetween hstart hstop hin.1 hin.2.1] at hne ⊢
  rw [List.getLast?_map, getLast?_daysBetween (fun h => hne (by rw [h, List.map_nil])),
    Option.map_some]

end PartitionScheme

open PartitionScheme in
/-- **A list of partitions ends with the last local day of its range**, or with the day before it
where that is the last day of the calendar. There is a list for every two instants that do not
leave the calendar, and no search of a range in order that does; the list is empty where a bound is
outside the calendar, where the days are in the wrong order or where they begin with the last day of
all, and a search then asks for all partitions. -/
theorem partitions_end_before_last_day (scheme : PartitionScheme) (start stop : Int64) :
    let first := localDay scheme.offset start.toInt
    let last := localDay scheme.offset stop.toInt
    (∀ overflow, scheme.partitionsFor start stop = .error overflow ↔
      (leavesCalendar scheme.offset start.toInt = true ∨
        leavesCalendar scheme.offset stop.toInt = true) ∧ overflow = .date) ∧
    (∀ kind query, query.filter.range = some ⟨start, stop⟩ → start ≤ stop →
      ∀ overflow, Search.ofQuery scheme kind query = .error (.overflow overflow) ↔
        scheme.partitionsFor start stop = .error overflow) ∧
    ∀ names, scheme.partitionsFor start stop = .ok names →
      (names = [] ↔ inCalendar (dayOf start.toInt) = false ∨
        inCalendar (dayOf stop.toInt) = false ∨ last < first ∨ first = lastDay) ∧
      (names ≠ [] → names.getLast? = some (scheme.nameOfDay (min last (lastDay - 1)))) ∧
      ∀ kind query search, Search.ofQuery scheme kind query = .ok search →
        query.filter.range = some ⟨start, stop⟩ →
          search.partitions = if names = [] then [scheme.everyPartition] else names := by
  intro first last
  refine ⟨fun overflow => partitionsFor_eq_error_iff,
    fun kind query hrange hordered overflow => ?_, fun names hnames => ?_⟩
  · rw [Search.ofQuery_eq_overflow_iff, partitionsFor_eq_error_iff, Query.LeavesCalendar, hrange]
    simp [hordered]
  obtain ⟨hstart, hstop, rfl⟩ := partitionsFor_eq_ok_iff.1 hnames
  refine ⟨namesBetween_eq_nil_iff_of_not_leavesCalendar hstart hstop,
    getLast?_namesBetween hstart hstop, fun kind query search hsearch hrange => ?_⟩
  obtain ⟨-, hpartitions, -⟩ := Search.ofQuery_ok hsearch
  rw [hrange] at hpartitions
  rw [partitionsOf_some_eq hpartitions]

/-- The last two days of the calendar in universal time: the partition of the first is listed, and
that of the last is not. An hour to the east the last hour of the calendar has no date. -/
theorem partitions_lack_last_day :
    let scheme : PartitionScheme := ⟨"gravitee", .utc⟩
    let east : PartitionScheme := ⟨"gravitee", ⟨60, by decide, by decide⟩⟩
    let start : Int64 := 8210266704000000
    let stop : Int64 := 8210266876799999
    inCalendar (localDay scheme.offset start.toInt) = true ∧
      localDay scheme.offset stop.toInt = lastDay ∧
      scheme.nameOfDay lastDay = "gravitee-+262142.12.31" ∧
      scheme.partitionsFor start stop = .ok ["gravitee-+262142.12.30"] ∧
      TimeRange.between start stop = .ok ⟨start, stop⟩ ∧
      east.partitionsFor start stop = .error .date := by
  decide +kernel

end Logbook
