import Logbook.Proofs.Command.Window
import Logbook.Proofs.Partition.Coverage
import Logbook.Proofs.Partition.Listing
import Logbook.Proofs.Search.Refusal

/-!
# The default window of questions about health checks

A question about health checks without a time range is asked of the thirty days that lead up to
now. A window of whole days begins at the time of day at which it ends, so it begins as many local
days earlier as it is wide (`localDay_sub_days`), whatever the offset is, and meets one local day
more than that: `default_window_has_thirty_one_days`.
-/

set_option autoImplicit false

namespace Logbook

theorem dayOf_sub_days (instant days : Int) :
    dayOf (instant - days * millisPerDay) = dayOf instant - days := by
  simp only [dayOf, millisPerDay]
  omega

/-- Whole days before an instant the local day is as many days earlier. -/
theorem localDay_sub_days (offset : Offset) (instant days : Int) :
    localDay offset (instant - days * millisPerDay) = localDay offset instant - days := by
  simp only [localDay, dayOf, millisPerDay]
  omega

/-! ## The window -/

theorem Query.toInt_healthWindow : healthWindow.toInt = 30 * millisPerDay := by
  decide

namespace TimeRange

/-- The default window reaches back thirty days, or to the first instant there is. -/
theorem toInt_start_healthWindow (now : Int64) :
    (upTo Query.healthWindow now).start.toInt = max (-2 ^ 63) (now.toInt - 30 * millisPerDay) := by
  rw [toInt_start_upTo, Query.toInt_healthWindow, millisPerDay]
  omega

/-- Away from the beginning of the calendar, which is long after the first instant that a word can
say, the default window begins thirty days before its end. -/
theorem toInt_start_healthWindow_of_far {now : Int64} (hlow : firstDay + 32 ≤ dayOf now.toInt) :
    (upTo Query.healthWindow now).start.toInt = now.toInt - 30 * millisPerDay := by
  have hfirst : -100000000 ≤ firstDay := by decide
  rw [toInt_start_healthWindow]
  simp only [dayOf, millisPerDay] at hlow ⊢
  omega

/-- Neither bound of the default window is near an end of the calendar where now is far from it. -/
theorem isNearEnd_healthWindow {now : Int64} (hlow : firstDay + 32 ≤ dayOf now.toInt)
    (hhigh : dayOf now.toInt ≤ lastDay - 32) :
    isNearEnd (upTo Query.healthWindow now).start.toInt = false ∧ isNearEnd now.toInt = false := by
  rw [isNearEnd_eq_false_iff, isNearEnd_eq_false_iff, toInt_start_healthWindow_of_far hlow,
    dayOf_sub_days]
  omega

end TimeRange

namespace Query

variable {query : Query} {now : Int64}

theorem withDefaultWindow_of_some {range : TimeRange} (h : query.filter.range = some range)
    (now : Int64) : query.withDefaultWindow now = query := by
  simp only [withDefaultWindow, h]

theorem withDefaultWindow_of_none (h : query.filter.range = none) (now : Int64) :
    query.withDefaultWindow now =
      ⟨⟨some (.upTo healthWindow now), query.filter.scope, query.filter.text⟩, query.question⟩ := by
  simp only [withDefaultWindow, h]

/-- A query with the default window has a time range. -/
theorem exists_range_withDefaultWindow (query : Query) (now : Int64) :
    ∃ range, (query.withDefaultWindow now).filter.range = some range := by
  cases h : query.filter.range with
  | none => exact ⟨_, by rw [withDefaultWindow_of_none h]⟩
  | some range => exact ⟨range, by rw [withDefaultWindow_of_some h, h]⟩

/-- A query with the default window is not refused for its time range. -/
theorem withDefaultWindow_not_refused (h : query.filter.range = none) {fault : QueryFault}
    (hrefused : (query.withDefaultWindow now).Refused fault) :
    fault ≠ .noTimeRange ∧ ∀ start stop, fault ≠ .inverted start stop := by
  rw [withDefaultWindow_of_none h] at hrefused
  cases hrefused with
  | inverted hrange hlt =>
    cases hrange
    exact absurd (TimeRange.start_le_stop_upTo healthWindow now) (Int64.not_le.2 hlt)
  | noTimeRange hrange => cases hrange
  | zeroPage | zeroSize => simp

end Query

/-! ## The days of the window -/

namespace PartitionScheme

/-- The default window up to an instant of the calendar, away from its ends, has the partitions of
thirty-one days, of which the last is the day of that instant. -/
theorem namesBetween_healthWindow (scheme : PartitionScheme) {now : Int64}
    (hlow : firstDay + 32 ≤ dayOf now.toInt) (hhigh : dayOf now.toInt ≤ lastDay - 32) :
    scheme.namesBetween (TimeRange.upTo Query.healthWindow now).start now =
      (List.range 31).map fun k : Nat =>
        scheme.nameOfDay (localDay scheme.offset now.toInt - 30 + k) := by
  have hstart := TimeRange.toInt_start_healthWindow_of_far hlow
  have hday : dayOf (TimeRange.upTo Query.healthWindow now).start.toInt = dayOf now.toInt - 30 := by
    rw [hstart, dayOf_sub_days]
  have hlocal : localDay scheme.offset (TimeRange.upTo Query.healthWindow now).start.toInt =
      localDay scheme.offset now.toInt - 30 := by
    rw [hstart, localDay_sub_days]
  have hcount : (localDay scheme.offset now.toInt -
      localDay scheme.offset (TimeRange.upTo Query.healthWindow now).start.toInt + 1).toNat =
        31 := by
    rw [hlocal]
    omega
  obtain ⟨hfarStart, hfarNow⟩ := TimeRange.isNearEnd_healthWindow hlow hhigh
  rw [namesBetween_eq_range ?_ ?_ hfarStart hfarNow, hcount, hlocal]
  · rw [hday, inCalendar_iff]
    omega
  · rw [inCalendar_iff]
    omega

/-- An instant of the calendar, away from its ends, has the partition of its local day. -/
theorem partitionAt?_of_far (scheme : PartitionScheme) {now : Int64}
    (hlow : firstDay + 32 ≤ dayOf now.toInt) (hhigh : dayOf now.toInt ≤ lastDay - 32) :
    scheme.partitionAt? now = some (scheme.nameOfDay (localDay scheme.offset now.toInt)) := by
  have hin : inCalendar (dayOf now.toInt) = true := by
    rw [inCalendar_iff]
    omega
  have hfar : isNearEnd now.toInt = false := by
    rw [isNearEnd_eq_false_iff]
    omega
  rw [partitionAt?, (localDay?_of_inCalendar scheme.offset hin hfar).1, Option.map_some]

end PartitionScheme

open PartitionScheme in
/-- **The default window is applied once and has thirty-one days.** A query that has a time range is
left as it is, so that a second default changes nothing; any other query gets the thirty days up to
now for its time range and stays as it is otherwise. It is then never refused for its time range. At
an instant of the calendar away from its ends its days have dates, and where it is not refused at
all its search is of thirty-one partitions: those of consecutive local days, each once, of which the
last is that of now. -/
theorem default_window_has_thirty_one_days (query : Query) (now : Int64) :
    (∀ later, (query.withDefaultWindow now).withDefaultWindow later =
      query.withDefaultWindow now) ∧
    (∀ range, query.filter.range = some range → query.withDefaultWindow now = query) ∧
    (query.filter.range = none → ∃ start : Int64,
      start.toInt = max (-2 ^ 63) (now.toInt - 30 * (24 * (60 * (60 * 1000)))) ∧
      query.withDefaultWindow now =
        ⟨⟨some ⟨start, now⟩, query.filter.scope, query.filter.text⟩, query.question⟩ ∧
      ∀ (scheme : PartitionScheme) (kind : DocumentKind),
        (∀ fault, Search.ofQuery scheme kind (query.withDefaultWindow now) =
            .error (.fault fault) →
          fault ≠ .noTimeRange ∧ ∀ start stop, fault ≠ .inverted start stop) ∧
        (firstDay + 32 ≤ dayOf now.toInt → dayOf now.toInt ≤ lastDay - 32 →
          (∀ overflow, Search.ofQuery scheme kind (query.withDefaultWindow now) ≠
            .error (.overflow overflow)) ∧
          ∀ search, Search.ofQuery scheme kind (query.withDefaultWindow now) = .ok search →
            ∃ today, localDay scheme.offset now.toInt = today ∧
              search.partitions =
                (List.range 31).map (fun k : Nat => scheme.nameOfDay (today - 30 + k)) ∧
              search.partitions.length = 31 ∧ search.partitions.Nodup ∧
              scheme.partitionAt? now = some (scheme.nameOfDay today) ∧
              search.partitions.getLast? = scheme.partitionAt? now)) := by
  refine ⟨fun later => ?once, fun range hrange => Query.withDefaultWindow_of_some hrange now,
    fun hnone => ⟨(TimeRange.upTo Query.healthWindow now).start, ?start,
      Query.withDefaultWindow_of_none hnone now, fun scheme kind =>
        ⟨fun fault hfault => ?accepted, fun hlow hhigh =>
          ⟨fun overflow hoverflow => ?dated, fun search hsearch => ?days⟩⟩⟩⟩
  case once =>
    obtain ⟨range, hrange⟩ := query.exists_range_withDefaultWindow now
    exact Query.withDefaultWindow_of_some hrange later
  case start =>
    rw [TimeRange.toInt_start_healthWindow]
    rfl
  case accepted =>
    exact Query.withDefaultWindow_not_refused hnone (Search.refused_of_ofQuery hfault)
  case dated =>
    obtain ⟨hleaves, -⟩ := Search.ofQuery_eq_overflow_iff.1 hoverflow
    refine Query.not_leavesCalendar_of_far (fun range hrange => ?_) hleaves
    rw [Query.withDefaultWindow_of_none hnone, Option.some.injEq] at hrange
    subst hrange
    exact TimeRange.isNearEnd_healthWindow hlow hhigh
  case days =>
    obtain ⟨-, hpartitions, -⟩ := Search.ofQuery_ok hsearch
    have hnames := scheme.namesBetween_healthWindow hlow hhigh
    have hlisted : search.partitions = scheme.namesBetween
        (TimeRange.upTo Query.healthWindow now).start now := by
      rw [Query.withDefaultWindow_of_none hnone] at hpartitions
      rw [partitionsOf_some_eq hpartitions]
      refine if_neg fun hnil => ?_
      cases hnames.symm.trans hnil
    have hlast := scheme.partitionAt?_of_far hlow hhigh
    refine ⟨_, rfl, hlisted.trans hnames, ?_, ?_, hlast, ?_⟩
    · rw [hlisted, hnames, List.length_map, List.length_range]
    · rw [hlisted]
      exact nodup_namesBetween
    · rw [hlisted, hnames, hlast, List.getLast?_map, List.getLast?_range]
      simp

/-- The availability of the month up to the first instant of a year, five and a half hours to the
west: the last of the thirty-one days is still the last day of the year before. -/
theorem default_window_up_to_new_year :
    let scheme : PartitionScheme := ⟨"gravitee", ⟨-330, by decide, by decide⟩⟩
    let query : Query := ⟨.all, .availability .endpoint⟩
    ∃ search, Search.ofQuery scheme .health (query.withDefaultWindow 1704067200000) = .ok search ∧
      search.partitions.length = 31 ∧
      search.partitions.getLast? = some "gravitee-2023.12.31" := by
  intro scheme query
  obtain ⟨-, -, hdefault⟩ := default_window_has_thirty_one_days query 1704067200000
  obtain ⟨start, -, -, hsearches⟩ := hdefault rfl
  obtain ⟨-, hdays⟩ := hsearches scheme .health
  obtain ⟨-, hsearch⟩ := hdays (by decide) (by decide)
  obtain ⟨today, htoday, -, hlength, -, hname, hlast⟩ := hsearch _ rfl
  have hday : today = 19722 := htoday.symm.trans (by decide)
  refine ⟨_, rfl, hlength, ?_⟩
  rw [hlast, hname, hday]
  decide +kernel

end Logbook
