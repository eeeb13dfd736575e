import Logbook.Partition

/-!
# The local days of a time range

Facts about the days between two instants, on which the partitions of a time range rest:

* `localDay_eq_iff`: a local day is the interval of instants from its midnight to the next one,
  seen from the offset; so later instants fall on later days (`localDay_mono`), and an offset of
  less than a day moves an instant by one day at most (`localDay_bounds`).
* `mem_daysBetween`: the days listed are those from the first to the last one that the calendar
  has a day after.
* `partitionsFor_eq_ok_iff`: there is a list of partitions unless a bound is an instant of the
  calendar on a local day outside it, which none is away from the ends (`partitionsFor_of_far`).
* `mem_namesBetween_iff`: between two instants of the calendar, away from its ends, the
  partitions listed are those of the instants between them and no others.
* `namesBetween_eq_nil_iff`: away from the ends of the calendar no partition is listed only where
  a bound is outside it.
-/

set_option autoImplicit false

namespace Logbook

/-! ## Local days -/

/-- A local day is the interval of instants between two midnights. -/
theorem localDay_eq_iff {offset : Offset} {instant day : Int} :
    localDay offset instant = day ↔
      day * millisPerDay ≤ instant + offset.millis ∧
        instant + offset.millis < (day + 1) * millisPerDay := by
  simp only [localDay, dayOf, millisPerDay]
  omega

theorem dayOf_mono {s t : Int} (h : s ≤ t) : dayOf s ≤ dayOf t := by
  simp only [dayOf, millisPerDay]
  omega

theorem localDay_mono (offset : Offset) {s t : Int} (h : s ≤ t) :
    localDay offset s ≤ localDay offset t :=
  dayOf_mono (Int.add_le_add_right h _)

/-- An offset moves an instant to the day before or after at most. -/
theorem localDay_bounds (offset : Offset) (instant : Int) :
    dayOf instant - 1 ≤ localDay offset instant ∧ localDay offset instant ≤ dayOf instant + 1 := by
  have hlow := offset.minutes_gt
  have hhigh := offset.minutes_lt
  simp only [localDay, dayOf, millisPerDay, Offset.millis]
  omega

/-- Every day between the local days of two instants has an instant between them. -/
theorem exists_instant_of_localDay {offset : Offset} {start stop : Int64} {day : Int}
    (horder : start ≤ stop) (hfirst : localDay offset start.toInt ≤ day)
    (hlast : day ≤ localDay offset stop.toInt) :
    ∃ t : Int64, start ≤ t ∧ t ≤ stop ∧ localDay offset t.toInt = day := by
  rw [Int64.le_iff_toInt_le] at horder
  -- the first instant of the day, or the start of the range where that is later
  let t : Int := max start.toInt (day * millisPerDay - offset.millis)
  obtain ⟨-, hnext⟩ := localDay_eq_iff.1 (rfl : localDay offset start.toInt = _)
  obtain ⟨hmidnight, -⟩ := localDay_eq_iff.1 (rfl : localDay offset stop.toInt = _)
  have hto : t ≤ stop.toInt := by
    simp only [t, millisPerDay] at hmidnight ⊢
    omega
  have hlow := start.le_toInt
  have hhigh := stop.toInt_lt
  have ht : (Int64.ofInt t).toInt = t := Int64.toInt_ofInt_of_le (by omega) (by omega)
  refine ⟨Int64.ofInt t, ?_, ?_, ?_⟩
  · rw [Int64.le_iff_toInt_le, ht]
    omega
  · rwa [Int64.le_iff_toInt_le, ht]
  · rw [ht, localDay_eq_iff]
    simp only [t, millisPerDay] at hnext ⊢
    omega

theorem inCalendar_iff {day : Int} : inCalendar day = true ↔ firstDay ≤ day ∧ day ≤ lastDay := by
  simp only [inCalendar, Bool.and_eq_true, decide_eq_true_eq]

theorem localDay?_eq_some_iff {offset : Offset} {instant day : Int} :
    localDay? offset instant = some day ↔
      inCalendar (dayOf instant) = true ∧ inCalendar day = true ∧
        localDay offset instant = day := by
  simp only [localDay?, Bool.and_eq_true, Option.ite_none_right_eq_some, Option.some.injEq]
  constructor
  · rintro ⟨⟨hday, hlocal⟩, rfl⟩
    exact ⟨hday, hlocal, rfl⟩
  · rintro ⟨hday, hlocal, rfl⟩
    exact ⟨⟨hday, hlocal⟩, rfl⟩

theorem localDay?_of_not_inCalendar (offset : Offset) {instant : Int}
    (h : inCalendar (dayOf instant) = false) : localDay? offset instant = none := by
  rw [Option.eq_none_iff_forall_ne_some]
  intro day hday
  rw [(localDay?_eq_some_iff.1 hday).1] at h
  cases h

/-! ## The ends of the calendar -/

theorem leavesCalendar_eq_false_iff {offset : Offset} {instant : Int} :
    leavesCalendar offset instant = false ↔
      (inCalendar (dayOf instant) = true → inCalendar (localDay offset instant) = true) := by
  simp [leavesCalendar]

/-- An instant that does not leave the calendar has a date unless it is outside it. -/
theorem localDay?_of_not_leavesCalendar {offset : Offset} {instant : Int}
    (h : leavesCalendar offset instant = false) :
    localDay? offset instant =
      if inCalendar (dayOf instant) then some (localDay offset instant) else none := by
  rw [leavesCalendar_eq_false_iff] at h
  unfold localDay?
  cases hday : inCalendar (dayOf instant) with
  | false => simp
  | true => simp [h hday]

/-- An instant of the first two or the last two days of the calendar. -/
def isNearEnd (instant : Int) : Bool :=
  inCalendar (dayOf instant) && (dayOf instant < firstDay + 2 || lastDay - 2 < dayOf instant)

theorem isNearEnd_eq_false_iff {instant : Int} :
    isNearEnd instant = false ↔
      (inCalendar (dayOf instant) = true →
        firstDay + 2 ≤ dayOf instant ∧ dayOf instant ≤ lastDay - 2) := by
  simp only [isNearEnd, Bool.and_eq_false_imp, Bool.or_eq_false_iff, decide_eq_false_iff_not,
    Int.not_lt]

/-- An instant of the calendar, away from its ends, has a local day with one after it. -/
theorem localDay?_of_inCalendar (offset : Offset) {instant : Int}
    (hin : inCalendar (dayOf instant) = true) (hfar : isNearEnd instant = false) :
    localDay? offset instant = some (localDay offset instant) ∧
      localDay offset instant < lastDay := by
  obtain ⟨hlow, hhigh⟩ := isNearEnd_eq_false_iff.1 hfar hin
  obtain ⟨hbefore, hafter⟩ := localDay_bounds offset instant
  exact ⟨localDay?_eq_some_iff.2 ⟨hin, inCalendar_iff.2 (by omega), rfl⟩, by omega⟩

/-- Away from the ends of the calendar no instant leaves it. -/
theorem leavesCalendar_of_far (offset : Offset) {instant : Int} (hfar : isNearEnd instant = false) :
    leavesCalendar offset instant = false := by
  rw [leavesCalendar_eq_false_iff]
  intro hin
  obtain ⟨hday, -⟩ := localDay?_of_inCalendar offset hin hfar
  exact (localDay?_eq_some_iff.1 hday).2.1

namespace PartitionScheme

/-! ## Whether there is a list of partitions -/

section
variable {scheme : PartitionScheme} {start stop : Int64}

theorem partitionsFor_eq_ok_iff {names : List String} :
    scheme.partitionsFor start stop = .ok names ↔
      leavesCalendar scheme.offset start.toInt = false ∧
        leavesCalendar scheme.offset stop.toInt = false ∧
          scheme.namesBetween start stop = names := by
  simp only [partitionsFor, Bool.or_eq_true]
  by_cases h : leavesCalendar scheme.offset start.toInt = true ∨
    leavesCalendar scheme.offset stop.toInt = true
  · rw [if_pos h]
    constructor
    · intro hnone
      cases hnone
    · rintro ⟨hstart, hstop, -⟩
      simp [hstart, hstop] at h
  · rw [if_neg h, Except.ok.injEq]
    simp only [not_or, Bool.not_eq_true] at h
    simp [h]

theorem partitionsFor_eq_error_iff {overflow : Overflow} :
    scheme.partitionsFor start stop = .error overflow ↔
      (leavesCalendar scheme.offset start.toInt = true ∨
        leavesCalendar scheme.offset stop.toInt = true) ∧ overflow = .date := by
  simp only [partitionsFor, Bool.or_eq_true]
  by_cases h : leavesCalendar scheme.offset start.toInt = true ∨
    leavesCalendar scheme.offset stop.toInt = true
  · rw [if_pos h, Except.error.injEq, eq_comm, iff_and_self]
    exact fun _ => h
  · simp [h]

/-- Away from the ends of the calendar there is a list for every two instants. -/
theorem partitionsFor_of_far (hstart : isNearEnd start.toInt = false)
    (hstop : isNearEnd stop.toInt = false) :
    scheme.partitionsFor start stop = .ok (scheme.namesBetween start stop) :=
  partitionsFor_eq_ok_iff.2
    ⟨leavesCalendar_of_far _ hstart, leavesCalendar_of_far _ hstop, rfl⟩

end

/-! ## The days and partitions between two instants -/

/-- The days listed: a day counts where the calendar has one after it. -/
theorem mem_daysBetween {first last day : Int} :
    day ∈ daysBetween first last ↔ first ≤ day ∧ day ≤ last ∧ day < lastDay := by
  simp only [daysBetween, List.mem_map, List.mem_range]
  constructor
  · rintro ⟨k, hk, rfl⟩
    omega
  · rintro ⟨hfirst, hlast, hend⟩
    exact ⟨(day - first).toNat, by omega, by omega⟩

theorem partitionAt?_eq_some_iff {scheme : PartitionScheme} {now : Int64} {name : String} :
    scheme.partitionAt? now = some name ↔
      ∃ day, localDay? scheme.offset now.toInt = some day ∧ scheme.nameOfDay day = name := by
  simp only [partitionAt?, Option.map_eq_some_iff]

/-- A bound outside the calendar leaves no partitions. -/
theorem namesBetween_of_not_inCalendar {scheme : PartitionScheme} {start stop : Int64}
    (h : inCalendar (dayOf start.toInt) = false ∨ inCalendar (dayOf stop.toInt) = false) :
    scheme.namesBetween start stop = [] := by
  unfold namesBetween
  rcases h with hout | hout
  · rw [localDay?_of_not_inCalendar _ hout]
  · rw [localDay?_of_not_inCalendar _ hout]
    cases localDay? scheme.offset start.toInt <;> rfl

section
variable {scheme : PartitionScheme} {start stop : Int64}
  (hinStart : inCalendar (dayOf start.toInt) = true)
  (hinStop : inCalendar (dayOf stop.toInt) = true)
  (hstart : isNearEnd start.toInt = false) (hstop : isNearEnd stop.toInt = false)
include hinStart hinStop hstart hstop

/-- Between two instants of the calendar the days from the local day of the one to that of the
other have their partitions listed. -/
theorem namesBetween_eq_map :
    scheme.namesBetween start stop =
      (daysBetween (localDay scheme.offset start.toInt)
        (localDay scheme.offset stop.toInt)).map scheme.nameOfDay := by
  simp only [namesBetween, (localDay?_of_inCalendar scheme.offset hinStart hstart).1,
    (localDay?_of_inCalendar scheme.offset hinStop hstop).1]

/-- An instant between the two is in the calendar, and its local day is among those listed. -/
theorem localDay?_mem_daysBetween {t : Int64} (hfrom : start ≤ t) (hto : t ≤ stop) :
    localDay? scheme.offset t.toInt = some (localDay scheme.offset t.toInt) ∧
      localDay scheme.offset t.toInt ∈ daysBetween (localDay scheme.offset start.toInt)
        (localDay scheme.offset stop.toInt) := by
  rw [Int64.le_iff_toInt_le] at hfrom hto
  obtain ⟨hfirst, -⟩ := localDay?_of_inCalendar scheme.offset hinStart hstart
  obtain ⟨hlast, hend⟩ := localDay?_of_inCalendar scheme.offset hinStop hstop
  have hinFirst := inCalendar_iff.1 (localDay?_eq_some_iff.1 hfirst).2.1
  have hinLast := inCalendar_iff.1 (localDay?_eq_some_iff.1 hlast).2.1
  have hfirstDay := inCalendar_iff.1 hinStart
  have hlastDay := inCalendar_iff.1 hinStop
  have hafter := localDay_mono scheme.offset hfrom
  have hbefore := localDay_mono scheme.offset hto
  have hdayAfter := dayOf_mono hfrom
  have hdayBefore := dayOf_mono hto
  refine ⟨localDay?_eq_some_iff.2 ⟨inCalendar_iff.2 (by omega), inCalendar_iff.2 (by omega), rfl⟩,
    mem_daysBetween.2 ⟨hafter, hbefore, by omega⟩⟩

/-- **The partitions of a range are those of its instants.** -/
theorem mem_namesBetween_iff (horder : start ≤ stop) {name : String} :
    name ∈ scheme.namesBetween start stop ↔
      ∃ t : Int64, start ≤ t ∧ t ≤ stop ∧ scheme.partitionAt? t = some name := by
  rw [namesBetween_eq_map hinStart hinStop hstart hstop, List.mem_map]
  constructor
  · rintro ⟨day, hday, rfl⟩
    obtain ⟨hfirst, hlast, -⟩ := mem_daysBetween.1 hday
    obtain ⟨t, hfrom, hto, rfl⟩ := exists_instant_of_localDay horder hfirst hlast
    obtain ⟨hsome, -⟩ := localDay?_mem_daysBetween hinStart hinStop hstart hstop hfrom hto
    exact ⟨t, hfrom, hto, partitionAt?_eq_some_iff.2 ⟨_, hsome, rfl⟩⟩
  · rintro ⟨t, hfrom, hto, hname⟩
    obtain ⟨day, hday, rfl⟩ := partitionAt?_eq_some_iff.1 hname
    obtain ⟨hsome, hmem⟩ := localDay?_mem_daysBetween hinStart hinStop hstart hstop hfrom hto
    rw [hsome, Option.some.injEq] at hday
    exact ⟨day, hday ▸ hmem, rfl⟩

/-- Every instant between two of the calendar has a partition. -/
theorem exists_partitionAt? {t : Int64} (hfrom : start ≤ t) (hto : t ≤ stop) :
    ∃ name, scheme.partitionAt? t = some name := by
  obtain ⟨hsome, -⟩ := localDay?_mem_daysBetween hinStart hinStop hstart hstop hfrom hto
  exact ⟨_, partitionAt?_eq_some_iff.2 ⟨_, hsome, rfl⟩⟩

end

/-- Away from the ends of the calendar nothing but a bound outside it leaves no partitions. -/
theorem namesBetween_eq_nil_iff {scheme : PartitionScheme} {start stop : Int64}
    (hstart : isNearEnd start.toInt = false) (hstop : isNearEnd stop.toInt = false)
    (horder : start ≤ stop) :
    scheme.namesBetween start stop = [] ↔
      inCalendar (dayOf start.toInt) = false ∨ inCalendar (dayOf stop.toInt) = false := by
  refine ⟨fun hnil => ?_, namesBetween_of_not_inCalendar⟩
  apply Decidable.byContradiction
  intro hin
  simp only [not_or, Bool.not_eq_false] at hin
  -- the partition of the first instant would be listed
  have hname : ∃ name, scheme.partitionAt? start = some name :=
    exists_partitionAt? hin.1 hin.2 hstart hstop (Int64.le_refl _) horder
  obtain ⟨name, hname⟩ := hname
  have hmem := (mem_namesBetween_iff hin.1 hin.2 hstart hstop horder).2
    ⟨start, Int64.le_refl _, horder, hname⟩
  rw [hnil] at hmem
  cases hmem

end PartitionScheme

end Logbook
