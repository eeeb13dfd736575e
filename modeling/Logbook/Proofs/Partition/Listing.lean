import Logbook.Proofs.Calendar.DateText
import Logbook.Proofs.Partition.Days

/-!
# The list of the partitions of a time range

* `PartitionScheme.nameOfDay_injective`: no two days share a partition.
* `PartitionScheme.utf8Bytes_nameOfDay_lt`: with years of four digits later days have later names,
  and a day is read back from the end of its name (`dayOfText?_chars`).
* `partitions_list_days`: a time range has the partitions of its consecutive local days, in their
  order and each once.
-/

set_option autoImplicit false

namespace Logbook

namespace PartitionScheme

/-! ## The names of days -/

/-- No two days share a partition, whatever their years. -/
theorem nameOfDay_injective (scheme : PartitionScheme) : Function.Injective scheme.nameOfDay := by
  intro day other h
  have hlists := congrArg String.toList h
  simp only [nameOfDay, String.toList_append, String.toList_ofList] at hlists
  exact Date.ofDay_injective (Date.chars_injective (List.append_cancel_left hlists))

/-- With years of four digits later days have later names. -/
theorem utf8Bytes_nameOfDay_lt (scheme : PartitionScheme) {day other : Int} (h : day < other)
    (hfour : (Date.ofDay day).HasFourDigits) (hfour' : (Date.ofDay other).HasFourDigits) :
    utf8Bytes (scheme.nameOfDay day) < utf8Bytes (scheme.nameOfDay other) := by
  simp only [nameOfDay, utf8Bytes_append, List.append_assoc]
  refine List.append_left_lt (List.append_left_lt ?_)
  exact utf8Bytes_lt (Date.chars_ofDay_lt h hfour hfour') (fun _ => Date.isAscii_of_mem_chars)
    (fun _ => Date.isAscii_of_mem_chars)

/-! ## The days listed -/

theorem pairwise_daysBetween (first last : Int) : (daysBetween first last).Pairwise (· < ·) := by
  rw [daysBetween, List.pairwise_map]
  exact List.pairwise_lt_range.imp (fun h => by omega)

/-- The partitions listed are those of days between the two local days, oldest first. -/
theorem exists_days_of_namesBetween (scheme : PartitionScheme) (start stop : Int64) :
    ∃ days : List Int, scheme.namesBetween start stop = days.map scheme.nameOfDay ∧
      days.Pairwise (· < ·) ∧ ∀ day ∈ days, localDay scheme.offset start.toInt ≤ day ∧
        day ≤ localDay scheme.offset stop.toInt := by
  unfold namesBetween
  split
  case h_1 first last hfirst hlast =>
    obtain ⟨-, -, rfl⟩ := localDay?_eq_some_iff.1 hfirst
    obtain ⟨-, -, rfl⟩ := localDay?_eq_some_iff.1 hlast
    refine ⟨_, rfl, pairwise_daysBetween _ _, fun day hday => ?_⟩
    obtain ⟨hfrom, hto, -⟩ := mem_daysBetween.1 hday
    exact ⟨hfrom, hto⟩
  case h_2 => exact ⟨[], rfl, .nil, fun day hday => absurd hday List.not_mem_nil⟩

section
variable {scheme : PartitionScheme} {start stop : Int64}

/-- A range that ends on a day before its first has no partitions. -/
theorem namesBetween_of_localDay_lt
    (h : localDay scheme.offset stop.toInt < localDay scheme.offset start.toInt) :
    scheme.namesBetween start stop = [] := by
  obtain ⟨days, hnames, -, hbounds⟩ := exists_days_of_namesBetween scheme start stop
  have hnil : days = [] := by
    rw [List.eq_nil_iff_forall_not_mem]
    intro day hday
    have hbetween := hbounds day hday
    omega
  rw [hnames, hnil, List.map_nil]

/-- No partition is listed twice. -/
theorem nodup_namesBetween : (scheme.namesBetween start stop).Nodup := by
  obtain ⟨days, hnames, hpairwise, -⟩ := exists_days_of_namesBetween scheme start stop
  rw [hnames, List.Nodup, List.pairwise_map]
  refine hpairwise.imp (fun hlt hsame => ?_)
  exact absurd (scheme.nameOfDay_injective hsame) (Int.ne_of_lt hlt)

/-- With years of four digits the partitions listed have ascending names. -/
theorem pairwise_namesBetween
    (hfour : ∀ day, localDay scheme.offset start.toInt ≤ day →
      day ≤ localDay scheme.offset stop.toInt → (Date.ofDay day).HasFourDigits) :
    (scheme.namesBetween start stop).Pairwise
      (fun name later => utf8Bytes name < utf8Bytes later) := by
  obtain ⟨days, hnames, hpairwise, hbounds⟩ := exists_days_of_namesBetween scheme start stop
  rw [hnames, List.pairwise_map]
  refine hpairwise.imp_of_mem (fun {day other} hday hother hlt => ?_)
  obtain ⟨hfirst, hlast⟩ := hbounds day hday
  obtain ⟨hfirst', hlast'⟩ := hbounds other hother
  exact utf8Bytes_nameOfDay_lt scheme hlt (hfour day hfirst hlast) (hfour other hfirst' hlast')

/-- Between two instants of the calendar the days follow one another from the first to the last. -/
theorem namesBetween_eq_range (hinStart : inCalendar (dayOf start.toInt) = true)
    (hinStop : inCalendar (dayOf stop.toInt) = true)
    (hstart : isNearEnd start.toInt = false) (hstop : isNearEnd stop.toInt = false) :
    scheme.namesBetween start stop =
      (List.range (localDay scheme.offset stop.toInt - localDay scheme.offset start.toInt
        + 1).toNat).map
          (fun k : Nat => scheme.nameOfDay (localDay scheme.offset start.toInt + k)) := by
  obtain ⟨-, hend⟩ := localDay?_of_inCalendar scheme.offset hinStop hstop
  have hcount : min (localDay scheme.offset stop.toInt) (lastDay - 1) + 1 -
      localDay scheme.offset start.toInt =
        localDay scheme.offset stop.toInt - localDay scheme.offset start.toInt + 1 := by
    omega
  rw [namesBetween_eq_map hinStart hinStop hstart hstop, daysBetween, List.map_map, hcount]
  rfl

end

end PartitionScheme

open PartitionScheme in
/-- **A time range has the partitions of its consecutive local days, oldest first.** The dates of
days run with the calendar from the first of January 1970; away from the ends of the calendar there
is a list for every two instants, and a range that ends before it starts or leaves the calendar has
no partitions; no two days share one. Where all years have four digits the names ascend by their
bytes, and each day is read back from the end of its name. -/
theorem partitions_list_days (scheme : PartitionScheme) {start stop : Int64}
    (hstart : isNearEnd start.toInt = false) (hstop : isNearEnd stop.toInt = false) :
    let first := localDay scheme.offset start.toInt
    let last := localDay scheme.offset stop.toInt
    (Date.ofDay 0 = ⟨1970, 1, 1⟩ ∧ ∀ day, Date.ofDay (day + 1) = (Date.ofDay day).next) ∧
    ∃ names, scheme.partitionsFor start stop = .ok names ∧
    (inCalendar (dayOf start.toInt) = true → inCalendar (dayOf stop.toInt) = true →
      first ≤ last →
        names = (List.range (last - first + 1).toNat).map
          (fun k : Nat => scheme.nameOfDay (first + k)) ∧
        (names.length : Int) = last - first + 1) ∧
    (inCalendar (dayOf start.toInt) = false ∨ inCalendar (dayOf stop.toInt) = false ∨
      last < first → names = []) ∧
    Function.Injective scheme.nameOfDay ∧
    names.Nodup ∧
    ((∀ day, first ≤ day → day ≤ last → (Date.ofDay day).HasFourDigits) →
      names.Pairwise (fun name later => utf8Bytes name < utf8Bytes later) ∧
      ∀ day, first ≤ day → day ≤ last → ∃ suffix,
        scheme.nameOfDay day = scheme.label ++ "-" ++ suffix ∧ dayOfText? suffix = some day) := by
  intro first last
  refine ⟨⟨Date.ofDay_zero, Date.ofDay_add_one⟩, _, partitionsFor_of_far hstart hstop,
    fun hinStart hinStop hle => ?_, fun h => ?_, scheme.nameOfDay_injective, nodup_namesBetween,
    fun hfour => ?_⟩
  · have hnames : scheme.namesBetween start stop =
        (List.range (last - first + 1).toNat).map fun k : Nat => scheme.nameOfDay (first + k) :=
      namesBetween_eq_range hinStart hinStop hstart hstop
    refine ⟨hnames, ?_⟩
    rw [hnames, List.length_map, List.length_range]
    omega
  · rcases h with hout | hout | hlt
    · exact namesBetween_of_not_inCalendar (.inl hout)
    · exact namesBetween_of_not_inCalendar (.inr hout)
    · exact namesBetween_of_localDay_lt hlt
  · refine ⟨pairwise_namesBetween hfour, fun day hfirst hlast => ?_⟩
    exact ⟨_, rfl, dayOfText?_chars (hfour day hfirst hlast)⟩

/-- The days around a leap day, seen from an offset of five and a half hours: there are three, each
with its own partition, in the order of their names, and the leap day is read back from its own. -/
theorem partitions_list_leap_day :
    let scheme : PartitionScheme := ⟨"gravitee", ⟨330, by decide, by decide⟩⟩
    ∃ names, scheme.partitionsFor 1709058600000 1709231400000 = .ok names ∧
      names.length = 3 ∧ names.Nodup ∧
      names.Pairwise (fun name later => utf8Bytes name < utf8Bytes later) ∧
      ∃ suffix, scheme.nameOfDay 19782 = scheme.label ++ "-" ++ suffix ∧
        dayOfText? suffix = some 19782 := by
  intro scheme
  obtain ⟨-, names, hnames, hlisted, -, -, hnodup, hfour⟩ :=
    @partitions_list_days scheme 1709058600000 1709231400000 (by decide) (by decide)
  have hfirst : localDay scheme.offset (1709058600000 : Int64).toInt = 19781 := by decide
  have hlast : localDay scheme.offset (1709231400000 : Int64).toInt = 19783 := by decide
  rw [hfirst, hlast] at hlisted hfour
  obtain ⟨-, hlength⟩ := hlisted (by decide) (by decide) (by decide)
  obtain ⟨hascending, hback⟩ := hfour (by
    intro day hfrom hto
    obtain rfl | rfl | rfl : day = 19781 ∨ day = 19782 ∨ day = 19783 := by omega
    all_goals exact ⟨by decide, by decide⟩)
  exact ⟨names, hnames, Int.ofNat_inj.1 hlength, hnodup, hascending,
    hback 19782 (by decide) (by decide)⟩

end Logbook
