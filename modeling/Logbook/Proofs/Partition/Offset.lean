import Logbook.Config.Basic
import Logbook.Proofs.Calendar.OffsetText
import Logbook.Proofs.Partition.Listing
import Logbook.Proofs.Search.OfQuery

/-!
# The offset of the partitions

The offset in which the days of partitions are computed is configured as a text, and the text of it
goes with every histogram, so that its days are those of the partitions.

* `offsets_read_up_to_colons`: what is configured is read where it has a documented form. It is
  also read where it would have one without its colons, which `offset_with_colon_in_hours` shows.
* `histogram_days_are_partition_days`: the offset of a histogram is read back to that of the
  partitions, so two instants are on one day of the histogram where they are in one partition.
-/

set_option autoImplicit false

namespace Logbook

/-! ## The configured text -/

open Offset in
/-- **An offset is read from its documented forms, and its colons are not looked at.** A text has a
documented form of an offset where it is read as that offset and its colons are in place. Of the
other texts those are read that have such a form without the colons behind their sign, and all that
are left are refused. -/
theorem offsets_read_up_to_colons (partitions : PartitionConfig) :
    (∀ offset : Offset, offset.Documented (trim partitions.offset).toList ↔
      partitions.offset? = .ok offset ∧ ColonsInPlace (trim partitions.offset).toList) ∧
    (∀ offset, partitions.offset? = .ok offset ↔
      offset.Documented (trim partitions.offset).toList ∨
        ∃ negative cs, (trim partitions.offset).toList = signChar negative :: cs ∧ ':' ∈ cs ∧
          offset.Documented (signChar negative :: cs.filter (· != ':'))) ∧
    ((∃ offset, partitions.offset? = .ok offset) ∨
      partitions.offset? = .error (.badOffset (trim partitions.offset))) := by
  have hok (offset : Offset) : partitions.offset? = .ok offset ↔
      ofTrimmed? (trim partitions.offset) = some offset := by
    unfold PartitionConfig.offset? ofText?
    cases ofTrimmed? (trim partitions.offset) with
    | none => simp
    | some read => simp
  refine ⟨fun offset => ?_, fun offset => ?_, ?_⟩
  · rw [hok, documented_iff]
  · rw [hok, ofTrimmed?_eq_some_iff_documented]
  · unfold PartitionConfig.offset?
    cases ofText? partitions.offset with
    | none => exact .inr rfl
    | some read => exact .inl ⟨read, rfl⟩

open Offset in
/-- With a colon behind the first digit of its hours a text of no documented form is read, as an
offset of thirteen hours. -/
theorem offset_with_colon_in_hours :
    (⟨"", "+1:300"⟩ : PartitionConfig).offset? = .ok ⟨780, by decide, by decide⟩ ∧
      ∀ offset : Offset, ¬offset.Documented (trim "+1:300").toList := by
  have htext : (trim "+1:300").toList = ['+', '1', ':', '3', '0', '0'] := by decide +kernel
  refine ⟨by decide +kernel, fun offset h => ?_⟩
  obtain ⟨hfront, -⟩ := h.colonsInPlace ['+', '1'] ['3', '0', '0'] htext
  exact absurd hfront (by decide)

/-! ## The text in a histogram -/

namespace PartitionScheme

/-- Two instants that have partitions have the same one where they are on one local day. -/
theorem partitionAt?_eq_iff {scheme : PartitionScheme} {s t : Int64} {name other : String}
    (hname : scheme.partitionAt? s = some name) (hother : scheme.partitionAt? t = some other) :
    name = other ↔ localDay scheme.offset s.toInt = localDay scheme.offset t.toInt := by
  obtain ⟨day, hday, rfl⟩ := partitionAt?_eq_some_iff.1 hname
  obtain ⟨day', hday', rfl⟩ := partitionAt?_eq_some_iff.1 hother
  obtain ⟨-, -, rfl⟩ := localDay?_eq_some_iff.1 hday
  obtain ⟨-, -, rfl⟩ := localDay?_eq_some_iff.1 hday'
  exact (nameOfDay_injective scheme).eq_iff

end PartitionScheme

/-- **The days of a histogram are those of the partitions.** Where the partitions of a search are
those of a scheme with an offset that was read from a text, the histogram of the search carries the
text of that very offset. It is read back to the offset, and writing what is read of it, or of the
text that came first, gives it again. So two instants that have partitions have the same one where
they are on one day of the offset that is read from the histogram. -/
theorem histogram_days_are_partition_days {text : String} {scheme : PartitionScheme}
    (hread : Offset.ofText? text = some scheme.offset) {kind : DocumentKind} {query : Query}
    {interval : Interval} {series : List SeriesSpec}
    (hquestion : query.question = .histogram interval series) {search : Search}
    (h : Search.ofQuery scheme kind query = .ok search) :
    ∃ range zone, query.filter.range = some range ∧
      search.aggregation = some (.groups histogramName timestampField
        (.histogram interval.millis range.start range.stop zone)
        (series.map SeriesSpec.aggregation)) ∧
      scheme.partitionsOf (some range) = .ok search.partitions ∧
      Offset.ofText? zone = some scheme.offset ∧
      (Offset.ofText? text).map Offset.text = some zone ∧
      (Offset.ofText? zone).map Offset.text = some zone ∧
      ∀ read, Offset.ofText? zone = some read → ∀ (s t : Int64) (name other : String),
        scheme.partitionAt? s = some name → scheme.partitionAt? t = some other →
          (name = other ↔ localDay read s.toInt = localDay read t.toInt) := by
  obtain ⟨-, hpartitions, -, haggregation⟩ := Search.ofQuery_ok h
  rw [hquestion] at haggregation
  cases hrange : query.filter.range with
  | none =>
    rw [hrange] at haggregation
    cases haggregation
  | some range =>
    rw [hrange] at haggregation hpartitions
    have hback := Offset.ofText?_text scheme.offset
    refine ⟨range, scheme.offset.text, rfl, (Except.ok.inj haggregation).symm, hpartitions, hback,
      ?_, ?_, fun read hzone s t name other hname hother => ?_⟩
    · rw [hread, Option.map_some]
    · rw [hback, Option.map_some]
    · rw [hback, Option.some.injEq] at hzone
      rw [← hzone]
      exact PartitionScheme.partitionAt?_eq_iff hname hother

/-- Half an hour west is written with the sign of its hours. -/
theorem histogram_days_of_half_an_hour_west :
    Offset.ofText? " -0030" = some ⟨-30, by decide, by decide⟩ ∧
      ∃ search, Search.ofQuery ⟨"gravitee", ⟨-30, by decide, by decide⟩⟩ .request
          ⟨⟨some ⟨-1, 1⟩, none, none⟩, .histogram ⟨1000, by decide⟩ []⟩ = .ok search ∧
        search.aggregation = some (.groups histogramName timestampField
          (.histogram 1000 (-1) 1 "-00:30") []) := by
  have hread : Offset.ofText? " -0030" = some ⟨-30, by decide, by decide⟩ := by decide +kernel
  have hwritten : Offset.text ⟨-30, by decide, by decide⟩ = "-00:30" := by decide +kernel
  refine ⟨hread, _, rfl, ?_⟩
  obtain ⟨range, zone, hrange, haggregation, -, -, htext, -⟩ :=
    @histogram_days_are_partition_days " -0030" ⟨"gravitee", ⟨-30, by decide, by decide⟩⟩ hread
      .request ⟨⟨some ⟨-1, 1⟩, none, none⟩, .histogram ⟨1000, by decide⟩ []⟩ _ _ rfl _ rfl
  rw [hread, Option.map_some, hwritten] at htext
  cases hrange
  rw [haggregation, ← Option.some.inj htext]
  rfl

end Logbook
