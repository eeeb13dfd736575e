import Logbook.Proofs.Keyed
import Logbook.Proofs.Text.Split
import Logbook.Query.Series

/-!
# Reading the names of series

A name of a series is read back from its text (`ofText?_text`) unless its field is empty or it is a
name of counts by value whose field ends like a name of counts by ranges. So the name of a series
that a histogram is asked for tells what it is (`SeriesSpec.ofText?_seriesName`).

The other way, a text is the text of the name that it is read as (`text_of_ofText?`), so that no two
texts are read as one name. `series_names_read_as_written` puts both together and says what becomes
of the names that are not read back.
-/

set_option autoImplicit false

namespace Logbook

namespace SeriesName

/-! ## Fields of counts -/

/-- A field that does not end like a name of counts by ranges is one of counts by value. -/
theorem ofCounted_values {field : String}
    (h : ∀ inner, inner ≠ "" → field ≠ inner ++ rangesEnd) :
    ofCounted field.toList = values field := by
  unfold ofCounted
  split
  · rw [String.ofList_toList]
  · rw [String.ofList_toList]
  · rename_i inner hne hinner
    have hfield := beforeEnd?_eq_some_iff.1 hinner
    have hinner : String.ofList inner ≠ "" := by
      intro hempty
      have hlist := congrArg String.toList hempty
      rw [String.toList_ofList] at hlist
      exact hne hlist
    refine absurd (String.toList_injective ?_) (h (String.ofList inner) hinner)
    rw [String.toList_append, String.toList_ofList, hfield]

/-- A field with the end of a name of counts by ranges is one of those. -/
theorem ofCounted_ranges {field : String} (hfield : field ≠ "") :
    ofCounted (field ++ rangesEnd).toList = ranges field := by
  have hend : beforeEnd? rangesEnd.toList (field ++ rangesEnd).toList = some field.toList :=
    beforeEnd?_eq_some_iff.2 String.toList_append
  unfold ofCounted
  rw [hend]
  split
  · rename_i h
    cases h
  · rename_i h
    rw [Option.some.injEq, String.toList_eq_nil_iff] at h
    exact absurd h hfield
  · rename_i h
    rw [Option.some.injEq] at h
    rw [← h, String.ofList_toList]

/-! ## Names -/

theorem ofText?_counted {field : String} (hfield : field ≠ "") :
    ofText? ("by_" ++ field) = some (ofCounted field.toList) := by
  have hsplit : splitAt? (· == '_') ("by_" ++ field).toList = some (['b', 'y'], field.toList) := by
    rw [String.toList_append]
    have htag : (['b', 'y'].all fun c => !(c == '_')) = true := by decide
    exact splitAt?_append field.toList htag (by decide)
  unfold ofText?
  rw [hsplit]
  split
  · rename_i h
    cases h
  · rename_i h
    rw [Option.some.injEq, Prod.mk.injEq, String.toList_eq_nil_iff] at h
    exact absurd h.2 hfield
  · rename_i h
    cases h
    rfl

theorem ofText?_metric (m : Metric) {field : String} (hfield : field ≠ "") :
    ofText? (m.name ++ "_" ++ field) = some (metric m field) := by
  have hsplit : splitAt? (· == '_') (m.name ++ "_" ++ field).toList =
      some (m.name.toList, field.toList) := by
    rw [String.toList_append, String.toList_append, List.append_assoc]
    have htag : (m.name.toList.all fun c => !(c == '_')) = true := by cases m <;> decide
    exact splitAt?_append field.toList htag (by decide)
  unfold ofText?
  rw [hsplit]
  split
  · rename_i h
    cases h
  · rename_i h
    rw [Option.some.injEq, Prod.mk.injEq, String.toList_eq_nil_iff] at h
    exact absurd h.2 hfield
  · rename_i h
    cases h
    rw [String.ofList_toList]
    cases m <;> rfl

/-- A name is read back from its text, unless its field is empty or it counts by the values of a
field that ends like counts by ranges. -/
theorem ofText?_text {name : SeriesName} (hfield : name.field ≠ "")
    (hvalues : ∀ inner, inner ≠ "" → name ≠ values (inner ++ rangesEnd)) :
    ofText? name.text = some name := by
  cases name with
  | values field =>
    change field ≠ "" at hfield
    have hne : ∀ inner, inner ≠ "" → field ≠ inner ++ rangesEnd :=
      fun inner hinner h => hvalues inner hinner (congrArg values h)
    rw [text, ofText?_counted hfield, ofCounted_values hne]
  | ranges field =>
    change field ≠ "" at hfield
    have hne : field ++ rangesEnd ≠ "" := fun h => hfield (String.append_eq_empty_iff.1 h).1
    rw [text, String.append_assoc, ofText?_counted hne, ofCounted_ranges hfield]
  | metric m field => exact ofText?_metric m hfield

/-! ## Texts -/

/-- A field behind `by_` is written as it is read. -/
theorem text_ofCounted (field : List Char) :
    (ofCounted field).text = "by_" ++ String.ofList field := by
  unfold ofCounted
  split
  · rfl
  · rfl
  · rename_i inner _ hinner
    rw [beforeEnd?_eq_some_iff.1 hinner, text, String.append_assoc, String.ofList_append,
      String.ofList_toList]

theorem field_ofCounted_ne_empty {field : List Char} (h : field ≠ []) :
    (ofCounted field).field ≠ "" := by
  unfold ofCounted
  split
  · simpa [SeriesName.field] using h
  · simpa [SeriesName.field] using h
  · rename_i inner hne _
    simpa [SeriesName.field] using hne

theorem name_of_lookup_names {tag : String} {m : Metric}
    (h : Metric.names.lookup tag = some m) : m.name = tag := by
  have hmem := Keyed.mem_of_lookup h
  simp only [Metric.names, List.mem_cons, Prod.mk.injEq, List.not_mem_nil, or_false] at hmem
  obtain ⟨rfl, rfl⟩ | ⟨rfl, rfl⟩ | ⟨rfl, rfl⟩ := hmem <;> rfl

/-- A text is the text of the name that it is read as; that name has a field. -/
theorem text_of_ofText? {text : String} {name : SeriesName} (h : ofText? text = some name) :
    name.text = text ∧ name.field ≠ "" := by
  unfold ofText? at h
  split at h
  · cases h
  · cases h
  · rename_i tag field hne hsplit
    obtain ⟨c, hc, hlist, -⟩ := splitAt?_eq_some hsplit
    rw [beq_iff_eq] at hc
    subst hc
    have htext : text = String.ofList tag ++ "_" ++ String.ofList field := by
      apply String.toList_injective
      simp [hlist]
    split at h
    · rename_i hby
      cases h
      rw [text_ofCounted, htext, hby]
      exact ⟨rfl, field_ofCounted_ne_empty hne⟩
    · obtain ⟨m, hm, rfl⟩ := Option.map_eq_some_iff.1 h
      rw [htext, ← name_of_lookup_names hm]
      exact ⟨rfl, by simpa [SeriesName.field] using hne⟩

/-- Counts by the values of a field that ends like counts by ranges are read as those. -/
theorem ofText?_values_rangesEnd {inner : String} (hinner : inner ≠ "") :
    ofText? (values (inner ++ rangesEnd)).text = some (ranges inner) := by
  have hne : inner ++ rangesEnd ≠ "" := fun h => hinner (String.append_eq_empty_iff.1 h).1
  rw [text, ofText?_counted hne, ofCounted_ranges hinner]

/-- A name is read back from its text in these cases and in no others. -/
theorem ofText?_text_eq_some_iff {name : SeriesName} :
    ofText? name.text = some name ↔
      name.field ≠ "" ∧ ∀ inner, inner ≠ "" → name ≠ values (inner ++ rangesEnd) := by
  constructor
  · intro h
    refine ⟨(text_of_ofText? h).2, ?_⟩
    rintro inner hinner rfl
    rw [ofText?_values_rangesEnd hinner] at h
    cases h
  · rintro ⟨hfield, hvalues⟩
    exact ofText?_text hfield hvalues

end SeriesName

namespace Measure

/-- What stands in front of the first underscore in the name of a series. -/
def tag (measure : Measure) : String := measure.metric?.elim "by" Metric.name

theorem eq_of_tag {measure measure' : Measure} (h : measure.tag = measure'.tag) :
    measure = measure' := by
  rcases measure with _ | _ | _ | _ <;> rcases measure' with _ | _ | _ | _ <;>
    first | rfl | exact absurd h (by decide)

end Measure

namespace SeriesSpec

theorem field_seriesName (spec : SeriesSpec) : spec.seriesName.field = spec.field := by
  obtain ⟨measure, field⟩ := spec
  cases measure <;> rfl

/-- The name under which a series is asked for is read back, unless its field is empty or it counts
by the values of a field that ends like counts by ranges. -/
theorem ofText?_seriesName {spec : SeriesSpec} (hfield : spec.field ≠ "")
    (hcounts : ∀ inner, inner ≠ "" → spec ≠ ⟨.counts, inner ++ SeriesName.rangesEnd⟩) :
    SeriesName.ofText? spec.seriesName.text = some spec.seriesName := by
  refine SeriesName.ofText?_text (by rwa [field_seriesName]) fun inner hinner h => ?_
  obtain ⟨measure, field⟩ := spec
  cases measure with
  | counts =>
    cases h
    exact hcounts inner hinner rfl
  | metric m => cases h

/-- The text of a name, split at its first underscore, tells the measure and the field. -/
theorem splitAt?_text_seriesName (spec : SeriesSpec) :
    splitAt? (· == '_') spec.seriesName.text.toList =
      some (spec.measure.tag.toList, spec.field.toList) := by
  obtain ⟨measure, field⟩ := spec
  cases measure with
  | counts =>
    have htext : (SeriesName.values field).text.toList = "by".toList ++ '_' :: field.toList := by
      simp [SeriesName.text]
    exact htext ▸ splitAt?_append field.toList (by decide) (by decide)
  | metric m =>
    have htext : (SeriesName.metric m field).text.toList =
        m.name.toList ++ '_' :: field.toList := by
      simp [SeriesName.text]
    exact htext ▸ splitAt?_append field.toList (by cases m <;> decide) (by decide)

/-- Two series that are asked for under one text are the same, also where that text is not read
back. -/
theorem eq_of_text_eq {spec spec' : SeriesSpec}
    (h : spec.seriesName.text = spec'.seriesName.text) : spec = spec' := by
  have hsplit := spec.splitAt?_text_seriesName
  rw [h, spec'.splitAt?_text_seriesName] at hsplit
  simp only [Option.some.injEq, Prod.mk.injEq, String.toList_inj] at hsplit
  obtain ⟨htag, hfield⟩ := hsplit
  obtain ⟨measure, field⟩ := spec
  obtain ⟨measure', field'⟩ := spec'
  obtain rfl : field' = field := hfield
  obtain rfl : measure' = measure := Measure.eq_of_tag htag
  rfl

end SeriesSpec

open SeriesName in
/-- **The names of series are read as they are written.** A text that is read is the text of what it
is read as; a name is read back from its text unless its field is empty or it counts by the values
of a field that ends like counts by ranges, and these are read as something else or not at all;
and no two series are asked for under one text. -/
theorem series_names_read_as_written :
    (∀ (text : String) (name : SeriesName), ofText? text = some name →
      name.text = text ∧ name.field ≠ "") ∧
    (∀ (text text' : String) (name : SeriesName), ofText? text = some name →
      ofText? text' = some name → text = text') ∧
    (∀ name : SeriesName, ofText? name.text = some name ↔
      name.field ≠ "" ∧ ∀ inner, inner ≠ "" → name ≠ values (inner ++ "_range")) ∧
    (ofText? (values "").text = none ∧ ∀ m : Metric, ofText? (metric m "").text = none) ∧
    ofText? (ranges "").text = some (values "_range") ∧
    (∀ inner, inner ≠ "" → ofText? (values (inner ++ "_range")).text = some (ranges inner)) ∧
    (∀ spec spec' : SeriesSpec, spec.seriesName.text = spec'.seriesName.text → spec = spec') := by
  refine ⟨fun text name h => text_of_ofText? h, fun text text' name h h' => ?_,
    fun name => ofText?_text_eq_some_iff, ⟨rfl, fun m => ?_⟩, rfl,
    fun inner hinner => ofText?_values_rangesEnd hinner, fun spec spec' h => spec.eq_of_text_eq h⟩
  · rw [← (text_of_ofText? h).1, (text_of_ofText? h').1]
  · cases m <;> rfl

/-- A field that holds underscores, the name of a metric and the end of a name by ranges. -/
example : SeriesName.ofText? "by_min_a_range_range" = some (.ranges "min_a_range") := rfl

end Logbook
