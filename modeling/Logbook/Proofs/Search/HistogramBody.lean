import Logbook.Proofs.Query.SeriesName
import Logbook.Proofs.Search.Pages

/-!
# The series in the body of a histogram

A body keeps the series of a histogram under their names, and of two entries with one name only the
later stands. But a series is told by its name (`SeriesSpec.text_seriesName_injective`), so that
nothing is lost but repetitions: `histogram_body_keeps_series`.
-/

set_option autoImplicit false

namespace Logbook

/-! ## What is asked for a series -/

namespace SeriesSpec

/-- What a body asks for a series: the values of its field, or a metric of it. -/
def body (spec : SeriesSpec) : Json :=
  match spec.measure with
  | .counts => .object [("terms", .object [("field", .string spec.field)])]
  | .metric m => .object [(m.name, .object [("field", .string spec.field)])]

theorem toBody_aggregation (spec : SeriesSpec) : spec.aggregation.toBody = spec.body := by
  obtain ⟨measure, field⟩ := spec
  cases measure <;> rfl

/-- A series is asked for under its own name. -/
theorem name_eq_text_seriesName (spec : SeriesSpec) :
    spec.aggregation.name = spec.seriesName.text := by
  obtain ⟨measure, field⟩ := spec
  cases measure <;> rfl

theorem text_seriesName_injective :
    Function.Injective fun spec : SeriesSpec => spec.seriesName.text :=
  fun _ _ => eq_of_text_eq

end SeriesSpec

/-! ## What stands in a body -/

namespace Aggregation

/-- What stands under `aggregations` is the bodies of the children. -/
theorem field?_aggregations (a : Aggregation) :
    a.toBody.field? "aggregations" = childBodies? a.children := by
  have hkeys : (((a.kind, a.root) ::
      optionalField "aggregations" id (childBodies? a.children)).map Prod.fst).Nodup := by
    have hnames : [a.kind, "aggregations"].Nodup := by simpa using a.kind_ne
    exact hnames.sublist ((keys_optionalField "aggregations" id _).cons_cons a.kind)
  rw [toBody_eq]
  refine (Json.lookup_orderFields hkeys _).trans ?_
  rw [Keyed.lookup_cons, if_neg a.kind_ne.symm, lookup_optionalField, if_pos rfl, Option.map_id, id]

/-- The bodies of series, each once and under its name. -/
theorem childBodies?_series {series : List SeriesSpec} (hne : series ≠ []) :
    ∃ fields, childBodies? (series.map SeriesSpec.aggregation) = some (.object fields) ∧
      (fields.map Prod.fst).Nodup ∧
      fields.Perm (series.dedup.map fun spec => (spec.seriesName.text, spec.body)) := by
  have hfull : (series.map SeriesSpec.aggregation).isEmpty = false := by
    rwa [List.isEmpty_map, List.isEmpty_eq_false_iff]
  have hentries : toBodies (series.map SeriesSpec.aggregation) =
      series.map fun spec => (spec.seriesName.text, spec.body) := by
    rw [toBodies_eq_map, List.map_map]
    refine List.map_congr_left fun spec _ => ?_
    rw [Function.comp, SeriesSpec.name_eq_text_seriesName, SeriesSpec.toBody_aggregation]
  refine ⟨Json.orderFields (toBodies (series.map SeriesSpec.aggregation)), ?_,
    Json.nodup_keys_orderFields _, ?_⟩
  · rw [childBodies?, hfull]
    rfl
  · rw [hentries]
    exact Keyed.toList_ofList_perm SeriesSpec.text_seriesName_injective SeriesSpec.body series

end Aggregation

/-- A body has the aggregation of its search under its name. -/
theorem Search.field?_aggregations {search : Search} {aggregation : Aggregation}
    (h : search.aggregation = some aggregation) : search.toBody.field? "aggregations" =
      some (.object [(aggregation.name, aggregation.toBody)]) := by
  rw [field?_toBody, lookup_aggregations, h]
  rfl

/-- **No series of a histogram is lost in a body.** What is asked for under `by_date` has an object
`aggregations` with one entry for each of the series, however often it is repeated: under its name
stand the values or the metric of its field. Different series have different names, whatever their
fields, so none takes the place of another. Without series there is no such object. -/
theorem histogram_body_keeps_series {scheme : PartitionScheme} {kind : DocumentKind}
    {filter : Filter} {interval : Interval} {series : List SeriesSpec} {search : Search}
    (h : Search.ofQuery scheme kind ⟨filter, .histogram interval series⟩ = .ok search) :
    ∃ histogram, search.toBody.field? "aggregations" = some (.object [("by_date", histogram)]) ∧
      (series = [] → histogram.field? "aggregations" = none) ∧
      (series ≠ [] → ∃ fields, histogram.field? "aggregations" = some (.object fields) ∧
        (fields.map Prod.fst).Nodup ∧ fields.length = series.dedup.length ∧
        fields.Perm (series.dedup.map fun spec => (spec.seriesName.text, spec.body)) ∧
        ∀ spec ∈ series, fields.lookup spec.seriesName.text = some spec.body) ∧
      ∀ spec spec' : SeriesSpec, spec.seriesName.text = spec'.seriesName.text → spec = spec' := by
  obtain ⟨-, -, -, haggregation⟩ := Search.ofQuery_ok h
  cases hrange : filter.range with
  | none => simp [Question.aggregation?, hrange] at haggregation
  | some range =>
    simp only [Question.aggregation?, hrange, Except.ok.injEq] at haggregation
    refine ⟨_, Search.field?_aggregations haggregation.symm, fun hnil => ?_, fun hne => ?_,
      fun spec spec' => SeriesSpec.eq_of_text_eq⟩
    · rw [hnil, Aggregation.field?_aggregations]
      rfl
    · obtain ⟨fields, hfields, hkeys, hperm⟩ := Aggregation.childBodies?_series hne
      refine ⟨fields, ?_, hkeys, ?_, hperm, fun spec hspec => ?_⟩
      · rw [Aggregation.field?_aggregations]
        exact hfields
      · rw [hperm.length_eq, List.length_map]
      · rw [Keyed.lookup_eq_some_iff hkeys, hperm.mem_iff]
        exact List.mem_map_of_mem (List.mem_dedup.2 hspec)

/-- Counts by an empty field, by `a_b` twice, and an average of `_b`: there are three entries, and
underscores do not confuse them. -/
theorem histogram_body_of_repeated_series :
    let query : Query := ⟨⟨some ⟨0, 1⟩, none, none⟩, .histogram ⟨1000, by decide⟩
      [⟨.counts, ""⟩, ⟨.counts, "a_b"⟩, ⟨.metric .avg, "_b"⟩, ⟨.counts, "a_b"⟩]⟩
    ∃ search histogram fields, Search.ofQuery ⟨"gravitee", .utc⟩ .request query = .ok search ∧
      search.toBody.field? "aggregations" = some (.object [("by_date", histogram)]) ∧
      histogram.field? "aggregations" = some (.object fields) ∧ fields.length = 3 ∧
      fields.lookup "by_a_b" = some (.object [("terms", .object [("field", .string "a_b")])]) ∧
      fields.lookup "avg__b" = some (.object [("avg", .object [("field", .string "_b")])]) := by
  intro query
  obtain ⟨search, hsearch⟩ : ∃ search,
      Search.ofQuery ⟨"gravitee", .utc⟩ .request query = .ok search := ⟨_, rfl⟩
  obtain ⟨histogram, hbody, -, hfull, -⟩ := histogram_body_keeps_series hsearch
  obtain ⟨fields, hfields, -, hlength, -, hlookup⟩ := hfull (by decide)
  exact ⟨search, histogram, fields, hsearch, hbody, hfields, hlength.trans (by decide),
    hlookup ⟨.counts, "a_b"⟩ (by decide), hlookup ⟨.metric .avg, "_b"⟩ (by decide)⟩

end Logbook
