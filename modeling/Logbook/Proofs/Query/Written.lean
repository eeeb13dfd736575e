import Logbook.Proofs.Json.Fields
import Logbook.Proofs.Json.Written
import Logbook.Proofs.Json.Yields
import Logbook.Proofs.Number.Binary64
import Logbook.Query.Json

/-!
# Queries are read back as they were written

* `Query.read_toJson`: a query whose ranges have finite bounds is read back from what is written.
* `Query.read_eq_ok_iff`: the name of the question decides by which fields a value is read.
* `Query.interval_of_read`: the interval of a query that can be read is the integer that stands in
  its place, and positive.
* `Query.written_query_is_read`: all of this together; so two queries are never written alike.
-/

set_option autoImplicit false

namespace Logbook

open FieldReader

/-! ## The parts of a query -/

theorem TimeRange.read_toJson (range : TimeRange) : read range.toJson = .ok range := by
  refine Reads.record ?_ ?_ "TimeRange"
  · exact ((Reads.required rfl (Reader.int64_ofInt64 range.start)).map mk).seq
      (.required rfl (Reader.int64_ofInt64 range.stop))
  · simp

theorem Scope.read_toJson (scope : Scope) : read scope.toJson = .ok scope := by
  refine Reads.record ?_ ?_ "RootScope"
  · exact ((Reads.required rfl (Reader.string_string scope.field)).map mk).seq
      (.required rfl (Reader.string_string scope.id))
  · simp

theorem Filter.read_toJson (filter : Filter) : read filter.toJson = .ok filter := by
  have hrange : Reader.optional TimeRange.read (.ofOption TimeRange.toJson filter.range) =
      .ok filter.range :=
    Reader.optional_ofOption (fun range _ => range.read_toJson) fun _ _ => nofun
  have hscope : Reader.optional Scope.read (.ofOption Scope.toJson filter.scope) =
      .ok filter.scope :=
    Reader.optional_ofOption (fun scope _ => scope.read_toJson) fun _ _ => nofun
  have htext : Reader.optional Reader.string (.ofOption Json.string filter.text) =
      .ok filter.text :=
    Reader.optional_ofOption (fun _ _ => rfl) fun _ _ => nofun
  refine Reads.record ?_ ?_ "QueryFilter"
  · exact (((Reads.nullable rfl hrange).map mk).seq (.nullable rfl hscope)).seq
      (.nullable rfl htext)
  · simp

theorem SeriesSpec.readWith_toJson (isNothing : Json → Bool) (spec : SeriesSpec) :
    readWith isNothing spec.toJson = .ok spec := by
  have hkind : Reader.choice isNothing Measure.names (.string spec.measure.name) =
      .ok spec.measure := by
    refine Reader.choice_string ?_
    cases spec.measure with
    | counts => rfl
    | metric m => cases m <;> rfl
  refine Reads.record ?_ ?_ "AggregationSpec"
  · exact ((Reads.required rfl hkind).map mk).seq (.required rfl (Reader.string_string spec.field))
  · simp

theorem NumberRange.read_toJson {range : NumberRange} (hlow : range.low.isFinite)
    (hhigh : range.high.isFinite) : read range.toJson = .ok range := by
  refine Reads.record ?_ ?_ "GroupRange"
  · exact ((Reads.required rfl (Reader.binary64_ofBinary64 hlow)).map mk).seq
      (.required rfl (Reader.binary64_ofBinary64 hhigh))
  · simp

theorem GroupOrder.read_toJson (order : GroupOrder) : read order.toJson = .ok order := by
  have hdirection : Reader.choice Query.isNothing Direction.names (.string order.direction.name) =
      .ok order.direction := by
    refine Reader.choice_string ?_
    cases order.direction <;> rfl
  refine Reads.record ?_ ?_ "GroupOrder"
  · exact ((Reads.required rfl (Reader.string_string order.field)).map mk).seq
      (.required rfl hdirection)
  · simp

/-- An interval is read from a positive integer of 64 bits and nothing else. -/
theorem Interval.read_eq_ok_iff {value : Json} {interval : Interval} :
    read value = .ok interval ↔ value = .ofUInt64 interval.millis := by
  unfold read
  rw [Fallible.bind_eq_ok_iff]
  constructor
  · rintro ⟨millis, hmillis, h⟩
    rw [Reader.uint64_eq_ok_iff] at hmillis
    unfold ofMillis at h
    split at h
    · rename_i heq
      split at heq
      · cases heq
      · cases heq
        cases h
        exact hmillis
    · cases h
  · rintro rfl
    refine ⟨interval.millis, Reader.uint64_ofUInt64 _, ?_⟩
    rw [ofMillis, dif_neg interval.positive]
    rfl

/-! ## The kinds of questions -/

namespace Question

/-- The ranges of a question about groups; other questions have none. -/
def numberRanges : Question → List NumberRange
  | groups _ ranges _ => ranges
  | _ => []

theorem reads_groupField {group : HealthGroup} {fields : List (String × Json)}
    (h : fields.lookup "field" = some (.string group.name)) : groupField.Reads fields group :=
  .required h (Reader.choice_string (by cases group <;> rfl))

/-- Behind the filter of a query its question is found by its name and read back. -/
theorem exists_reads (question : Question) (name filter : Json)
    (hfinite : ∀ range ∈ question.numberRanges, range.low.isFinite ∧ range.high.isFinite) :
    ∃ reader, readers.lookup question.name = some reader ∧
      reader.Reads (("type", name) :: ("filter", filter) :: question.toFields) question := by
  cases question with
  | count => exact ⟨_, rfl, .pure count⟩
  | groups field ranges order =>
    have hranges : Reader.list NumberRange.read (.ofList NumberRange.toJson ranges) = .ok ranges :=
      Reader.list_ofList fun range hmem =>
        NumberRange.read_toJson (hfinite range hmem).1 (hfinite range hmem).2
    have horder : Reader.optional GroupOrder.read (.ofOption GroupOrder.toJson order) =
        .ok order :=
      Reader.optional_ofOption (fun order _ => order.read_toJson) fun _ _ => nofun
    exact ⟨_, rfl, (((Reads.required rfl (Reader.string_string field)).map groups).seq
      (.required rfl hranges)).seq (.nullable rfl horder)⟩
  | histogram interval series =>
    have hseries : Reader.list (SeriesSpec.readWith Query.isNothing)
        (.ofList SeriesSpec.toJson series) = .ok series :=
      Reader.list_ofList fun spec _ => spec.readWith_toJson Query.isNothing
    exact ⟨_, rfl, ((Reads.required rfl (Interval.read_eq_ok_iff.2 rfl)).map histogram).seq
      (.required rfl hseries)⟩
  | availability group => exact ⟨_, rfl, (reads_groupField rfl).map availability⟩
  | responseTime group => exact ⟨_, rfl, (reads_groupField rfl).map responseTime⟩
  | logs page size =>
    exact ⟨_, rfl, ((Reads.required rfl (Reader.uint32_int page)).map logs).seq
      (.required rfl (Reader.uint32_int size))⟩

theorem nodup_keys_toFields (question : Question) (name filter : Json) :
    ((("type", name) :: ("filter", filter) :: question.toFields).map Prod.fst).Nodup := by
  cases question <;> simp [toFields]

end Question

/-! ## Queries -/

namespace Query

/-- The ranges of numbers that a query asks about have finite bounds. -/
def HasFiniteBounds (query : Query) : Prop :=
  ∀ range ∈ query.question.numberRanges, range.low.isFinite ∧ range.high.isFinite

/-- The reader of a question whose name is given. -/
def readerNamed : Reader (FieldReader Question) := fun name => do
  let name ← Reader.string name
  match Question.readers.lookup name with
  | some question => return question
  | none => throw (.unknownName name)

theorem readerNamed_eq_ok_iff {name : Json} {reader : FieldReader Question} :
    readerNamed name = .ok reader ↔
      ∃ text, name = .string text ∧ Question.readers.lookup text = some reader := by
  unfold readerNamed
  rw [Fallible.bind_eq_ok_iff]
  constructor
  · rintro ⟨text, htext, h⟩
    split at h
    · rename_i found hfound
      cases h
      unfold Reader.string at htext
      split at htext
      · cases htext
        exact ⟨text, rfl, hfound⟩
      · cases htext
    · cases h
  · rintro ⟨text, rfl, hfound⟩
    exact ⟨text, rfl, by rw [hfound]; rfl⟩

/-- The name of the question, in its field or in front of an array, decides by which fields a query
is read. -/
theorem read_eq_ok_iff {value : Json} {query : Query} : read value = .ok query ↔
    ∃ text reader, Question.readers.lookup text = some reader ∧
      ((∃ fields, value = .object fields ∧ fields.lookup "type" = some (.string text) ∧
          (fieldsOf reader).readFields fields = .ok query) ∨
        ∃ items, value = .array (.string text :: items) ∧
          (fieldsOf reader).readItems "Query" items = .ok query) := by
  constructor
  · intro h
    unfold read at h
    split at h
    · rename_i fields
      split at h
      · cases h
      · rename_i name hname
        obtain ⟨reader, hreader, hread⟩ := Fallible.bind_eq_ok_iff.1 h
        obtain ⟨text, rfl, hfound⟩ := readerNamed_eq_ok_iff.1 hreader
        exact ⟨text, reader, hfound, .inl ⟨fields, rfl, hname, hread⟩⟩
    · rename_i name items
      obtain ⟨reader, hreader, hread⟩ := Fallible.bind_eq_ok_iff.1 h
      obtain ⟨text, rfl, hfound⟩ := readerNamed_eq_ok_iff.1 hreader
      exact ⟨text, reader, hfound, .inr ⟨items, rfl, hread⟩⟩
    · cases h
  · rintro ⟨text, reader, hfound, ⟨fields, rfl, hname, h⟩ | ⟨items, rfl, h⟩⟩
    · unfold read
      simp only [hname]
      exact Fallible.bind_eq_ok_iff.2 ⟨reader, readerNamed_eq_ok_iff.2 ⟨text, rfl, hfound⟩, h⟩
    · exact Fallible.bind_eq_ok_iff.2 ⟨reader, readerNamed_eq_ok_iff.2 ⟨text, rfl, hfound⟩, h⟩

/-- A query is read back as it was written. -/
theorem read_toJson {query : Query} (h : query.HasFiniteBounds) :
    read query.toJson = .ok query := by
  obtain ⟨reader, hreader, hreads⟩ :=
    query.question.exists_reads (.string query.question.name) query.filter.toJson h
  have hkeys := query.question.nodup_keys_toFields (.string query.question.name)
    query.filter.toJson
  refine read_eq_ok_iff.2 ⟨_, reader, hreader, .inl ⟨_, rfl, Keyed.find?_ofList hkeys "type", ?_⟩⟩
  exact (((Reads.required rfl query.filter.read_toJson).map mk).seq hreads).orderFields hkeys

/-! ## Intervals -/

/-- Where the interval of a histogram stands: under its name, or behind the filter. -/
def intervalItem? : Json → Option Json
  | .object fields => fields.lookup "interval"
  | .array (_ :: _ :: item :: _) => some item
  | _ => none

section
variable {reader : FieldReader Question} {fields : List (String × Json)} {query : Query}
  {short : Nat → Fault} {place last : Nat} {items rest : List Json} {interval : Interval}
  {series : List SeriesSpec}

theorem ofFields_fieldsOf (h : (fieldsOf reader).ofFields fields = .ok query) :
    reader.ofFields fields = .ok query.question := by
  obtain ⟨g, question, hg, hquestion, rfl⟩ := ofFields_seq_eq_ok_iff.1 h
  obtain ⟨filter, -, rfl⟩ := ofFields_map_eq_ok_iff.1 hg
  exact hquestion

theorem ofItems_fieldsOf
    (h : (fieldsOf reader).ofItems short place items = .ok (query, last, rest)) :
    ∃ filter items', items = filter :: items' ∧
      reader.ofItems short (place + 1) items' = .ok (query.question, last, rest) := by
  obtain ⟨g, question, place', items', hg, hquestion, rfl⟩ := ofItems_seq_eq_ok_iff.1 h
  obtain ⟨filter, hfilter, rfl⟩ := ofItems_map_eq_ok_iff.1 hg
  obtain ⟨item, rfl, rfl, -⟩ := ofItems_required_eq_ok_iff.1 hfilter
  exact ⟨item, items', rfl, hquestion⟩

theorem ofFields_histogram (hreader : Question.readers.lookup "date_histogram" = some reader)
    (h : reader.ofFields fields = .ok (.histogram interval series)) :
    fields.lookup "interval" = some (.ofUInt64 interval.millis) := by
  cases hreader
  obtain ⟨g, series', hg, -, hmade⟩ := ofFields_seq_eq_ok_iff.1 h
  obtain ⟨interval', hinterval, rfl⟩ := ofFields_map_eq_ok_iff.1 hg
  cases hmade
  obtain ⟨value, hvalue, hread⟩ := ofFields_required_eq_ok_iff.1 hinterval
  rw [hvalue, Interval.read_eq_ok_iff.1 hread]

theorem ofItems_histogram (hreader : Question.readers.lookup "date_histogram" = some reader)
    (h : reader.ofItems short place items = .ok (.histogram interval series, last, rest)) :
    ∃ items', items = .ofUInt64 interval.millis :: items' := by
  cases hreader
  obtain ⟨g, series', place', items', hg, -, hmade⟩ := ofItems_seq_eq_ok_iff.1 h
  obtain ⟨interval', hinterval, rfl⟩ := ofItems_map_eq_ok_iff.1 hg
  cases hmade
  obtain ⟨item, rfl, -, hread⟩ := ofItems_required_eq_ok_iff.1 hinterval
  exact ⟨items', by rw [Interval.read_eq_ok_iff.1 hread]⟩

end

/-- Only one kind of question is about a histogram. -/
theorem yields_other {text : String} {reader : FieldReader Question}
    (hreader : Question.readers.lookup text = some reader) (htext : text ≠ "date_histogram") :
    Yields (fun _ => True) reader fun question =>
      ∀ interval series, question ≠ .histogram interval series := by
  have hmem := Keyed.mem_of_lookup hreader
  simp only [Question.readers, List.mem_cons, Prod.mk.injEq, List.not_mem_nil, or_false] at hmem
  rcases hmem with ⟨-, rfl⟩ | ⟨-, rfl⟩ | ⟨rfl, -⟩ | ⟨-, rfl⟩ | ⟨-, rfl⟩ | ⟨-, rfl⟩
  · exact .pure nofun
  · exact (((Yields.any _).map fun _ _ _ _ _ _ => nofun).seq (.any _)).seq (.any _)
  · exact absurd rfl htext
  · exact (Yields.any _).map fun _ _ => nofun
  · exact (Yields.any _).map fun _ _ => nofun
  · exact ((Yields.any _).map fun _ _ _ _ => nofun).seq (.any _)

/-- The interval of a query that can be read is the integer that stands in its place. -/
theorem intervalItem?_of_read {value : Json} {filter : Filter} {interval : Interval}
    {series : List SeriesSpec} (h : read value = .ok ⟨filter, .histogram interval series⟩) :
    intervalItem? value = some (.ofUInt64 interval.millis) := by
  obtain ⟨text, reader, hreader, hshape⟩ := read_eq_ok_iff.1 h
  rcases hshape with ⟨fields, rfl, -, hread⟩ | ⟨items, rfl, hread⟩
  · obtain ⟨-, -, hread⟩ := Fallible.bind_eq_ok_iff.1 hread
    have hquestion := ofFields_fieldsOf hread
    by_cases htext : text = "date_histogram"
    · subst htext
      exact ofFields_histogram hreader hquestion
    · exact absurd rfl ((yields_other hreader htext).ofFields (fun _ _ => trivial) hquestion
        interval series)
  · obtain ⟨last, hitems⟩ := readItems_eq_ok_iff.1 hread
    obtain ⟨filter', items', rfl, hquestion⟩ := ofItems_fieldsOf hitems
    by_cases htext : text = "date_histogram"
    · subst htext
      obtain ⟨rest, rfl⟩ := ofItems_histogram hreader hquestion
      rfl
    · exact absurd rfl (((yields_other hreader htext).ofItems (fun _ _ => trivial) hquestion).1
        interval series)

/-- Queries are read back as they were written: no two are written alike, and where a query about a
histogram can be read its interval stands there as a positive integer of 64 bits. -/
theorem written_query_is_read :
    (∀ query : Query, query.HasFiniteBounds → read query.toJson = .ok query) ∧
    (∀ query query' : Query, query.HasFiniteBounds → query'.HasFiniteBounds →
      query.toJson = query'.toJson → query = query') ∧
    ∀ (value : Json) (filter : Filter) (interval : Interval) (series : List SeriesSpec),
      read value = .ok ⟨filter, .histogram interval series⟩ →
        ∃ n : Nat, 0 < n ∧ n < 2 ^ 64 ∧ interval.millis.toNat = n ∧
          intervalItem? value = some (.int n) := by
  refine ⟨fun query h => read_toJson h, fun query query' h h' hsame => ?_,
    fun value filter interval series h => ?_⟩
  · have hread := read_toJson h
    rw [hsame, read_toJson h'] at hread
    exact (Except.ok.inj hread).symm
  · have hpositive : interval.millis.toNat ≠ 0 := fun hzero =>
      interval.positive (UInt64.toNat_inj.1 hzero)
    exact ⟨interval.millis.toNat, Nat.pos_of_ne_zero hpositive, interval.millis.toNat_lt, rfl,
      intervalItem?_of_read h⟩

/-- The sizes of a tenant's requests in two ranges, asked for in a time range that is inverted. -/
def sizesQuery : Query :=
  ⟨⟨some ⟨1, -1⟩, some ⟨"tenant", ""⟩, none⟩,
    .groups "size" [⟨.ofInt (-1), .ofInt 0⟩, ⟨.ofInt 0, .ofInt 100⟩]
      (some ⟨"count", .descending⟩)⟩

theorem written_sizesQuery_is_read :
    read sizesQuery.toJson = .ok sizesQuery ∧
    sizesQuery.toJson ≠ toJson ⟨sizesQuery.filter, .count⟩ ∧
    ∃ n : Nat, 0 < n ∧ n < 2 ^ 64 ∧ UInt64.toNat 60000 = n ∧
      intervalItem? (.array [.string "date_histogram", Filter.all.toJson, .int 60000, .array []]) =
        some (.int n) := by
  have hbound (n : Int) (hlow : -2 ^ 63 ≤ n) (hhigh : n < 2 ^ 64) :
      (Binary64.ofInt n).isFinite := Binary64.isFinite_ofInt hlow hhigh
  have hfinite : sizesQuery.HasFiniteBounds := by
    intro range hrange
    simp only [sizesQuery, Question.numberRanges, List.mem_cons, List.not_mem_nil, or_false]
      at hrange
    rcases hrange with rfl | rfl <;> dsimp only
    · exact ⟨hbound (-1) (by decide) (by decide), hbound 0 (by decide) (by decide)⟩
    · exact ⟨hbound 0 (by decide) (by decide), hbound 100 (by decide) (by decide)⟩
  refine ⟨written_query_is_read.1 _ hfinite, fun hsame => ?_,
    written_query_is_read.2.2 _ Filter.all ⟨60000, by decide⟩ [] rfl⟩
  have hcount : HasFiniteBounds ⟨sizesQuery.filter, .count⟩ := fun _ h =>
    absurd h List.not_mem_nil
  exact absurd (written_query_is_read.2.1 _ _ hfinite hcount hsame) (by decide)

end Query

end Logbook
