import Logbook.Proofs.Response.Normal
import Logbook.Proofs.Response.Outcome

/-!
# Responses are read again as they were read

* `Response.read_toJson`: a normal response is read back from what is written.
* `Outcome.ofJson_toJson`: so is a normal outcome; groups, numbers and anything else stay what they
  are.
* `Response.read_object_eq_ok_iff`, `Response.read_array_eq_ok_iff`: no content of the outcomes
  makes a response unreadable.
* `Response.reading_response_normalizes`: reading is a normalization, since what is read is normal.
-/

set_option autoImplicit false

namespace Logbook

open FieldReader

theorem Reader.optional_ofBinary64 {o : Option Binary64} (h : ∀ x ∈ o, x.isFinite) :
    optional binary64 (.ofOption .ofBinary64 o) = .ok o := by
  refine optional_ofOption (fun x hx => binary64_ofBinary64 (h x hx)) fun x hx hnull => ?_
  have hfinite := h x hx
  cases x with
  | finite value => cases hnull
  | nan => cases hfinite
  | infinite negative => cases hfinite

/-! ## Groups -/

namespace Group

/-- The fields of a group as they are written. -/
def toFields (group : Group) : List (String × Json) :=
  [("key", group.key), ("key_as_string", .ofOption .string group.label),
    ("doc_count", .ofUInt64 group.count), ("from", .ofOption .ofBinary64 group.low),
    ("to", .ofOption .ofBinary64 group.high)] ++ group.inner.toList

theorem Normal.nodup_keys {group : Group} (h : group.Normal) :
    (group.toFields.map Prod.fst).Nodup := by
  rw [toFields, List.map_append, List.nodup_append]
  refine ⟨by simp, group.inner.nodup_keys, ?_⟩
  intro name hname key hkey
  obtain ⟨entry, hentry, rfl⟩ := List.mem_map.1 hkey
  rintro rfl
  exact (h.inner entry hentry).1 hname

theorem lookup_toFields {group : Group} {key : String} (hkey : key ∉ knownFields) :
    group.toFields.lookup key = group.inner.find? key := by
  rw [toFields, List.lookup_append, Keyed.lookup_eq_none_of_not_mem hkey, Option.none_or]
  rfl

theorem Normal.innerOf_toFields {group : Group} (h : group.Normal) :
    innerOf (Json.orderFields group.toFields) = group.inner := by
  -- a normal group keeps nothing under a known name, so what it keeps is found among all its fields
  refine Keyed.ext_find? fun key => ?_
  rw [find?_innerOf (Json.nodup_keys_orderFields _), Json.lookup_orderFields h.nodup_keys]
  split
  · rename_i hknown
    rw [List.contains_iff_mem] at hknown
    refine (Keyed.lookup_eq_none_of_not_mem fun hmem => ?_).symm
    obtain ⟨entry, hentry, rfl⟩ := List.mem_map.1 hmem
    exact (h.inner entry hentry).1 hknown
  · rename_i hunknown
    rw [lookup_toFields fun hmem => hunknown (List.contains_iff_mem.2 hmem)]
    cases hvalue : group.inner.find? key with
    | none => rfl
    | some value =>
      rw [Option.map_some,
        Json.canonical_of_isCanonical (h.inner _ (Keyed.mem_toList_iff.2 hvalue)).2]

theorem Normal.read_toJson {group : Group} (h : group.Normal) : read group.toJson = .ok group := by
  refine read_eq_ok_iff.2 ⟨Group.mk group.key group.label group.count group.low group.high, ?_,
    congrArg _ h.innerOf_toFields⟩
  have hkey : Reader.json group.key = .ok group.key :=
    congrArg _ (Json.canonical_of_isCanonical h.key)
  have hlabel : Reader.optional Reader.string (.ofOption .string group.label) = .ok group.label :=
    Reader.optional_ofOption (fun _ _ => rfl) fun _ _ => nofun
  exact (((((Reads.withDefault rfl hkey).map Group.mk).seq (.optional rfl hlabel)).seq
    (.withDefault rfl (Reader.uint64_ofUInt64 group.count))).seq
    (.optional rfl (Reader.optional_ofBinary64 h.low))).seq
    (.optional rfl (Reader.optional_ofBinary64 h.high)) |>.orderFields h.nodup_keys

end Group

/-! ## Outcomes -/

namespace Outcome

/-- A normal outcome stays what it is when it is written and read. -/
theorem ofJson_toJson {outcome : Outcome} (h : outcome.Normal) :
    ofJson outcome.toJson = outcome := by
  cases outcome with
  | groups members =>
    have hmembers := Reader.list_ofList fun group hgroup => (h group hgroup).read_toJson
    exact ofJson_of_buckets rfl hmembers
  | number value => exact ofJson_of_value (by simp) rfl (Reader.optional_ofBinary64 h)
  | other value => exact h

theorem keyed_toJson {outcomes : Keyed Outcome} (h : ∀ entry ∈ outcomes.toList, entry.2.Normal) :
    Reader.keyed (fun value => .ok (ofJson value)) (.ofMap toJson outcomes) = .ok outcomes := by
  have hentries : ((outcomes.map toJson).toList.map fun entry => (entry.1, ofJson entry.2)) =
      outcomes.toList := by
    rw [Keyed.map, List.map_map, List.map_congr_left (g := id), List.map_id]
    intro entry hentry
    exact Prod.ext rfl (ofJson_toJson (h entry hentry))
  rw [Json.ofMap, Reader.keyed, Reader.entries_ok, hentries]
  exact congrArg _ outcomes.ofList_toList

end Outcome

/-! ## Responses -/

theorem Hit.read_toJson {hit : Hit} (h : hit.source.isCanonical) : read hit.toJson = .ok hit := by
  have htext (o : Option String) : Reader.optional Reader.string (.ofOption .string o) = .ok o :=
    Reader.optional_ofOption (fun _ _ => rfl) fun _ _ => nofun
  have hsource : Reader.json hit.source = .ok hit.source :=
    congrArg _ (Json.canonical_of_isCanonical h)
  refine Reads.record ?_ ?_ "SearchHit"
  · exact ((((Reads.optional rfl (htext hit.index)).map mk).seq
      (.optional rfl (htext hit.type))).seq (.optional rfl (htext hit.id))).seq
      (.withDefault rfl hsource)
  · simp

namespace Response

theorem readTotal_ofUInt64 (n : UInt64) : readTotal (.ofUInt64 n) = .ok n := by
  rw [readTotal, Reader.uint64_ofUInt64]

theorem readHits_record (total : UInt64) {hits : List Hit}
    (h : ∀ hit ∈ hits, hit.source.isCanonical) :
    readHits (.record [("total", .ofUInt64 total), ("hits", .ofList Hit.toJson hits)]) =
      .ok (total, hits) := by
  refine Reads.record ?_ ?_ "SearchHits"
  · exact ((Reads.withDefault rfl (readTotal_ofUInt64 total)).map Prod.mk).seq
      (.withDefault rfl (Reader.list_ofList fun hit hhit => Hit.read_toJson (h hit hhit)))
  · simp

/-- A normal response is read back as it was written. -/
theorem read_toJson {response : Response} (h : response.Normal) :
    read response.toJson = .ok response := by
  have htook : Reader.optional Reader.uint64 (.ofOption .ofUInt64 response.took) =
      .ok response.took :=
    Reader.optional_ofOption (fun n _ => Reader.uint64_ofUInt64 n) fun _ _ => nofun
  have houtcomes : Reader.optional (Reader.keyed fun value => .ok (Outcome.ofJson value))
      (.ofOption (Json.ofMap Outcome.toJson) response.outcomes) = .ok response.outcomes :=
    Reader.optional_ofOption (fun outcomes hmem => Outcome.keyed_toJson (h.outcomes outcomes hmem))
      fun _ _ => nofun
  have htimedOut : Reader.bool (.bool response.timedOut) = .ok response.timedOut := rfl
  refine Reads.record ?_ ?_ "SearchResponse"
  · exact ((((Reads.optional rfl htook).map _).seq (.withDefault rfl htimedOut)).seq
      (.withDefault rfl (readHits_record response.total h.hits))).seq (.optional rfl houtcomes)
  · simp

/-! ## Outcomes never make a response unreadable -/

/-- The outcomes that the fields of an object stand for. -/
def outcomesOf (contents : List (String × Json)) : Keyed Outcome :=
  Keyed.ofList (contents.map fun entry => (entry.1, Outcome.ofJson entry.2))

theorem optional_keyed_object (contents : List (String × Json)) :
    Reader.optional (Reader.keyed fun value => .ok (Outcome.ofJson value)) (.object contents) =
      .ok (some (outcomesOf contents)) := by
  rw [Reader.optional, Reader.keyed, Reader.entries_ok]
  · rfl
  · intro hnull
    cases hnull

/-- Reads the fields of a response in front of the outcomes. -/
def leadingReader : FieldReader (Option (Keyed Outcome) → Response) :=
  (fun took timedOut hits outcomes => ⟨took, timedOut, hits.1, hits.2, outcomes⟩) <$>
    .optional "took" Reader.uint64 <*>
    .withDefault "timed_out" Reader.bool false <*>
    .withDefault "hits" readHits (0, [])

/-- Reads the outcomes of a response. -/
def outcomesReader : FieldReader (Option (Keyed Outcome)) :=
  .optional "aggregations" (Reader.keyed fun value => .ok (Outcome.ofJson value))

theorem byName_leadingReader : leadingReader.ByName :=
  (((ByName.optional _ _).map _).seq (.withDefault _ _ _)).seq (.withDefault _ _ _)

theorem byName_read : (leadingReader <*> outcomesReader).ByName :=
  byName_leadingReader.seq (.optional _ _)

theorem ne_of_mem_leadingReader {slot : Slot} (h : slot ∈ leadingReader.slots) :
    slot.name ≠ "aggregations" := by
  change slot ∈ [_, _, _] at h
  simp only [List.mem_cons, List.not_mem_nil, or_false] at h
  rcases h with rfl | rfl | rfl <;> decide

/-- The outcomes go into a response as they are. -/
theorem yields_leadingReader : Yields (fun _ => True) leadingReader fun response =>
    ∀ outcomes, response outcomes = { response none with outcomes := outcomes } :=
  (((Yields.any _).map fun _ _ _ _ _ _ _ => rfl).seq (.any _)).seq (.any _)

/-- An object with outcomes of any content is read when the object without them is. -/
theorem read_object_eq_ok_iff {fields contents : List (String × Json)}
    (hkeys : (fields.map Prod.fst).Nodup)
    (hcontents : fields.lookup "aggregations" = some (.object contents)) {response : Response} :
    read (.object fields) = .ok response ↔ ∃ bare : Response,
      read (.object (fields.filter fun field => field.1 != "aggregations")) = .ok bare ∧
        response = { bare with outcomes := some (outcomesOf contents) } := by
  have hkeys' : ((fields.filter fun field => field.1 != "aggregations").map Prod.fst).Nodup :=
    hkeys.sublist (List.filter_sublist.map _)
  have hlookup := fun key => Keyed.lookup_filter_ne "aggregations" key fields
  have hleading : leadingReader.ofFields (fields.filter fun field => field.1 != "aggregations") =
      leadingReader.ofFields fields := by
    refine byName_leadingReader.congr fun slot hslot => ?_
    rw [hlookup, if_neg (ne_of_mem_leadingReader hslot)]
  have houtcomes : outcomesReader.ofFields fields = .ok (some (outcomesOf contents)) := by
    rw [outcomesReader, FieldReader.optional, FieldReader.withDefault, ofFields_slot_eq, hcontents]
    exact optional_keyed_object contents
  have hnone : outcomesReader.ofFields
      (fields.filter fun field => field.1 != "aggregations") = .ok none := by
    rw [outcomesReader, FieldReader.optional, FieldReader.withDefault, ofFields_slot_eq, hlookup,
      if_pos rfl]
    rfl
  have hread (fields : List (String × Json)) (hkeys : (fields.map Prod.fst).Nodup)
      (response : Response) : read (.object fields) = .ok response ↔ ∃ g outcomes,
        leadingReader.ofFields fields = .ok g ∧ outcomesReader.ofFields fields = .ok outcomes ∧
          g outcomes = response :=
    (readFields_eq_ok_iff byName_read hkeys).trans ofFields_seq_eq_ok_iff
  rw [hread fields hkeys, houtcomes]
  simp only [hread _ hkeys', hleading, hnone]
  constructor
  · rintro ⟨g, outcomes, hg, houtcomes, rfl⟩
    cases houtcomes
    exact ⟨g none, ⟨g, none, hg, rfl, rfl⟩, yields_leadingReader.ofFields (fun _ _ => trivial) hg _⟩
  · rintro ⟨bare, ⟨g, outcomes, hg, hnone, rfl⟩, rfl⟩
    cases hnone
    exact ⟨g, _, hg, rfl, yields_leadingReader.ofFields (fun _ _ => trivial) hg _⟩

theorem ofItems_leadingReader_eq_ok_iff {short : Nat → Fault} {place last : Nat}
    {took timedOut hits : Json} {items rest : List Json}
    {g : Option (Keyed Outcome) → Response} :
    leadingReader.ofItems short place (took :: timedOut :: hits :: items) = .ok (g, last, rest) ↔
      ∃ took' timedOut' found, Reader.optional Reader.uint64 took = .ok took' ∧
        Reader.bool timedOut = .ok timedOut' ∧ readHits hits = .ok found ∧
        (fun outcomes => ⟨took', timedOut', found.1, found.2, outcomes⟩) = g ∧
        last = place + 3 ∧ rest = items := by
  constructor
  · intro h
    obtain ⟨g₂, found, place₂, items₂, h₂, hfound, rfl⟩ := ofItems_seq_eq_ok_iff.1 h
    obtain ⟨g₁, timedOut', place₁, items₁, h₁, htimedOut, rfl⟩ := ofItems_seq_eq_ok_iff.1 h₂
    obtain ⟨took', htook, rfl⟩ := ofItems_map_eq_ok_iff.1 h₁
    obtain ⟨hread₁, rfl, rfl⟩ := ofItems_optional_cons_eq_ok_iff.1 htook
    obtain ⟨hread₂, rfl, rfl⟩ := ofItems_withDefault_cons_eq_ok_iff.1 htimedOut
    obtain ⟨hread₃, rfl, rfl⟩ := ofItems_withDefault_cons_eq_ok_iff.1 hfound
    exact ⟨took', timedOut', found, hread₁, hread₂, hread₃, rfl, rfl, rfl⟩
  · rintro ⟨took', timedOut', found, htook, htimedOut, hfound, rfl, rfl, rfl⟩
    refine ofItems_seq_eq_ok_iff.2 ⟨_, found, place + 2, hits :: rest, ofItems_seq_eq_ok_iff.2
      ⟨_, timedOut', place + 1, timedOut :: hits :: rest, ofItems_map_eq_ok_iff.2 ⟨took', ?_, rfl⟩,
        ?_, rfl⟩, ?_, rfl⟩
    · exact ofItems_optional_cons_eq_ok_iff.2 ⟨htook, rfl, rfl⟩
    · exact ofItems_withDefault_cons_eq_ok_iff.2 ⟨htimedOut, rfl, rfl⟩
    · exact ofItems_withDefault_cons_eq_ok_iff.2 ⟨hfound, rfl, rfl⟩

/-- Neither does an array with outcomes of any content differ from the array without them. -/
theorem read_array_eq_ok_iff {took timedOut hits : Json} {contents : List (String × Json)}
    {response : Response} : read (.array [took, timedOut, hits, .object contents]) = .ok response ↔
      ∃ bare : Response, read (.array [took, timedOut, hits]) = .ok bare ∧
        response = { bare with outcomes := some (outcomesOf contents) } := by
  have hread (items : List Json) (response : Response) : read (.array items) = .ok response ↔ _ :=
    @readItems_eq_ok_iff _ (leadingReader <*> outcomesReader) response items "SearchResponse"
  simp only [hread, ofItems_seq_eq_ok_iff, ofItems_leadingReader_eq_ok_iff]
  constructor
  · rintro ⟨last, g, outcomes, place, items, ⟨took', timedOut', found, htook, htimedOut, hfound,
      rfl, rfl, rfl⟩, houtcomes, rfl⟩
    obtain ⟨hread, rfl, -⟩ := ofItems_optional_cons_eq_ok_iff.1 houtcomes
    rw [optional_keyed_object] at hread
    cases hread
    exact ⟨⟨took', timedOut', found.1, found.2, none⟩, ⟨_, _, _, _, _, ⟨took', timedOut', found,
      htook, htimedOut, hfound, rfl, rfl, rfl⟩, rfl, rfl⟩, rfl⟩
  · rintro ⟨bare, ⟨last, g, outcomes, place, items, ⟨took', timedOut', found, htook, htimedOut,
      hfound, rfl, rfl, rfl⟩, houtcomes, rfl⟩, rfl⟩
    exact ⟨_, _, _, _, _, ⟨took', timedOut', found, htook, htimedOut, hfound, rfl, rfl, rfl⟩,
      ofItems_optional_cons_eq_ok_iff.2 ⟨optional_keyed_object contents, rfl, rfl⟩, rfl⟩

/-- Reading is a normalization: what is written of a response that was read is read as that
response, and an outcome stays what it was taken for. No content of the outcomes makes a response
unreadable. -/
theorem reading_response_normalizes :
    (∀ (value : Json) (response : Response), value.Proper → read value = .ok response →
      read response.toJson = .ok response) ∧
    (∀ value : Json, value.Proper →
      Outcome.ofJson (Outcome.ofJson value).toJson = Outcome.ofJson value) ∧
    (∀ (fields contents : List (String × Json)) (response : Response),
      (fields.map Prod.fst).Nodup → fields.lookup "aggregations" = some (.object contents) →
        (read (.object fields) = .ok response ↔ ∃ bare : Response,
          read (.object (fields.filter fun field => field.1 != "aggregations")) = .ok bare ∧
            response = { bare with outcomes := some (outcomesOf contents) })) ∧
    ∀ (took timedOut hits : Json) (contents : List (String × Json)) (response : Response),
      read (.array [took, timedOut, hits, .object contents]) = .ok response ↔ ∃ bare : Response,
        read (.array [took, timedOut, hits]) = .ok bare ∧
          response = { bare with outcomes := some (outcomesOf contents) } :=
  ⟨fun _ _ hproper h => read_toJson (normal_of_read hproper h),
    fun _ hproper => Outcome.ofJson_toJson (Outcome.normal_ofJson hproper),
    fun _ _ _ hkeys hcontents => read_object_eq_ok_iff hkeys hcontents,
    fun _ _ _ _ _ => read_array_eq_ok_iff⟩

/-- An outcome that has neither groups nor a number, though it has fields for both. -/
def spoiledContents : List (String × Json) :=
  [("mean", .object [("value", .string "?"), ("buckets", .int 5)])]

theorem reading_spoiledContents_normalizes :
    ∃ response : Response, response.total = 7 ∧
      response.outcomes = some (outcomesOf spoiledContents) ∧
      read (.array [.null, .bool true, .array [.int 7], .object spoiledContents]) = .ok response ∧
      read response.toJson = .ok response := by
  have houtcome : (Json.object [("value", .string "?"), ("buckets", .int 5)]).Proper := by
    refine .object _ (by decide) ?_
    simp only [List.forall_mem_cons, List.not_mem_nil, false_implies, implies_true, and_true]
    exact ⟨.string "?", .int 5 (by decide) (by decide)⟩
  have hproper : (Json.array [.null, .bool true, .array [.int 7],
      .object spoiledContents]).Proper := by
    refine .array _ ?_
    simp only [List.forall_mem_cons, List.not_mem_nil, false_implies, implies_true, and_true]
    refine ⟨.null, .bool true, .array _ ?_, .object _ (by decide) ?_⟩
    · exact List.forall_mem_singleton.2 (.int 7 (by decide) (by decide))
    · exact List.forall_mem_singleton.2 houtcome
  have hbare : read (.array [.null, .bool true, .array [.int 7]]) =
      .ok ⟨none, true, 7, [], none⟩ := rfl
  have hread := (reading_response_normalizes.2.2.2 .null (.bool true) (.array [.int 7])
    spoiledContents _).2 ⟨_, hbare, rfl⟩
  exact ⟨_, rfl, rfl, hread, reading_response_normalizes.1 _ _ hproper hread⟩

end Response

end Logbook
