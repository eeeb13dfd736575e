import Logbook.Proofs.Json.OrderFree
import Logbook.Proofs.Json.Written
import Logbook.Proofs.Json.Yields
import Logbook.Proofs.Number.Binary64
import Logbook.Response.Basic

/-!
# What a response is read as

A response that was read is *normal*: whatever it keeps as it came is canonical, its numbers are
finite, and an outcome that is neither groups nor a number would not be taken for them now either
(`Response.normal_of_read`, `Outcome.normal_ofJson`). The last holds since no reader of outcomes
looks at the order of fields, so that a value and its canonical form are the same outcome
(`Outcome.ofJson_canonical`).
-/

set_option autoImplicit false

namespace Logbook

open FieldReader

/-! ## Groups -/

namespace Group

/-- Reads the fields that every group has. -/
def knownReader : FieldReader (Keyed Json → Group) :=
  mk <$> .withDefault "key" Reader.json .null <*>
    .optional "key_as_string" Reader.string <*>
    .withDefault "doc_count" Reader.uint64 0 <*>
    .optional "from" Reader.binary64 <*>
    .optional "to" Reader.binary64

/-- The other fields of a group. -/
def innerOf (fields : List (String × Json)) : Keyed Json :=
  Keyed.ofList (Json.canonicalFields (fields.filter fun field => !knownFields.contains field.1))

theorem read_object (fields : List (String × Json)) : read (.object fields) =
    (do return (← knownReader.readFields fields) (innerOf fields)) := rfl

theorem read_eq_ok_iff {fields : List (String × Json)} {group : Group} :
    read (.object fields) = .ok group ↔
      ∃ typed, knownReader.readFields fields = .ok typed ∧ typed (innerOf fields) = group := by
  rw [read_object, Fallible.bind_eq_ok_iff]
  exact exists_congr fun typed => and_congr Iff.rfl ⟨Except.ok.inj, congrArg _⟩

theorem find?_innerOf {fields : List (String × Json)} (hkeys : (fields.map Prod.fst).Nodup)
    (key : String) : (innerOf fields).find? key =
      if knownFields.contains key then none else (fields.lookup key).map Json.canonical := by
  rw [innerOf, Json.find?_canonicalFields (hkeys.sublist (List.filter_sublist.map _)),
    Keyed.lookup_filter_key fun key => !knownFields.contains key]
  cases knownFields.contains key <;> rfl

theorem orderFree_knownReader : knownReader.OrderFree :=
  ((((OrderFree.withDefault Reader.OrderFree.json).map mk).seq
    (.optional Reader.OrderFree.string)).seq (.withDefault Reader.OrderFree.uint64)).seq
    (.optional Reader.OrderFree.binary64) |>.seq (.optional Reader.OrderFree.binary64)

theorem orderFree_read : Reader.OrderFree read := by
  intro value hproper group
  cases hproper with
  | object fields keys each =>
    have hinner : innerOf (Json.orderFields (Json.canonicalFields fields)) = innerOf fields := by
      refine Keyed.ext_find? fun key => ?_
      rw [find?_innerOf keys, find?_innerOf (Json.nodup_keys_orderFields _),
        Json.lookup_orderFields_canonicalFields keys]
      cases hvalue : fields.lookup key with
      | none => rfl
      | some value =>
        rw [Option.map_some, Option.map_some,
          (each _ (Keyed.mem_of_lookup hvalue)).canonical_canonical]
    rw [Json.canonical, read_eq_ok_iff, read_eq_ok_iff, hinner]
    exact exists_congr fun typed =>
      and_congr (orderFree_knownReader.readFields keys each typed) Iff.rfl
  | array items each => exact ⟨nofun, nofun⟩
  | null | bool | int | float | string => exact Iff.rfl

/-- The key and what is kept as it came are canonical, and the bounds are finite. -/
structure Normal (group : Group) : Prop where
  key : group.key.isCanonical
  low : ∀ x ∈ group.low, x.isFinite
  high : ∀ x ∈ group.high, x.isFinite
  inner : ∀ entry ∈ group.inner.toList, entry.1 ∉ knownFields ∧ entry.2.isCanonical

end Group

theorem Reader.isCanonical_json {value a : Json} (hproper : value.Proper)
    (h : json value = .ok a) : a.isCanonical := by
  cases h
  exact hproper.isCanonical_canonical

theorem Reader.isFinite_binary64 {value : Json} {x : Binary64} (hproper : value.Proper)
    (h : binary64 value = .ok x) : x.isFinite := by
  cases hproper with
  | int n low high =>
    have hx : Binary64.ofInt n = x := Except.ok.inj h
    rw [← hx]
    exact Binary64.isFinite_ofInt low high
  | float y =>
    cases h
    rfl
  | null | bool | string | array | object => cases h

namespace Group

theorem yields_knownReader : Yields Json.Proper knownReader fun typed =>
    ∀ inner : Keyed Json,
      (∀ entry ∈ inner.toList, entry.1 ∉ knownFields ∧ entry.2.isCanonical) →
        (typed inner).Normal :=
  (((((Yields.withDefault (fun _ _ => Reader.isCanonical_json) rfl).map
    fun _ hkey _ _ _ _ _ hlow _ hhigh _ hinner =>
      ⟨hkey, hlow, hhigh, hinner⟩).seq .withDefault_any).seq .withDefault_any).seq
    (.optional fun _ _ => Reader.isFinite_binary64)).seq
    (.optional fun _ _ => Reader.isFinite_binary64)

theorem isCanonical_of_mem_innerOf {fields : List (String × Json)}
    (hkeys : (fields.map Prod.fst).Nodup) (hproper : ∀ field ∈ fields, field.2.Proper)
    {entry : String × Json} (h : entry ∈ (innerOf fields).toList) :
    entry.1 ∉ knownFields ∧ entry.2.isCanonical := by
  have hfind := Keyed.mem_toList_iff.1 h
  rw [find?_innerOf hkeys] at hfind
  split at hfind
  · cases hfind
  · rename_i hunknown
    obtain ⟨original, hlookup, hcanonical⟩ := Option.map_eq_some_iff.1 hfind
    rw [← hcanonical]
    exact ⟨fun hmem => hunknown (List.contains_iff_mem.2 hmem),
      (hproper _ (Keyed.mem_of_lookup hlookup)).isCanonical_canonical⟩

theorem normal_of_read {value : Json} {group : Group} (hproper : value.Proper)
    (h : read value = .ok group) : group.Normal := by
  cases hproper with
  | object fields keys each =>
    obtain ⟨typed, htyped, rfl⟩ := read_eq_ok_iff.1 h
    exact yields_knownReader.readFields each htyped _ fun _ =>
      isCanonical_of_mem_innerOf keys each
  | null | bool | int | float | string | array => cases h

end Group

/-! ## Outcomes -/

namespace Outcome

theorem orderFree_readGroups : Reader.OrderFree readGroups :=
  ((OrderFree.required Group.orderFree_read.list).map groups).objectOnly "Buckets"

theorem orderFree_readNumber : Reader.OrderFree readNumber :=
  ((OrderFree.nullable Reader.OrderFree.binary64).map number).objectOnly "Value"

theorem ofJson_of_readGroups {value : Json} {outcome : Outcome}
    (h : readGroups value = .ok outcome) : ofJson value = outcome := by
  rw [ofJson, h]

/-- A value that is no groups is read as a number if it may be one. -/
theorem ofJson_of_not_groups {value : Json} (h : ∀ outcome, readGroups value ≠ .ok outcome) :
    ofJson value = ((readNumber value).toOption).getD (other value.canonical) := by
  unfold ofJson
  split
  · rename_i outcome hgroups
    exact absurd hgroups (h outcome)
  · cases readNumber value <;> rfl

/-- A value and its canonical form are the same outcome. -/
theorem ofJson_canonical {value : Json} (hproper : value.Proper) :
    ofJson value.canonical = ofJson value := by
  by_cases hgroups : ∃ outcome, readGroups value = .ok outcome
  · obtain ⟨outcome, houtcome⟩ := hgroups
    rw [ofJson_of_readGroups houtcome,
      ofJson_of_readGroups ((orderFree_readGroups hproper outcome).2 houtcome)]
  · have hnot : ∀ outcome, readGroups value ≠ .ok outcome := not_exists.1 hgroups
    have hnot' : ∀ outcome, readGroups value.canonical ≠ .ok outcome := fun outcome houtcome =>
      hnot outcome ((orderFree_readGroups hproper outcome).1 houtcome)
    have hnumber : (readNumber value.canonical).toOption = (readNumber value).toOption := by
      refine Option.ext fun outcome => ?_
      rw [Fallible.toOption_eq_some_iff, Fallible.toOption_eq_some_iff]
      exact orderFree_readNumber hproper outcome
    rw [ofJson_of_not_groups hnot, ofJson_of_not_groups hnot', hnumber,
      hproper.canonical_canonical]

/-- Groups are normal, a number is finite, and anything else is read as what it is. -/
def Normal : Outcome → Prop
  | groups members => ∀ group ∈ members, group.Normal
  | number value => ∀ x ∈ value, x.isFinite
  | other value => ofJson value = other value

theorem normal_of_readGroups {value : Json} {outcome : Outcome} (hproper : value.Proper)
    (h : readGroups value = .ok outcome) : outcome.Normal := by
  have hmembers := Reader.forall_of_list fun _ _ => Group.normal_of_read
  exact ((Yields.required hmembers).map fun _ hmembers => hmembers).objectOnly hproper h

theorem normal_of_readNumber {value : Json} {outcome : Outcome} (hproper : value.Proper)
    (h : readNumber value = .ok outcome) : outcome.Normal :=
  ((Yields.nullable fun _ _ => Reader.isFinite_binary64).map fun _ hfinite => hfinite).objectOnly
    hproper h

/-- Every value is a normal outcome. -/
theorem normal_ofJson {value : Json} (hproper : value.Proper) : (ofJson value).Normal := by
  by_cases hgroups : ∃ outcome, readGroups value = .ok outcome
  · obtain ⟨outcome, houtcome⟩ := hgroups
    rw [ofJson_of_readGroups houtcome]
    exact normal_of_readGroups hproper houtcome
  · have hvalue := ofJson_of_not_groups (not_exists.1 hgroups)
    rcases hnumber : readNumber value with fault | outcome
    · -- the canonical form that is kept would be read as the value itself, and so as neither
      have hother : ofJson value = other value.canonical := by
        rw [hvalue, hnumber]
        rfl
      rw [hother]
      exact (ofJson_canonical hproper).trans hother
    · rw [hvalue, hnumber]
      exact normal_of_readNumber hproper hnumber

end Outcome

/-! ## Responses -/

/-- What is kept of each document is canonical, and the outcomes are normal. -/
structure Response.Normal (response : Response) : Prop where
  hits : ∀ hit ∈ response.hits, hit.source.isCanonical
  outcomes : ∀ outcomes ∈ response.outcomes, ∀ entry ∈ outcomes.toList, entry.2.Normal

theorem Hit.isCanonical_source_of_read {value : Json} {hit : Hit} (hproper : value.Proper)
    (h : read value = .ok hit) : hit.source.isCanonical := by
  refine Yields.record (P := fun hit => hit.source.isCanonical) ?_ hproper h
  exact (((Yields.withDefault_any.map fun index _ type _ id _ source hsource => hsource).seq
    .withDefault_any).seq .withDefault_any).seq
    (.withDefault (fun _ _ => Reader.isCanonical_json) rfl)

namespace Response

theorem isCanonical_source_of_readHits {value : Json} {found : UInt64 × List Hit}
    (hproper : value.Proper) (h : readHits value = .ok found) :
    ∀ hit ∈ found.2, hit.source.isCanonical := by
  have hlist := Reader.forall_of_list fun _ _ => Hit.isCanonical_source_of_read
  refine Yields.record (P := fun found => ∀ hit ∈ found.2, hit.source.isCanonical) ?_ hproper h
  exact (Yields.withDefault_any.map fun total _ hits hhits => hhits).seq
    (.withDefault hlist fun _ h => absurd h List.not_mem_nil)

theorem normal_of_keyed {value : Json} {outcomes : Keyed Outcome} (hproper : value.Proper)
    (h : Reader.keyed (fun value => .ok (Outcome.ofJson value)) value = .ok outcomes) :
    ∀ entry ∈ outcomes.toList, entry.2.Normal := by
  cases hproper with
  | object fields keys each =>
    obtain ⟨entries, hentries, rfl⟩ := Fallible.map_eq_ok_iff.1 h
    rw [Reader.entries_ok] at hentries
    obtain rfl := Except.ok.inj hentries
    rintro ⟨name, outcome⟩ hentry
    have hfind := Keyed.mem_toList_iff.1 hentry
    rw [Keyed.find?_ofList (by rwa [List.map_map])] at hfind
    obtain ⟨field, hfield, heq⟩ := List.mem_map.1 (Keyed.mem_of_lookup hfind)
    cases heq
    exact Outcome.normal_ofJson (each field hfield)
  | array | null | bool | int | float | string => cases h

/-- What is read as a response is normal. -/
theorem normal_of_read {value : Json} {response : Response} (hproper : value.Proper)
    (h : read value = .ok response) : response.Normal := by
  refine Yields.record ?_ hproper h
  exact (((Yields.withDefault_any.map
    fun took _ timedOut _ hits hhits outcomes houtcomes => ⟨hhits, houtcomes⟩).seq
    .withDefault_any).seq (.withDefault (fun _ _ => isCanonical_source_of_readHits) fun _ h =>
      absurd h List.not_mem_nil)).seq (.optional fun _ _ => normal_of_keyed)

end Response

end Logbook
