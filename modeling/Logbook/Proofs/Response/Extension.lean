import Logbook.Proofs.Pointwise
import Logbook.Proofs.Response.Written
import Logbook.Search.OfQuery

/-!
# Responses with more in their groups

A group may hold entries under names that nobody looks for (`Group.Unsought`).

* `Group.Extends`, `Response.Extends`: one more entry of that kind in one group, which may stand
  inside the outcome of another group, at any depth.
* `Group.Alike`, `Outcome.Alike`, `Response.Alike`: what is read differs by no more than that. A
  group keeps the other outcomes inside it as they came, so that an entry inside one of them is
  still an extension of what the group keeps.
* `Group.Extends.agree_read`, `Outcome.alike_fill`, `Response.Extends.read`: what is read from a
  value and from its extension is alike, and the extension is not refused.
-/

set_option autoImplicit false

namespace Logbook

open Fallible (Agree)
open FieldReader

/-! ## One more entry -/

/-- Nobody looks for a name in a group: it is neither one of the fields that every group has nor
one under which a report finds something, and it is no name of a series. -/
structure Group.Unsought (name : String) : Prop where
  unknown : name ∉ knownFields
  windows : name ≠ healthWindowsName
  results : name ≠ healthResultsName
  unnamed : SeriesName.ofText? name = none

/-- The surroundings of one of the groups of an outcome. -/
structure Outcome.Frame where
  before : List (String × Json)
  after : List (String × Json)
  earlier : List Json
  later : List Json

/-- The outcome that has a group of the given fields in the frame. -/
def Outcome.Frame.fill (frame : Frame) (fields : List (String × Json)) : Json :=
  .object (frame.before ++
    ("buckets", .array (frame.earlier ++ .object fields :: frame.later)) :: frame.after)

/-- The fields of a group with one more entry, in the group itself or in a group inside it. -/
inductive Group.Extends : List (String × Json) → List (String × Json) → Prop
  | here {before after : List (String × Json)} {name : String} (value : Json)
      (unsought : Unsought name) (fresh : name ∉ (before ++ after).map Prod.fst) :
      Extends (before ++ after) (before ++ (name, value) :: after)
  | inside {before after : List (String × Json)} {name : String} (frame : Outcome.Frame)
      {fields fields' : List (String × Json)} (unknown : name ∉ knownFields)
      (h : Extends fields fields') :
      Extends (before ++ (name, frame.fill fields) :: after)
        (before ++ (name, frame.fill fields') :: after)

/-- Named outcomes with one more entry in one of their groups. -/
inductive Outcome.Extends : List (String × Json) → List (String × Json) → Prop
  | inside {before after : List (String × Json)} {name : String} (frame : Frame)
      {fields fields' : List (String × Json)} (h : Group.Extends fields fields') :
      Extends (before ++ (name, frame.fill fields) :: after)
        (before ++ (name, frame.fill fields') :: after)

/-- A response with one more entry in one of its groups. -/
inductive Response.Extends : Json → Json → Prop
  | object {before after contents contents' : List (String × Json)}
      (h : Outcome.Extends contents contents') :
      Extends (.object (before ++ ("aggregations", .object contents) :: after))
        (.object (before ++ ("aggregations", .object contents') :: after))
  | array {took timedOut hits : Json} {contents contents' : List (String × Json)}
      (h : Outcome.Extends contents contents') :
      Extends (.array [took, timedOut, hits, .object contents])
        (.array [took, timedOut, hits, .object contents'])

/-! ## What is read -/

/-- Groups that differ by at most one entry more in what they keep as it came. -/
inductive Group.Alike (group : Group) : Group → Prop
  | refl : Alike group group
  | inner (inner : Keyed Json) (h : Extends group.inner.toList inner.toList) :
      Alike group { group with inner := inner }

/-- Outcomes of one kind, the same but for alike groups and for what is neither groups nor a
number. -/
inductive Outcome.Alike : Outcome → Outcome → Prop
  | refl (outcome : Outcome) : Alike outcome outcome
  | groups {members members' : List Group} (h : List.Forall₂ Group.Alike members members') :
      Alike (groups members) (groups members')
  | other (value value' : Json) : Alike (other value) (other value')

/-- Alike outcomes under one name. -/
def Outcome.EntryAlike (entry entry' : String × Outcome) : Prop :=
  entry.1 = entry'.1 ∧ entry.2.Alike entry'.2

/-- Optional outcomes of the same names, alike one by one. -/
def Response.OutcomesAlike : Option (Keyed Outcome) → Option (Keyed Outcome) → Prop :=
  Option.Rel fun outcomes outcomes' =>
    List.Forall₂ Outcome.EntryAlike outcomes.toList outcomes'.toList

/-- Responses that are the same but for alike outcomes. -/
structure Response.Alike (response response' : Response) : Prop where
  total : response.total = response'.total
  hits : response.hits = response'.hits
  outcomes : OutcomesAlike response.outcomes response'.outcomes

theorem Outcome.EntryAlike.refl (entry : String × Outcome) : EntryAlike entry entry :=
  ⟨rfl, .refl entry.2⟩

/-! ## Canonical forms -/

namespace Json

theorem canonicalFields_append (fields more : List (String × Json)) :
    canonicalFields (fields ++ more) = canonicalFields fields ++ canonicalFields more := by
  simp only [canonicalFields_eq_map, List.map_append]

end Json

namespace Outcome.Frame

/-- The canonical form of an outcome shows a group in its canonical form, or not at all. -/
theorem canonical_fill (frame : Frame) (fields fields' : List (String × Json)) :
    (frame.fill fields).canonical = (frame.fill fields').canonical ∨
      ∃ canonicalFrame : Frame, (frame.fill fields).canonical =
          canonicalFrame.fill (Json.orderFields (Json.canonicalFields fields)) ∧
        (frame.fill fields').canonical =
          canonicalFrame.fill (Json.orderFields (Json.canonicalFields fields')) := by
  have hcanonical (fields : List (String × Json)) : (frame.fill fields).canonical =
      .object (Json.orderFields (Json.canonicalFields frame.before ++
        ("buckets", .array (Json.canonicalItems frame.earlier ++
          .object (Json.orderFields (Json.canonicalFields fields)) ::
            Json.canonicalItems frame.later)) :: Json.canonicalFields frame.after)) := by
    simp only [fill, Json.canonical, Json.canonicalFields_append, Json.canonicalFields,
      Json.canonicalItems_eq_map, List.map_append, List.map_cons]
  rw [hcanonical, hcanonical]
  rcases Keyed.ofList_changed (Json.canonicalFields frame.before)
    (Json.canonicalFields frame.after) "buckets" _ _ with hsame | ⟨front, back, h, h'⟩
  · exact .inl (congrArg Json.object (congrArg Keyed.toList hsame))
  · exact .inr ⟨⟨front, back, Json.canonicalItems frame.earlier, Json.canonicalItems frame.later⟩,
      congrArg Json.object h, congrArg Json.object h'⟩

end Outcome.Frame

namespace Group

theorem byName_knownReader : knownReader.ByName :=
  (((((ByName.withDefault _ _ _).map _).seq (.optional _ _)).seq (.withDefault _ _ _)).seq
    (.optional _ _)).seq (.optional _ _)

/-- What a group keeps as it came goes into it as it is. -/
theorem yields_inner : Yields (fun _ => True) knownReader fun typed =>
    ∀ inner, typed inner = { typed .empty with inner := inner } :=
  (((((Yields.any _).map fun _ _ _ _ _ _ _ _ _ _ _ => rfl).seq (.any _)).seq (.any _)).seq
    (.any _)).seq (.any _)

end Group

namespace Group.Extends

variable {fields fields' : List (String × Json)}

/-- The canonical form of an extension is an extension of the canonical form, or the same. -/
theorem canonical (h : Extends fields fields') :
    Keyed.ofList (Json.canonicalFields fields) = Keyed.ofList (Json.canonicalFields fields') ∨
      Extends (Keyed.ofList (Json.canonicalFields fields)).toList
        (Keyed.ofList (Json.canonicalFields fields')).toList := by
  induction h with
  | @here before after name value unsought fresh =>
    rw [← Json.map_fst_canonicalFields, Json.canonicalFields_append] at fresh
    obtain ⟨front, back, hwithout, hwith⟩ := Keyed.ofList_added value.canonical fresh
    rw [Json.canonicalFields_append, Json.canonicalFields_append, Json.canonicalFields, hwithout,
      hwith]
    exact .inr (.here _ unsought (Keyed.not_mem_around hwith))
  | @inside before after name frame fields fields' unknown _ ih =>
    -- the group inside is lost where its outcome has another list of groups, or the group it is in
    -- another outcome of that name, further back
    rw [Json.canonicalFields_append, Json.canonicalFields_append, Json.canonicalFields,
      Json.canonicalFields]
    rcases frame.canonical_fill fields fields' with hsame | ⟨canonicalFrame, hfill, hfill'⟩
    · exact .inl (by rw [hsame])
    rw [hfill, hfill', Json.orderFields, Json.orderFields]
    rcases ih with hsame | hextends
    · exact .inl (by rw [hsame])
    rcases Keyed.ofList_changed (Json.canonicalFields before) (Json.canonicalFields after) name
      _ _ with hsame | ⟨front, back, h, h'⟩
    · exact .inl hsame
    · rw [h, h']
      exact .inr (.inside canonicalFrame unknown hextends)

/-- Both have the same fields that every group has. -/
theorem readFields_knownReader (h : Extends fields fields') :
    knownReader.readFields fields' = knownReader.readFields fields := by
  cases h with
  | here value unsought fresh => exact byName_knownReader.readFields_append_cons unsought.unknown
  | inside frame unknown h =>
    rw [byName_knownReader.readFields_append_cons unknown,
      byName_knownReader.readFields_append_cons unknown]

theorem filter_unknown (h : Extends fields fields') :
    Extends (fields.filter fun field => !knownFields.contains field.1)
      (fields'.filter fun field => !knownFields.contains field.1) := by
  have hcons {name : String} (unknown : name ∉ knownFields) (value : Json)
      (after : List (String × Json)) :
      ((name, value) :: after).filter (fun field => !knownFields.contains field.1) =
        (name, value) :: after.filter fun field => !knownFields.contains field.1 := by
    refine List.filter_cons_of_pos ?_
    rwa [Bool.not_eq_true', ← Bool.not_eq_true, List.contains_iff_mem]
  cases h with
  | here value unsought fresh =>
    rw [List.filter_append, List.filter_append, hcons unsought.unknown]
    refine .here value unsought fun hmem => fresh ?_
    rw [← List.filter_append] at hmem
    exact (List.filter_sublist.map _).subset hmem
  | inside frame unknown h =>
    rw [List.filter_append, List.filter_append, hcons unknown, hcons unknown]
    exact .inside frame unknown h

/-- From the fields of a group and from their extension alike groups are read. -/
theorem agree_read (h : Extends fields fields') :
    Agree Group.Alike (read (.object fields)) (read (.object fields')) := by
  rw [read_object, read_object, h.readFields_knownReader]
  cases hknown : knownReader.readFields fields with
  | error fault => exact .error fault
  | ok typed =>
    refine .ok ?_
    have hinner := yields_inner.readFields (fun _ _ => trivial) hknown
    rw [hinner (innerOf fields), hinner (innerOf fields')]
    rcases h.filter_unknown.canonical with hsame | hextends
    · rw [innerOf, hsame]
      exact .refl
    · exact .inner _ hextends

end Group.Extends

/-! ## Outcomes -/

namespace Outcome

variable {fields fields' : List (String × Json)}

theorem readNumber_fill (frame : Frame) :
    readNumber (frame.fill fields') = readNumber (frame.fill fields) := by
  have hname : (number <$> FieldReader.nullable "value" Reader.binary64).ByName :=
    (ByName.slot _ _ _ _).map number
  have hkey : "buckets" ∉ ["value"] := by decide
  exact (hname.readFields_append_cons hkey).trans (hname.readFields_append_cons hkey).symm

theorem agree_readGroups_fill (frame : Frame) (h : Group.Extends fields fields') :
    Agree Outcome.Alike (readGroups (frame.fill fields)) (readGroups (frame.fill fields')) := by
  have hitems := forall₂_middle
    (R := fun value value' => Agree Group.Alike (Group.read value) (Group.read value'))
    (fun _ => .refl (fun _ => .refl) _) h.agree_read frame.earlier frame.later
  change Agree _
    ((groups <$> FieldReader.required "buckets" (Reader.list Group.read)).readFields _)
    ((groups <$> FieldReader.required "buckets" (Reader.list Group.read)).readFields _)
  rw [readFields_map, readFields_map]
  refine Agree.map ?_ fun _ _ => Alike.groups
  exact agree_readFields_required (forall₂_self fun _ => .refl) (Reader.agree_items hitems)

/-- An outcome with more in one of its groups is alike. -/
theorem alike_fill (frame : Frame) (h : Group.Extends fields fields') :
    (ofJson (frame.fill fields)).Alike (ofJson (frame.fill fields')) := by
  have hgroups := agree_readGroups_fill frame h
  have hnumber : readNumber (frame.fill fields') = readNumber (frame.fill fields) :=
    readNumber_fill frame
  unfold ofJson
  rw [hnumber]
  revert hgroups
  generalize readGroups (frame.fill fields) = read, readGroups (frame.fill fields') = read'
  rintro (halike | fault)
  · exact halike
  · -- without groups both are the same number or neither
    cases readNumber (frame.fill fields) with
    | ok outcome => exact .refl outcome
    | error fault => exact .other _ _

end Outcome

/-! ## Responses -/

/-- Both are read as outcomes of the same names. -/
theorem Outcome.Extends.outcomesOf {contents contents' : List (String × Json)}
    (h : Outcome.Extends contents contents') :
    List.Forall₂ Outcome.EntryAlike (Response.outcomesOf contents).toList
      (Response.outcomesOf contents').toList := by
  obtain @⟨before, after, name, frame, fields, fields', hgroup⟩ := h
  have halike : Outcome.EntryAlike (name, Outcome.ofJson (frame.fill fields))
      (name, Outcome.ofJson (frame.fill fields')) := ⟨rfl, Outcome.alike_fill frame hgroup⟩
  rw [Response.outcomesOf, Response.outcomesOf, List.map_append, List.map_cons, List.map_append,
    List.map_cons]
  rcases Keyed.ofList_changed _ _ _ _ _ with hsame | ⟨front, back, hentries, hentries'⟩
  · rw [hsame]
    exact forall₂_self Outcome.EntryAlike.refl _
  · rw [hentries, hentries']
    exact forall₂_middle Outcome.EntryAlike.refl halike front back

namespace Response

theorem OutcomesAlike.refl (outcomes : Option (Keyed Outcome)) : OutcomesAlike outcomes outcomes :=
  rel_self (fun outcomes => forall₂_self Outcome.EntryAlike.refl outcomes.toList) outcomes

namespace Extends

variable {before after contents contents' : List (String × Json)}

theorem agree_outcomesReader (h : Outcome.Extends contents contents') :
    Agree OutcomesAlike
      (outcomesReader.ofFields (before ++ ("aggregations", .object contents) :: after))
      (outcomesReader.ofFields (before ++ ("aggregations", .object contents') :: after)) := by
  rw [outcomesReader, FieldReader.optional, FieldReader.withDefault, ofFields_slot_eq,
    ofFields_slot_eq, List.lookup_append, List.lookup_append]
  cases before.lookup "aggregations" with
  | some first => exact .refl OutcomesAlike.refl _
  | none =>
    rw [Option.none_or, Option.none_or, Keyed.lookup_cons, Keyed.lookup_cons, if_pos rfl,
      if_pos rfl, Option.elim_some, Option.elim_some, optional_keyed_object, optional_keyed_object]
    exact .ok (.some h.outcomesOf)

theorem visit_read (seen : List String) :
    visit (leadingReader <*> outcomesReader).slots seen
        (before ++ ("aggregations", .object contents) :: after) =
      visit (leadingReader <*> outcomesReader).slots seen
        (before ++ ("aggregations", .object contents') :: after) := by
  refine visit_append_cons_congr (fun slot hslot => ?_) seen
  obtain ⟨hmem, hname⟩ := byName_read.name_of_find? hslot
  rcases List.mem_append.1 hmem with hleading | houtcomes
  · exact absurd hname (ne_of_mem_leadingReader hleading)
  · -- no content of the outcomes is refused
    rw [List.mem_singleton.1 houtcomes]
    change (Reader.optional _ _).map _ = (Reader.optional _ _).map _
    rw [optional_keyed_object, optional_keyed_object]
    rfl

/-- What is read from a response is read from its extension too, and alike. -/
theorem read {value value' : Json} {response : Response} (h : Extends value value')
    (hread : read value = .ok response) :
    ∃ response', Response.read value' = .ok response' ∧ response.Alike response' := by
  cases h with
  | array h =>
    obtain ⟨bare, hbare, rfl⟩ := read_array_eq_ok_iff.1 hread
    exact ⟨_, read_array_eq_ok_iff.2 ⟨bare, hbare, rfl⟩, rfl, rfl, .some h.outcomesOf⟩
  | @object before after contents contents' h =>
    obtain ⟨⟨⟩, hvisit, hfields⟩ := Fallible.bind_eq_ok_iff.1 hread
    obtain ⟨g, outcomes, hg, houtcomes, rfl⟩ := ofFields_seq_eq_ok_iff.1 hfields
    have hsame : leadingReader.ofFields (before ++ ("aggregations", .object contents') :: after) =
        leadingReader.ofFields (before ++ ("aggregations", .object contents) :: after) := by
      refine byName_leadingReader.congr fun slot hslot => ?_
      have hne := ne_of_mem_leadingReader hslot
      rw [Keyed.lookup_append_cons_of_ne _ hne, Keyed.lookup_append_cons_of_ne _ hne]
    obtain ⟨outcomes', houtcomes', halike⟩ := (agree_outcomesReader h).exists_of_ok houtcomes
    refine ⟨g outcomes', Fallible.bind_eq_ok_iff.2 ⟨(), (visit_read []).symm.trans hvisit,
      ofFields_seq_eq_ok_iff.2 ⟨g, outcomes', hsame.trans hg, houtcomes', rfl⟩⟩, ?_⟩
    have hplain := yields_leadingReader.ofFields (fun _ _ => trivial) hg
    rw [hplain outcomes, hplain outcomes']
    exact ⟨rfl, rfl, halike⟩

end Extends

end Response

end Logbook
