import Mathlib.Data.List.Perm.Basic
import Logbook.Proofs.Json.Equal
import Logbook.Search.Body

/-!
# What a search body tells of its search

A body is read from the outside in: its keys are known, under each of them the bodies of two
searches have equal values, and every part of a search can be told from what stands there.

* `Aggregation.alike_of_equal_toBody`: trees whose siblings have distinct names are equal up to the
  order of siblings where their bodies are equal.
* `Search.equal_bodies_ask_the_same`: nothing that is asked for is lost in a body.
-/

set_option autoImplicit false

namespace Logbook

open Json (Equal)

/-! ## Fields that may be absent -/

theorem lookup_optionalField {α : Type} (key key' : String) (write : α → Json)
    (value : Option α) : (optionalField key write value).lookup key' =
      if key' = key then value.map write else none := by
  cases value with
  | none => simp [optionalField]
  | some a => simp [optionalField, Keyed.lookup_cons]

theorem keys_optionalField {α : Type} (key : String) (write : α → Json) (value : Option α) :
    ((optionalField key write value).map Prod.fst).Sublist [key] := by
  cases value with
  | none => exact List.nil_sublist _
  | some a => exact .refl _

/-! ## Clauses -/

theorem Clause.eq_of_equal_toBody {c d : Clause} (h : Equal c.toBody d.toBody) : c = d := by
  cases c with
  | within field start stop =>
    cases d with
    | within field' start' stop' =>
      obtain ⟨rfl, hbounds⟩ := Equal.of_single (Equal.of_single h).2
      have hlookup := fun key => Equal.lookup_record (by simp) (by simp) hbounds key
      cases hlookup "gte" with
      | some hstart =>
        cases hlookup "lte" with
        | some hstop =>
          rw [Int64.toInt_inj.1 hstart.of_int, Int64.toInt_inj.1 hstop.of_int]
    | equals | text | ids => exact absurd (Equal.of_single h).1 (by decide)
  | equals field value =>
    cases d with
    | equals field' value' =>
      obtain ⟨rfl, hvalue⟩ := Equal.of_single (Equal.of_single h).2
      rw [hvalue.of_string]
    | within | text | ids => exact absurd (Equal.of_single h).1 (by decide)
  | text query =>
    cases d with
    | text query' => rw [(Equal.of_single (Equal.of_single h).2).2.of_string]
    | within | equals | ids => exact absurd (Equal.of_single h).1 (by decide)
  | ids values =>
    cases d with
    | ids values' =>
      rw [(Equal.of_single (Equal.of_single h).2).2.eq_of_ofList fun _ _ => Equal.of_string]
    | within | equals | text => exact absurd (Equal.of_single h).1 (by decide)

/-! ## Orders -/

theorem Direction.eq_of_name {d d' : Direction} (h : d.name = d'.name) : d = d' := by
  cases d <;> cases d' <;> simp [name] at h <;> rfl

theorem GroupSort.eq_of_equal_toBody {order order' : GroupSort}
    (h : Equal order.toBody order'.toBody) : order = order' := by
  obtain ⟨hseries, hdirection⟩ := Equal.of_single h
  have hdirection := Direction.eq_of_name hdirection.of_string
  cases order
  cases order'
  cases hseries
  cases hdirection
  rfl

theorem HitSort.eq_of_equal_toBody {order order' : HitSort}
    (h : Equal order.toBody order'.toBody) : order = order' := by
  cases h with
  | array h =>
    cases h with
    | cons h _ =>
      obtain ⟨hfield, hdirection⟩ := Equal.of_single h
      have hdirection := Direction.eq_of_name (Equal.of_single hdirection).2.of_string
      cases order
      cases order'
      cases hfield
      cases hdirection
      rfl

/-! ## Groupings -/

theorem natText_inj {m n : Nat} (h : natText m = natText n) : m = n := by
  rw [← digitsValue_digits m, ← digitsValue_digits n, String.ofList_inj.1 h]

/-- The ranges are the same, with their bounds compared by value. -/
def RangeGroup.Same (group group' : RangeGroup) : Prop :=
  group.key = group'.key ∧ group.range.low.order? group'.range.low = some .eq ∧
    group.range.high.order? group'.range.high = some .eq

/-- The bounds of the range are finite. -/
def RangeGroup.IsFinite (group : RangeGroup) : Prop :=
  group.range.low.isFinite ∧ group.range.high.isFinite

theorem RangeGroup.same_of_equal_toBody {group group' : RangeGroup} (hfinite : group.IsFinite)
    (hfinite' : group'.IsFinite) (h : Equal group.toBody group'.toBody) :
    group.Same group' := by
  have hlookup := fun key => Equal.lookup_record (by simp) (by simp) h key
  refine ⟨?_, ?_, ?_⟩
  · cases hlookup "key" with
    | some hkey => exact hkey.of_string
  · cases hlookup "from" with
    | some hlow => exact hlow.order?_of_ofBinary64 hfinite.1 hfinite'.1
  · cases hlookup "to" with
    | some hhigh => exact hhigh.order?_of_ofBinary64 hfinite.2 hfinite'.2

theorem Window.eq_of_equal_toBody {window window' : Window}
    (h : Equal window.toBody window'.toBody) : window = window' := by
  have hlookup := fun key => Equal.lookup_record (by simp) (by simp) h key
  cases hlookup "key" with
  | some hkey =>
    cases hlookup "from" with
    | some hstart =>
      have hkey := hkey.of_string
      have hstart := hstart.of_string
      cases window
      cases window'
      cases hkey
      cases hstart
      rfl

namespace Grouping

/-- The ranges of numbers among the groups. -/
def rangeGroups : Grouping → List RangeGroup
  | ranges groups => groups
  | _ => []

/-- The ways of grouping are the same, with the bounds of ranges compared by value. -/
inductive Same : Grouping → Grouping → Prop where
  | histogram (interval : UInt64) (start stop : Int64) (offset : String) :
    Same (histogram interval start stop offset) (histogram interval start stop offset)
  | values (size : Option UInt32) (order : Option GroupSort) :
    Same (values size order) (values size order)
  | ranges {groups groups' : List RangeGroup} (h : List.Forall₂ RangeGroup.Same groups groups') :
    Same (ranges groups) (ranges groups')
  | windows (groups : List Window) : Same (windows groups) (windows groups)

theorem nodup_keys_toFields (grouping : Grouping) (field : Json) :
    ((("field", field) :: grouping.toFields).map Prod.fst).Nodup := by
  cases grouping with
  | histogram | ranges | windows => simp [toFields]
  | values size order => cases size <;> cases order <;> simp [toFields, optionalField]

section
variable {field : Json} {size : Option UInt32} {order : Option GroupSort}

theorem lookup_size : (("field", field) :: (values size order).toFields).lookup "size" =
    size.map fun size => .int size.toNat := by
  simp [toFields, Keyed.lookup_cons, List.lookup_append, lookup_optionalField]

theorem lookup_order : (("field", field) :: (values size order).toFields).lookup "order" =
    order.map GroupSort.toBody := by
  simp [toFields, Keyed.lookup_cons, List.lookup_append, lookup_optionalField]

end

theorem bounds_of_equal {start start' stop stop' : Int64}
    (h : Equal (.record [("min", .int start.toInt), ("max", .int stop.toInt)])
      (.record [("min", .int start'.toInt), ("max", .int stop'.toInt)])) :
    start = start' ∧ stop = stop' := by
  have hlookup := fun key => Equal.lookup_record (by simp) (by simp) h key
  cases hlookup "min" with
  | some hstart =>
    cases hlookup "max" with
    | some hstop => exact ⟨Int64.toInt_inj.1 hstart.of_int, Int64.toInt_inj.1 hstop.of_int⟩

/-- The field and the way of grouping can be told from what stands under its name. -/
theorem same_of_equal {field field' : String} {grouping grouping' : Grouping}
    (hfinite : ∀ group ∈ grouping.rangeGroups, group.IsFinite)
    (hfinite' : ∀ group ∈ grouping'.rangeGroups, group.IsFinite)
    (hname : grouping.name = grouping'.name)
    (h : Equal (.record (("field", .string field) :: grouping.toFields))
      (.record (("field", .string field') :: grouping'.toFields))) :
    field = field' ∧ grouping.Same grouping' := by
  have hlookup := Equal.lookup_record (nodup_keys_toFields grouping (.string field))
    (nodup_keys_toFields grouping' (.string field')) h
  refine ⟨?_, ?_⟩
  · cases hlookup "field" with
    | some hfield => exact hfield.of_string
  cases grouping with
  | histogram interval start stop offset =>
    cases grouping' with
    | histogram interval' start' stop' offset' =>
      cases hlookup "interval" with
      | some hinterval =>
        cases hlookup "extended_bounds" with
        | some hbounds =>
          cases hlookup "time_zone" with
          | some hoffset =>
            have hinterval := natText_inj ((String.append_left_inj "ms").1 hinterval.of_string)
            obtain ⟨hstart, hstop⟩ := bounds_of_equal hbounds
            rw [UInt64.toNat_inj.1 hinterval, hstart, hstop, hoffset.of_string]
            exact .histogram interval' start' stop' offset'
    | values | ranges | windows => simp [name] at hname
  | values size order =>
    cases grouping' with
    | values size' order' =>
      have hsize := hlookup "size"
      have horder := hlookup "order"
      rw [lookup_size, lookup_size] at hsize
      rw [lookup_order, lookup_order] at horder
      rw [Equal.eq_of_rel_map (fun _ _ h => UInt32.toNat_inj.1 (Int.ofNat.inj h.of_int)) hsize,
        Equal.eq_of_rel_map (fun _ _ => GroupSort.eq_of_equal_toBody) horder]
      exact .values size' order'
    | histogram | ranges | windows => simp [name] at hname
  | ranges groups =>
    cases grouping' with
    | ranges groups' =>
      cases hlookup "ranges" with
      | some hranges =>
        exact .ranges (hranges.forall₂_of_ofList fun group hgroup group' hgroup' =>
          RangeGroup.same_of_equal_toBody (hfinite group hgroup) (hfinite' group' hgroup'))
    | histogram | values | windows => simp [name] at hname
  | windows groups =>
    cases grouping' with
    | windows groups' =>
      cases hlookup "ranges" with
      | some hwindows =>
        rw [hwindows.eq_of_ofList fun _ _ => Window.eq_of_equal_toBody]
        exact .windows groups'
    | histogram | values | ranges => simp [name] at hname

end Grouping

/-! ## Trees of aggregations -/

namespace Aggregation

/-- At every level the siblings have distinct names, and the bounds of ranges are finite. -/
inductive Regular : Aggregation → Prop where
  | metric (name : String) (m : Metric) (field : String) : Regular (metric name m field)
  | groups (name field : String) (grouping : Grouping) (children : List Aggregation)
    (names : (children.map Aggregation.name).Nodup)
    (finite : ∀ group ∈ grouping.rangeGroups, group.IsFinite)
    (each : ∀ child ∈ children, Regular child) : Regular (groups name field grouping children)

/-- The trees are equal up to the order of siblings, with the bounds of ranges compared by
value. -/
inductive Alike : Aggregation → Aggregation → Prop where
  | metric (name : String) (m : Metric) (field : String) :
    Alike (metric name m field) (metric name m field)
  | groups (name field : String) {grouping grouping' : Grouping}
    {children matching children' : List Aggregation} (grouping_same : grouping.Same grouping')
    (each : List.Forall₂ Alike children matching) (order : matching.Perm children') :
    Alike (groups name field grouping children) (groups name field grouping' children')

/-- The name of the field under which the root of a tree is described. -/
def kind : Aggregation → String
  | metric _ m _ => m.name
  | groups _ _ grouping _ => grouping.name

/-- What stands under the kind of a root. -/
def root : Aggregation → Json
  | metric _ _ field => .record [("field", .string field)]
  | groups _ field grouping _ => .record (("field", .string field) :: grouping.toFields)

/-- The bodies of children under their names, where there are any. -/
def childBodies? (children : List Aggregation) : Option Json :=
  if children.isEmpty then none else some (.record (toBodies children))

theorem toBody_eq (a : Aggregation) : a.toBody =
    .record ((a.kind, a.root) :: optionalField "aggregations" id (childBodies? a.children)) := by
  cases a with
  | metric name m field => rfl
  | groups name field grouping children => cases children <;> rfl

theorem toBodies_eq_map : ∀ children : List Aggregation,
    toBodies children = children.map fun child => (child.name, child.toBody)
  | [] => rfl
  | child :: children => by rw [toBodies, toBodies_eq_map children, List.map_cons]

theorem keys_toBodies (children : List Aggregation) :
    (toBodies children).map Prod.fst = children.map name := by
  rw [toBodies_eq_map, List.map_map]
  rfl

theorem kind_ne (a : Aggregation) : a.kind ≠ "aggregations" := by
  cases a with
  | metric name m field => cases m <;> simp [kind, Metric.name]
  | groups name field grouping children => cases grouping <;> simp [kind, Grouping.name]

/-- Equal bodies are of one kind, and have equal roots and equal bodies of children. -/
theorem parts_of_equal {a b : Aggregation} (h : Equal a.toBody b.toBody) :
    a.kind = b.kind ∧ Equal a.root b.root ∧
      Option.Rel Equal (childBodies? a.children) (childBodies? b.children) := by
  have hkeys (a : Aggregation) : (((a.kind, a.root) ::
      optionalField "aggregations" id (childBodies? a.children)).map Prod.fst).Nodup := by
    have hsublist := keys_optionalField "aggregations" id (childBodies? a.children)
    have hnames : [a.kind, "aggregations"].Nodup := by simpa using a.kind_ne
    exact hnames.sublist (hsublist.cons_cons a.kind)
  rw [toBody_eq, toBody_eq] at h
  have hlookup := Equal.lookup_record (hkeys a) (hkeys b) h
  simp only [Keyed.lookup_cons, lookup_optionalField] at hlookup
  have hkind : a.kind = b.kind := by
    -- else the key of one root is missing in the other body
    by_contra hne
    have hroot := hlookup a.kind
    rw [if_pos rfl, if_neg hne, if_neg a.kind_ne] at hroot
    cases hroot
  refine ⟨hkind, ?_, ?_⟩
  · have hroot := hlookup a.kind
    rw [if_pos rfl, if_pos hkind] at hroot
    cases hroot with
    | some h => exact h
  · have hchildren := hlookup "aggregations"
    rw [if_neg a.kind_ne.symm, if_neg b.kind_ne.symm, if_pos rfl, if_pos rfl, Option.map_id,
      id, id] at hchildren
    exact hchildren

section
variable {children children' : List Aggregation}

theorem lookup_children (hnames : (children.map name).Nodup) (hnames' : (children'.map name).Nodup)
    (h : Option.Rel Equal (childBodies? children) (childBodies? children')) (key : String) :
    Option.Rel Equal ((toBodies children).lookup key) ((toBodies children').lookup key) := by
  unfold childBodies? at h
  cases children with
  | nil =>
    cases children' with
    | nil => exact .none
    | cons child' children' => cases h
  | cons child children =>
    cases children' with
    | nil => cases h
    | cons child' children' =>
      cases h with
      | some h =>
        exact Equal.lookup_record (by rwa [keys_toBodies]) (by rwa [keys_toBodies]) h key

/-- Children with the same names match one to one, so that each has its like. -/
theorem exists_matching {R : Aggregation → Aggregation → Prop} (hnames : (children.map name).Nodup)
    (hnames' : (children'.map name).Nodup)
    (hsame : ∀ key, key ∈ children.map name ↔ key ∈ children'.map name)
    (hlike : ∀ child ∈ children, ∀ child' ∈ children', child.name = child'.name → R child child') :
    ∃ matching : List Aggregation, List.Forall₂ R children matching ∧
      matching.Perm children' := by
  -- the names match in some order, and the children follow their names
  have hperm : (children.map name).Perm (children'.map name) :=
    (List.perm_ext_iff_of_nodup hnames hnames').2 hsame
  have hnamed : List.Forall₂ (fun key child => key = name child) (children'.map name)
      children' := by
    rw [List.forall₂_map_left_iff, List.forall₂_same]
    exact fun _ _ => rfl
  obtain ⟨matching, hmatching, horder⟩ := List.perm_comp_forall₂ hperm hnamed
  rw [List.forall₂_map_left_iff, List.forall₂_iff_zip] at hmatching
  refine ⟨matching, List.forall₂_iff_zip.2 ⟨hmatching.1, fun {child child'} hzip => ?_⟩, horder⟩
  obtain ⟨hmem, hmem'⟩ := List.of_mem_zip hzip
  exact hlike child hmem child' (horder.mem_iff.1 hmem') (hmatching.2 hzip)

theorem mem_names_iff (hchildren : ∀ key,
      Option.Rel Equal ((toBodies children).lookup key) ((toBodies children').lookup key))
    (key : String) : key ∈ children.map name ↔ key ∈ children'.map name := by
  have hsome {o o' : Option Json} (h : Option.Rel Equal o o') : o.isSome ↔ o'.isSome := by
    cases h <;> exact Iff.rfl
  rw [← keys_toBodies, ← keys_toBodies, ← Keyed.isSome_lookup_iff, ← Keyed.isSome_lookup_iff]
  exact hsome (hchildren key)

theorem lookup_toBodies (hnames : (children.map name).Nodup) {child : Aggregation}
    (hmem : child ∈ children) : (toBodies children).lookup child.name = some child.toBody := by
  rw [Keyed.lookup_eq_some_iff (by rwa [keys_toBodies]), toBodies_eq_map]
  exact List.mem_map_of_mem hmem

end

/-- Trees of one name are equal up to the order of siblings where their bodies are equal. -/
theorem alike_of_equal_toBody {a b : Aggregation} (ha : a.Regular) (hb : b.Regular)
    (hname : a.name = b.name) (h : Equal a.toBody b.toBody) : a.Alike b := by
  induction ha generalizing b with
  | metric name m field =>
    obtain ⟨hkind, hroot, -⟩ := parts_of_equal h
    cases hb with
    | metric name' m' field' =>
      cases hname
      have hmetric : m = m' := by cases m <;> cases m' <;> simp [kind, Metric.name] at hkind ⊢
      rw [hmetric, (Equal.of_single hroot).2.of_string]
      exact .metric name m' field'
    | groups name' field' grouping' children' =>
      cases m <;> cases grouping' <;> simp [kind, Metric.name, Grouping.name] at hkind
  | groups name field grouping children names finite each ih =>
    obtain ⟨hkind, hroot, hchildren⟩ := parts_of_equal h
    cases hb with
    | metric name' m' field' =>
      cases m' <;> cases grouping <;> simp [kind, Metric.name, Grouping.name] at hkind
    | groups name' field' grouping' children' names' finite' each' =>
      cases hname
      obtain ⟨rfl, hgrouping⟩ := Grouping.same_of_equal finite finite' hkind hroot
      -- under the name of a child stands the body of the one child of that name on the other side
      have hlookup := lookup_children names names' hchildren
      obtain ⟨matching, hmatching, horder⟩ := exists_matching names names' (mem_names_iff hlookup)
        (R := Alike) fun child hmem child' hmem' hname => by
          have hbodies := hlookup child.name
          rw [lookup_toBodies names hmem, hname, lookup_toBodies names' hmem'] at hbodies
          cases hbodies with
          | some hbody => exact ih child hmem (each' child' hmem') hname hbody
      exact .groups name field hgrouping hmatching horder

end Aggregation

/-! ## Searches -/

namespace Search

/-- How many hits are passed over, if any. -/
def skip? (search : Search) : Option UInt32 := if search.skip = 0 then none else some search.skip

/-- The patterns of fields that are left out, if there are any. -/
def excludes? (search : Search) : Option (List String) :=
  if search.excludes.isEmpty then none else some search.excludes

/-- The fields of a body. -/
def bodyFields (search : Search) : List (String × Json) :=
  [("size", .int search.size.toNat), ("query", search.conditions)] ++
    (optionalField "from" (fun skip : UInt32 => .int skip.toNat) search.skip? ++
      (optionalField "sort" HitSort.toBody search.order ++
        (optionalField "_source"
          (fun excludes : List String => .single "excludes" (.ofList .string excludes))
          search.excludes? ++
            optionalField "aggregations"
              (fun aggregation : Aggregation => .single aggregation.name aggregation.toBody)
              search.aggregation)))

theorem toBody_eq (search : Search) : search.toBody = .record search.bodyFields := by
  unfold toBody bodyFields skip? excludes?
  by_cases hskip : search.skip = 0
  · by_cases hexcludes : search.excludes.isEmpty <;> simp [hskip, hexcludes, optionalField]
  · by_cases hexcludes : search.excludes.isEmpty <;> simp [hskip, hexcludes, optionalField]

theorem nodup_keys_bodyFields (search : Search) : (search.bodyFields.map Prod.fst).Nodup := by
  have hsublist : (search.bodyFields.map Prod.fst).Sublist
      ["size", "query", "from", "sort", "_source", "aggregations"] := by
    simp only [bodyFields, List.map_append, List.map_cons, List.map_nil]
    exact (List.Sublist.refl ["size", "query"]).append
      ((keys_optionalField "from" _ _).append ((keys_optionalField "sort" _ _).append
        ((keys_optionalField "_source" _ _).append (keys_optionalField "aggregations" _ _))))
  exact List.Nodup.sublist hsublist (by decide)

section
variable (search : Search)

theorem lookup_from : search.bodyFields.lookup "from" =
    search.skip?.map fun skip => .int skip.toNat := by
  simp [bodyFields, List.lookup_append, lookup_optionalField, Keyed.lookup_cons]

theorem lookup_sort : search.bodyFields.lookup "sort" = search.order.map HitSort.toBody := by
  simp [bodyFields, List.lookup_append, lookup_optionalField, Keyed.lookup_cons]

theorem lookup_source : search.bodyFields.lookup "_source" =
    search.excludes?.map fun excludes => .single "excludes" (.ofList .string excludes) := by
  simp [bodyFields, List.lookup_append, lookup_optionalField, Keyed.lookup_cons]

theorem lookup_aggregations : search.bodyFields.lookup "aggregations" =
    search.aggregation.map fun aggregation => .single aggregation.name aggregation.toBody := by
  simp [bodyFields, List.lookup_append, lookup_optionalField, Keyed.lookup_cons]

end

theorem eq_of_skip? {search search' : Search} (h : search.skip? = search'.skip?) :
    search.skip = search'.skip := by
  unfold skip? at h
  split at h <;> split at h <;> simp_all

theorem eq_of_excludes? {search search' : Search} (h : search.excludes? = search'.excludes?) :
    search.excludes = search'.excludes := by
  unfold excludes? at h
  split at h <;> split at h <;> simp_all

theorem clauses_of_equal_conditions {search search' : Search}
    (h : Equal search.conditions search'.conditions) : search.clauses = search'.clauses := by
  unfold conditions at h
  split at h
  · rename_i hempty
    split at h
    · rename_i hempty'
      rw [List.isEmpty_iff.1 hempty, List.isEmpty_iff.1 hempty']
    · exact absurd (Equal.of_single h).1 (by decide)
  · split at h
    · exact absurd (Equal.of_single h).1 (by decide)
    · exact (Equal.of_single (Equal.of_single h).2).2.eq_of_ofList
        fun _ _ => Clause.eq_of_equal_toBody

/-- Equal bodies ask for the same: the clauses, the hits that are wanted and their order are equal,
and the aggregations are equal up to the order of siblings. -/
theorem equal_bodies_ask_the_same {search search' : Search}
    (hregular : ∀ aggregation ∈ search.aggregation, aggregation.Regular)
    (hregular' : ∀ aggregation ∈ search'.aggregation, aggregation.Regular)
    (h : Equal search.toBody search'.toBody) :
    search.clauses = search'.clauses ∧ search.skip = search'.skip ∧ search.size = search'.size ∧
      search.order = search'.order ∧ search.excludes = search'.excludes ∧
      Option.Rel Aggregation.Alike search.aggregation search'.aggregation := by
  rw [toBody_eq, toBody_eq] at h
  have hlookup := Equal.lookup_record search.nodup_keys_bodyFields
    search'.nodup_keys_bodyFields h
  have hskip := hlookup "from"
  have hsort := hlookup "sort"
  have hsource := hlookup "_source"
  have haggregation := hlookup "aggregations"
  rw [lookup_from, lookup_from] at hskip
  rw [lookup_sort, lookup_sort] at hsort
  rw [lookup_source, lookup_source] at hsource
  rw [lookup_aggregations, lookup_aggregations] at haggregation
  refine ⟨?_, eq_of_skip? ?_, ?_, ?_, eq_of_excludes? ?_, ?_⟩
  · cases hlookup "query" with
    | some hquery => exact clauses_of_equal_conditions hquery
  · exact Equal.eq_of_rel_map (fun _ _ h => UInt32.toNat_inj.1 (Int.ofNat.inj h.of_int)) hskip
  · cases hlookup "size" with
    | some hsize => exact UInt32.toNat_inj.1 (Int.ofNat.inj hsize.of_int)
  · exact Equal.eq_of_rel_map (fun _ _ => HitSort.eq_of_equal_toBody) hsort
  · exact Equal.eq_of_rel_map (fun _ _ h =>
      (Equal.of_single h).2.eq_of_ofList fun _ _ => Equal.of_string) hsource
  · exact Equal.rel_of_rel_map (fun aggregation hmem aggregation' hmem' h =>
      Aggregation.alike_of_equal_toBody (hregular aggregation hmem) (hregular' aggregation' hmem')
        (Equal.of_single h).1 (Equal.of_single h).2) haggregation

/-- The smallest and the largest size in each of some groups. -/
def sizesSearch (children : List Aggregation) : Search where
  kind := .request
  partitions := []
  clauses := [.equals "status" "200"]
  aggregation := some (.groups "ranges" "size"
    (.ranges [⟨"none", ⟨.finite (.zero true), .finite (.zero false)⟩⟩]) children)
  skip := 0
  size := 0
  order := none
  excludes := []

/-- In which order the two are asked for does not show in the body. -/
theorem equal_bodies_of_sizesSearch :
    let min := Aggregation.metric "smallest" .min "size"
    let max := Aggregation.metric "largest" .max "size"
    Equal (sizesSearch [min, max]).toBody (sizesSearch [max, min]).toBody ∧
      Option.Rel Aggregation.Alike (sizesSearch [min, max]).aggregation
        (sizesSearch [max, min]).aggregation := by
  intro min max
  have hchildren : Aggregation.childBodies? [min, max] = Aggregation.childBodies? [max, min] := by
    have hsame : Keyed.ofList (Aggregation.toBodies [min, max]) =
        Keyed.ofList (Aggregation.toBodies [max, min]) :=
      Keyed.ofList_perm (.swap _ _ _) (by rw [Aggregation.keys_toBodies]; decide)
    exact congrArg (fun bodies : Keyed Json => some (Json.object bodies.toList)) hsame
  have hbodies : Equal (sizesSearch [min, max]).toBody (sizesSearch [max, min]).toBody := by
    have hsame : (sizesSearch [min, max]).toBody = (sizesSearch [max, min]).toBody := by
      simp only [toBody_eq, bodyFields, conditions, skip?, excludes?, sizesSearch, optionalField,
        Option.map_some, Aggregation.toBody_eq, Aggregation.children, hchildren, Aggregation.name,
        Aggregation.kind, Aggregation.root]
    rw [hsame]
    exact .refl _
  have hregular {children : List Aggregation} (hnames : (children.map Aggregation.name).Nodup)
      (hchildren : ∀ child ∈ children, child.Regular) :
      ∀ aggregation ∈ (sizesSearch children).aggregation, aggregation.Regular := by
    rintro aggregation ⟨⟩
    refine .groups _ _ _ _ hnames ?_ hchildren
    exact List.forall_mem_singleton.2 ⟨rfl, rfl⟩
  refine ⟨hbodies, (equal_bodies_ask_the_same (hregular (by decide) ?_) (hregular (by decide) ?_)
    hbodies).2.2.2.2.2⟩
  · exact List.forall_mem_cons.2 ⟨.metric _ _ _, List.forall_mem_singleton.2 (.metric _ _ _)⟩
  · exact List.forall_mem_cons.2 ⟨.metric _ _ _, List.forall_mem_singleton.2 (.metric _ _ _)⟩

end Search

end Logbook
