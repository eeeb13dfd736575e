import Logbook.Proofs.Fallible
import Logbook.Proofs.Keyed
import Logbook.Response.Series

/-!
# What is gathered under a name

The series of a response are built by a fold over all outcomes of all groups. This module says what
stands under one name in the end, without the fold:

* `Gathered series text lists`: the invariant of the fold. Nothing stands under the name as long as
  no outcome has added to it; afterwards a series of that name and its field, with the points of
  all the lists in their order and no others (`Series.Holds`).
* `gather_cases`, `gather_eq_error_iff`: what one outcome adds (`contribution?`), and that there is
  an overflow just where there is one in that; what was gathered before makes no difference.
* `Gathered.step`: what one outcome does to the invariant.
* `gathered_histogram`: what stands under a name of a histogram in the end.
-/

set_option autoImplicit false

namespace Logbook

/-! ## The points of a series -/

/-- The points of one key, in their order. -/
def pointsUnder (key : String) (entries : List (String × Point)) : List Point :=
  (entries.filter fun entry => entry.1 == key).map Prod.snd

theorem pointsUnder_append (key : String) (entries more : List (String × Point)) :
    pointsUnder key (entries ++ more) = pointsUnder key entries ++ pointsUnder key more := by
  rw [pointsUnder, List.filter_append, List.map_append]
  rfl

theorem pointsUnder_singleton_self (key : String) (point : Point) :
    pointsUnder key [(key, point)] = [point] := by
  simp only [pointsUnder, List.filter_cons, beq_self_eq_true, if_true, List.filter_nil,
    List.map_cons, List.map_nil]

theorem pointsUnder_singleton_ne {key key' : String} (point : Point) (h : key ≠ key') :
    pointsUnder key' [(key, point)] = [] := by
  simp only [pointsUnder, List.filter_cons, beq_eq_false_iff_ne.2 h, Bool.false_eq_true, if_false,
    List.filter_nil, List.map_nil]

namespace Series

/-- The points of a series are the given ones, each under its key and in their order; no key is
without points. -/
structure Holds (series : Series) (entries : List (String × Point)) : Prop where
  points : ∀ key, (series.points.find? key).getD [] = pointsUnder key entries
  ne_nil : ∀ key, series.points.find? key ≠ some []

theorem Holds.empty (name field : String) : (Series.mk name field .empty).Holds [] where
  points _ := rfl
  ne_nil _ := nofun

theorem Holds.add {series : Series} {entries : List (String × Point)} (h : series.Holds entries)
    (key : String) (point : Point) : (series.add key point).Holds (entries ++ [(key, point)]) where
  points key' := by
    rw [Series.add, Keyed.find?_insert, pointsUnder_append]
    by_cases hkey : key' = key
    · subst hkey
      rw [if_pos rfl, Option.getD_some, h.points, pointsUnder_singleton_self]
    · rw [if_neg hkey, h.points, pointsUnder_singleton_ne point (Ne.symm hkey), List.append_nil]
  ne_nil key' := by
    rw [Series.add, Keyed.find?_insert]
    by_cases hkey : key' = key
    · rw [if_pos hkey]
      intro hnil
      exact List.append_ne_nil_of_right_ne_nil _ (List.cons_ne_nil _ _) (Option.some.inj hnil)
    · rw [if_neg hkey]
      exact h.ne_nil key'

theorem Holds.addAll : ∀ (more : List (String × Point)) {series : Series}
    {entries : List (String × Point)}, series.Holds entries →
      (series.addAll more).Holds (entries ++ more)
  | [], _, _, h => by rwa [List.append_nil]
  | entry :: more, series, entries, h => by
    have ih := Holds.addAll more (h.add entry.1 entry.2)
    rw [List.append_assoc, List.singleton_append] at ih
    exact ih

theorem addAll_name_field : ∀ (more : List (String × Point)) (series : Series),
    (series.addAll more).name = series.name ∧ (series.addAll more).field = series.field
  | [], _ => ⟨rfl, rfl⟩
  | entry :: more, series => addAll_name_field more (series.add entry.1 entry.2)

end Series

/-! ## The invariant of the fold -/

/-- The points that an outcome adds under a name, where the name says what they are and the outcome
has its shape. -/
def contribution? (mode : CountMode) (text : String) (instant : Int64) (outcome : Outcome) :
    Option (Except Overflow (List (String × Point))) :=
  (SeriesName.ofText? text).bind fun name => name.points? mode instant outcome

/-- Without anything to add nothing changes; otherwise the points are added to the series of their
name, or there is an overflow in them. -/
theorem gather_cases (mode : CountMode) (instant : Int64) (series : Keyed Series)
    (entry : String × Outcome) :
    (contribution? mode entry.1 instant entry.2 = none ∧
      gather mode instant series entry = .ok series) ∨
    ∃ name points, SeriesName.ofText? entry.1 = some name ∧
      contribution? mode entry.1 instant entry.2 = some points ∧
      gather mode instant series entry = points.map fun points => series.insert entry.1
        (((series.find? entry.1).getD ⟨entry.1, name.field, .empty⟩).addAll points) := by
  unfold gather contribution?
  cases SeriesName.ofText? entry.1 with
  | none => exact .inl ⟨rfl, rfl⟩
  | some name =>
    simp only [Option.bind_some]
    cases name.points? mode instant entry.2 with
    | none => exact .inl ⟨rfl, rfl⟩
    | some points => exact .inr ⟨name, points, rfl, rfl, rfl⟩

/-- There is an overflow just where there is one in what is to be added. -/
theorem gather_eq_error_iff {mode : CountMode} {instant : Int64} {series : Keyed Series}
    {entry : String × Outcome} {overflow : Overflow} :
    gather mode instant series entry = .error overflow ↔
      contribution? mode entry.1 instant entry.2 = some (.error overflow) := by
  obtain ⟨hnone, hgather⟩ | ⟨name, points, -, hpoints, hgather⟩ :=
    gather_cases mode instant series entry
  · simp [hgather, hnone]
  · rw [hgather, hpoints, Fallible.map_eq_error_iff, Option.some.injEq]

theorem filterMap_cons_toList {α β : Type} (f : α → Option β) (a : α) (l : List α) :
    (a :: l).filterMap f = (f a).toList ++ l.filterMap f := by
  rw [List.filterMap_cons]
  cases f a with
  | none => rfl
  | some b => rfl

/-- What stands under a name after outcomes have added the given lists of points to it. -/
structure Gathered (series : Keyed Series) (text : String)
    (lists : List (List (String × Point))) : Prop where
  none : lists = [] → series.find? text = none
  some : lists ≠ [] → ∃ found, series.find? text = some found ∧ found.name = text ∧
    (SeriesName.ofText? text).map SeriesName.field = some found.field ∧ found.Holds lists.flatten

namespace Gathered

variable {series : Keyed Series} {text : String} {lists : List (List (String × Point))}

theorem empty (text : String) : Gathered .empty text [] where
  none _ := rfl
  some h := absurd rfl h

/-- The series to which the next points are added: the one that is there, or one without points. -/
theorem getD (h : Gathered series text lists) {name : SeriesName}
    (hname : SeriesName.ofText? text = Option.some name) :
    let old := (series.find? text).getD ⟨text, name.field, .empty⟩
    old.name = text ∧ old.field = name.field ∧ old.Holds lists.flatten := by
  by_cases hnil : lists = []
  · rw [h.none hnil, Option.getD_none, hnil]
    exact ⟨rfl, rfl, Series.Holds.empty _ _⟩
  · obtain ⟨found, hfound, htext, hfield, hpoints⟩ := h.some hnil
    rw [hname, Option.map_some, Option.some.injEq] at hfield
    rw [hfound, Option.getD_some]
    exact ⟨htext, hfield.symm, hpoints⟩

/-- One outcome adds its points under its own name, and to no other. -/
theorem step (h : Gathered series text lists) {mode : CountMode} {instant : Int64}
    {entry : String × Outcome} {series' : Keyed Series}
    (hgather : gather mode instant series entry = .ok series') :
    ∃ more : Option (List (String × Point)),
      (if entry.1 = text then contribution? mode text instant entry.2 else Option.none) =
          more.map .ok ∧
        Gathered series' text (lists ++ more.toList) := by
  obtain ⟨hnone, hsame⟩ | ⟨name, points, hname, hpoints, hadded⟩ :=
    gather_cases mode instant series entry
  · refine ⟨Option.none, ?_, ?_⟩
    · split
      · rename_i heq
        rw [← heq, hnone, Option.map_none]
      · rfl
    · rw [hsame] at hgather
      rw [← Except.ok.inj hgather, Option.toList_none, List.append_nil]
      exact h
  · rw [hadded] at hgather
    obtain ⟨more, rfl, rfl⟩ := Fallible.map_eq_ok_iff.1 hgather
    by_cases heq : entry.1 = text
    · subst heq
      refine ⟨Option.some more, by rw [if_pos rfl, hpoints, Option.map_some], ?_⟩
      obtain ⟨holdName, holdField, hold⟩ := h.getD hname
      refine ⟨fun hnil => absurd hnil (List.append_ne_nil_of_right_ne_nil _ (List.cons_ne_nil _ _)),
        fun _ => ⟨_, by rw [Keyed.find?_insert, if_pos rfl], ?_⟩⟩
      obtain ⟨hsameName, hsameField⟩ := Series.addAll_name_field more
        ((series.find? entry.1).getD ⟨entry.1, name.field, .empty⟩)
      rw [hsameName, hsameField, holdName, holdField, hname, Option.toList_some,
        List.flatten_append, List.flatten_singleton]
      exact ⟨rfl, rfl, hold.addAll more⟩
    · refine ⟨Option.none, by rw [if_neg heq, Option.map_none], ?_⟩
      rw [Option.toList_none, List.append_nil]
      refine ⟨fun hnil => ?_, fun hne => ?_⟩
      · rw [Keyed.find?_insert, if_neg (Ne.symm heq)]
        exact h.none hnil
      · rw [Keyed.find?_insert, if_neg (Ne.symm heq)]
        exact h.some hne

/-- The outcomes of a list add their points one after the other. -/
theorem foldlM (h : Gathered series text lists) {mode : CountMode} {instant : Int64}
    {entries : List (String × Outcome)} {series' : Keyed Series}
    (hfold : entries.foldlM (gather mode instant) series = .ok series') :
    ∃ more : List (List (String × Point)),
      (entries.filterMap fun entry =>
        if entry.1 = text then contribution? mode text instant entry.2 else Option.none) =
          more.map .ok ∧
        Gathered series' text (lists ++ more) := by
  induction entries generalizing series lists with
  | nil =>
    rw [List.foldlM_nil] at hfold
    cases hfold
    exact ⟨[], rfl, by rwa [List.append_nil]⟩
  | cons entry entries ih =>
    rw [List.foldlM_cons] at hfold
    obtain ⟨next, hgather, hrest⟩ := Fallible.bind_eq_ok_iff.1 hfold
    obtain ⟨first, hfirst, hnext⟩ := h.step hgather
    obtain ⟨more, hmore, hend⟩ := ih hnext hrest
    refine ⟨first.toList ++ more, ?_, by rwa [← List.append_assoc]⟩
    rw [filterMap_cons_toList, hfirst, hmore, List.map_append, Option.toList_map]

end Gathered

/-! ## Groups and responses -/

/-- The outcomes in a group, as far as they have a given name, are the outcome of that name. -/
theorem filterMap_outcomes {β : Type} (group : Group) (f : Outcome → Option β) (text : String) :
    (group.outcomes.filterMap fun entry => if entry.1 = text then f entry.2 else none) =
      ((group.outcome? text).bind f).toList := by
  have hentry : (fun entry : String × Json =>
      (if entry.2.isObject then some (entry.1, Outcome.ofJson entry.2) else none).bind
        fun entry => if entry.1 = text then f entry.2 else none) =
      fun entry => if entry.1 = text then
        (if entry.2.isObject then some (Outcome.ofJson entry.2) else none).bind f else none := by
    funext entry
    by_cases hobject : entry.2.isObject
    · simp only [hobject, if_true, Option.bind_some]
    · simp only [hobject, Bool.false_eq_true, if_false, Option.bind_none, ite_self]
  have hkey := Keyed.filterMap_key group.inner (fun value =>
    (if value.isObject then some (Outcome.ofJson value) else none).bind f) text
  rw [Group.outcomes, List.filterMap_filterMap, hentry, hkey, Group.outcome?, Option.bind_assoc]

/-- The outcomes in a group are those that stand under their names. -/
theorem Group.mem_outcomes_iff {group : Group} {name : String} {outcome : Outcome} :
    (name, outcome) ∈ group.outcomes ↔ group.outcome? name = some outcome := by
  simp only [outcomes, outcome?, List.mem_filterMap, Option.bind_eq_some_iff]
  constructor
  · rintro ⟨⟨key, value⟩, hmem, hentry⟩
    simp only [Option.ite_none_right_eq_some, Option.some.injEq, Prod.mk.injEq] at hentry
    obtain ⟨hobject, rfl, rfl⟩ := hentry
    exact ⟨value, Keyed.mem_toList_iff.1 hmem, by rw [if_pos hobject]⟩
  · rintro ⟨value, hfind, hvalue⟩
    rw [Option.ite_none_right_eq_some, Option.some.injEq] at hvalue
    obtain ⟨hobject, rfl⟩ := hvalue
    exact ⟨(name, value), Keyed.mem_toList_iff.2 hfind, by rw [if_pos hobject]⟩

/-- The groups of a histogram add the points of their outcomes one after the other. -/
theorem Gathered.foldlM_groups {mode : CountMode} {text : String} {series series' : Keyed Series}
    {lists : List (List (String × Point))} (h : Gathered series text lists)
    {groups : List (Int64 × Group)}
    (hfold : groups.foldlM (fun series entry =>
      entry.2.outcomes.foldlM (gather mode entry.1) series) series = .ok series') :
    ∃ more : List (List (String × Point)),
      (groups.filterMap fun entry =>
        (entry.2.outcome? text).bind (contribution? mode text entry.1)) = more.map .ok ∧
        Gathered series' text (lists ++ more) := by
  induction groups generalizing series lists with
  | nil =>
    rw [List.foldlM_nil] at hfold
    cases hfold
    exact ⟨[], rfl, by rwa [List.append_nil]⟩
  | cons entry groups ih =>
    rw [List.foldlM_cons] at hfold
    obtain ⟨next, hgroup, hrest⟩ := Fallible.bind_eq_ok_iff.1 hfold
    obtain ⟨first, hfirst, hnext⟩ := h.foldlM hgroup
    obtain ⟨more, hmore, hend⟩ := ih hnext hrest
    refine ⟨first ++ more, ?_, by rwa [← List.append_assoc]⟩
    rw [filterMap_outcomes] at hfirst
    rw [filterMap_cons_toList, hfirst, hmore, List.map_append]

/-- **What stands under a name of a histogram**: the points that the outcomes of that name add,
group by group. -/
theorem gathered_histogram {response : Response} {mode : CountMode} {histogram : Histogram}
    (h : response.histogram mode = .ok histogram) (text : String) :
    ∃ lists : List (List (String × Point)),
      (response.histogramGroups.filterMap fun entry =>
        (entry.2.outcome? text).bind (contribution? mode text entry.1)) = lists.map .ok ∧
        Gathered histogram.series text lists := by
  obtain ⟨series, hfold, hhistogram⟩ := Fallible.bind_eq_ok_iff.1 h
  cases hhistogram
  exact (Gathered.empty text).foldlM_groups hfold

end Logbook
