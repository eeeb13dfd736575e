import Mathlib.Data.List.Dedup
import Mathlib.Data.List.Sort
import Logbook.Keyed

/-!
# Maps by their look-ups

The entries of a map are in strictly ascending order of their keys, so that at most one has a given
key: a pass over all entries that looks at one key is a look-up (`filterMap_key`), and a map is told
by its look-ups (`ext_find?`). What is looked up in the map of a list is looked up in the list,
where that repeats no key (`find?_ofList`). A list that repeats keys only together with their values
loses nothing but the repetitions (`toList_ofList_perm`).
-/

set_option autoImplicit false

namespace Logbook

namespace Keyed

variable {α β : Type}

theorem lookup_eq_none_of_forall_lt {key : String} {entries : List (String × α)}
    (h : ∀ e ∈ entries, key < e.1) : entries.lookup key = none := by
  rw [List.lookup_eq_none_iff]
  intro e he
  rw [bne_iff_ne]
  rintro rfl
  exact String.lt_irrefl _ (h e he)

theorem filterMap_key_of_sorted (f : α → Option β) (key : String) :
    ∀ {entries : List (String × α)}, entries.Pairwise (fun a b => a.1 < b.1) →
      (entries.filterMap fun e => if e.1 = key then f e.2 else none) =
        ((entries.lookup key).bind f).toList
  | [], _ => rfl
  | entry :: rest, h => by
    obtain ⟨hfirst, hrest⟩ := List.pairwise_cons.1 h
    have ih := filterMap_key_of_sorted f key hrest
    rw [lookup_cons]
    by_cases hkey : entry.1 = key
    · subst hkey
      -- no later entry has the key of the first
      rw [lookup_eq_none_of_forall_lt hfirst] at ih
      rw [if_pos rfl, List.filterMap_cons, if_pos rfl, ih, Option.bind_some, Option.bind_none]
      cases f entry.2 <;> rfl
    · rw [if_neg (Ne.symm hkey), List.filterMap_cons, if_neg hkey, ih]

/-- What a map holds under a key is what its entries hold that have the key. -/
theorem filterMap_key (m : Keyed α) (f : α → Option β) (key : String) :
    (m.toList.filterMap fun e => if e.1 = key then f e.2 else none) =
      ((m.find? key).bind f).toList :=
  filterMap_key_of_sorted f key m.sorted

/-! ## Lists without repeated keys -/

theorem mem_of_lookup {key : String} {value : α} : ∀ {entries : List (String × α)},
    entries.lookup key = some value → (key, value) ∈ entries
  | [], h => by cases h
  | entry :: rest, h => by
    rw [lookup_cons] at h
    split at h
    · rename_i hkey
      obtain rfl := Option.some.inj h
      rw [hkey]
      exact List.mem_cons_self
    · exact List.mem_cons_of_mem _ (mem_of_lookup h)

theorem lookup_eq_none_of_not_mem {key : String} {entries : List (String × α)}
    (h : key ∉ entries.map Prod.fst) : entries.lookup key = none := by
  rw [List.lookup_eq_none_iff]
  intro e he
  rw [bne_iff_ne]
  rintro rfl
  exact h (List.mem_map_of_mem he)

theorem isSome_lookup_iff {key : String} {entries : List (String × α)} :
    (entries.lookup key).isSome ↔ key ∈ entries.map Prod.fst := by
  rw [List.lookup_isSome_iff, List.mem_map]
  exact exists_congr fun e => and_congr Iff.rfl (beq_iff_eq.trans eq_comm)

theorem lookup_eq_some_iff {key : String} {value : α} :
    ∀ {entries : List (String × α)}, (entries.map Prod.fst).Nodup →
      (entries.lookup key = some value ↔ (key, value) ∈ entries)
  | [], _ => by simp
  | entry :: rest, h => by
    obtain ⟨hfirst, hrest⟩ := List.nodup_cons.1 h
    rw [lookup_cons, List.mem_cons, ← lookup_eq_some_iff hrest]
    by_cases hkey : key = entry.1
    · subst hkey
      rw [if_pos rfl, lookup_eq_none_of_not_mem hfirst]
      simp [Prod.ext_iff, eq_comm]
    · simp [hkey, Prod.ext_iff]

/-- Among the entries whose keys satisfy a condition the same is found under such a key. -/
theorem lookup_filter_key (p : String → Bool) (key : String) : ∀ entries : List (String × α),
    (entries.filter fun e => p e.1).lookup key = if p key then entries.lookup key else none
  | [] => by simp
  | entry :: rest => by
    have ih := lookup_filter_key p key rest
    rw [List.filter_cons, lookup_cons]
    by_cases hkey : key = entry.1
    · subst hkey
      cases hp : p entry.1 <;> simp [hp, lookup_cons, ih]
    · cases hp : p entry.1 <;> simp [hkey, lookup_cons, ih]

theorem nodup_keys (m : Keyed α) : (m.toList.map Prod.fst).Nodup := by
  refine List.pairwise_map.2 (m.sorted.imp fun {a b} hlt heq => ?_)
  rw [heq] at hlt
  exact String.lt_irrefl _ hlt

/-- The entries of a map are what look-ups find. -/
theorem mem_toList_iff {m : Keyed α} {key : String} {value : α} :
    (key, value) ∈ m.toList ↔ m.find? key = some value :=
  (lookup_eq_some_iff m.nodup_keys).symm

/-- Before an entry stand those of lesser keys. -/
theorem mem_before_iff {m : Keyed α} {before after : List (String × α)} {entry other : String × α}
    (h : m.toList = before ++ entry :: after) :
    other ∈ before ↔ other ∈ m.toList ∧ other.1 < entry.1 := by
  have hsorted := m.sorted
  rw [h] at hsorted ⊢
  obtain ⟨-, hrest, hbefore⟩ := List.pairwise_append.1 hsorted
  refine ⟨fun hmem => ⟨List.mem_append_left _ hmem, hbefore _ hmem _ List.mem_cons_self⟩, ?_⟩
  rintro ⟨hmem, hlt⟩
  rcases List.mem_append.1 hmem with hmem | hmem
  · exact hmem
  · rcases List.mem_cons.1 hmem with rfl | hmem
    · exact absurd hlt (String.lt_irrefl _)
    · have hgt := (List.pairwise_cons.1 hrest).1 _ hmem
      exact absurd (String.lt_trans hlt hgt) (String.lt_irrefl _)

/-- Maps in which every look-up finds the same are the same. -/
theorem ext_find? {m n : Keyed α} (h : ∀ key, m.find? key = n.find? key) : m = n := by
  have hanti : Std.Antisymm fun a b : String × α => a.1 < b.1 :=
    ⟨fun _ _ hab hba => absurd (String.lt_trans hab hba) (String.lt_irrefl _)⟩
  have hirrefl : Std.Irrefl fun a b : String × α => a.1 < b.1 :=
    ⟨fun _ => String.lt_irrefl _⟩
  refine ext (m.sorted.eq_of_mem_iff n.sorted ?_)
  rintro ⟨key, value⟩
  rw [mem_toList_iff, mem_toList_iff, h]

/-! ## The map of a list -/

theorem find?_foldl_insert {key : String} : ∀ (entries : List (String × α)) (m : Keyed α),
    (entries.foldl (fun m e => m.insert e.1 e.2) m).find? key =
      (entries.reverse.lookup key).or (m.find? key)
  | [], _ => rfl
  | entry :: rest, m => by
    rw [List.foldl_cons, find?_foldl_insert rest, find?_insert, List.reverse_cons,
      List.lookup_append, Option.or_assoc, lookup_cons]
    by_cases hkey : key = entry.1
    · rw [if_pos hkey, if_pos hkey, Option.some_or]
    · rw [if_neg hkey, if_neg hkey]
      rfl

/-- In the map of a list the last entry of a key is found. -/
theorem find?_ofList_reverse (entries : List (String × α)) (key : String) :
    (ofList entries).find? key = entries.reverse.lookup key := by
  rw [ofList, find?_foldl_insert, find?_empty, Option.or_none]

/-- In the map of a list without repeated keys the same is found as in the list. -/
theorem find?_ofList {entries : List (String × α)} (h : (entries.map Prod.fst).Nodup)
    (key : String) : (ofList entries).find? key = entries.lookup key := by
  have hreverse : (entries.reverse.map Prod.fst).Nodup := by
    rw [List.map_reverse]
    exact List.nodup_reverse.2 h
  refine Option.ext fun value => ?_
  rw [find?_ofList_reverse, lookup_eq_some_iff hreverse, lookup_eq_some_iff h, List.mem_reverse]

/-- Where no key has two values, the entries of the map of a list are those of the list. -/
theorem mem_toList_ofList_iff {entries : List (String × α)}
    (h : ∀ key a b, (key, a) ∈ entries → (key, b) ∈ entries → a = b) {key : String} {value : α} :
    (key, value) ∈ (ofList entries).toList ↔ (key, value) ∈ entries := by
  rw [mem_toList_iff, find?_ofList_reverse]
  constructor
  · intro hlookup
    exact List.mem_reverse.1 (mem_of_lookup hlookup)
  · intro hmem
    have hkey : key ∈ entries.reverse.map Prod.fst :=
      List.mem_map_of_mem (List.mem_reverse.2 hmem)
    obtain ⟨found, hfound⟩ := Option.isSome_iff_exists.1 (isSome_lookup_iff.2 hkey)
    rw [hfound, h key found value (List.mem_reverse.1 (mem_of_lookup hfound)) hmem]

/-- The map of named items has each item once, where different items have different names. -/
theorem toList_ofList_perm [DecidableEq β] {name : β → String} (hname : name.Injective)
    (value : β → α) (items : List β) :
    (ofList (items.map fun item => (name item, value item))).toList.Perm
      (items.dedup.map fun item => (name item, value item)) := by
  have hone : ∀ key a b, (key, a) ∈ items.map (fun item => (name item, value item)) →
      (key, b) ∈ items.map (fun item => (name item, value item)) → a = b := by
    intro key a b ha hb
    obtain ⟨item, -, hitem⟩ := List.mem_map.1 ha
    obtain ⟨item', -, hitem'⟩ := List.mem_map.1 hb
    rw [Prod.mk.injEq] at hitem hitem'
    rw [← hitem.2, ← hitem'.2, hname (hitem.1.trans hitem'.1.symm)]
  rw [List.perm_ext_iff_of_nodup]
  · rintro ⟨key, a⟩
    rw [mem_toList_ofList_iff hone]
    simp only [List.mem_map, List.mem_dedup]
  · exact .of_map Prod.fst (nodup_keys _)
  · refine items.nodup_dedup.map fun item item' h => ?_
    exact hname (congrArg Prod.fst h)

/-- The order of the entries plays no part. -/
theorem ofList_perm {entries entries' : List (String × α)} (h : entries.Perm entries')
    (hkeys : (entries.map Prod.fst).Nodup) : ofList entries = ofList entries' := by
  have hkeys' : (entries'.map Prod.fst).Nodup := (h.map Prod.fst).nodup_iff.1 hkeys
  refine ext_find? fun key => Option.ext fun value => ?_
  rw [find?_ofList hkeys, find?_ofList hkeys', lookup_eq_some_iff hkeys, lookup_eq_some_iff hkeys',
    h.mem_iff]

/-- The map of a map's own entries is that map. -/
theorem ofList_toList (m : Keyed α) : ofList m.toList = m :=
  ext_find? fun key => find?_ofList m.nodup_keys key

/-- Entries that are in order already stay as they are. -/
theorem toList_ofList {entries : List (String × α)}
    (h : entries.Pairwise fun a b => a.1 < b.1) : (ofList entries).toList = entries :=
  congrArg toList (ofList_toList ⟨entries, h⟩)

/-! ## Maps with every value changed -/

theorem lookup_map (f : α → β) (key : String) : ∀ entries : List (String × α),
    (entries.map fun e => (e.1, f e.2)).lookup key = (entries.lookup key).map f
  | [] => rfl
  | entry :: rest => by
    rw [List.map_cons, lookup_cons, lookup_cons, lookup_map f key rest]
    split <;> rfl

theorem find?_map (f : α → β) (m : Keyed α) (key : String) :
    (m.map f).find? key = (m.find? key).map f := lookup_map f key m.toList

theorem map_insert (f : α → β) (m : Keyed α) (key : String) (a : α) :
    (m.insert key a).map f = (m.map f).insert key (f a) := by
  refine ext_find? fun name => ?_
  rw [find?_map, find?_insert, find?_insert, find?_map]
  split <;> rfl

/-! ## Maps that differ under one key -/

theorem lookup_append_cons_of_ne {before after : List (String × α)} {key name : String} (a : α)
    (h : name ≠ key) :
    (before ++ (key, a) :: after).lookup name = (before ++ after).lookup name := by
  rw [List.lookup_append, List.lookup_append, lookup_cons, if_neg h]

theorem lookup_append_cons_self {before after : List (String × α)} {key : String} (a : α)
    (h : key ∉ before.map Prod.fst) : (before ++ (key, a) :: after).lookup key = some a := by
  rw [List.lookup_append, lookup_eq_none_of_not_mem h, Option.none_or, lookup_cons, if_pos rfl]

theorem not_mem_around {m : Keyed α} {before after : List (String × α)} {key : String} {a : α}
    (h : m.toList = before ++ (key, a) :: after) : key ∉ (before ++ after).map Prod.fst := by
  have hkeys := m.nodup_keys
  rw [h, List.map_append, List.map_cons, List.nodup_middle, ← List.map_append] at hkeys
  exact (List.nodup_cons.1 hkeys).1

/-- A map with another value under one key has it in the place of the old one. -/
theorem toList_of_changed {m m' : Keyed α} {key : String} {a a' : α} (h : m.find? key = some a)
    (h' : m'.find? key = some a') (hother : ∀ name, name ≠ key → m.find? name = m'.find? name) :
    ∃ before after, m.toList = before ++ (key, a) :: after ∧
      m'.toList = before ++ (key, a') :: after := by
  obtain ⟨before, after, hm⟩ := List.append_of_mem (mem_toList_iff.2 h)
  have hsorted : (before ++ (key, a') :: after).Pairwise fun a b => a.1 < b.1 := by
    have hkeys := List.pairwise_map.2 m.sorted
    rw [hm, List.map_append, List.map_cons] at hkeys
    refine List.pairwise_map.1 ?_
    rw [List.map_append, List.map_cons]
    exact hkeys
  have hm' : m' = ⟨_, hsorted⟩ := by
    refine ext_find? fun name => ?_
    change _ = (before ++ (key, a') :: after).lookup name
    by_cases hname : name = key
    · subst hname
      rw [h', lookup_append_cons_self a' fun hmem => not_mem_around hm (by simp [hmem])]
    · rw [lookup_append_cons_of_ne a' hname, ← lookup_append_cons_of_ne a hname, ← hm]
      exact (hother name hname).symm
  exact ⟨before, after, hm, congrArg toList hm'⟩

/-- A map with one more key has its entry between those of the other. -/
theorem toList_of_added {m m' : Keyed α} {key : String} {a : α} (h : m.find? key = none)
    (h' : m'.find? key = some a) (hother : ∀ name, name ≠ key → m.find? name = m'.find? name) :
    ∃ before after, m.toList = before ++ after ∧ m'.toList = before ++ (key, a) :: after := by
  obtain ⟨before, after, hm'⟩ := List.append_of_mem (mem_toList_iff.2 h')
  have hsorted : (before ++ after).Pairwise fun a b => a.1 < b.1 := by
    have hkeys := m'.sorted
    rw [hm'] at hkeys
    exact hkeys.sublist ((List.sublist_cons_self _ _).append_left _)
  have hm : m = ⟨_, hsorted⟩ := by
    refine ext_find? fun name => ?_
    change _ = (before ++ after).lookup name
    by_cases hname : name = key
    · subst hname
      rw [h, lookup_eq_none_of_not_mem (not_mem_around hm')]
    · rw [← lookup_append_cons_of_ne a hname, ← hm']
      exact hother name hname
  exact ⟨before, after, congrArg toList hm, hm'⟩

theorem find?_insert_of_ne (m : Keyed α) {key name : String} (a : α) (h : name ≠ key) :
    (m.insert key a).find? name = m.find? name := by
  rw [find?_insert, if_neg h]

/-- A value that is inserted under a key of the map takes the place of the old one. -/
theorem toList_insert_of_some {m : Keyed α} {key : String} {a : α} (h : m.find? key = some a)
    (a' : α) : ∃ before after, m.toList = before ++ (key, a) :: after ∧
      (m.insert key a').toList = before ++ (key, a') :: after :=
  toList_of_changed h (by rw [find?_insert, if_pos rfl]) fun _ hname =>
    (m.find?_insert_of_ne a' hname).symm

/-- A value that is inserted under a new key stands between the old ones. -/
theorem toList_insert_of_none {m : Keyed α} {key : String} (h : m.find? key = none) (a : α) :
    ∃ before after, m.toList = before ++ after ∧
      (m.insert key a).toList = before ++ (key, a) :: after :=
  toList_of_added h (by rw [find?_insert, if_pos rfl]) fun _ hname =>
    (m.find?_insert_of_ne a hname).symm

theorem find?_ofList_append_cons (before after : List (String × α)) (key : String) (a : α)
    (name : String) : (ofList (before ++ (key, a) :: after)).find? name =
      (after.reverse.lookup name).or
        (if name = key then some a else before.reverse.lookup name) := by
  rw [find?_ofList_reverse, List.reverse_append, List.reverse_cons, List.append_assoc,
    List.singleton_append, List.lookup_append, lookup_cons]

/-- The map of a list shows the value of an entry in one place, or not at all where a later entry
has the same key. -/
theorem ofList_changed (before after : List (String × α)) (key : String) (a a' : α) :
    ofList (before ++ (key, a) :: after) = ofList (before ++ (key, a') :: after) ∨
      ∃ front back, (ofList (before ++ (key, a) :: after)).toList = front ++ (key, a) :: back ∧
        (ofList (before ++ (key, a') :: after)).toList = front ++ (key, a') :: back := by
  cases hlater : after.reverse.lookup key with
  | some value =>
    refine .inl (ext_find? fun name => ?_)
    rw [find?_ofList_append_cons, find?_ofList_append_cons]
    by_cases hname : name = key
    · rw [hname, hlater, Option.some_or, Option.some_or]
    · rw [if_neg hname, if_neg hname]
  | none =>
    refine .inr (toList_of_changed ?_ ?_ fun name hname => ?_)
    · rw [find?_ofList_append_cons, hlater, Option.none_or, if_pos rfl]
    · rw [find?_ofList_append_cons, hlater, Option.none_or, if_pos rfl]
    · rw [find?_ofList_append_cons, find?_ofList_append_cons, if_neg hname, if_neg hname]

/-- One more entry in a list, of a new key, is one more in its map. -/
theorem ofList_added {before after : List (String × α)} {key : String} (a : α)
    (hnew : key ∉ (before ++ after).map Prod.fst) :
    ∃ front back, (ofList (before ++ after)).toList = front ++ back ∧
      (ofList (before ++ (key, a) :: after)).toList = front ++ (key, a) :: back := by
  have hnone : (before ++ after).reverse.lookup key = none := by
    refine lookup_eq_none_of_not_mem ?_
    rwa [List.map_reverse, List.mem_reverse]
  have hlater : after.reverse.lookup key = none := by
    rw [List.reverse_append, List.lookup_append, Option.or_eq_none_iff] at hnone
    exact hnone.1
  refine toList_of_added ?_ ?_ fun name hname => ?_
  · rw [find?_ofList_reverse, hnone]
  · rw [find?_ofList_append_cons, hlater, Option.none_or, if_pos rfl]
  · rw [find?_ofList_reverse, find?_ofList_append_cons, if_neg hname, List.reverse_append,
      List.lookup_append]

end Keyed

end Logbook
