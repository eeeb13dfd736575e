/-!
# Entries by key

A finite map from texts to values that lists its entries in ascending order of the keys, by code
points. Main statements: a look-up after an insertion finds the inserted value under its key and
the old one under any other (`find?_insert`), and an erasure takes away one key (`find?_erase`).
-/

set_option autoImplicit false

namespace Logbook

/-- Entries in strictly ascending order of their keys. -/
structure Keyed (α : Type) where
  toList : List (String × α)
  sorted : toList.Pairwise fun a b => a.1 < b.1

namespace Keyed

variable {α β : Type}

/-- Entries with one more, in its place; an entry of the same key gives way. -/
def insertEntry (key : String) (value : α) : List (String × α) → List (String × α)
  | [] => [(key, value)]
  | entry :: rest =>
    if key < entry.1 then (key, value) :: entry :: rest
    else if key = entry.1 then (key, value) :: rest
    else entry :: insertEntry key value rest

theorem mem_insertEntry {key : String} {value : α} {e : String × α} :
    ∀ {entries : List (String × α)}, e ∈ insertEntry key value entries →
      e = (key, value) ∨ e ∈ entries
  | [], h => .inl (List.mem_singleton.1 h)
  | entry :: rest, h => by
    rw [insertEntry] at h
    split at h
    · exact List.mem_cons.1 h
    · split at h
      · exact (List.mem_cons.1 h).imp id (List.mem_cons_of_mem _)
      · rcases List.mem_cons.1 h with rfl | h
        · exact .inr List.mem_cons_self
        · exact (mem_insertEntry h).imp id (List.mem_cons_of_mem _)

theorem lt_of_not_lt_of_ne {a b : String} (h : ¬a < b) (hne : a ≠ b) : b < a :=
  Decidable.byContradiction fun hn =>
    hne (String.le_antisymm (String.not_lt.1 hn) (String.not_lt.1 h))

theorem sorted_insertEntry {key : String} {value : α} :
    ∀ {entries : List (String × α)}, entries.Pairwise (fun a b => a.1 < b.1) →
      (insertEntry key value entries).Pairwise fun a b => a.1 < b.1
  | [], _ => by simp [insertEntry]
  | entry :: rest, h => by
    obtain ⟨hfirst, hrest⟩ := List.pairwise_cons.1 h
    rw [insertEntry]
    split
    · rename_i hlt
      refine List.pairwise_cons.2 ⟨fun e he => ?_, h⟩
      rcases List.mem_cons.1 he with rfl | he
      · exact hlt
      · exact String.lt_trans hlt (hfirst e he)
    · split
      · rename_i heq
        exact List.pairwise_cons.2 ⟨fun e he => heq ▸ hfirst e he, hrest⟩
      · rename_i hnlt hne
        refine List.pairwise_cons.2 ⟨fun e he => ?_, sorted_insertEntry hrest⟩
        rcases mem_insertEntry he with rfl | he
        · exact lt_of_not_lt_of_ne hnlt hne
        · exact hfirst e he

/-- The map without entries. -/
def empty : Keyed α := ⟨[], .nil⟩

instance : Inhabited (Keyed α) := ⟨empty⟩

/-- The map with a value under a key, in the place of the one that was there. -/
def insert (m : Keyed α) (key : String) (value : α) : Keyed α :=
  ⟨insertEntry key value m.toList, sorted_insertEntry m.sorted⟩

/-- The map of some entries; of two with one key the later counts. -/
def ofList (entries : List (String × α)) : Keyed α :=
  entries.foldl (fun m e => m.insert e.1 e.2) empty

/-- The value under a key. -/
def find? (m : Keyed α) (key : String) : Option α := m.toList.lookup key

/-- There is an entry with the key. -/
def contains (m : Keyed α) (key : String) : Bool := (m.find? key).isSome

/-- The map without the entry of a key. -/
def erase (m : Keyed α) (key : String) : Keyed α :=
  ⟨m.toList.filter fun e => e.1 != key, m.sorted.filter _⟩

/-- The number of entries. -/
def size (m : Keyed α) : Nat := m.toList.length

/-- The map without entries is told by its size. -/
def isEmpty (m : Keyed α) : Bool := m.toList.isEmpty

/-- The map with every value changed. -/
def map (f : α → β) (m : Keyed α) : Keyed β :=
  ⟨m.toList.map fun e => (e.1, f e.2), by
    rw [List.pairwise_map]
    exact m.sorted⟩

/-- Entries in ascending order are the same list when they are in the same order. -/
theorem ext {m n : Keyed α} (h : m.toList = n.toList) : m = n := by
  cases m; cases n; cases h; rfl

instance [DecidableEq α] : DecidableEq (Keyed α) := fun m n =>
  if h : m.toList = n.toList then .isTrue (ext h) else .isFalse fun e => h (e ▸ rfl)

/-! ## Look-up -/

@[simp] theorem find?_empty (key : String) : (empty : Keyed α).find? key = none := rfl

theorem lookup_cons (key : String) (entry : String × α) (rest : List (String × α)) :
    (entry :: rest).lookup key = if key = entry.1 then some entry.2 else rest.lookup key := by
  obtain ⟨first, value⟩ := entry
  rw [List.lookup_cons]
  by_cases h : key = first
  · rw [if_pos h, beq_iff_eq.2 h]
  · rw [if_neg h, beq_eq_false_iff_ne.2 h]

theorem lookup_insertEntry (key key' : String) (value : α) :
    ∀ entries : List (String × α), (insertEntry key value entries).lookup key' =
      if key' = key then some value else entries.lookup key'
  | [] => by simp [insertEntry, lookup_cons]
  | entry :: rest => by
    rw [insertEntry]
    split
    · simp [lookup_cons]
    · split
      · rename_i heq
        subst heq
        by_cases h : key' = entry.1 <;> simp [lookup_cons, h]
      · rename_i hne
        rw [lookup_cons, lookup_insertEntry key key' value rest, lookup_cons]
        by_cases h : key' = entry.1
        · simp [h, show ¬entry.1 = key from fun e => hne e.symm]
        · simp [h]

/-- After an insertion the inserted value stands under its key, and the others are unchanged. -/
theorem find?_insert (m : Keyed α) (key key' : String) (value : α) :
    (m.insert key value).find? key' = if key' = key then some value else m.find? key' :=
  lookup_insertEntry key key' value m.toList

theorem lookup_filter_ne (key key' : String) :
    ∀ entries : List (String × α), (entries.filter fun e => e.1 != key).lookup key' =
      if key' = key then none else entries.lookup key'
  | [] => by simp
  | entry :: rest => by
    have ih := lookup_filter_ne key key' rest
    by_cases he : entry.1 = key
    · rw [List.filter_cons_of_neg (by simp [he]), ih, lookup_cons, he]
      by_cases h : key' = key <;> simp [h]
    · rw [List.filter_cons_of_pos (by simp [he]), lookup_cons, lookup_cons, ih]
      by_cases h : key' = entry.1
      · simp [h, he]
      · simp [h]

/-- After an erasure nothing stands under the key, and the others are unchanged. -/
theorem find?_erase (m : Keyed α) (key key' : String) :
    (m.erase key).find? key' = if key' = key then none else m.find? key' :=
  lookup_filter_ne key key' m.toList

end Keyed

end Logbook
