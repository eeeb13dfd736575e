import Logbook.Proofs.Toml.Value

/-!
# Written documents are read

A configuration is written as tables with headers, each with lines that give keys their values.

* `run_statement_table`, `run_statement_assign`: the two kinds of lines.
* `Says`: lines make statements whatever lines follow them, so that a text is read piece by piece
  (`Says.append`) and its document is what its pieces say (`document?_of_lines`).
* `document?_statementsOf`: where no name is repeated, these are the tables of the document.
-/

set_option autoImplicit false

namespace Logbook

namespace Toml

open Scanner

/-! ## Keys -/

/-- A name that is written as a key without quotes. -/
def isKeyName (name : String) : Bool := !name.toList.isEmpty && name.toList.all isKeyChar

section
variable {name : String} {c d : Char} {tail rest : List Char}

theorem ne_of_isKeyChar (hd : isKeyChar d) (hc : isKeyChar c = false) : d ≠ c := by
  rintro rfl
  rw [hd] at hc
  cases hc

theorem isGap_of_isKeyChar (h : isKeyChar c) : isGap c = false := by
  simp [isGap, ne_of_isKeyChar h (c := ' ') rfl, ne_of_isKeyChar h (c := '\t') rfl]

theorem exists_of_isKeyName (h : isKeyName name) :
    ∃ c cs, name.toList = c :: cs ∧ isKeyChar c ∧ ∀ d ∈ name.toList, isKeyChar d := by
  rw [isKeyName, Bool.and_eq_true, Bool.not_eq_true', List.isEmpty_eq_false_iff,
    List.all_eq_true] at h
  obtain ⟨c, cs, hcs⟩ := List.exists_cons_of_ne_nil h.1
  exact ⟨c, cs, hcs, h.2 c (hcs ▸ List.mem_cons_self), h.2⟩

/-- A line that begins with a key is no header. -/
theorem name_append_ne (h : isKeyName name) {cs : List Char} : name.toList ++ tail ≠ '[' :: cs := by
  intro hcs
  obtain ⟨d, ds, hname, hd, -⟩ := exists_of_isKeyName h
  rw [hname] at hcs
  exact ne_of_isKeyChar hd rfl (List.cons.inj hcs).1

theorem run_skipGaps_of_ne (h : isGap c = false) :
    skipGaps.run (c :: tail) = some ((), c :: tail) := by
  show some ((), (c :: tail).dropWhile isGap) = _
  rw [List.dropWhile_cons_of_neg (by simp [h])]

theorem run_keyPart (h : isKeyName name) (hstop : isKeyChar c = false) :
    keyPart.run (name.toList ++ c :: tail) = some (name, c :: tail) := by
  obtain ⟨d, ds, hname, hd, hchars⟩ := exists_of_isKeyName h
  have hline : lineString? (name.toList ++ c :: tail) = none := by
    rw [hname, List.cons_append, lineString?, if_neg (ne_of_isKeyChar hd rfl),
      if_neg (ne_of_isKeyChar hd rfl)]
  have htake : (name.toList ++ c :: tail).takeWhile isKeyChar = name.toList := by
    rw [List.takeWhile_append_of_pos hchars, List.takeWhile_cons_of_neg (by simp [hstop]),
      List.append_nil]
  have hdrop : (name.toList ++ c :: tail).dropWhile isKeyChar = c :: tail := by
    rw [List.dropWhile_append_of_pos hchars, List.dropWhile_cons_of_neg (by simp [hstop])]
  have hpart : name.toList.isEmpty = false := by
    rw [hname]
    rfl
  simp [StateT.run, keyPart, hline, htake, hdrop, hpart]

/-- A key without points is one name, whatever blanks follow. -/
theorem run_key (h : isKeyName name) (hstop : isKeyChar c = false)
    (hdot : ((c :: tail).dropWhile isGap).head? ≠ some '.') :
    key.run (name.toList ++ c :: tail) = some ([name], (c :: tail).dropWhile isGap) := by
  have hbefore : skipGaps.run (name.toList ++ c :: tail) = some ((), name.toList ++ c :: tail) := by
    obtain ⟨d, ds, hname, hd, -⟩ := exists_of_isKeyName h
    rw [hname]
    exact run_skipGaps_of_ne (isGap_of_isKeyChar hd)
  have hbehind : skipGaps.run (c :: tail) = some ((), (c :: tail).dropWhile isGap) := rfl
  rw [key, levels, keyParts, run_bind_of_some hbefore, run_bind_of_some (run_keyPart h hstop),
    run_bind_of_some hbehind, run_bind_of_some (run_accept_of_head? hdot)]
  rfl

/-! ## Statements -/

theorem run_lineEnd (rest : List Char) : lineEnd.run ('\n' :: rest) = some ((), rest) := rfl

theorem run_statement_table (h : isKeyName name) :
    statement.run ('[' :: (name.toList ++ ']' :: '\n' :: rest)) = some (.table [name], rest) := by
  have hkey : key.run (name.toList ++ ']' :: '\n' :: rest) = some ([name], ']' :: '\n' :: rest) :=
    run_key h rfl (by simp [isGap])
  show statement _ = _
  rw [statement.eq_2 _ fun _ => name_append_ne h, run_bind_of_some hkey, 
    run_bind_of_some ((run_char ']' ']' _).trans (if_pos rfl)), run_bind_of_some (run_lineEnd rest)]
  rfl

theorem run_statement_assign {text : List Char} {v : Toml} (h : isKeyName name)
    (hv : Spells text v) :
    statement.run (name.toList ++ ' ' :: '=' :: ' ' :: (text ++ '\n' :: rest)) =
      some (.assign [name] v, rest) := by
  have hkey : key.run (name.toList ++ ' ' :: '=' :: ' ' :: (text ++ '\n' :: rest)) =
      some ([name], '=' :: ' ' :: (text ++ '\n' :: rest)) := run_key h rfl (by simp [isGap])
  have hgap : skipGaps.run (' ' :: (text ++ '\n' :: rest)) = some ((), text ++ '\n' :: rest) := by
    have hstart := hv.start
    cases text with
    | nil => rfl
    | cons c text => exact run_skipGaps_of_ne (by simpa using hstart)
  show statement _ = _
  rw [statement.eq_3 _ (fun _ => name_append_ne h) (fun _ => name_append_ne h),
    run_bind_of_some hkey, run_bind_of_some ((run_char '=' '=' _).trans (if_pos rfl)),
    run_bind_of_some hgap]
  have hvalue := hv.read rest
    (2 * (name.toList ++ ' ' :: '=' :: ' ' :: (text ++ '\n' :: rest)).length + 2)
    (by simp only [List.length_append, List.length_cons]; omega)
  rw [run_bind_of_some hvalue, run_bind_of_some (run_lineEnd rest)]
  rfl

end

/-! ## Lines -/

/-- A text of some lines makes statements, whatever lines follow. -/
def Says (text : String) (said : List Statement) : Prop :=
  ∃ lines ≤ text.toList.length, ∀ fuel rest,
    statements? (fuel + lines) (text.toList ++ rest) = (statements? fuel rest).map (said ++ ·)

/-- A line that is neither empty nor a comment. -/
theorem statements?_statement {c : Char} {cs rest : List Char} {said : Statement} (fuel : Nat)
    (hc : c ∉ [' ', '\t', '#', '\n', '\r']) (h : statement.run (c :: cs) = some (said, rest)) :
    statements? (fuel + 1) (c :: cs) = (statements? fuel rest).map (said :: ·) := by
  have hc : ¬c = ' ' ∧ ¬c = '\t' ∧ ¬c = '#' ∧ ¬c = '\n' ∧ ¬c = '\r' := by simpa using hc
  have hgap : (c :: cs).dropWhile isGap = c :: cs :=
    List.dropWhile_cons_of_neg (by simp [isGap, hc])
  rw [statements?, hgap]
  simp [hc, h]

namespace Says

variable {text text' : String} {said said' : List Statement} {name : String}

theorem nil : Says "" [] := ⟨0, Nat.le_refl 0, fun fuel rest => by simp⟩

theorem append (h : Says text said) (h' : Says text' said') :
    Says (text ++ text') (said ++ said') := by
  obtain ⟨lines, hlines, h⟩ := h
  obtain ⟨lines', hlines', h'⟩ := h'
  refine ⟨lines' + lines, ?_, fun fuel rest => ?_⟩
  · rw [String.toList_append, List.length_append]
    omega
  · rw [← Nat.add_assoc, String.toList_append, List.append_assoc, h, h', Option.map_map]
    congr 1
    funext more
    exact (List.append_assoc said said' more).symm

theorem header (h : isKeyName name) (htext : text.toList = '[' :: (name.toList ++ [']', '\n'])) :
    Says text [.table [name]] := by
  refine ⟨1, by simp [htext], fun fuel rest => ?_⟩
  have htext : text.toList ++ rest = '[' :: (name.toList ++ ']' :: '\n' :: rest) := by
    simp [htext]
  rw [htext]
  exact statements?_statement fuel (by decide) (run_statement_table h)

/-- An empty line may stand in front of a header. -/
theorem spacedHeader (h : isKeyName name)
    (htext : text.toList = '\n' :: '[' :: (name.toList ++ [']', '\n'])) :
    Says text [.table [name]] := by
  refine ⟨2, by simp [htext], fun fuel rest => ?_⟩
  have htext : text.toList ++ rest = '\n' :: '[' :: (name.toList ++ ']' :: '\n' :: rest) := by
    simp [htext]
  rw [htext]
  have hblank : statements? (fuel + 2) ('\n' :: '[' :: (name.toList ++ ']' :: '\n' :: rest)) =
      statements? (fuel + 1) ('[' :: (name.toList ++ ']' :: '\n' :: rest)) := rfl
  rw [hblank]
  exact statements?_statement fuel (by decide) (run_statement_table h)

theorem line {v : Toml} (h : isKeyName name) (hv : Spells text.toList v) :
    Says (Config.line name text) [.assign [name] v] := by
  refine ⟨1, by simp [Config.line]; omega, fun fuel rest => ?_⟩
  have hstatement : statement.run
      (name.toList ++ ' ' :: '=' :: ' ' :: (text.toList ++ '\n' :: rest)) = _ :=
    run_statement_assign h hv
  have htext : (Config.line name text).toList ++ rest =
      name.toList ++ ' ' :: '=' :: ' ' :: (text.toList ++ '\n' :: rest) := by
    simp [Config.line]
  rw [htext]
  obtain ⟨c, cs, hname, hc, -⟩ := exists_of_isKeyName h
  rw [hname, List.cons_append] at hstatement ⊢
  have hother : [' ', '\t', '#', '\n', '\r'].all fun d => !isKeyChar d := by decide
  refine statements?_statement fuel (fun hmem => ?_) hstatement
  have hnot := List.all_eq_true.1 hother c hmem
  rw [Bool.not_eq_true'] at hnot
  exact ne_of_isKeyChar hc hnot rfl

theorem optionalLine (h : isKeyName name) (o : Option String) :
    Says (Config.optionalLine name o)
      (o.map fun text => Statement.assign [name] (.string text)).toList := by
  cases o with
  | none => exact nil
  | some text => exact line h (spells_string text)

end Says

/-- The document of a text is what its lines say. -/
theorem document?_of_lines {text : String} {said : List Statement} (h : Says text said)
    (hmark : text.toList.head? ≠ some '\uFEFF') : document? text = Statement.document? said := by
  have hdrop : dropOrderMark text.toList = text.toList := by
    unfold dropOrderMark
    split
    · rename_i heq
      rw [heq] at hmark
      exact absurd rfl hmark
    · rfl
  obtain ⟨lines, hlines, h⟩ := h
  have hfuel : text.toList.length + 1 = text.toList.length - lines + 1 + lines := by omega
  have h := h (text.toList.length - lines + 1) []
  rw [List.append_nil, ← hfuel] at h
  rw [document?, hdrop, h]
  show ((some []).map (said ++ ·)).bind Statement.document? = _
  rw [Option.map_some, List.append_nil, Option.bind_some]

/-! ## Tables -/

/-- The statements of tables that hold values only. -/
def statementsOf (tables : List (String × List (String × Toml))) : List Statement :=
  tables.flatMap fun table => .table [table.1] :: table.2.map fun entry => .assign [entry.1] entry.2

/-- A table while it is read. -/
def nodeOf (table : String × List (String × Toml)) : String × Node :=
  (table.1, .table .declared (table.2.map fun entry => (entry.1, .value entry.2)))

theorem update_append {key : String} {change : Option Node → Option Node} {before after : Entries}
    (h : key ∉ before.map Prod.fst) :
    Entries.update key change (before ++ after) =
      (Entries.update key change after).map (before ++ ·) := by
  induction before with
  | nil => simp
  | cons entry before ih =>
    rw [List.map_cons, List.mem_cons, not_or] at h
    rw [List.cons_append, Entries.update, if_neg (Ne.symm h.1), ih h.2, Option.map_map]
    rfl

/-- A new key is added at the end. -/
theorem update_of_not_mem {key : String} {change : Option Node → Option Node} {entries : Entries}
    {node : Node} (h : key ∉ entries.map Prod.fst) (hnode : change none = some node) :
    Entries.update key change entries = some (entries ++ [(key, node)]) := by
  have hupdate : Entries.update key change (entries ++ []) = _ := update_append h
  rw [List.append_nil] at hupdate
  rw [hupdate, Entries.update, hnode]
  rfl

section
variable {name key : String} {place : List String} {root inner : Entries} {v : Toml}

theorem run_table (h : name ∉ root.map Prod.fst) :
    Statement.run ⟨place, root⟩ (.table [name]) =
      some ⟨[name], root ++ [(name, .table .declared [])]⟩ := by
  have hdeclare : Entries.declare [name] root = some (root ++ [(name, .table .declared [])]) :=
    update_of_not_mem h rfl
  rw [Statement.run, hdeclare]
  rfl

theorem run_assign (hname : name ∉ root.map Prod.fst) (hkey : key ∉ inner.map Prod.fst) :
    Statement.run ⟨[name], root ++ [(name, .table .declared inner)]⟩ (.assign [key] v) =
      some ⟨[name], root ++ [(name, .table .declared (inner ++ [(key, .value v)]))]⟩ := by
  have hassign : Entries.assign [key] v .declared inner = some (inner ++ [(key, .value v)]) := by
    rw [Entries.assign]
    simp only [List.getLast?_singleton, List.dropLast_singleton, List.isEmpty_nil, eq_iff_iff,
      iff_true, Entries.descend, reduceCtorEq, ↓reduceIte]
    exact update_of_not_mem hkey rfl
  have hdescend : Entries.descend false (Entries.assign [key] v) [name] .declared
      (root ++ [(name, .table .declared inner)]) =
        some (root ++ [(name, .table .declared (inner ++ [(key, .value v)]))]) := by
    rw [Entries.descend, update_append hname, Entries.update]
    simp [Entries.descend, hassign]
  rw [Statement.run, hdescend]
  rfl

/-- The statements of a table put its values behind those that it has. -/
theorem run_assigns (hname : name ∉ root.map Prod.fst) {entries : List (String × Toml)}
    (hkeys : (inner.map Prod.fst ++ entries.map Prod.fst).Nodup) :
    (entries.map fun entry => Statement.assign [entry.1] entry.2).foldlM Statement.run
        ⟨[name], root ++ [(name, .table .declared inner)]⟩ =
      some ⟨[name], root ++ [(name, .table .declared
        (inner ++ entries.map fun entry => (entry.1, .value entry.2)))]⟩ := by
  induction entries generalizing inner with
  | nil => simp
  | cons entry entries ih =>
    have hkey : entry.1 ∉ inner.map Prod.fst := fun h =>
      (List.nodup_append.1 hkeys).2.2 _ h _ List.mem_cons_self rfl
    have hkeys : ((inner ++ [(entry.1, Node.value entry.2)]).map Prod.fst ++
        entries.map Prod.fst).Nodup := by simpa using hkeys
    rw [List.map_cons, List.foldlM_cons, run_assign hname hkey, Option.bind_eq_bind,
      Option.bind_some, ih hkeys, List.map_cons, List.append_assoc]
    rfl

/-- The statements of tables put them behind those that there are. -/
theorem run_statementsOf {tables : List (String × List (String × Toml))}
    (hnames : (root.map Prod.fst ++ tables.map Prod.fst).Nodup)
    (hkeys : ∀ table ∈ tables, (table.2.map Prod.fst).Nodup) :
    ∃ place', (statementsOf tables).foldlM Statement.run ⟨place, root⟩ =
      some ⟨place', root ++ tables.map nodeOf⟩ := by
  induction tables generalizing place root with
  | nil => exact ⟨place, by simp [statementsOf]⟩
  | cons table tables ih =>
    have hname : table.1 ∉ root.map Prod.fst := fun h =>
      (List.nodup_append.1 hnames).2.2 _ h _ List.mem_cons_self rfl
    have hnames : ((root ++ [nodeOf table]).map Prod.fst ++ tables.map Prod.fst).Nodup := by
      simpa [nodeOf] using hnames
    have hassigns : (table.2.map fun entry => Statement.assign [entry.1] entry.2).foldlM
        Statement.run ⟨[table.1], root ++ [(table.1, .table .declared [])]⟩ =
          some ⟨[table.1], root ++ [nodeOf table]⟩ :=
      run_assigns hname (hkeys table List.mem_cons_self)
    obtain ⟨place', ih⟩ := ih hnames fun t ht => hkeys t (List.mem_cons_of_mem table ht)
    refine ⟨place', ?_⟩
    rw [List.append_assoc] at ih
    rw [statementsOf, List.flatMap_cons, ← statementsOf, List.foldlM_append, List.foldlM_cons,
      run_table hname]
    show ((table.2.map fun entry => Statement.assign [entry.1] entry.2).foldlM
      Statement.run ⟨[table.1], root ++ [(table.1, .table .declared [])]⟩).bind _ = _
    rw [hassigns]
    exact ih

end

theorem entriesToToml_map (entries : List (String × Toml)) :
    Node.entriesToToml (entries.map fun entry => (entry.1, .value entry.2)) = entries := by
  induction entries with
  | nil => rfl
  | cons entry entries ih => rw [List.map_cons, Node.entriesToToml, Node.toToml, ih]

theorem entriesToToml_nodeOf (tables : List (String × List (String × Toml))) :
    Node.entriesToToml (tables.map nodeOf) = tables.map fun table => (table.1, .table table.2) := by
  induction tables with
  | nil => rfl
  | cons table tables ih =>
    rw [List.map_cons, nodeOf, Node.entriesToToml, Node.toToml, entriesToToml_map, ih]
    rfl

/-- Tables with names of their own, each with keys of its own, are the document that their
statements make. -/
theorem document?_statementsOf {tables : List (String × List (String × Toml))}
    (hnames : (tables.map Prod.fst).Nodup)
    (hkeys : ∀ table ∈ tables, (table.2.map Prod.fst).Nodup) :
    Statement.document? (statementsOf tables) =
      some (tables.map fun table => (table.1, .table table.2)) := by
  have hrun : ∃ place, (statementsOf tables).foldlM Statement.run ⟨[], []⟩ =
      some ⟨place, [] ++ tables.map nodeOf⟩ := run_statementsOf hnames hkeys
  obtain ⟨place, hrun⟩ := hrun
  rw [Statement.document?, hrun, Option.map_some, List.nil_append, entriesToToml_nodeOf]

end Toml

end Logbook
