import TraceRelay.Proofs.Toml.Value

/-!
# Sections that are written are read back

A section is a header and a line for each field. The lines of some sections are read one after the
other into statements, and the statements make up a table for each section, in which its fields
stand in order, as long as no name is used twice.
-/

namespace TraceRelay.Toml

open Text

/-- A field: its name, what is written of its value, and the value. -/
structure Field where
  name : String
  written : List Char
  node : Node

/-- The line of a field. -/
def Field.line (f : Field) : List Char :=
  Settings.renderField f.name f.written

/-- The statement of a field. -/
def Field.statement (f : Field) : Statement :=
  .assign [] f.name f.node

/-- Whether the field's name needs no quotes, and what is written denotes its value. -/
structure Field.Sound (f : Field) : Prop where
  bare : IsRun isBareKey f.name.toList
  denotes : Denotes 0 f.written f.node

/-- A table with a header of its own. -/
structure Section where
  name : String
  fields : List Field

namespace Section

/-- The lines of a section. -/
def lines (s : Section) : List Char :=
  '[' :: (s.name.toList ++ [']', '\n']) ++ s.fields.flatMap Field.line

/-- The statements of a section. -/
def statements (s : Section) : List Statement :=
  .header [] s.name :: s.fields.map Field.statement

/-- The named values of a section. -/
def entries (s : Section) : Entries :=
  s.fields.map fun f => (f.name, f.node)

/-- The table of a section under its name. -/
def entry (s : Section) : String × Node :=
  (s.name, .table .header s.entries)

/-- Whether the section's name and its fields can be written, and each field has a name of its
own. -/
structure Sound (s : Section) : Prop where
  bare : IsRun isBareKey s.name.toList
  fields : ∀ f ∈ s.fields, f.Sound
  names : (s.fields.map Field.name).Nodup

end Section

/-- Whether a name needs no quotes. -/
def isBareName (name : String) : Bool :=
  !name.toList.isEmpty && name.toList.all isBareKey

theorem isRun_of_isBareName {name : String} (h : isBareName name = true) :
    IsRun isBareKey name.toList := by
  rw [isBareName, Bool.and_eq_true, Bool.not_eq_true', List.isEmpty_eq_false_iff,
    List.all_eq_true] at h
  exact h

/-- A section can be written if the names of its fields are some of a table of names, in order, and
what is written of each field denotes its value. -/
theorem Section.sound_of_sublist {name : String} {fields : List Field} {names : List String}
    (hbare : isBareName name = true) (hnames : names.all isBareName = true) (hnodup : names.Nodup)
    (hsublist : (fields.map Field.name).Sublist names)
    (hdenotes : ∀ f ∈ fields, Denotes 0 f.written f.node) : Section.Sound ⟨name, fields⟩ where
  bare := isRun_of_isBareName hbare
  fields f hf := by
    have hname := hsublist.subset (List.mem_map_of_mem hf)
    exact ⟨isRun_of_isBareName (List.all_eq_true.mp hnames _ hname), hdenotes f hf⟩
  names := hsublist.nodup hnodup

/-! ## Keys -/

section Keys

variable {name : String} {rest : List Char}

theorem not_gap_of_bare {c : Char} (h : isBareKey c = true) : isGap c = false := by
  rw [Bool.eq_false_iff]
  intro hgap
  simp only [isGap, isBlank, Bool.or_eq_true, decide_eq_true_eq] at hgap
  rcases hgap with (((rfl | rfl) | rfl) | rfl) | rfl <;> cases h

/-- A name without quotes is read as a key of one part. -/
theorem key?_bare (h : IsRun isBareKey name.toList) (hrest : ¬Begins isBareKey rest)
    (hdot : '.' ∉ (skipBlanks rest).head?) :
    key? (name.toList ++ rest) = some (([], name), skipBlanks rest) := by
  have hgap : ¬Begins isGap (name.toList ++ rest) :=
    h.begins_append rest fun c hc => not_gap_of_bare hc
  have hrun : run? isBareKey (name.toList ++ rest) = some (name.toList, rest) :=
    run?_eq_some_iff.mpr ⟨h, hrest, rfl⟩
  have hpart : keyPart? (name.toList ++ rest) = some (name, rest) := by
    simp [keyPart?, hrun]
  have hfrom : keyFrom ((name.toList ++ rest).length + 1) (name.toList ++ rest) =
      some (([], name), skipBlanks rest) := by
    rw [keyFrom, skipBlanks_of_not_gap hgap, hpart]
    simp only [Option.bind_eq_bind, Option.bind_some]
    split
    · next heq =>
      rw [heq] at hdot
      exact absurd rfl hdot
    · rfl
  rw [key?, hfrom]
  rfl

end Keys

/-! ## Statements -/

section Statements

variable {name : String}

theorem endOfLine?_newline (rest : List Char) : endOfLine? ('\n' :: rest) = some rest := rfl

/-- The line of a field is its statement. -/
theorem statement?_line {f : Field} (h : f.Sound) (rest : List Char) :
    statement? (f.line ++ rest) = some (f.statement, rest) := by
  let after := ' ' :: (f.written ++ '\n' :: rest)
  have hline : f.line ++ rest = f.name.toList ++ (' ' :: '=' :: after) := by
    simp [Field.line, Settings.renderField, after]
  have hgap : ¬Begins isGap (f.written ++ '\n' :: rest) := not_gap_of_opens h.denotes.opens _
  have hkey : key? (f.name.toList ++ (' ' :: '=' :: after)) =
      some (([], f.name), '=' :: after) :=
    key?_bare h.bare (by simp [isBareKey, isDigit]) (by simp [skipBlanks, isBlank])
  have hskip : skipBlanks after = f.written ++ '\n' :: rest := skipBlanks_of_not_gap hgap
  have hvalue : value? (2 * after.length + 2) 0 (f.written ++ '\n' :: rest) =
      some (f.node, '\n' :: rest) := by
    refine h.denotes.read _ _ ?_ (by simp [isEnd])
    simp only [after, List.length_cons, List.length_append]
    omega
  obtain ⟨c, tail, hname, hc⟩ := h.bare.exists_cons
  have hbracket : c ≠ '[' := by
    rintro rfl
    cases hc
  rw [hline]
  unfold statement?
  split
  · next heq =>
    rw [hname, List.cons_append, List.cons.injEq] at heq
    exact absurd heq.1 hbracket
  · next heq =>
    rw [hname, List.cons_append, List.cons.injEq] at heq
    exact absurd heq.1 hbracket
  · simp [hkey, after?, hskip, hvalue, endOfLine?_newline, Field.statement]

theorem statement?_header (h : IsRun isBareKey name.toList) (rest : List Char) :
    statement? ('[' :: (name.toList ++ ']' :: '\n' :: rest)) = some (.header [] name, rest) := by
  have hkey : key? (name.toList ++ ']' :: '\n' :: rest) = some (([], name), ']' :: '\n' :: rest) :=
    key?_bare h (by simp [isBareKey, isDigit]) (by simp [skipBlanks, isBlank])
  obtain ⟨c, tail, hname, hc⟩ := h.exists_cons
  have hbracket : c ≠ '[' := by
    rintro rfl
    cases hc
  unfold statement?
  split
  · next heq =>
    rw [hname, List.cons_append, List.cons.injEq, List.cons.injEq] at heq
    exact absurd heq.2.1 hbracket
  · next heq =>
    rw [List.cons.injEq] at heq
    rw [← heq.2, hkey]
    simp [after?, endOfLine?_newline]
  · next hnot => exact absurd rfl (hnot _)

end Statements

/-! ## Texts of several statements -/

/-- The text is some statements, whatever follows. Each takes one unit of the reader's fuel. -/
structure States (text : List Char) (statements : List Statement) : Prop where
  length_le : statements.length ≤ text.length
  read : ∀ fuel rest, statementsFrom? (fuel + statements.length) (text ++ rest) =
    (statementsFrom? fuel rest).map (statements ++ ·)

namespace States

variable {text text' : List Char} {statements statements' : List Statement}

theorem append (h : States text statements) (h' : States text' statements') :
    States (text ++ text') (statements ++ statements') := by
  refine ⟨?_, fun fuel rest => ?_⟩
  · rw [List.length_append, List.length_append]
    exact Nat.add_le_add h.length_le h'.length_le
  · rw [List.append_assoc, List.length_append, Nat.add_comm statements.length, ← Nat.add_assoc,
      h.read, h'.read]
    simp [Function.comp_def]

theorem nil : States [] [] :=
  ⟨Nat.le_refl _, fun fuel rest => by simp⟩

/-- An empty line is no statement. -/
theorem newline : States ['\n'] [] := by
  refine ⟨Nat.zero_le _, fun fuel rest => ?_⟩
  cases fuel with
  | zero => rfl
  | succ fuel => simp [statementsFrom?, skipLines_newline]

/-- A line that is a statement. -/
theorem of_statement {statement : Statement} (hne : text ≠ []) (hgap : ¬Begins isGap text)
    (h : ∀ rest, statement? (text ++ rest) = some (statement, rest)) :
    States text [statement] := by
  obtain ⟨c, tail, rfl⟩ := List.exists_cons_of_ne_nil hne
  refine ⟨by simp, fun fuel rest => ?_⟩
  rw [begins_cons] at hgap
  have hcomment : c ≠ '#' := by
    rintro rfl
    exact hgap (by decide)
  have hread := h rest
  rw [List.cons_append] at hread ⊢
  rw [List.length_singleton, statementsFrom?,
    skipLines_of_not_gap (by rwa [begins_cons])]
  simp [hcomment, hread, Option.map_eq_bind]

theorem field {f : Field} (h : f.Sound) : States f.line [f.statement] := by
  have hline := (h.bare.begins_append (" = ".toList ++ f.written ++ ['\n'])
    fun c hc => not_gap_of_bare hc)
  rw [← List.append_assoc, ← List.append_assoc] at hline
  refine of_statement ?_ hline (statement?_line h)
  obtain ⟨c, tail, hname, -⟩ := h.bare.exists_cons
  simp [Field.line, Settings.renderField]

theorem fields {fs : List Field} (h : ∀ f ∈ fs, f.Sound) :
    States (fs.flatMap Field.line) (fs.map Field.statement) := by
  induction fs with
  | nil => exact nil
  | cons f fs ih =>
    obtain ⟨hf, hfs⟩ := List.forall_mem_cons.mp h
    exact (field hf).append (ih hfs)

theorem header {name : String} (h : IsRun isBareKey name.toList) :
    States ('[' :: (name.toList ++ [']', '\n'])) [.header [] name] := by
  refine of_statement (by simp) (by simp [isGap, isBlank]) fun rest => ?_
  rw [List.cons_append, List.append_assoc]
  exact statement?_header h rest

/-- The lines of a section are its statements. -/
theorem ofSection {s : Section} (h : s.Sound) : States s.lines s.statements :=
  (header h.bare).append (fields h.fields)

end States

/-- A text that is some statements makes up the document of these. -/
theorem parse?_of_states {text : List Char} {statements : List Statement}
    (h : States text statements) (hmark : '\uFEFF' ∉ text.head?) :
    parse? text = Entries.ofStatements? statements := by
  have hnone : after? ['\uFEFF'] text = none := by
    refine after?_singleton_eq_none ?_
    rintro ⟨c, hc, heq⟩
    rw [of_decide_eq_true heq] at hc
    exact hmark hc
  -- The fuel is enough for the statements and for the end of the text.
  obtain ⟨left, hleft⟩ : ∃ left, text.length + 1 = (left + 1) + statements.length :=
    ⟨text.length - statements.length, by have := h.length_le; omega⟩
  have hread := h.read (left + 1) []
  have hend : statementsFrom? (left + 1) [] = some [] := rfl
  rw [List.append_nil, ← hleft, hend] at hread
  rw [parse?, hnone, Option.getD_none, hread]
  simp

/-! ## Tables -/

section Tables

variable {entries : Entries} {key : String} {node : Node}

theorem lookup_eq_none_of_not_mem (h : key ∉ entries.map Prod.fst) : entries.lookup key = none := by
  rw [List.lookup_eq_none_iff]
  rintro ⟨name, value⟩ hmem
  have hne : key ≠ name := fun heq => h (List.mem_map.mpr ⟨_, hmem, heq.symm⟩)
  simpa using hne

/-- A node under a new name comes last. -/
theorem put_of_not_mem (h : key ∉ entries.map Prod.fst) (node : Node) :
    Entries.put key node entries = entries ++ [(key, node)] := by
  induction entries with
  | nil => rfl
  | cons entry entries ih =>
    rw [List.map_cons, List.mem_cons, not_or] at h
    rw [Entries.put, if_neg (Ne.symm h.1), ih h.2]
    rfl

/-- A node under the last name takes its place. -/
theorem put_last (h : key ∉ entries.map Prod.fst) (node other : Node) :
    Entries.put key node (entries ++ [(key, other)]) = entries ++ [(key, node)] := by
  induction entries with
  | nil => simp [Entries.put]
  | cons entry entries ih =>
    rw [List.map_cons, List.mem_cons, not_or] at h
    rw [List.cons_append, Entries.put, if_neg (Ne.symm h.1), ih h.2]
    rfl

theorem lookup_last (h : key ∉ entries.map Prod.fst) (node : Node) :
    (entries ++ [(key, node)]).lookup key = some node := by
  rw [List.lookup_append, lookup_eq_none_of_not_mem h]
  simp

/-- A field of a new name comes last in its table. -/
theorem assign_of_not_mem (h : key ∉ entries.map Prod.fst) (node : Node) :
    entries.assign [] key node = some (entries ++ [(key, node)]) := by
  simp [Entries.assign, Entries.atPath, lookup_eq_none_of_not_mem h, put_of_not_mem h]

/-- The field of a document that has no section yet. -/
theorem add_field (h : key ∉ entries.map Prod.fst) (node : Node) :
    Draft.add ⟨entries, []⟩ (.assign [] key node) = some ⟨entries ++ [(key, node)], []⟩ := by
  simp [Draft.add, Entries.atPath, assign_of_not_mem h]

/-- The header of a new section. -/
theorem add_header (h : key ∉ entries.map Prod.fst) (current : List String) :
    Draft.add ⟨entries, current⟩ (.header [] key) =
      some ⟨entries ++ [(key, .table .header [])], [key]⟩ := by
  simp [Draft.add, Entries.openTable, Entries.atPath, lookup_eq_none_of_not_mem h,
    put_of_not_mem h]

/-- A field of the last section. -/
theorem add_to_section {name : String} {table : Entries} (hname : name ∉ entries.map Prod.fst)
    (h : key ∉ table.map Prod.fst) (node : Node) :
    Draft.add ⟨entries ++ [(name, .table .header table)], [name]⟩ (.assign [] key node) =
      some ⟨entries ++ [(name, .table .header (table ++ [(key, node)]))], [name]⟩ := by
  simp [Draft.add, Entries.atPath, lookup_last hname, assign_of_not_mem h, put_last hname]

/-- The fields of the last section, added in order. -/
theorem foldlM_fields {name : String} (hname : name ∉ entries.map Prod.fst) {table : Entries}
    {fs : List Field} (hnames : (table.map Prod.fst ++ fs.map Field.name).Nodup) :
    (fs.map Field.statement).foldlM Draft.add
        ⟨entries ++ [(name, .table .header table)], [name]⟩ =
      some ⟨entries ++ [(name, .table .header (table ++ fs.map fun f => (f.name, f.node)))],
        [name]⟩ := by
  induction fs generalizing table with
  | nil => simp
  | cons f fs ih =>
    have hf : f.name ∉ table.map Prod.fst := by
      rw [List.nodup_append] at hnames
      exact fun hmem => hnames.2.2 _ hmem _ (by simp) rfl
    have hrest : ((table ++ [(f.name, f.node)]).map Prod.fst ++ fs.map Field.name).Nodup := by
      simpa using hnames
    rw [List.map_cons, List.foldlM_cons, Field.statement, add_to_section hname hf]
    simp [ih hrest]

/-- A section of a new name is added with all its fields. -/
theorem foldlM_section {s : Section} (h : s.Sound) (hname : s.name ∉ entries.map Prod.fst)
    (current : List String) :
    s.statements.foldlM Draft.add ⟨entries, current⟩ =
      some ⟨entries ++ [s.entry], [s.name]⟩ := by
  rw [Section.statements, List.foldlM_cons, add_header hname]
  have hnames : ((([] : Entries).map Prod.fst) ++ s.fields.map Field.name).Nodup := h.names
  have hfields := foldlM_fields hname hnames
  simpa [Section.entry, Section.entries] using hfields

/-- **The statements of sections make up their tables**, in order and after what came before. -/
theorem foldlM_sections {sections : List Section} (h : ∀ s ∈ sections, s.Sound)
    (hnames : (entries.map Prod.fst ++ sections.map Section.name).Nodup) (current : List String) :
    ((sections.flatMap Section.statements).foldlM Draft.add ⟨entries, current⟩).map
      Draft.entries = some (entries ++ sections.map Section.entry) := by
  induction sections generalizing entries current with
  | nil => simp
  | cons s sections ih =>
    obtain ⟨hs, hsections⟩ := List.forall_mem_cons.mp h
    have hname : s.name ∉ entries.map Prod.fst := by
      rw [List.nodup_append] at hnames
      exact fun hmem => hnames.2.2 _ hmem _ (by simp) rfl
    have hrest : ((entries ++ [s.entry]).map Prod.fst ++ sections.map Section.name).Nodup := by
      simpa [Section.entry] using hnames
    rw [List.flatMap_cons, List.foldlM_append, foldlM_section hs hname]
    simpa using ih hsections hrest [s.name]

end Tables

end TraceRelay.Toml
