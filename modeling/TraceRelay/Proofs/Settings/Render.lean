import TraceRelay.Proofs.Except
import TraceRelay.Proofs.Toml.Document
import TraceRelay.Settings.Load

/-!
# Settings that are written are read back

Settings that can be written are three sections, each with all its fields but a limit that is not
set; and the settings of a document of these sections are the settings that were written. So nothing
of the settings is lost or changed, whatever the texts and numbers in them, and whatever other
fields stand before the sections.
-/

namespace TraceRelay

open Text Toml

/-! ## Fields -/

namespace Toml.Field

/-- A field that is a text. -/
def ofText (name text : String) : Field :=
  ⟨name, writeString text, .string text⟩

/-- A field that is a list of texts. -/
def ofTexts (name : String) (texts : List String) : Field :=
  ⟨name, Settings.renderList (texts.map writeString), .array (texts.map .string)⟩

/-- A field that is a number of 32 bits. -/
def ofUInt32 (name : String) (n : UInt32) : Field :=
  ⟨name, Settings.renderUInt32 n, .integer n.toNat⟩

/-- A field that is a list of such numbers. -/
def ofUInt32s (name : String) (ns : List UInt32) : Field :=
  ⟨name, Settings.renderList (ns.map Settings.renderUInt32),
    .array (ns.map fun n => .integer n.toNat)⟩

/-- A field that is a number of 64 bits. -/
def ofUInt64 (name : String) (n : UInt64) : Field :=
  ⟨name, n.toNat.repr.toList, .integer n.toNat⟩

/-- A list denotes its items if what is written of each denotes it. -/
theorem denotes_map {α : Type} {write : α → List Char} {node : α → Node}
    (h : ∀ item, Denotes 1 (write item) (node item)) (items : List α) :
    Denotes 0 (Settings.renderList (items.map write)) (.array (items.map node)) := by
  have hlist := @denotes_list 0 (by decide) (items.map fun item => (write item, node item))
    (by simpa using fun item _ => h item)
  simpa [Function.comp_def] using hlist

theorem denotes_uint32 (depth : Nat) (n : UInt32) :
    Denotes depth (Settings.renderUInt32 n) (.integer n.toNat) := by
  refine denotes_natural depth ?_
  have hlt := n.toNat_lt
  have hmax : Int64.maxValue.toInt.toNat = 2 ^ 63 - 1 := by decide
  omega

variable (name : String)

theorem denotes_ofText (text : String) :
    Denotes 0 (ofText name text).written (ofText name text).node :=
  denotes_string 0 text

theorem denotes_ofTexts (texts : List String) :
    Denotes 0 (ofTexts name texts).written (ofTexts name texts).node :=
  denotes_map (denotes_string 1) texts

theorem denotes_ofUInt32 (n : UInt32) :
    Denotes 0 (ofUInt32 name n).written (ofUInt32 name n).node :=
  denotes_uint32 0 n

theorem denotes_ofUInt32s (ns : List UInt32) :
    Denotes 0 (ofUInt32s name ns).written (ofUInt32s name ns).node :=
  denotes_map (denotes_uint32 1) ns

theorem denotes_ofUInt64 {n : UInt64} (hbound : n.toNat ≤ Int64.maxValue.toInt.toNat) :
    Denotes 0 (ofUInt64 name n).written (ofUInt64 name n).node :=
  denotes_natural 0 hbound

end Toml.Field

/-! ## What fields hold -/

namespace Toml

theorem Node.natural?_integer {n limit : Nat} (h : n < limit) :
    (Node.integer n).natural? limit = some n := by
  simp [Node.natural?, h]

theorem Node.uint32?_integer (n : UInt32) : (Node.integer n.toNat).uint32? = some n := by
  simp [Node.uint32?, Node.natural?_integer n.toNat_lt_size]

theorem Node.uint64?_integer (n : UInt64) : (Node.integer n.toNat).uint64? = some n := by
  simp [Node.uint64?, Node.natural?_integer n.toNat_lt_size]

/-- A list is read back if each of its items is. -/
theorem Node.list?_map {α : Type} {item? : Node → Option α} {node : α → Node}
    (h : ∀ item, item? (node item) = some item) (items : List α) :
    (Node.array (items.map node)).list? item? = some items := by
  rw [Node.list?]
  induction items with
  | nil => rfl
  | cons item items ih => simp [h, ih]

theorem Node.list?_texts (texts : List String) :
    (Node.array (texts.map .string)).list? text? = some texts :=
  @Node.list?_map String text? .string (fun _ => rfl) texts

theorem Node.list?_uint32s (ns : List UInt32) :
    (Node.array (ns.map fun n => .integer n.toNat)).list? uint32? = some ns :=
  Node.list?_map Node.uint32?_integer ns

section Entries

variable {α : Type} {name : String} {node : Node} {entries : Entries} {read? : Node → Option α}
  {default : α}

theorem Entries.field_nil : Entries.field [] name read? default = some default := rfl

theorem Entries.field_cons_self :
    Entries.field ((name, node) :: entries) name read? default = read? node := by
  simp [Entries.field]

theorem Entries.field_cons_of_ne {other : String} (h : name ≠ other) :
    Entries.field ((other, node) :: entries) name read? default =
      entries.field name read? default := by
  have hne : (name == other) = false := beq_false_of_ne h
  simp [Entries.field, List.lookup_cons, hne]

theorem Entries.section?_cons_self {fields : List String} {read? : Entries → Option α}
    {table : Entries} :
    Entries.section? ((name, .table .header table) :: entries) name fields read? default =
      read? table :=
  field_cons_self

theorem Entries.section?_cons_of_ne {fields : List String} {read? : Entries → Option α}
    {other : String} (h : name ≠ other) :
    Entries.section? ((other, node) :: entries) name fields read? default =
      entries.section? name fields read? default :=
  field_cons_of_ne h

end Entries

end Toml

/-! ## Sections -/

/-- A number that can be written has 63 bits, and is written as its digits. -/
theorem Settings.renderUInt64_eq_ok {n : UInt64} {written : List Char}
    (h : renderUInt64 n = .ok written) :
    written = n.toNat.repr.toList ∧ n.toNat ≤ Int64.maxValue.toInt.toNat := by
  by_cases hle : n.toNat ≤ Int64.maxValue.toInt.toNat
  · rw [renderUInt64, if_pos hle] at h
    exact ⟨(Except.ok.inj h).symm, hle⟩
  · rw [renderUInt64, if_neg hle] at h
    cases h

namespace LookupSettings

/-- The section of the lookup. -/
def toSection (s : LookupSettings) : Section where
  name := "lookup"
  fields := [.ofText "command" s.command, .ofTexts "args" s.args,
    .ofUInt64 "retry_interval_ms" s.retryInterval] ++
      (s.maxAttempts.map (.ofUInt32 "max_attempts")).toList

/-- The fields that are written are those that are read, in order, but a limit that is not set. -/
theorem names_sublist (s : LookupSettings) :
    (s.toSection.fields.map Field.name).Sublist fieldNames := by
  obtain ⟨command, args, retryInterval, _ | maxAttempts⟩ := s
  · exact List.sublist_append_left ["command", "args", "retry_interval_ms"] ["max_attempts"]
  · exact List.Sublist.refl _

theorem sound_toSection {s : LookupSettings}
    (h : s.retryInterval.toNat ≤ Int64.maxValue.toInt.toNat) : s.toSection.Sound := by
  refine Section.sound_of_sublist (by rfl) (by rfl) (by decide) s.names_sublist ?_
  simp only [List.forall_mem_append, List.forall_mem_cons]
  refine ⟨⟨Field.denotes_ofText .., Field.denotes_ofTexts .., Field.denotes_ofUInt64 _ h, nofun⟩,
    fun f hf => ?_⟩
  obtain ⟨n, -, rfl⟩ := Option.map_eq_some_iff.mp (Option.mem_toList.mp hf)
  exact Field.denotes_ofUInt32 _ n

/-- A lookup that can be written is its section. -/
theorem render_eq_ok {s : LookupSettings} {written : List Char} (h : s.render = .ok written) :
    written = s.toSection.lines ∧ s.toSection.Sound := by
  obtain ⟨interval, hinterval, h⟩ := bind_eq_ok_iff.mp h
  obtain ⟨rfl, hbound⟩ := Settings.renderUInt64_eq_ok hinterval
  obtain rfl := Except.ok.inj h
  refine ⟨?_, sound_toSection hbound⟩
  obtain ⟨command, args, retryInterval, _ | maxAttempts⟩ := s <;>
    simp [toSection, Section.lines, Field.line, Field.ofText, Field.ofTexts, Field.ofUInt32,
      Field.ofUInt64]

/-- The section of a lookup holds the lookup. -/
theorem ofEntries?_toSection (s : LookupSettings) : ofEntries? s.toSection.entries = some s := by
  obtain ⟨command, args, retryInterval, _ | maxAttempts⟩ := s <;>
    simp [ofEntries?, toSection, Section.entries, Field.ofText, Field.ofTexts, Field.ofUInt32,
      Field.ofUInt64, Entries.field_cons_self, Entries.field_cons_of_ne, Entries.field_nil,
      Node.text?, Node.list?_texts, Node.uint32?_integer, Node.uint64?_integer]

end LookupSettings

namespace TracerSettings

/-- The section of the tracer. -/
def toSection (s : TracerSettings) : Section where
  name := "tracer"
  fields := [.ofText "command" s.command, .ofTexts "args" s.args,
    .ofUInt32 "string_limit" s.stringLimit, .ofUInt64 "restart_delay_ms" s.restartDelay,
    .ofUInt64 "max_restart_delay_ms" s.maxRestartDelay,
    .ofUInt32 "max_consecutive_failures" s.maxConsecutiveFailures,
    .ofUInt64 "stop_grace_ms" s.stopGrace]

theorem sound_toSection {s : TracerSettings}
    (hrestart : s.restartDelay.toNat ≤ Int64.maxValue.toInt.toNat)
    (hmax : s.maxRestartDelay.toNat ≤ Int64.maxValue.toInt.toNat)
    (hgrace : s.stopGrace.toNat ≤ Int64.maxValue.toInt.toNat) : s.toSection.Sound := by
  refine Section.sound_of_sublist (by rfl) (by rfl) (by decide) (List.Sublist.refl fieldNames) ?_
  simp only [List.forall_mem_cons]
  exact ⟨Field.denotes_ofText .., Field.denotes_ofTexts .., Field.denotes_ofUInt32 ..,
    Field.denotes_ofUInt64 _ hrestart, Field.denotes_ofUInt64 _ hmax, Field.denotes_ofUInt32 ..,
    Field.denotes_ofUInt64 _ hgrace, nofun⟩

/-- A tracer that can be written is its section. -/
theorem render_eq_ok {s : TracerSettings} {written : List Char} (h : s.render = .ok written) :
    written = s.toSection.lines ∧ s.toSection.Sound := by
  obtain ⟨restart, hrestart, h⟩ := bind_eq_ok_iff.mp h
  obtain ⟨max, hmax, h⟩ := bind_eq_ok_iff.mp h
  obtain ⟨grace, hgrace, h⟩ := bind_eq_ok_iff.mp h
  obtain ⟨rfl, hrestart'⟩ := Settings.renderUInt64_eq_ok hrestart
  obtain ⟨rfl, hmax'⟩ := Settings.renderUInt64_eq_ok hmax
  obtain ⟨rfl, hgrace'⟩ := Settings.renderUInt64_eq_ok hgrace
  obtain rfl := Except.ok.inj h
  refine ⟨?_, sound_toSection hrestart' hmax' hgrace'⟩
  simp [toSection, Section.lines, Field.line, Field.ofText, Field.ofTexts, Field.ofUInt32,
    Field.ofUInt64]

/-- The section of a tracer holds the tracer. -/
theorem ofEntries?_toSection (s : TracerSettings) : ofEntries? s.toSection.entries = some s := by
  simp [ofEntries?, toSection, Section.entries, Field.ofText, Field.ofTexts, Field.ofUInt32,
    Field.ofUInt64, Entries.field_cons_self, Entries.field_cons_of_ne, Node.text?,
    Node.list?_texts, Node.uint32?_integer, Node.uint64?_integer]

end TracerSettings

namespace FilterSettings

/-- The section of the filter. -/
def toSection (s : FilterSettings) : Section where
  name := "filter"
  fields := [.ofUInt32s "fds" s.fds]

theorem sound_toSection (s : FilterSettings) : s.toSection.Sound := by
  refine Section.sound_of_sublist (by rfl) (by rfl) (by decide) (List.Sublist.refl fieldNames) ?_
  simp only [List.forall_mem_cons]
  exact ⟨Field.denotes_ofUInt32s .., nofun⟩

/-- A filter is its section. -/
theorem render_eq (s : FilterSettings) : s.render = s.toSection.lines := by
  unfold render
  simp [toSection, Section.lines, Field.line, Field.ofUInt32s]

/-- The section of a filter holds the filter. -/
theorem ofEntries?_toSection (s : FilterSettings) : ofEntries? s.toSection.entries = some s := by
  simp [ofEntries?, toSection, Section.entries, Field.ofUInt32s, Entries.field_cons_self,
    Node.list?_uint32s]

end FilterSettings

/-! ## Documents -/

namespace Settings

/-- The sections of all settings. -/
def sections (settings : Settings) : List Section :=
  [settings.lookup.toSection, settings.tracer.toSection, settings.filter.toSection]

/-- Settings that can be written are their sections, with empty lines between them. -/
theorem render_eq_ok {settings : Settings} {rendered : String}
    (h : settings.render = .ok rendered) :
    States rendered.toList (settings.sections.flatMap Section.statements) ∧
      ∀ s ∈ settings.sections, s.Sound := by
  obtain ⟨lookup, hlookup, h⟩ := bind_eq_ok_iff.mp h
  obtain ⟨tracer, htracer, h⟩ := bind_eq_ok_iff.mp h
  obtain ⟨rfl, hlookup'⟩ := LookupSettings.render_eq_ok hlookup
  obtain ⟨rfl, htracer'⟩ := TracerSettings.render_eq_ok htracer
  obtain rfl := Except.ok.inj h
  have hfilter := settings.filter.sound_toSection
  have hstates := ((((States.ofSection hlookup').append .newline).append
    (.ofSection htracer')).append .newline).append (.ofSection hfilter)
  refine ⟨?_, ?_⟩
  · simpa [sections, FilterSettings.render_eq] using hstates
  · simpa [sections] using ⟨hlookup', htracer', hfilter⟩

theorem names_sections (settings : Settings) :
    settings.sections.map Section.name = ["lookup", "tracer", "filter"] := rfl

theorem entries_sections (settings : Settings) :
    settings.sections.map Section.entry =
      [("lookup", .table .header settings.lookup.toSection.entries),
        ("tracer", .table .header settings.tracer.toSection.entries),
        ("filter", .table .header settings.filter.toSection.entries)] := rfl

/-- A document of the sections holds the settings, whatever field stands before them. -/
theorem ofDocument?_sections (settings : Settings) {key : String} {node : Node}
    (h : key ∉ settings.sections.map Section.name) :
    ofDocument? ((key, node) :: settings.sections.map Section.entry) = some settings := by
  simp only [names_sections, List.mem_cons, List.not_mem_nil, or_false, not_or] at h
  obtain ⟨hlookup, htracer, hfilter⟩ := h
  simp [ofDocument?, entries_sections, Entries.section?_cons_self, Entries.section?_cons_of_ne,
    Ne.symm hlookup, Ne.symm htracer, Ne.symm hfilter, LookupSettings.ofEntries?_toSection,
    TracerSettings.ofEntries?_toSection, FilterSettings.ofEntries?_toSection]

/-- **Settings that are written are read back**, with a field of another name before them. -/
theorem ofText?_render {settings : Settings} {rendered : String}
    (h : settings.render = .ok rendered) {f : Field} (hf : f.Sound)
    (hname : f.name ∉ settings.sections.map Section.name) :
    ofText? (f.line ++ rendered.toList) = some settings := by
  obtain ⟨hstates, hsections⟩ := render_eq_ok h
  have hmark : '\uFEFF' ∉ (f.line ++ rendered.toList).head? := by
    obtain ⟨c, rest, hcons, hc⟩ := hf.bare.exists_cons
    intro hmem
    rw [Field.line, Settings.renderField, hcons] at hmem
    obtain rfl := Option.some.inj hmem
    cases hc
  have hparse := parse?_of_states ((States.field hf).append hstates) hmark
  -- The field comes first in the document, and then a table for each section.
  have hadd : Draft.add {} f.statement = some ⟨[(f.name, f.node)], []⟩ :=
    add_field List.not_mem_nil f.node
  have hnames : ([(f.name, f.node)].map Prod.fst ++ settings.sections.map Section.name).Nodup := by
    rw [List.map_cons, List.map_nil, List.singleton_append, List.nodup_cons]
    exact ⟨hname, by rw [names_sections]; decide⟩
  have hsectioned := foldlM_sections hsections hnames []
  rw [ofText?, hparse, Entries.ofStatements?, List.singleton_append, List.foldlM_cons, hadd]
  simpa [hsectioned] using ofDocument?_sections settings hname

end Settings

end TraceRelay
