import TraceRelay.Proofs.Text.Scan

/-!
# What trimming leaves

A text is white space, a core that neither begins nor ends with any, and white space again. There is
one such core, and trimming leaves it.
-/

namespace TraceRelay.Text

/-- White space and nothing else. -/
def IsBlank (cs : List Char) : Prop :=
  ∀ c ∈ cs, isSpace c = true

/-- The part of a text that is left without the white space at its ends. -/
structure Core (cs core : List Char) : Prop where
  framed : ∃ lead trail, cs = lead ++ core ++ trail ∧ IsBlank lead ∧ IsBlank trail
  not_begins : ¬ Begins isSpace core
  not_ends : ¬ Ends isSpace core

variable {cs core lead trail : List Char}

theorem isBlank_takeWhile (cs : List Char) : IsBlank (cs.takeWhile isSpace) :=
  List.all_eq_true.mp List.all_takeWhile

theorem trimStart_append (hlead : IsBlank lead) (hbegins : ¬ Begins isSpace core) :
    trimStart (lead ++ core) = core := by
  rw [trimStart, List.dropWhile_append_of_pos hlead, (takeWhile_of_not_begins hbegins).2]

theorem trimEnd_append (htrail : IsBlank trail) (hends : ¬ Ends isSpace core) :
    trimEnd (core ++ trail) = core := by
  have hbegins : ¬ Begins isSpace core.reverse := by simpa [Begins, Ends] using hends
  rw [trimEnd, List.reverse_append,
    List.dropWhile_append_of_pos fun c hc => htrail c (List.mem_reverse.mp hc),
    (takeWhile_of_not_begins hbegins).2, List.reverse_reverse]

/-- What is cut off the end is blank. -/
theorem exists_trimEnd_append (cs : List Char) :
    ∃ trail, cs = trimEnd cs ++ trail ∧ IsBlank trail := by
  refine ⟨(cs.reverse.takeWhile isSpace).reverse, ?_, ?_⟩
  · rw [trimEnd, ← List.reverse_append, List.takeWhile_append_dropWhile, List.reverse_reverse]
  · intro c hc
    exact isBlank_takeWhile cs.reverse c (List.mem_reverse.mp hc)

theorem trimEnd_ne_nil (h : ¬ IsBlank cs) : trimEnd cs ≠ [] := by
  intro hnil
  obtain ⟨trail, hcut, htrail⟩ := exists_trimEnd_append cs
  rw [hnil, List.nil_append] at hcut
  exact h (hcut ▸ htrail)

theorem core_trim (cs : List Char) : Core cs (trim cs) := by
  obtain ⟨trail, hcut, htrail⟩ := exists_trimEnd_append (trimStart cs)
  refine ⟨⟨cs.takeWhile isSpace, trail, ?_, isBlank_takeWhile cs, htrail⟩, ?_, not_ends_trim cs⟩
  · rw [List.append_assoc, trim, ← hcut, trimStart, List.takeWhile_append_dropWhile]
  · intro hbegins
    refine not_begins_dropWhile isSpace cs ?_
    rw [← trimStart, hcut]
    exact hbegins.append trail

/-- **Trimming leaves the core.** -/
theorem trim_eq_iff : trim cs = core ↔ Core cs core := by
  constructor
  · rintro rfl
    exact core_trim cs
  · intro h
    obtain ⟨lead, trail, rfl, hlead, htrail⟩ := h.framed
    rw [trim, List.append_assoc]
    by_cases hnil : core = []
    · subst hnil
      have hblank : IsBlank (lead ++ trail) := List.forall_mem_append.mpr ⟨hlead, htrail⟩
      have hstart := trimStart_append hblank (not_begins_nil isSpace)
      rw [List.append_nil] at hstart
      rw [List.nil_append, hstart]
      rfl
    · have hbegins := mt (begins_append_of_ne_nil hnil trail).mp h.not_begins
      rw [trimStart_append hlead hbegins, trimEnd_append htrail h.not_ends]

theorem trim_eq_nil_iff : trim cs = [] ↔ IsBlank cs := by
  rw [trim_eq_iff]
  constructor
  · intro h
    obtain ⟨lead, trail, rfl, hlead, htrail⟩ := h.framed
    rw [List.append_nil]
    exact List.forall_mem_append.mpr ⟨hlead, htrail⟩
  · intro h
    exact ⟨⟨cs, [], by simp, h, by simp [IsBlank]⟩, by simp, by simp [Ends]⟩

end TraceRelay.Text
