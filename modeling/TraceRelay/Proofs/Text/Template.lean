import TraceRelay.Proofs.Text.Scan
import TraceRelay.Text.Template

/-!
# Filling holes

Filling replaces each hole where it begins and copies every other character, which `Filled` says
apart from any way of doing it. Where the patterns of some holes share a mark that stands in front
of each and nowhere else, and the fillings have no character in common with the patterns, a filling
can neither complete a pattern nor break one up. So it is all the same whether holes are filled at
once or one after the other, and in which order, and none is left.
-/

namespace TraceRelay.Text

/-- A text and what it is with its holes filled: a pattern that begins somewhere is replaced, and a
character with which none begins is copied. -/
inductive Filled (holes : List Hole) : List Char → List Char → Prop
  | nil : Filled holes [] []
  | hole {h cs out} : h ∈ holes → Filled holes cs out →
      Filled holes (h.pattern ++ cs) (h.filling ++ out)
  | copy {c cs out} : (∀ h ∈ holes, ¬ h.pattern <+: c :: cs) → Filled holes cs out →
      Filled holes (c :: cs) (c :: out)

/-- Holes that do not interfere. Their patterns begin with the mark and have it nowhere else, none
of them begins like another, and no filling is empty or has a character of a pattern. -/
structure Separate (mark : Char) (holes : List Hole) : Prop where
  marked : ∀ h ∈ holes, ∃ name, h.pattern = mark :: name ∧ mark ∉ name
  distinct : ∀ h ∈ holes, ∀ h' ∈ holes, h.pattern <+: h'.pattern → h = h'
  filling_ne_nil : ∀ h ∈ holes, h.filling ≠ []
  inert : ∀ h ∈ holes, ∀ h' ∈ holes, ∀ c ∈ h.filling, c ∉ h'.pattern

variable {mark : Char} {holes : List Hole} {cs out : List Char}

theorem Separate.subset {some : List Hole} (h : Separate mark holes) (hsome : some ⊆ holes) :
    Separate mark some :=
  ⟨fun a ha => h.marked a (hsome ha), fun a ha b hb => h.distinct a (hsome ha) b (hsome hb),
    fun a ha => h.filling_ne_nil a (hsome ha), fun a ha b hb => h.inert a (hsome ha) b (hsome hb)⟩

theorem Separate.mark_not_mem_filling (h : Separate mark holes) {a : Hole} (ha : a ∈ holes) :
    mark ∉ a.filling := by
  intro hmem
  obtain ⟨name, hpattern, -⟩ := h.marked a ha
  exact h.inert a ha a ha mark hmem (by simp [hpattern])

/-- Of holes that begin at one place there is only one. -/
theorem Separate.eq_of_isPrefix (h : Separate mark holes) {a b : Hole} (ha : a ∈ holes)
    (hb : b ∈ holes) (hpa : a.pattern <+: cs) (hpb : b.pattern <+: cs) : a = b := by
  rcases List.prefix_or_prefix_of_prefix hpa hpb with hab | hba
  · exact h.distinct a ha b hb hab
  · exact (h.distinct b hb a ha hba).symm

/-! ## Filling at one place -/

theorem fillFrom_append (holes : List Hole) (skipped cs : List Char) :
    fillFrom holes skipped.length (skipped ++ cs) = fillFrom holes 0 cs := by
  induction skipped with
  | nil => rfl
  | cons c skipped ih => rw [List.cons_append, List.length_cons, fillFrom, ih]

theorem fillAll_copy {c : Char} (h : ∀ a ∈ holes, ¬ a.pattern <+: c :: cs) :
    fillAll holes (c :: cs) = c :: fillAll holes cs := by
  have hnone : holes.find? (fun a => (after? a.pattern (c :: cs)).isSome) = none := by
    rw [List.find?_eq_none]
    intro a ha
    rw [isSome_after?_iff]
    exact h a ha
  rw [fillAll, fillFrom, hnone]
  rfl

theorem fillAll_hole (hsep : Separate mark holes) {a : Hole} (ha : a ∈ holes) :
    fillAll holes (a.pattern ++ cs) = a.filling ++ fillAll holes cs := by
  obtain ⟨name, hpattern, -⟩ := hsep.marked a ha
  have hfind : holes.find? (fun b => (after? b.pattern (a.pattern ++ cs)).isSome) = some a := by
    obtain ⟨b, hb⟩ : ∃ b, holes.find? (fun b => (after? b.pattern (a.pattern ++ cs)).isSome) =
        some b := by
      rw [← Option.isSome_iff_exists, List.find?_isSome]
      exact ⟨a, ha, isSome_after?_iff.mpr (List.prefix_append _ _)⟩
    have hbegins : b.pattern <+: a.pattern ++ cs := isSome_after?_iff.mp (by
      simpa using List.find?_some hb)
    rw [hb, hsep.eq_of_isPrefix (List.mem_of_find?_eq_some hb) ha hbegins (List.prefix_append _ _)]
  rw [hpattern, List.cons_append] at hfind ⊢
  rw [fillAll, fillFrom, hfind]
  dsimp only
  rw [hpattern, List.length_cons, Nat.add_sub_cancel, fillFrom_append]
  rfl

/-- A text that does not have the mark is copied, whatever comes after it. -/
theorem fillAll_append_of_not_mem (hsep : Separate mark holes) {block : List Char}
    (hblock : mark ∉ block) : fillAll holes (block ++ cs) = block ++ fillAll holes cs := by
  induction block with
  | nil => rfl
  | cons c block ih =>
    rw [List.mem_cons, not_or] at hblock
    rw [List.cons_append, fillAll_copy, ih hblock.2, List.cons_append]
    intro a ha hbegins
    obtain ⟨name, hpattern, -⟩ := hsep.marked a ha
    rw [hpattern, List.cons_prefix_cons] at hbegins
    exact hblock.1 hbegins.1

/-! ## All holes -/

/-- A text is empty, or begins with a hole, or with a character at which none begins. -/
@[elab_as_elim]
theorem hole_induction {motive : List Char → Prop} (hsep : Separate mark holes) (nil : motive [])
    (hole : ∀ a ∈ holes, ∀ rest, motive rest → motive (a.pattern ++ rest))
    (copy : ∀ c rest, (∀ a ∈ holes, ¬ a.pattern <+: c :: rest) → motive rest → motive (c :: rest))
    (cs : List Char) : motive cs := by
  induction hlength : cs.length using Nat.strongRecOn generalizing cs with
  | ind n ih =>
    cases cs with
    | nil => exact nil
    | cons c cs =>
      rw [List.length_cons] at hlength
      by_cases hbegins : ∃ a ∈ holes, a.pattern <+: c :: cs
      · obtain ⟨a, ha, rest, hrest⟩ := hbegins
        obtain ⟨name, hpattern, -⟩ := hsep.marked a ha
        have hlt : rest.length < n := by
          have := congrArg List.length hrest
          simp [hpattern] at this
          omega
        rw [← hrest]
        exact hole a ha rest (ih rest.length hlt rest rfl)
      · exact copy c cs (fun a ha hp => hbegins ⟨a, ha, hp⟩) (ih cs.length (by omega) cs rfl)

/-- Filling is what is meant by it. -/
theorem filled_iff (hsep : Separate mark holes) : Filled holes cs out ↔ fillAll holes cs = out := by
  constructor
  · intro h
    induction h with
    | nil => rfl
    | hole ha _ ih => rw [fillAll_hole hsep ha, ih]
    | copy hnone _ ih => rw [fillAll_copy hnone, ih]
  · rintro rfl
    induction cs using hole_induction hsep with
    | nil => exact .nil
    | hole a ha rest ih =>
      rw [fillAll_hole hsep ha]
      exact .hole ha ih
    | copy c rest hnone ih =>
      rw [fillAll_copy hnone]
      exact .copy hnone ih

/-- The order in which holes are listed is of no concern. -/
theorem fillAll_congr {others : List Hole} (hsep : Separate mark holes)
    (hothers : ∀ a, a ∈ others ↔ a ∈ holes) (cs : List Char) :
    fillAll others cs = fillAll holes cs := by
  have hsep' : Separate mark others := hsep.subset fun a ha => (hothers a).mp ha
  induction cs using hole_induction hsep with
  | nil => rfl
  | hole a ha rest ih => rw [fillAll_hole hsep' ((hothers a).mpr ha), ih, fillAll_hole hsep ha]
  | copy c rest hnone ih =>
    rw [fillAll_copy fun a ha => hnone a ((hothers a).mp ha), ih, fillAll_copy hnone]

/-- A pattern that a filled text begins with was there before: nothing that is filled in has a
character of it. -/
theorem isPrefix_of_isPrefix_fillAll (hsep : Separate mark holes) {pattern : List Char}
    (hinert : ∀ a ∈ holes, ∀ c ∈ a.filling, c ∉ pattern) (h : pattern <+: fillAll holes cs) :
    pattern <+: cs := by
  induction cs using hole_induction hsep generalizing pattern with
  | nil => exact h
  | hole a ha rest ih =>
    obtain ⟨f, more, hfilling⟩ := List.exists_cons_of_ne_nil (hsep.filling_ne_nil a ha)
    cases pattern with
    | nil => exact List.nil_prefix
    | cons p pattern =>
      rw [fillAll_hole hsep ha, hfilling, List.cons_append, List.cons_prefix_cons] at h
      exact absurd (by simp [h.1]) (hinert a ha f (by simp [hfilling]))
  | copy c rest hnone ih =>
    cases pattern with
    | nil => exact List.nil_prefix
    | cons p pattern =>
      rw [fillAll_copy hnone, List.cons_prefix_cons] at h
      rw [List.cons_prefix_cons]
      exact ⟨h.1, ih (fun a ha c hc hmem => hinert a ha c hc (List.mem_cons_of_mem p hmem)) h.2⟩

/-- What stands in front of a text and has no character of a pattern has no part in it. -/
theorem isInfix_of_isInfix_append {pattern front rest : List Char} (hne : pattern ≠ [])
    (hfront : ∀ c ∈ front, c ∉ pattern) (h : pattern <:+: front ++ rest) : pattern <:+: rest := by
  induction front with
  | nil => exact h
  | cons c front ih =>
    obtain ⟨hc, hfront⟩ := List.forall_mem_cons.mp hfront
    rw [List.cons_append, List.infix_cons_iff] at h
    rcases h with hprefix | hinfix
    · obtain ⟨p, more, rfl⟩ := List.exists_cons_of_ne_nil hne
      exact absurd (by simp [(List.cons_prefix_cons.mp hprefix).1]) hc
    · exact ih hfront hinfix

/-- **No hole is left.** -/
theorem not_isInfix_fillAll (hsep : Separate mark holes) {a : Hole} (ha : a ∈ holes)
    (cs : List Char) : ¬ a.pattern <:+: fillAll holes cs := by
  obtain ⟨name, hpattern, -⟩ := hsep.marked a ha
  have hne : a.pattern ≠ [] := by simp [hpattern]
  induction cs using hole_induction hsep with
  | nil =>
    intro h
    exact hne (List.infix_nil.mp h)
  | hole b hb rest ih =>
    rw [fillAll_hole hsep hb]
    exact fun h => ih (isInfix_of_isInfix_append hne (hsep.inert b hb a ha) h)
  | copy c rest hnone ih =>
    rw [fillAll_copy hnone, List.infix_cons_iff, not_or, ← fillAll_copy hnone]
    refine ⟨fun h => ?_, ih⟩
    exact hnone a ha (isPrefix_of_isPrefix_fillAll hsep (fun b hb => hsep.inert b hb a ha) h)

/-- **Holes filled one after the other are filled at once.** A hole of the second round is still
whole after the first, and none has come to be that was not there before. -/
theorem fillAll_fillAll {first second : List Hole} (hsep : Separate mark (first ++ second))
    (cs : List Char) : fillAll second (fillAll first cs) = fillAll (first ++ second) cs := by
  have hfirst : Separate mark first := hsep.subset (List.subset_append_left ..)
  have hsecond : Separate mark second := hsep.subset (List.subset_append_right ..)
  induction cs using hole_induction hsep with
  | nil => rfl
  | hole a ha rest ih =>
    rw [fillAll_hole hsep ha, ← ih]
    by_cases hmem : a ∈ first
    · rw [fillAll_hole hfirst hmem,
        fillAll_append_of_not_mem hsecond (hsep.mark_not_mem_filling ha)]
    · have hin : a ∈ second := (List.mem_append.mp ha).resolve_left hmem
      obtain ⟨name, hpattern, hname⟩ := hsep.marked a ha
      have hcopied : fillAll first (a.pattern ++ rest) = a.pattern ++ fillAll first rest := by
        rw [hpattern, List.cons_append, fillAll_copy, fillAll_append_of_not_mem hfirst hname]
        · rfl
        · intro b hb hbegins
          rw [← List.cons_append, ← hpattern] at hbegins
          have heq := hsep.eq_of_isPrefix (List.mem_append_left _ hb) ha hbegins
            (List.prefix_append _ _)
          exact hmem (heq ▸ hb)
      rw [hcopied, fillAll_hole hsecond hin]
  | copy c rest hnone ih =>
    have hnone' : ∀ b ∈ first, ¬ b.pattern <+: c :: rest :=
      fun b hb => hnone b (List.mem_append_left _ hb)
    rw [fillAll_copy hnone, fillAll_copy hnone', ← ih, fillAll_copy]
    intro b hb hbegins
    rw [← fillAll_copy hnone'] at hbegins
    refine hnone b (List.mem_append_right _ hb) (isPrefix_of_isPrefix_fillAll hfirst ?_ hbegins)
    exact fun a ha => hsep.inert a (List.mem_append_left _ ha) b (List.mem_append_right _ hb)

end TraceRelay.Text
