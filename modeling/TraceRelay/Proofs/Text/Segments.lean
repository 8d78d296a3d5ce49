import TraceRelay.Text.Segments

/-!
# Cutting a list after each terminator

A list is cut in one way only: a part without terminator is a piece of its own, and a terminator
ends the piece that it stands in. `Cuts` says what is meant by a cut without cutting, and `segments`
cuts.
-/

namespace TraceRelay.Text

section Segments

variable {α : Type} {isEnd : α → Bool} {xs : List α}

theorem segments_of_none (h : ∀ x ∈ xs, isEnd x = false) (hne : xs ≠ []) :
    segments isEnd xs = [xs] := by
  induction xs with
  | nil => exact absurd rfl hne
  | cons x xs ih =>
    obtain ⟨hx, hxs⟩ := List.forall_mem_cons.mp h
    rw [segments, if_neg (by simp [hx])]
    cases xs with
    | nil => rfl
    | cons y ys => rw [ih hxs (by simp)]

theorem segments_cut (h : ∀ x ∈ xs, isEnd x = false) {e : α} (he : isEnd e = true) (rest : List α) :
    segments isEnd (xs ++ e :: rest) = (xs ++ [e]) :: segments isEnd rest := by
  induction xs with
  | nil => simp [segments, he]
  | cons x xs ih =>
    obtain ⟨hx, hxs⟩ := List.forall_mem_cons.mp h
    rw [List.cons_append, segments, if_neg (by simp [hx]), ih hxs]
    rfl

end Segments

section Cuts

variable {α : Type} {e : α} {body rest : List α} {pieces : List (List α)}

/-- The pieces of a list that is cut after each `e`. Nothing is lost, no piece is empty, and an `e`
stands at the end of a piece and nowhere else in it; a piece that another one follows ends with
it. -/
structure Cuts (e : α) (xs : List α) (pieces : List (List α)) : Prop where
  flatten_eq : pieces.flatten = xs
  ne_nil : ∀ piece ∈ pieces, piece ≠ []
  not_mem : ∀ piece ∈ pieces, e ∉ piece.dropLast
  getLast? : ∀ piece ∈ pieces.dropLast, piece.getLast? = some e

theorem Cuts.nil : Cuts e [] [] :=
  ⟨rfl, by simp, by simp, by simp⟩

theorem Cuts.single (h : e ∉ body) (hne : body ≠ []) : Cuts e body [body] := by
  refine ⟨by simp, by simpa using hne, ?_, by simp⟩
  intro piece hpiece hmem
  rw [List.mem_singleton.mp hpiece] at hmem
  exact h (List.dropLast_subset body hmem)

theorem Cuts.cons (h : e ∉ body) (hrest : Cuts e rest pieces) :
    Cuts e (body ++ e :: rest) ((body ++ [e]) :: pieces) := by
  refine ⟨?_, ?_, ?_, ?_⟩
  · rw [List.flatten_cons, hrest.flatten_eq, List.append_assoc]
    rfl
  · exact List.forall_mem_cons.mpr ⟨by simp, hrest.ne_nil⟩
  · exact List.forall_mem_cons.mpr ⟨by simpa using h, hrest.not_mem⟩
  · cases pieces with
    | nil => simp
    | cons piece more =>
      rw [List.dropLast_cons_of_ne_nil (by simp)]
      exact List.forall_mem_cons.mpr ⟨by simp, hrest.getLast?⟩

theorem Cuts.tail {xs : List α} {piece : List α} (h : Cuts e xs (piece :: pieces)) :
    Cuts e pieces.flatten pieces := by
  refine ⟨rfl, fun p hp => h.ne_nil p (by simp [hp]), fun p hp => h.not_mem p (by simp [hp]), ?_⟩
  intro p hp
  have hne : pieces ≠ [] := by
    rintro rfl
    cases hp
  exact h.getLast? p (by simp [List.dropLast_cons_of_ne_nil hne, hp])

/-- The last piece has its terminator just if the list ends with one. -/
theorem Cuts.mem_getLast_iff {xs : List α} (h : Cuts e xs pieces) {last : List α}
    (hlast : pieces.getLast? = some last) : e ∈ last ↔ xs.getLast? = some e := by
  obtain ⟨init, rfl⟩ := List.getLast?_eq_some_iff.mp hlast
  have hne : last ≠ [] := h.ne_nil last (by simp)
  have hnot : e ∉ last.dropLast := h.not_mem last (by simp)
  have hconcat := List.dropLast_concat_getLast hne
  have hxs : xs.getLast? = some (last.getLast hne) := by
    rw [← h.flatten_eq, List.flatten_append, List.flatten_singleton, List.getLast?_append,
      List.getLast?_eq_some_getLast hne]
    rfl
  rw [hxs, Option.some.injEq]
  constructor
  · intro hmem
    rw [← hconcat, List.mem_append] at hmem
    exact (List.mem_singleton.mp (hmem.resolve_left hnot)).symm
  · rintro rfl
    exact List.getLast_mem hne

/-- A list is a part without terminator, or such a part, a terminator and another list. -/
@[elab_as_elim]
theorem cut_induction {motive : List α → Prop} (e : α)
    (unended : ∀ body, e ∉ body → motive body)
    (ended : ∀ body rest, e ∉ body → motive rest → motive (body ++ e :: rest)) (xs : List α) :
    motive xs := by
  induction hlength : xs.length using Nat.strongRecOn generalizing xs with
  | ind n ih =>
    by_cases hmem : e ∈ xs
    · obtain ⟨body, rest, rfl, hbody⟩ := List.eq_append_cons_of_mem hmem
      have hlt : rest.length < n := by
        rw [← hlength, List.length_append, List.length_cons]
        omega
      exact ended body rest hbody (ih rest.length hlt rest rfl)
    · exact unended xs hmem

variable [DecidableEq α]

theorem beq_eq_false_of_not_mem (h : e ∉ body) : ∀ x ∈ body, (x == e) = false := by
  intro x hx
  refine beq_false_of_ne ?_
  rintro rfl
  exact h hx

theorem segments_of_not_mem (h : e ∉ body) (hne : body ≠ []) : segments (· == e) body = [body] :=
  segments_of_none (beq_eq_false_of_not_mem h) hne

theorem segments_append_cons (h : e ∉ body) (rest : List α) :
    segments (· == e) (body ++ e :: rest) = (body ++ [e]) :: segments (· == e) rest :=
  segments_cut (beq_eq_false_of_not_mem h) (beq_self_eq_true e) rest

/-- What stands in front of a terminator is cut as if nothing came after it. -/
theorem segments_append_terminated (xs rest : List α) :
    segments (· == e) (xs ++ e :: rest) =
      segments (· == e) (xs ++ [e]) ++ segments (· == e) rest := by
  induction xs using cut_induction e with
  | unended body h => rw [segments_append_cons h, segments_append_cons h]; rfl
  | ended body more h ih =>
    rw [List.append_assoc, List.cons_append, segments_append_cons h, ih, List.append_assoc,
      List.cons_append, segments_append_cons h, List.cons_append]

/-- The segments of a list are its pieces. -/
theorem cuts_segments (e : α) (xs : List α) : Cuts e xs (segments (· == e) xs) := by
  induction xs using cut_induction e with
  | unended body h =>
    by_cases hne : body = []
    · rw [hne]
      exact .nil
    · rw [segments_of_not_mem h hne]
      exact .single h hne
  | ended body rest h ih =>
    rw [segments_append_cons h]
    exact .cons h ih

/-- Only the segments are its pieces. -/
theorem Cuts.segments_eq {xs : List α} (h : Cuts e xs pieces) : segments (· == e) xs = pieces := by
  induction pieces generalizing xs with
  | nil => rw [← h.flatten_eq, List.flatten_nil, segments]
  | cons piece pieces ih =>
    have hnot := h.not_mem piece (by simp)
    have hne := h.ne_nil piece (by simp)
    by_cases hended : piece.getLast? = some e
    · obtain ⟨body, rfl⟩ := List.getLast?_eq_some_iff.mp hended
      rw [List.dropLast_concat] at hnot
      rw [← h.flatten_eq, List.flatten_cons, List.append_assoc, List.singleton_append,
        segments_append_cons hnot, ih h.tail]
    · -- Only the last piece may lack its terminator.
      have hlast : pieces = [] := Decidable.by_contra fun hmore =>
        hended (h.getLast? piece (by simp [List.dropLast_cons_of_ne_nil hmore]))
      subst hlast
      have hmem : e ∉ piece := by
        intro hmem
        rw [← List.dropLast_concat_getLast hne, List.mem_append, List.mem_singleton] at hmem
        rw [List.getLast?_eq_some_getLast hne, Option.some.injEq] at hended
        exact hended (hmem.resolve_left hnot).symm
      rw [← h.flatten_eq, List.flatten_singleton, segments_of_not_mem hmem hne]

end Cuts

end TraceRelay.Text
