import TraceRelay.Text.Scan
import TraceRelay.Text.Space

/-!
# Runs, occurrences and trimmed text

The vocabulary in which a grammar over characters is written: a nonempty run of one class, and
whether a text begins or ends with a character of it. A run is read exactly when the text begins
with one that the rest does not continue, which is what makes it as long as possible.
-/

namespace TraceRelay.Text

/-- A nonempty run of characters of one class. -/
def IsRun (p : Char → Bool) (cs : List Char) : Prop :=
  cs ≠ [] ∧ ∀ c ∈ cs, p c = true

/-- Whether the first character is of the class; the empty text has none. -/
def Begins (p : Char → Bool) (cs : List Char) : Prop :=
  ∃ c ∈ cs.head?, p c = true

/-- Whether the last character is of the class. -/
def Ends (p : Char → Bool) (cs : List Char) : Prop :=
  ∃ c ∈ cs.getLast?, p c = true

instance (p : Char → Bool) (cs : List Char) : Decidable (IsRun p cs) :=
  inferInstanceAs (Decidable (_ ∧ _))

instance (p : Char → Bool) (cs : List Char) : Decidable (Begins p cs) :=
  inferInstanceAs (Decidable (∃ c ∈ cs.head?, p c = true))

@[simp] theorem not_begins_nil (p : Char → Bool) : ¬ Begins p [] := by
  simp [Begins]

@[simp] theorem begins_cons (p : Char → Bool) (c : Char) (cs : List Char) :
    Begins p (c :: cs) ↔ p c = true := by
  simp [Begins]

theorem IsRun.exists_cons {p : Char → Bool} {cs : List Char} (h : IsRun p cs) :
    ∃ c rest, cs = c :: rest ∧ p c = true := by
  obtain ⟨hne, hall⟩ := h
  cases cs with
  | nil => exact absurd rfl hne
  | cons c rest => exact ⟨c, rest, rfl, hall c (by simp)⟩

theorem Begins.append {p : Char → Bool} {cs : List Char} (h : Begins p cs) (rest : List Char) :
    Begins p (cs ++ rest) := by
  obtain ⟨c, hc, hp⟩ := h
  obtain ⟨tail, rfl⟩ := List.head?_eq_some_iff.mp hc
  exact ⟨c, rfl, hp⟩

/-- How a text begins is decided by what stands first in it. -/
theorem begins_append_of_ne_nil {p : Char → Bool} {cs : List Char} (hne : cs ≠ [])
    (rest : List Char) : Begins p (cs ++ rest) ↔ Begins p cs := by
  cases cs with
  | nil => exact absurd rfl hne
  | cons c cs => simp

/-- What stands in front of a run's rest decides how the whole begins. -/
theorem IsRun.begins_append {p q : Char → Bool} {cs : List Char} (h : IsRun p cs)
    (rest : List Char) (hpq : ∀ c, p c = true → q c = false) : ¬ Begins q (cs ++ rest) := by
  obtain ⟨c, tail, rfl, hc⟩ := h.exists_cons
  simp [hpq c hc]

theorem not_begins_singleton_append {p : Char → Bool} {c : Char} (h : p c = false)
    (rest : List Char) : ¬ Begins p ([c] ++ rest) := by
  simp [h]

/-- What is left after a run has been dropped does not continue it. -/
theorem not_begins_dropWhile (p : Char → Bool) (cs : List Char) : ¬ Begins p (cs.dropWhile p) := by
  have h := List.head?_dropWhile_not p cs
  intro h
  obtain ⟨c, hc, hp⟩ := h
  rw [Option.mem_def] at hc
  rw [hc] at h
  simp [hp] at h

/-- A text that begins otherwise has no run of the class in front. -/
theorem takeWhile_of_not_begins {p : Char → Bool} {cs : List Char} (h : ¬ Begins p cs) :
    cs.takeWhile p = [] ∧ cs.dropWhile p = cs := by
  cases cs with
  | nil => exact ⟨rfl, rfl⟩
  | cons c cs =>
    rw [begins_cons] at h
    exact ⟨List.takeWhile_cons_of_neg h, List.dropWhile_cons_of_neg h⟩

/-- A run is read exactly from the texts that begin with it and do not continue it. -/
theorem run?_eq_some_iff {p : Char → Bool} {cs run rest : List Char} :
    run? p cs = some (run, rest) ↔ IsRun p run ∧ ¬ Begins p rest ∧ cs = run ++ rest := by
  constructor
  · intro h
    have happ := append_of_run? h
    unfold run? at h
    split at h
    · simp at h
    · next hne =>
      simp only [Option.some.injEq, Prod.mk.injEq] at h
      obtain ⟨rfl, rfl⟩ := h
      exact ⟨⟨hne, List.all_eq_true.mp List.all_takeWhile⟩, not_begins_dropWhile p cs, happ.symm⟩
  · intro h
    obtain ⟨⟨hne, hall⟩, hrest, rfl⟩ := h
    obtain ⟨htake, hdrop⟩ := takeWhile_of_not_begins hrest
    have htaken : (run ++ rest).takeWhile p = run := by
      rw [List.takeWhile_append_of_pos hall, htake, List.append_nil]
    have hdropped : (run ++ rest).dropWhile p = rest := by
      rw [List.dropWhile_append_of_pos hall, hdrop]
    rw [run?, htaken, hdropped]
    cases run with
    | nil => exact absurd rfl hne
    | cons c run => rfl

theorem exists_run?_of_begins {p : Char → Bool} {cs : List Char} (h : Begins p cs) :
    ∃ run rest, run? p cs = some (run, rest) := by
  cases cs with
  | nil => exact absurd h (not_begins_nil p)
  | cons c cs =>
    rw [begins_cons] at h
    exact ⟨c :: cs.takeWhile p, cs.dropWhile p, by
      rw [run?, List.takeWhile_cons_of_pos h, List.dropWhile_cons_of_pos h]⟩

/-- A text begins with a character of a class or with one of its complement. -/
theorem begins_not_of_not_begins {p : Char → Bool} {cs : List Char} (hne : cs ≠ [])
    (h : ¬ Begins p cs) : Begins (!p ·) cs := by
  cases cs with
  | nil => exact absurd rfl hne
  | cons c cs => simpa using h

theorem begins_of_not_begins_not {p : Char → Bool} {cs : List Char} (hne : cs ≠ [])
    (h : ¬ Begins (!p ·) cs) : Begins p cs := by
  cases cs with
  | nil => exact absurd rfl hne
  | cons c cs => simpa using h

theorem IsRun.ends {p : Char → Bool} {cs : List Char} (h : IsRun p cs) : Ends p cs :=
  ⟨cs.getLast h.1, List.getLast_mem_getLast? h.1, h.2 _ (List.getLast_mem h.1)⟩

theorem isSome_after?_iff {pattern cs : List Char} :
    (after? pattern cs).isSome = true ↔ pattern <+: cs := by
  rw [Option.isSome_iff_exists]
  constructor
  · intro h
    obtain ⟨rest, h⟩ := h
    exact ⟨rest, (after?_eq_some_iff.mp h).symm⟩
  · intro h
    obtain ⟨rest, h⟩ := h
    exact ⟨rest, after?_eq_some_iff.mpr h.symm⟩

theorem after?_append (pattern rest : List Char) : after? pattern (pattern ++ rest) = some rest :=
  after?_eq_some_iff.mpr rfl

theorem after?_eq_none_iff {pattern cs : List Char} :
    after? pattern cs = none ↔ ¬ pattern <+: cs := by
  rw [← isSome_after?_iff, Option.not_isSome_iff_eq_none]

/-- A pattern is found exactly in the texts that it is a part of. -/
theorem contains_iff {pattern cs : List Char} : contains pattern cs = true ↔ pattern <:+: cs := by
  induction cs with
  | nil => simp [contains]
  | cons c cs ih =>
    rw [contains, Bool.or_eq_true, isSome_after?_iff, ih, List.infix_cons_iff]

theorem not_ends_trimEnd (cs : List Char) : ¬ Ends isSpace (trimEnd cs) := by
  have hbegins := not_begins_dropWhile isSpace cs.reverse
  intro h
  obtain ⟨c, hc, hspace⟩ := h
  refine hbegins ⟨c, ?_, hspace⟩
  simpa [trimEnd] using hc

/-- A trimmed text ends with no white space. -/
theorem not_ends_trim (cs : List Char) : ¬ Ends isSpace (trim cs) :=
  not_ends_trimEnd (trimStart cs)

/-- How a text ends is decided by what stands last in it. -/
theorem not_ends_of_append {p : Char → Bool} {before after : List Char}
    (h : ¬ Ends p (before ++ after)) : ¬ Ends p after := by
  intro hexists
  obtain ⟨c, hc, hp⟩ := hexists
  refine h ⟨c, ?_, hp⟩
  rw [Option.mem_def] at hc ⊢
  rw [List.getLast?_append, hc]
  rfl

theorem ends_append_of_ne_nil {p : Char → Bool} {after : List Char} (hne : after ≠ [])
    (before : List Char) : Ends p (before ++ after) ↔ Ends p after := by
  rw [Ends, Ends, List.getLast?_append, List.getLast?_eq_some_getLast hne, Option.some_or]

/-- Two texts that begin with runs of one class, neither of them continued, have the same run. -/
theorem IsRun.append_inj {p : Char → Bool} {run run' rest rest' : List Char} (h : IsRun p run)
    (h' : IsRun p run') (hrest : ¬ Begins p rest) (hrest' : ¬ Begins p rest')
    (happ : run ++ rest = run' ++ rest') : run = run' ∧ rest = rest' := by
  have hread := run?_eq_some_iff.mpr ⟨h, hrest, rfl⟩
  rw [run?_eq_some_iff.mpr ⟨h', hrest', happ⟩] at hread
  cases hread
  exact ⟨rfl, rfl⟩

/-- What a text begins with of one class is part of its run. -/
theorem IsRun.isPrefix_of_append_eq {p : Char → Bool} {cs run more rest : List Char}
    (h : IsRun p cs) (hrest : ¬ Begins p rest) (happ : cs ++ more = run ++ rest) : cs <+: run := by
  rcases List.append_eq_append_iff.mp happ with ⟨tail, rfl, -⟩ | ⟨tail, rfl, hmore⟩
  · exact List.prefix_append cs tail
  · -- What is left of `cs` would continue the run.
    cases tail with
    | nil => simp
    | cons c tail =>
      have hc := h.2 c (by simp)
      rw [hmore, List.cons_append, begins_cons] at hrest
      exact absurd hc hrest

/-! ## Trimmed beginnings -/

theorem trimEnd_isPrefix (cs : List Char) : trimEnd cs <+: cs := by
  rw [trimEnd, ← List.reverse_suffix, List.reverse_reverse]
  exact List.dropWhile_suffix isSpace

/-- A beginning of a text that does not end with white space is kept by trimming the end. -/
theorem isPrefix_trimEnd {cs text : List Char} (h : cs <+: text) (hends : ¬ Ends isSpace cs) :
    cs <+: trimEnd text := by
  have hbegins : ¬ Begins isSpace cs.reverse := by simpa [Begins, Ends] using hends
  obtain ⟨-, hdrop⟩ := takeWhile_of_not_begins hbegins
  obtain ⟨tail, rfl⟩ := h
  rw [trimEnd, List.reverse_append, List.dropWhile_append, hdrop]
  split
  · simp
  · rw [List.reverse_append, List.reverse_reverse]
    exact List.prefix_append cs _

/-- Trimming both keeps a text's beginning one. -/
theorem trim_isPrefix {cut text : List Char} (h : cut <+: text) : trim cut <+: trim text := by
  obtain ⟨tail, rfl⟩ := h
  by_cases hblank : trimStart cut = []
  · rw [trim, hblank]
    exact List.nil_prefix
  · have hstart : trimStart (cut ++ tail) = trimStart cut ++ tail := by
      rw [trimStart, List.dropWhile_append, if_neg (by rwa [List.isEmpty_iff])]
      rfl
    refine isPrefix_trimEnd ?_ (not_ends_trim cut)
    rw [hstart]
    exact (trimEnd_isPrefix _).trans (List.prefix_append _ _)

end TraceRelay.Text
