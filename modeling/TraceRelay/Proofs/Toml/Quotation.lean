import Mathlib.Data.List.TakeWhile
import TraceRelay.Proofs.Text.Numeral
import TraceRelay.Proofs.Text.Scan
import TraceRelay.Toml.Quotation

/-!
# Strings that are written are read back

Whatever the text, and in whichever of the four ways it is written, reading the string gives the
text and leaves what follows, unless a quote follows. The readers go through a string character by
character, so that each way of writing is undone by induction on the text; the one thing they look
ahead for is a run of quotes, which ends the string if it is long enough.
-/

namespace TraceRelay.Toml

open Text

/-- Whether the character is a quote, which must not follow a string. -/
def isQuote (c : Char) : Bool :=
  c = '"' || c = '\''

/-! ## Escapes -/

theorem isText_of_not_needsCode {c : Char} (h : needsCode c = false) (hline : c ≠ '\n') :
    isText c = true := by
  unfold isText
  unfold needsCode at h
  by_cases htab : c = '\t'
  · simp [htab]
  · simpa [htab, hline, Char.not_lt] using h

theorem toNat_lt_of_needsCode {c : Char} (h : needsCode c = true) : c.toNat < 128 := by
  simp only [needsCode, Bool.and_eq_true, Bool.or_eq_true, decide_eq_true_eq] at h
  rcases h.2 with hlt | rfl
  · have : c.toNat < 32 := hlt
    omega
  · decide

/-- An escape of a code point has four digits, which denote it. -/
theorem codeEscape_eq {c : Char} (h : needsCode c = true) :
    ∃ digits, codeEscape c = '\\' :: 'u' :: digits ∧ digits.length = 4 ∧
      digits.all isHexDigit = true ∧ ofDigits 16 digits = c.toNat := by
  refine ⟨(codeEscape c).drop 2, forall_char_lt (P := fun c => needsCode c = true →
    codeEscape c = '\\' :: 'u' :: (codeEscape c).drop 2 ∧ ((codeEscape c).drop 2).length = 4 ∧
      ((codeEscape c).drop 2).all isHexDigit = true ∧
      ofDigits 16 ((codeEscape c).drop 2) = c.toNat) ?_ c (toNat_lt_of_needsCode h) h⟩
  decide +kernel

/-- The character is written as an escape that is read back, whatever follows. -/
def Escapes (c : Char) (written : List Char) : Prop :=
  ∃ escape, written = '\\' :: escape ∧
    ∀ rest, escape? (escape ++ rest) = some (c, escape.length)

theorem escapes_codeEscape {c : Char} (h : needsCode c = true) : Escapes c (codeEscape c) := by
  obtain ⟨digits, hescape, hlength, hhex, hvalue⟩ := codeEscape_eq h
  refine ⟨'u' :: digits, hescape, fun rest => ?_⟩
  have htake : (digits ++ rest).take 4 = digits := List.take_left' hlength
  have hpoint : codePoint? 4 (digits ++ rest) = some c := by
    rw [codePoint?, htake, if_pos ⟨hlength, hhex⟩, hvalue]
    exact (if_pos c.valid).trans (congrArg some (Char.ofNat_toNat c))
  rw [List.cons_append, escape?, hpoint, List.length_cons, hlength]
  rfl

/-- A character is written as it is, or as an escape. -/
theorem escaped_cases {c : Char} (hline : c ≠ '\n') :
    (escaped c = [c] ∧ c ≠ '\\' ∧ isText c = true) ∨ Escapes c (escaped c) := by
  unfold escaped
  split
  · exact .inr ⟨['b'], rfl, fun rest => rfl⟩
  · exact .inr ⟨['t'], rfl, fun rest => rfl⟩
  · exact .inr ⟨['f'], rfl, fun rest => rfl⟩
  · exact .inr ⟨['r'], rfl, fun rest => rfl⟩
  · exact .inr ⟨['\\'], rfl, fun rest => rfl⟩
  · next hbackslash =>
    split
    · next hcode => exact .inr (escapes_codeEscape hcode)
    · next hcode =>
      exact .inl ⟨rfl, hbackslash,
        isText_of_not_needsCode (Bool.eq_false_iff.mpr hcode) hline⟩

/-- What stands for a character between double quotes: an escape, or the character if it is of a
class and needs none. -/
def StandsFor (plain : Char → Bool) (c : Char) (written : List Char) : Prop :=
  (written = [c] ∧ c ≠ '"' ∧ c ≠ '\\' ∧ plain c = true) ∨ Escapes c written

theorem StandsFor.exists_cons {plain : Char → Bool} {c : Char} {written : List Char}
    (h : StandsFor plain c written) :
    ∃ first more, written = first :: more ∧ first ≠ '"' := by
  rcases h with ⟨hwritten, hquote, -, -⟩ | ⟨escape, hwritten, -⟩
  · exact ⟨c, [], hwritten, hquote⟩
  · exact ⟨'\\', escape, hwritten, by decide⟩

theorem standsFor_escaped {plain : Char → Bool} (hplain : ∀ c, isText c = true → plain c = true)
    {c : Char} (hquote : c ≠ '"') (hline : c ≠ '\n') : StandsFor plain c (escaped c) := by
  rcases escaped_cases hline with ⟨hself, hbackslash, htext⟩ | hescape
  · exact .inl ⟨hself, hquote, hbackslash, hplain c htext⟩
  · exact .inr hescape

/-! ## Strings on one line -/

section Basic

variable {c : Char} (rest : List Char)

theorem basicFrom_skip (skipped : List Char) :
    basicFrom skipped.length (skipped ++ rest) = basicFrom 0 rest := by
  induction skipped with
  | nil => rfl
  | cons c skipped ih => exact ih

theorem StandsFor.basicFrom_append {written : List Char} (h : StandsFor isText c written) :
    basicFrom 0 (written ++ rest) = consRead c (basicFrom 0 rest) := by
  rcases h with ⟨rfl, hquote, hbackslash, htext⟩ | ⟨escape, rfl, hread⟩
  · rw [List.singleton_append, basicFrom, if_neg hquote, if_neg hbackslash, if_pos htext]
  · rw [List.cons_append, basicFrom, if_neg (by decide), if_pos rfl, hread]
    dsimp only
    rw [basicFrom_skip]

theorem basicBody_cons (c : Char) (cs : List Char) :
    ∃ written, StandsFor isText c written ∧ basicBody (c :: cs) = written ++ basicBody cs := by
  refine ⟨_, ?_, List.flatMap_cons⟩
  split
  · next hquote =>
    subst hquote
    exact .inr ⟨['"'], rfl, fun rest => rfl⟩
  · next hquote =>
    split
    · next hline =>
      subst hline
      exact .inr ⟨['n'], rfl, fun rest => rfl⟩
    · next hline => exact standsFor_escaped (fun _ => id) hquote hline

/-- A basic string is read back. -/
theorem basicFrom_body (cs : List Char) :
    basicFrom 0 (basicBody cs ++ '"' :: rest) = some (cs, rest) := by
  induction cs with
  | nil => rfl
  | cons c cs ih =>
    obtain ⟨written, hstands, hbody⟩ := basicBody_cons c cs
    rw [hbody, List.append_assoc, hstands.basicFrom_append, ih]
    rfl

/-- A literal string is read back if it has no quote and no control character. -/
theorem literalFrom_append {cs : List Char} (h : ∀ c ∈ cs, c ≠ '\'' ∧ isText c = true) :
    literalFrom (cs ++ '\'' :: rest) = some (cs, rest) := by
  induction cs with
  | nil => rfl
  | cons c cs ih =>
    obtain ⟨⟨hquote, htext⟩, hcs⟩ := List.forall_mem_cons.mp h
    rw [List.cons_append, literalFrom, if_neg hquote, if_pos htext, ih hcs]
    rfl

end Basic

/-! ## Strings of several lines -/

/-- Characters that a string of several lines holds as they are. -/
def isLineText (c : Char) : Bool :=
  c = '\n' || isText c

section Closing

variable {quote : Char} {cs rest : List Char}

/-- Three quotes close a string of several lines where all before them are quotes, too. -/
theorem closing?_append (hrun : (cs.takeWhile (· = quote)).length < 3)
    (hrest : ¬Begins (· = quote) rest) :
    closing? quote (cs ++ (List.replicate 3 quote ++ rest)) =
      if cs.all (· = quote) then some (some (cs, rest)) else none := by
  have hclose : (List.replicate 3 quote ++ rest).takeWhile (· = quote) =
      List.replicate 3 quote := by
    rw [List.takeWhile_append_of_pos (by simp), (takeWhile_of_not_begins hrest).1, List.append_nil]
  by_cases hall : cs.all (· = quote) = true
  · have hself : cs.takeWhile (· = quote) = cs :=
      List.takeWhile_eq_self_iff.mpr (List.all_eq_true.mp hall)
    have hquotes : cs = List.replicate cs.length quote :=
      List.eq_replicate_iff.mpr ⟨rfl, by simpa using hall⟩
    rw [hself] at hrun
    rw [closing?, List.takeWhile_append_of_pos (by simpa using hall), hclose, List.length_append,
      List.length_replicate, if_neg (by omega), if_pos (by omega), if_pos hall, Nat.add_sub_cancel,
      ← hquotes, ← List.append_assoc, List.drop_left' (by simp)]
  · have hshort : (cs.takeWhile (· = quote)).length ≠ cs.length := by
      intro hlength
      have hself := (List.takeWhile_prefix (· = quote)).eq_of_length hlength
      exact hall (List.all_eq_true.mpr (List.takeWhile_eq_self_iff.mp hself))
    rw [closing?, List.takeWhile_append, if_neg hshort, if_pos hrun, if_neg hall]

/-- Three quotes after which there is no other close the string. -/
theorem closing?_replicate (hrest : ¬Begins (· = quote) rest) :
    closing? quote (List.replicate 3 quote ++ rest) = some (some ([], rest)) :=
  @closing?_append quote [] rest (by simp) hrest

/-- A text without three quotes in a row does not begin with them. -/
theorem length_takeWhile_lt (h : hasTriple quote cs = false) :
    (cs.takeWhile (· = quote)).length < 3 := by
  rw [← Nat.not_le]
  intro hle
  have htake : (cs.takeWhile (· = quote)).take 3 = List.replicate 3 quote :=
    List.eq_replicate_iff.mpr ⟨by simpa using hle, fun c hc => by
      simpa using List.mem_takeWhile_imp (List.mem_of_mem_take hc)⟩
  have hquotes : List.replicate 3 quote <+: cs := by
    rw [← htake]
    exact (List.take_prefix ..).trans (List.takeWhile_prefix _)
  rw [hasTriple, Bool.eq_false_iff, ne_eq, contains_iff] at h
  exact h hquotes.isInfix

theorem hasTriple_tail {c : Char} (h : hasTriple quote (c :: cs) = false) :
    hasTriple quote cs = false := by
  rw [hasTriple, contains, Bool.or_eq_false_iff] at h
  exact h.2

end Closing

section MultilineLiteral

variable {cs : List Char} {rest : List Char}

/-- A literal string of several lines is read back if it has no three quotes in a row, and no
control character but line feeds. -/
theorem multilineLiteralFrom_append (htriple : hasTriple '\'' cs = false)
    (htext : ∀ c ∈ cs, isLineText c = true) (hrest : ¬Begins (· = '\'') rest) :
    multilineLiteralFrom (cs ++ (List.replicate 3 '\'' ++ rest)) = some (cs, rest) := by
  induction cs with
  | nil =>
    have hclose := closing?_replicate hrest
    rw [List.replicate_succ, List.cons_append] at hclose
    rw [List.nil_append, List.replicate_succ, List.cons_append]
    rw [multilineLiteralFrom, if_pos rfl, hclose]
  | cons c cs ih =>
    obtain ⟨hc, hcs⟩ := List.forall_mem_cons.mp htext
    have hread := ih (hasTriple_tail htriple) hcs
    rw [List.cons_append]
    by_cases hquote : c = '\''
    · -- Either these quotes are the end of the text, or they are fewer than three.
      have hclose := closing?_append (length_takeWhile_lt htriple) hrest
      rw [List.cons_append] at hclose
      rw [multilineLiteralFrom, if_pos hquote, hclose]
      by_cases hall : (c :: cs).all (· = '\'') = true
      · rw [if_pos hall]
      · rw [if_neg hall, hread]
        rfl
    · rw [multilineLiteralFrom, if_neg hquote, hread]
      exact if_pos hc

end MultilineLiteral

section MultilineBasic

variable {c : Char} (rest : List Char)

theorem multilineBasicFrom_skip (skipped : List Char) :
    multilineBasicFrom skipped.length (skipped ++ rest) = multilineBasicFrom 0 rest := by
  induction skipped with
  | nil => rfl
  | cons c skipped ih => exact ih

theorem StandsFor.multilineBasicFrom_append {written : List Char}
    (h : StandsFor isLineText c written) :
    multilineBasicFrom 0 (written ++ rest) = consRead c (multilineBasicFrom 0 rest) := by
  rcases h with ⟨rfl, hquote, hbackslash, hplain⟩ | ⟨escape, rfl, hread⟩
  · rw [List.singleton_append, multilineBasicFrom, if_neg hquote, if_neg hbackslash]
    exact if_pos hplain
  · rw [List.cons_append, multilineBasicFrom, if_neg (by decide), if_pos rfl, hread]
    dsimp only
    rw [multilineBasicFrom_skip]

/-- A character is written as it is, if it is one of the first two quotes in a row, or as what
stands for it. -/
theorem multilineBasicBody_cons (quotes : Nat) (c : Char) (cs : List Char) :
    (c = '"' ∧ quotes < 2 ∧
      multilineBasicBody quotes (c :: cs) = '"' :: multilineBasicBody (quotes + 1) cs) ∨
    ∃ written, StandsFor isLineText c written ∧
      multilineBasicBody quotes (c :: cs) = written ++ multilineBasicBody 0 cs := by
  rw [multilineBasicBody]
  split
  · next hquote =>
    subst hquote
    split
    · next hfew => exact .inl ⟨rfl, hfew, rfl⟩
    · exact .inr ⟨['\\', '"'], .inr ⟨['"'], rfl, fun rest => rfl⟩, rfl⟩
  · next hquote =>
    split
    · next hline =>
      subst hline
      exact .inr ⟨['\n'], .inl ⟨rfl, by decide, by decide, by decide⟩, rfl⟩
    · next hline =>
      refine .inr ⟨escaped c, standsFor_escaped (fun c htext => ?_) hquote hline, rfl⟩
      simp [isLineText, htext]

/-- No third quote in a row is written as it is. -/
theorem length_takeWhile_body_le {quotes : Nat} (hquotes : quotes ≤ 2) (cs : List Char) :
    ((multilineBasicBody quotes cs).takeWhile (· = '"')).length ≤ 2 - quotes := by
  induction cs generalizing quotes with
  | nil => exact Nat.zero_le _
  | cons c cs ih =>
    rcases multilineBasicBody_cons quotes c cs with ⟨-, hfew, hbody⟩ | ⟨written, hstands, hbody⟩
    · have hmore := @ih (quotes + 1) hfew
      rw [hbody, List.takeWhile_cons_of_pos (by simp), List.length_cons]
      omega
    · obtain ⟨first, more, rfl, hfirst⟩ := hstands.exists_cons
      rw [hbody, List.cons_append, List.takeWhile_cons_of_neg (by simpa using hfirst)]
      exact Nat.zero_le _

/-- What is written without escapes is the text. -/
theorem body_eq_of_all {quotes : Nat} {cs : List Char}
    (h : (multilineBasicBody quotes cs).all (· = '"') = true) :
    multilineBasicBody quotes cs = cs := by
  induction cs generalizing quotes with
  | nil => rfl
  | cons c cs ih =>
    rcases multilineBasicBody_cons quotes c cs with ⟨rfl, -, hbody⟩ | ⟨written, hstands, hbody⟩
    · rw [hbody, List.all_cons, Bool.and_eq_true] at h
      rw [hbody, ih h.2]
    · obtain ⟨first, more, rfl, hfirst⟩ := hstands.exists_cons
      rw [hbody, List.cons_append, List.all_cons, Bool.and_eq_true] at h
      exact absurd (by simpa using h.1) hfirst

/-- A basic string of several lines is read back. By induction on the text, with the number of
quotes that were just written. -/
theorem multilineBasicFrom_body {rest : List Char} (hrest : ¬Begins (· = '"') rest) {quotes : Nat}
    (hquotes : quotes ≤ 2) (cs : List Char) :
    multilineBasicFrom 0 (multilineBasicBody quotes cs ++ (List.replicate 3 '"' ++ rest)) =
      some (cs, rest) := by
  induction cs generalizing quotes with
  | nil =>
    have hclose := closing?_replicate hrest
    rw [List.replicate_succ, List.cons_append] at hclose
    rw [multilineBasicBody, List.nil_append, List.replicate_succ, List.cons_append,
      multilineBasicFrom, if_pos rfl, hclose]
  | cons c cs ih =>
    have hrun := length_takeWhile_body_le hquotes (c :: cs)
    have hshort : ((multilineBasicBody quotes (c :: cs)).takeWhile (· = '"')).length < 3 := by
      omega
    have hclose := closing?_append hshort hrest
    rcases multilineBasicBody_cons quotes c cs with ⟨rfl, hfew, hbody⟩ | ⟨written, hstands, hbody⟩
    · -- Either nothing but quotes is left, or they are fewer than three.
      by_cases hall : (multilineBasicBody quotes ('"' :: cs)).all (· = '"') = true
      · rw [if_pos hall, body_eq_of_all hall] at hclose
        rw [body_eq_of_all hall, List.cons_append, multilineBasicFrom, if_pos rfl]
        rw [List.cons_append] at hclose
        rw [hclose]
      · rw [if_neg hall, hbody, List.cons_append] at hclose
        rw [hbody, List.cons_append, multilineBasicFrom, if_pos rfl, hclose, ih hfew]
        rfl
    · rw [hbody, List.append_assoc, hstands.multilineBasicFrom_append, ih (Nat.zero_le 2)]
      rfl

end MultilineBasic

/-! ## Strings in any style -/

section Styles

variable {cs rest : List Char}

theorem not_begins_of_isQuote {quote : Char} (hquote : isQuote quote = true)
    (h : ¬Begins isQuote rest) : ¬Begins (· = quote) rest := by
  rintro ⟨c, hc, heq⟩
  exact h ⟨c, hc, by rwa [of_decide_eq_true heq]⟩

/-- A line break in the text is preceded by one that is dropped. -/
theorem dropNewline_lead {body : List Char}
    (h : cs.contains '\n' = false → newline? body = none) :
    dropNewline ((if cs.contains '\n' then ['\n'] else []) ++ body) = body := by
  by_cases hline : cs.contains '\n' = true
  · rw [if_pos hline]
    rfl
  · rw [if_neg hline, List.nil_append, dropNewline, h (Bool.eq_false_iff.mpr hline)]
    rfl

theorem newline?_cons_eq_none {c : Char} (htext : isLineText c = true) (hline : c ≠ '\n') :
    newline? (c :: cs) = none := by
  unfold newline?
  split
  · next heq =>
    rw [List.cons.injEq] at heq
    exact absurd heq.1 hline
  · next heq =>
    rw [List.cons.injEq] at heq
    rw [heq.1] at htext
    exact absurd htext (by decide)
  · rfl

/-- Quotes that are not three in a row open a string on one line. -/
theorem after?_triple_eq_none {quote : Char} {body : List Char} (hbody : quote ∉ body.head?)
    (hrest : ¬Begins (· = quote) rest) :
    after? [quote, quote, quote] (quote :: (body ++ quote :: rest)) = none := by
  rw [after?_eq_none_iff]
  intro hquotes
  cases body with
  | nil =>
    cases rest with
    | nil => simp at hquotes
    | cons c rest => exact hrest (by simpa [eq_comm] using hquotes)
  | cons c body =>
    simp only [List.cons_append, List.cons_prefix_cons] at hquotes
    exact hbody (by simp [hquotes.2.1])

theorem string?_basic (hrest : ¬Begins isQuote rest) :
    string? (Style.basic.write cs ++ rest) = some (cs, rest) := by
  have hwritten : Style.basic.write cs ++ rest = '"' :: (basicBody cs ++ '"' :: rest) := by
    simp [Style.write]
  have hbody : '"' ∉ (basicBody cs).head? := by
    cases cs with
    | nil => simp [basicBody]
    | cons c cs =>
      obtain ⟨written, hstands, hbody⟩ := basicBody_cons c cs
      obtain ⟨first, more, rfl, hfirst⟩ := hstands.exists_cons
      simpa [hbody] using hfirst
  rw [hwritten, string?, after?_triple_eq_none hbody (not_begins_of_isQuote rfl hrest)]
  exact basicFrom_body rest cs

theorem string?_literal (htext : ∀ c ∈ cs, c ≠ '\'' ∧ isText c = true)
    (hrest : ¬Begins isQuote rest) :
    string? (Style.literal.write cs ++ rest) = some (cs, rest) := by
  have hwritten : Style.literal.write cs ++ rest = '\'' :: (cs ++ '\'' :: rest) := by
    simp [Style.write]
  have hbody : '\'' ∉ cs.head? := fun hmem => (htext '\'' (List.mem_of_mem_head? hmem)).1 rfl
  rw [hwritten, string?, after?_triple_eq_none hbody (not_begins_of_isQuote rfl hrest)]
  exact literalFrom_append rest htext

theorem string?_multilineBasic (hrest : ¬Begins isQuote rest) :
    string? (Style.multilineBasic.write cs ++ rest) = some (cs, rest) := by
  have hwritten : Style.multilineBasic.write cs ++ rest = ['"', '"', '"'] ++
      ((if cs.contains '\n' then ['\n'] else []) ++
        (multilineBasicBody 0 cs ++ (List.replicate 3 '"' ++ rest))) := by
    simp [Style.write, List.replicate]
  have hlead : cs.contains '\n' = false →
      newline? (multilineBasicBody 0 cs ++ (List.replicate 3 '"' ++ rest)) = none := by
    intro hline
    cases cs with
    | nil => rfl
    | cons c cs =>
      have hc : c ≠ '\n' := by
        rintro rfl
        simp at hline
      rcases multilineBasicBody_cons 0 c cs with ⟨-, -, hbody⟩ | ⟨written, hstands, hbody⟩
      · rw [hbody]
        rfl
      · rw [hbody]
        rcases hstands with ⟨rfl, -, -, hplain⟩ | ⟨escape, rfl, -⟩
        · exact newline?_cons_eq_none hplain hc
        · rfl
  rw [hwritten, string?, after?_append]
  dsimp only
  rw [dropNewline_lead hlead]
  exact multilineBasicFrom_body (not_begins_of_isQuote rfl hrest) (Nat.zero_le 2) cs

theorem string?_multilineLiteral (htriple : hasTriple '\'' cs = false)
    (htext : ∀ c ∈ cs, isLineText c = true) (hrest : ¬Begins isQuote rest) :
    string? (Style.multilineLiteral.write cs ++ rest) = some (cs, rest) := by
  have hwritten : Style.multilineLiteral.write cs ++ rest = ['\'', '\'', '\''] ++
      ((if cs.contains '\n' then ['\n'] else []) ++ (cs ++ (List.replicate 3 '\'' ++ rest))) := by
    simp [Style.write, List.replicate]
  have hlead : cs.contains '\n' = false →
      newline? (cs ++ (List.replicate 3 '\'' ++ rest)) = none := by
    intro hline
    cases cs with
    | nil => rfl
    | cons c cs =>
      have hc : c ≠ '\n' := by
        rintro rfl
        simp at hline
      exact newline?_cons_eq_none (htext c List.mem_cons_self) hc
  rw [hwritten, string?]
  have hdouble : after? ['"', '"', '"'] (['\'', '\'', '\''] ++
      ((if cs.contains '\n' then ['\n'] else []) ++ (cs ++ (List.replicate 3 '\'' ++ rest)))) =
      none := rfl
  rw [hdouble, after?_append]
  dsimp only
  rw [dropNewline_lead hlead]
  exact multilineLiteralFrom_append htriple htext (not_begins_of_isQuote rfl hrest)

theorem isLineText_of_not_needsCode (h : cs.any needsCode = false) :
    ∀ c ∈ cs, isLineText c = true := by
  intro c hc
  have hplain := List.any_eq_false.mp h c hc
  by_cases hline : c = '\n'
  · simp [isLineText, hline]
  · simp [isLineText, isText_of_not_needsCode (Bool.eq_false_iff.mpr hplain) hline]

/-- **A text that is written as a string is read back**, unless a quote follows. -/
theorem string?_writeString (s : String) (hrest : ¬Begins isQuote rest) :
    string? (writeString s ++ rest) = some (s.toList, rest) := by
  unfold writeString Style.choose
  generalize s.toList = cs
  split
  · split
    · exact string?_multilineBasic hrest
    · exact string?_basic hrest
  · next hcode =>
    have htext := isLineText_of_not_needsCode (Bool.eq_false_iff.mpr hcode)
    split
    · exact string?_basic hrest
    · split
      · next hliteral =>
        refine string?_literal (fun c hc => ?_) hrest
        simp only [Bool.and_eq_true, Bool.not_eq_true', List.contains_eq_mem,
          decide_eq_false_iff_not] at hliteral
        have hline : c ≠ '\n' := fun heq => hliteral.2 (heq ▸ hc)
        have hc' := htext c hc
        simp only [isLineText, hline, decide_false, Bool.false_or] at hc'
        exact ⟨fun heq => hliteral.1 (heq ▸ hc), hc'⟩
      · split
        · exact string?_multilineBasic hrest
        · split
          · next htriple => exact string?_multilineLiteral (by simpa using htriple) htext hrest
          · split
            · exact string?_multilineBasic hrest
            · exact string?_basic hrest

end Styles

end TraceRelay.Toml
