import TraceRelay.Proofs.TracedWrite.Read

/-!
# Lines that are cut short

A tracer that dies leaves its last line unfinished, and the beginning of a line may be a line about
a call itself. It is then about the same call: descriptor, payload, length and the mark of a
truncated payload are those of the whole line, for all of them stand in front of the result.

The result is another matter. A line that is cut behind a question mark does not say any more that
the call is to be restarted, and one that is cut behind a minus sign and zeros says zero bytes;
these are the only ways for a cut line to be about a call that succeeded when the whole line is
about one that failed (`cut_line_agrees`).
-/

namespace TraceRelay.TracedWrite

open Text

/-! ## Results that the whole line takes back -/

/-- Words behind the equals sign that are a beginning of what the whole line says, with the results
by the one and by the other: a question mark, perhaps with a beginning of the word that would tell
of a restart, or a minus sign with zeros. -/
inductive TakenBack : (words : List Char) → (shown whole : WriteResult) → Prop
  | question {name} : "ERESTART".toList <+: name →
      TakenBack ['?'] .unknown (.failed (String.ofList name))
  | restart {gap begun name} : IsRun isSpace gap → IsRun isWordChar begun →
      begun <+: "ERESTART".toList → begun ≠ "ERESTART".toList → "ERESTART".toList <+: name →
      TakenBack ('?' :: (gap ++ begun)) .unknown (.failed (String.ofList name))
  | zero {zeros errno} : IsRun (· == '0') zeros →
      TakenBack ('-' :: zeros) (.written 0) (.failed errno)

theorem succeeded_eq_false_iff {call : TracedWrite} :
    call.succeeded = false ↔ ∃ errno, call.result = .failed errno := by
  unfold succeeded
  cases call.result <;> simp

theorem succeeded_eq_true_iff {call : TracedWrite} :
    call.succeeded = true ↔ ∀ errno, call.result ≠ .failed errno := by
  unfold succeeded
  cases call.result <;> simp

/-! ## Signed numbers -/

/-- A numeral for zero consists of zeros. -/
theorem isRun_zero {digits : List Char} (h : IsNumeral digits 0) : IsRun (· == '0') digits := by
  obtain ⟨⟨hne, hdigits⟩, hvalue⟩ := h
  refine ⟨hne, fun c hc => ?_⟩
  have hzero : digitValue c = 0 :=
    Nat.digits_zero_of_eq_zero (by decide) hvalue _ (by simpa using ⟨c, hc, rfl⟩)
  have hdigit := hdigits c hc
  have hlt : c.toNat < 128 := toNat_lt_of_isHexDigit (isHexDigit_of_isDigit hdigit)
  have hall : ∀ c : Char, c.toNat < 128 → isDigit c = true → digitValue c = 0 → (c == '0') = true :=
    forall_char_lt (by decide +kernel)
  exact hall c hlt hdigit hzero

theorem isInteger_minus {digits : List Char} {v : Int} (h : IsInteger ('-' :: digits) v) :
    ∃ n : Nat, IsNumeral digits n ∧ v = -n := by
  obtain ⟨digits', n, hnumeral, ⟨rfl | hplus, -⟩ | ⟨hminus, hv⟩⟩ := h
  · exact absurd hnumeral (not_isNumeral_cons (by decide) digits n)
  · cases hplus
  · cases hminus
    exact ⟨n, hnumeral, hv⟩

/-- A negative number has a minus sign. -/
theorem exists_minus {cs : List Char} {v : Int} (h : IsInteger cs v) (hneg : v < 0) :
    ∃ digits, cs = '-' :: digits := by
  obtain ⟨digits, n, -, ⟨-, rfl⟩ | ⟨hminus, -⟩⟩ := h
  · omega
  · exact ⟨digits, hminus⟩

theorem isInteger_unique {cs : List Char} {v w : Int} (hv : IsInteger cs v) (hw : IsInteger cs w) :
    v = w := by
  rw [← signed?_eq_some_iff] at hv hw
  rw [hv] at hw
  exact Option.some.inj hw

/-! ## Words that are cut -/

section Words

variable {word word' : List Char} {errno : Option (List Char)} {shown : WriteResult} {name : String}

/-- A line that is cut inside its result or right behind it. -/
theorem TakenBack.of_word (hcut : word <+: word') (hword : IsRun isWordChar word)
    (hshown : Reports word none shown) (hwhole : Reports word' errno (.failed name))
    (hgood : ∀ e, shown ≠ .failed e) : TakenBack word shown (.failed name) := by
  obtain ⟨c, rest, rfl, -⟩ := hword.exists_cons
  obtain ⟨tail, rfl⟩ := hcut
  cases hwhole with
  | negative hint _ hneg =>
    -- Nothing but a minus sign begins a negative number, and what it begins is not positive.
    obtain ⟨digits, hminus⟩ := exists_minus hint hneg
    obtain ⟨rfl, -⟩ := List.cons_eq_cons.mp hminus
    cases hshown with
    | @written count hcount _ =>
      obtain ⟨n, hnumeral, hn⟩ := isInteger_minus hcount
      obtain rfl : count = 0 := UInt64.toNat_inj.mp (by show count.toNat = 0; omega)
      obtain rfl : n = 0 := by simpa using hn
      exact .zero (isRun_zero hnumeral)
    | negative => exact absurd rfl (hgood _)
    | restarted hquestion => cases hquestion
    | unknown hquestion => cases hquestion
  | restarted hquestion _ hrestart =>
    obtain ⟨rfl, hnil⟩ := List.cons_eq_cons.mp hquestion
    obtain ⟨rfl, -⟩ := List.append_eq_nil_iff.mp hnil
    cases hshown with
    | written hcount _ => exact absurd hcount (not_isInteger_question _)
    | negative => exact absurd rfl (hgood _)
    | restarted => exact absurd rfl (hgood _)
    | unknown => exact .question hrestart

/-- A line that is cut inside the word behind its result or right behind that. -/
theorem restart_of_errno {begun whole : List Char} (hcut : begun <+: whole)
    (hshown : Reports word (some begun) shown)
    (hwhole : Reports word (some whole) (.failed name)) (hgood : ∀ e, shown ≠ .failed e) :
    word = ['?'] ∧ shown = .unknown ∧ name = String.ofList whole ∧
      "ERESTART".toList <+: whole ∧ begun <+: "ERESTART".toList ∧ begun ≠ "ERESTART".toList := by
  cases hwhole with
  | negative hint _ hneg =>
    cases hshown with
    | written hcount _ =>
      have := isInteger_unique hcount hint
      omega
    | negative => exact absurd rfl (hgood _)
    | restarted hquestion =>
      rw [hquestion] at hint
      exact absurd hint (not_isInteger_question _)
    | unknown hquestion =>
      rw [hquestion] at hint
      exact absurd hint (not_isInteger_question _)
  | restarted hquestion herrno hrestart =>
    cases herrno
    cases hshown with
    | written hcount _ =>
      rw [hquestion] at hcount
      exact absurd hcount (not_isInteger_question _)
    | negative => exact absurd rfl (hgood _)
    | restarted => exact absurd rfl (hgood _)
    | unknown _ hnot =>
      have hnot := hnot begun rfl
      refine ⟨hquestion, rfl, rfl, hrestart, ?_, ?_⟩
      · exact (List.prefix_or_prefix_of_prefix hcut hrestart).resolve_right hnot
      · rintro rfl
        exact hnot List.prefix_rfl

end Words

/-! ## The words behind a payload or an address -/

/-- What a cut line says and the whole line takes back stands at its end, behind an equals sign. -/
def EndsTakenBack (cut : List Char) (shown whole : WriteResult) : Prop :=
  ∃ before gap words, cut = before ++ (['='] ++ (gap ++ words)) ∧ IsRun isSpace gap ∧
    TakenBack words shown whole

theorem EndsTakenBack.append {cut : List Char} {shown whole : WriteResult}
    (h : EndsTakenBack cut shown whole) (front : List Char) :
    EndsTakenBack (front ++ cut) shown whole := by
  obtain ⟨before, gap, words, rfl, hgap, hwords⟩ := h
  exact ⟨front ++ before, gap, words, by simp, hgap, hwords⟩

theorem Trailer.not_begins {trailer : List Char} {errno : Option (List Char)}
    (h : Trailer trailer errno) : ¬ Begins isWordChar trailer := by
  cases h with
  | nothing => exact not_begins_nil _
  | word hgap =>
    rw [List.append_assoc]
    exact not_begins_word_of_space hgap _

theorem Trailer.word_inj {gap errno rest trailer : List Char} {errno' : Option (List Char)}
    (h : Trailer trailer errno') (hgap : IsRun isSpace gap) (hword : IsRun isWordChar errno)
    (happ : gap ++ (errno ++ rest) = trailer) :
    ∃ whole, errno' = some whole ∧ errno <+: whole ∧
      (¬ Begins isWordChar rest → errno = whole) := by
  cases h with
  | nothing => exact absurd (List.append_eq_nil_iff.mp happ).1 hgap.1
  | @word gap' whole rest' hgap' hwhole hrest' =>
    rw [List.append_assoc] at happ
    obtain ⟨-, happ⟩ := hgap.append_inj hgap' (not_begins_space_of_word hword _)
      (not_begins_space_of_word hwhole _) happ
    refine ⟨whole, rfl, hword.isPrefix_of_append_eq hrest' happ, fun hrest => ?_⟩
    exact (hword.append_inj hwhole hrest hrest' happ).1

/-- The words behind a payload or an address when they are cut: the length is there, and what they
say of the result is what the whole says, or it is taken back. The pieces are compared from the
front; each is a run that the next one ends. -/
theorem Closing.cut {cut whole more : List Char} {length length' : Nat} {shown result : WriteResult}
    (hcut : Closing cut length shown) (hwhole : Closing whole length' result)
    (happ : cut ++ more = whole) :
    length = length' ∧ ∀ name, result = .failed name → (∀ e, shown ≠ .failed e) →
      EndsTakenBack cut shown result := by
  cases hcut with
  | @mk digits gap gap' word trailer _ errno _ hlength hgap hgap' hword htrailer hshown =>
  cases hwhole with
  | @mk digits₂ gap₂ gap₂' word₂ trailer₂ _ errno₂ _ hlength₂ hgap₂ hgap₂' hword₂ htrailer₂
      hresult =>
  simp only [List.append_assoc, List.append_cancel_left_eq] at happ
  have hparen (rest : List Char) : ¬ Begins isDecimalDigit ([')'] ++ rest) :=
    not_begins_singleton_append (by decide) rest
  obtain ⟨rfl, hafter⟩ := hlength.isRun_isDecimalDigit.append_inj hlength₂.isRun_isDecimalDigit
    (hparen _) (hparen _) happ
  refine ⟨hlength.2.symm.trans hlength₂.2, fun name hfailed hgood => ?_⟩
  have hequals (rest : List Char) : ¬ Begins isSpace (['='] ++ rest) :=
    not_begins_singleton_append (by decide) rest
  obtain ⟨rfl, hequation⟩ := hgap.append_inj hgap₂ (hequals _) (hequals _)
    (List.append_cancel_left hafter)
  obtain ⟨rfl, hwords⟩ := hgap'.append_inj hgap₂' (not_begins_space_of_word hword _)
    (not_begins_space_of_word hword₂ _) (List.append_cancel_left hequation)
  subst hfailed
  -- What stands behind the equals sign is taken back; it remains to say where it stands.
  suffices h : TakenBack (word ++ trailer) shown (.failed name) from
    ⟨", ".toList ++ digits ++ [')'] ++ gap, gap', word ++ trailer, by simp, hgap', h⟩
  cases htrailer with
  | nothing =>
    rw [List.append_nil]
    exact .of_word (hword.isPrefix_of_append_eq htrailer₂.not_begins hwords) hword hshown hresult
      hgood
  | @word space begun rest hspace hbegun hrest =>
    have hends : ¬ Begins isWordChar (space ++ begun ++ rest ++ more) := by
      simp only [List.append_assoc]
      exact not_begins_word_of_space hspace _
    obtain ⟨rfl, hbehind⟩ := hword.append_inj hword₂ hends htrailer₂.not_begins hwords
    simp only [List.append_assoc] at hbehind
    obtain ⟨whole, rfl, hbefore, hsame⟩ := htrailer₂.word_inj hspace hbegun hbehind
    obtain ⟨rfl, rfl, rfl, hrestart, hbegins, hne⟩ := restart_of_errno hbefore hshown hresult hgood
    have hnil : rest = [] := by
      -- Were there more behind the word, it would be whole and tell of the restart.
      by_contra hmore
      obtain rfl := hsame (mt (begins_append_of_ne_nil hmore more).mp hrest)
      exact hne (hbegins.eq_of_length (Nat.le_antisymm hbegins.length_le hrestart.length_le))
    rw [hnil, List.append_nil, List.singleton_append]
    exact .restart hspace hbegun hbegins hne hrestart

/-! ## Lines -/

/-- What stands behind the descriptor of a line: the payload or an address, and the words after
it. -/
inductive Remainder : List Char → TracedWrite → Prop
  | shown {text closing call} : Spells text call.payload →
      Closing closing call.length.toNat call.result →
      Remainder ('"' :: (text ++ '"' :: (dots call.truncated ++ closing))) call
  | unreadable {address closing call errno} : Address address → call.payload = [] →
      call.truncated = false → Closing closing call.length.toNat call.result →
      call.result = .failed errno → Remainder (address ++ closing) call

theorem Denotes.exists_opening {line : List Char} {call : TracedWrite} (h : Denotes line call) :
    ∃ front digits rest, line = front ++ rest ∧ IsNumeral digits call.fd.toNat ∧
      Remainder rest call ∧ ∀ more, opening? (line ++ more) = some (digits, rest ++ more) := by
  cases h with
  | @shown thread digits text closing _ hthread hfd htext hclosing =>
    refine ⟨thread ++ "write(".toList ++ digits ++ ", ".toList, digits, _, ?_, hfd,
      .shown htext hclosing, fun more => opening?_eq_some_iff.mpr
        ⟨thread, hthread, hfd.isRun_isDecimalDigit, ?_⟩⟩
    · simp
    · simp [marker]
  | @unreadable thread digits address closing _ errno hthread hfd haddress hpayload htruncated
      hclosing herrno =>
    refine ⟨thread ++ "write(".toList ++ digits ++ ", ".toList, digits, _, ?_, hfd,
      .unreadable haddress hpayload htruncated hclosing herrno, fun more => opening?_eq_some_iff.mpr
        ⟨thread, hthread, hfd.isRun_isDecimalDigit, ?_⟩⟩
    · simp
    · simp [marker]

theorem Closing.exists_cons {closing : List Char} {length : Nat} {result : WriteResult}
    (h : Closing closing length result) : ∃ rest, closing = ',' :: rest := by
  cases h
  exact ⟨_, rfl⟩

theorem Closing.not_begins_hex {closing : List Char} {length : Nat} {result : WriteResult}
    (h : Closing closing length result) (more : List Char) :
    ¬ Begins isHexDigit (closing ++ more) := by
  obtain ⟨rest, rfl⟩ := h.exists_cons
  rw [List.cons_append, begins_cons]
  decide

/-- A payload is decided once its closing quote is there. -/
theorem Spells.append_inj {text text' : List Char} {bytes bytes' : List UInt8}
    (h : Spells text bytes) (h' : Spells text' bytes') {rest rest' : List Char}
    (happ : text ++ '"' :: rest = text' ++ '"' :: rest') : bytes = bytes' ∧ rest = rest' := by
  have hread : readPayload 0 (text ++ '"' :: rest) = .ok (bytes, rest) :=
    readPayload_eq_ok_iff.mpr ⟨text, h, rfl⟩
  rw [readPayload_eq_ok_iff.mpr ⟨text', h', happ⟩] at hread
  cases hread
  exact ⟨rfl, rfl⟩

/-- An address is decided once something stands behind it that is no digit. -/
theorem Address.append_inj {address address' rest rest' : List Char} (h : Address address)
    (h' : Address address') (hrest : ¬ Begins isHexDigit rest) (hrest' : ¬ Begins isHexDigit rest')
    (happ : address ++ rest = address' ++ rest') : rest = rest' := by
  have hread := (address?_eq_some_iff hrest).mpr ⟨address, h, rfl⟩
  rw [(address?_eq_some_iff hrest').mpr ⟨address', h', happ⟩] at hread
  exact (Option.some.inj hread).symm

/-- The dots of a truncated payload are not taken for the words after a whole one. -/
theorem dots_append_inj {closing closing' : List Char} {length length' : Nat}
    {result result' : WriteResult} (h : Closing closing length result)
    (h' : Closing closing' length' result') {more : List Char} {truncated truncated' : Bool}
    (happ : dots truncated ++ closing ++ more = dots truncated' ++ closing') :
    truncated = truncated' ∧ closing ++ more = closing' := by
  obtain ⟨rest, rfl⟩ := h.exists_cons
  obtain ⟨rest', rfl⟩ := h'.exists_cons
  cases truncated <;> cases truncated' <;> simp [dots] at happ ⊢
  · exact happ
  · exact happ

/-- What stands behind the descriptor when it is cut. A payload is whole once its quote is there,
and an address once the comma is. -/
theorem Remainder.cut {cut line more : List Char} {call call' : TracedWrite}
    (hcut : Remainder cut call') (hwhole : Remainder line call) (happ : cut ++ more = line) :
    call'.payload = call.payload ∧ call'.length = call.length ∧ call'.truncated = call.truncated ∧
      (call'.succeeded = true → call.succeeded = false →
        EndsTakenBack cut call'.result call.result) := by
  cases hcut with
  | @shown text closing _ htext hclosing =>
    cases hwhole with
    | @shown text' closing' _ htext' hclosing' =>
      rw [List.cons_append, List.cons_eq_cons] at happ
      replace happ := happ.2
      rw [List.append_assoc, List.cons_append] at happ
      obtain ⟨hpayload, hafter⟩ := htext.append_inj htext' happ
      obtain ⟨htruncated, hclosings⟩ := dots_append_inj hclosing hclosing' hafter
      obtain ⟨hlength, htaken⟩ := hclosing.cut hclosing' hclosings
      refine ⟨hpayload, UInt64.toNat_inj.mp hlength, htruncated, fun hgood hbad => ?_⟩
      obtain ⟨name, hfailed⟩ := succeeded_eq_false_iff.mp hbad
      have h := (htaken name hfailed (succeeded_eq_true_iff.mp hgood)).append
        ('"' :: (text ++ '"' :: dots call'.truncated))
      simpa using h
    | unreadable haddress => exact absurd happ.symm (haddress.ne_quote _ _)
  | @unreadable address closing _ errno haddress hpayload htruncated hclosing herrno =>
    have hfailed : call'.succeeded = false := succeeded_eq_false_iff.mpr ⟨errno, herrno⟩
    cases hwhole with
    | shown =>
      rw [List.append_assoc] at happ
      exact absurd happ (haddress.ne_quote _ _)
    | @unreadable address' closing' _ _ haddress' hpayload' htruncated' hclosing' _ =>
      rw [List.append_assoc] at happ
      have hnohex' := hclosing'.not_begins_hex []
      rw [List.append_nil] at hnohex'
      have hclosings := haddress.append_inj haddress' (hclosing.not_begins_hex more) hnohex' happ
      obtain ⟨hlength, -⟩ := hclosing.cut hclosing' hclosings
      refine ⟨hpayload.trans hpayload'.symm, UInt64.toNat_inj.mp hlength,
        htruncated.trans htruncated'.symm, fun hgood _ => ?_⟩
      rw [hfailed] at hgood
      cases hgood

theorem TakenBack.succeeds {words : List Char} {call call' : TracedWrite}
    (h : TakenBack words call'.result call.result) :
    call'.succeeded = true ∧ call.succeeded = false := by
  generalize hshown : call'.result = shown at h
  generalize hwhole : call.result = whole at h
  unfold succeeded
  rw [hshown, hwhole]
  cases h <;> exact ⟨rfl, rfl⟩

/-- A line about a call and a beginning of it that is about a call too. -/
theorem Denotes.cut {cut line : List Char} {call call' : TracedWrite} (hcut : Denotes cut call')
    (hline : Denotes line call) (hbefore : cut <+: line) :
    call'.fd = call.fd ∧ call'.payload = call.payload ∧ call'.length = call.length ∧
      call'.truncated = call.truncated ∧
      (call'.succeeded = true → call.succeeded = false →
        EndsTakenBack cut call'.result call.result) := by
  obtain ⟨more, rfl⟩ := hbefore
  obtain ⟨front, digits, rest, hfront, hfd, hremainder, hopening⟩ := hcut.exists_opening
  obtain ⟨-, digits', rest', -, hfd', hremainder', hopening'⟩ := hline.exists_opening
  have hopened := hopening more
  have hopened' := hopening' []
  rw [List.append_nil, List.append_nil, hopened, Option.some.injEq, Prod.mk.injEq] at hopened'
  obtain ⟨rfl, hrest⟩ := hopened'
  obtain ⟨hpayload, hlength, htruncated, htaken⟩ := hremainder.cut hremainder' hrest
  refine ⟨UInt32.toNat_inj.mp (hfd.2.symm.trans hfd'.2), hpayload, hlength, htruncated, ?_⟩
  intro hgood hbad
  rw [hfront]
  exact (htaken hgood hbad).append front

/-- **A line that is cut short is about the same call**: a beginning of a line about a call, if it
is read as a call at all, has its descriptor, payload, length and mark of a truncated payload. A cut
line is about a call that succeeded and the whole one about a call that failed exactly if the cut
leaves, at its end, a result that the rest of the line takes back. -/
theorem cut_line_agrees {line cut : String} {call call' : TracedWrite}
    (hline : ofLine line = .ok (some call)) (hbefore : cut.toList <+: line.toList)
    (hcut : ofLine cut = .ok (some call')) :
    call'.fd = call.fd ∧ call'.payload = call.payload ∧ call'.length = call.length ∧
      call'.truncated = call.truncated ∧
      (call'.succeeded = true ∧ call.succeeded = false ↔
        EndsTakenBack (trim cut.toList) call'.result call.result) := by
  rw [ofLine_eq_call_iff] at hline hcut
  obtain ⟨hfd, hpayload, hlength, htruncated, htaken⟩ := hcut.cut hline (trim_isPrefix hbefore)
  refine ⟨hfd, hpayload, hlength, htruncated, fun h => htaken h.1 h.2, fun h => ?_⟩
  obtain ⟨before, gap, words, -, -, hwords⟩ := h
  exact hwords.succeeds

/-- The line of a call that is interrupted and issued anew later. -/
def interruptedLine : String :=
  "[pid 7] write(1, \"hi\"..., 5) = ? ERESTARTSYS (To be restarted if SA_RESTART is set)\n"

theorem cut_line_agrees_interrupted :
    ofLine interruptedLine =
      .ok (some ⟨1, [104, 105], 5, true, .failed "ERESTARTSYS"⟩) ∧
    ofLine "[pid 7] write(1, \"hi\"..., 5) = ? EREST" =
      .ok (some ⟨1, [104, 105], 5, true, .unknown⟩) ∧
    EndsTakenBack "[pid 7] write(1, \"hi\"..., 5) = ? EREST".toList .unknown
      (.failed "ERESTARTSYS") := by
  have hline : ofLine interruptedLine =
      .ok (some ⟨1, [104, 105], 5, true, .failed "ERESTARTSYS"⟩) := by decide +kernel
  have hcut : ofLine "[pid 7] write(1, \"hi\"..., 5) = ? EREST" =
      .ok (some ⟨1, [104, 105], 5, true, .unknown⟩) := by decide +kernel
  obtain ⟨-, -, -, -, htaken⟩ := cut_line_agrees hline (by decide +kernel) hcut
  exact ⟨hline, hcut, htaken.mp ⟨rfl, rfl⟩⟩

/-- **A cut can hide a failure**: behind the question mark it turns the line of a call that is
issued anew into one of a call whose result is not known, and behind the minus sign and a zero that
of a failed call into one of a call that moved nothing. -/
theorem cut_hides_failure :
    (∃ call call', ofLine interruptedLine = .ok (some call) ∧
      "[pid 7] write(1, \"hi\"..., 5) = ?".toList <+: interruptedLine.toList ∧
      ofLine "[pid 7] write(1, \"hi\"..., 5) = ?" = .ok (some call') ∧
      call'.succeeded = true ∧ call.succeeded = false) ∧
    ∃ call call', ofLine "write(1, \"hi\", 2) = -05" = .ok (some call) ∧
      "write(1, \"hi\", 2) = -0".toList <+: "write(1, \"hi\", 2) = -05".toList ∧
      ofLine "write(1, \"hi\", 2) = -0" = .ok (some call') ∧
      call'.succeeded = true ∧ call.succeeded = false := by
  refine ⟨⟨⟨1, [104, 105], 5, true, .failed "ERESTARTSYS"⟩, ⟨1, [104, 105], 5, true, .unknown⟩, ?_⟩,
    ⟨1, [104, 105], 2, false, .failed ""⟩, ⟨1, [104, 105], 2, false, .written 0⟩, ?_⟩
  · decide +kernel
  · decide +kernel

end TraceRelay.TracedWrite
