import TraceRelay.Proofs.Except
import TraceRelay.Proofs.TracedWrite.Grammar
import TraceRelay.TracedWrite.Read

/-!
# Reading accepts the grammar

Each reader of a piece of a line is characterised by the piece of the grammar that it accepts; from
these, a line is read as a call exactly when the grammar says that it is about that call.
-/

namespace TraceRelay.TracedWrite

open Text

/-! ## Plumbing -/

theorem number_eq_ok_iff {α : Type} {read? : List Char → Option α} {cs : List Char} {n : α} :
    number read? cs = .ok n ↔ read? cs = some n := by
  rw [number]
  cases read? cs with
  | none => simp
  | some m => simp

/-! ## Pieces of a line -/

theorem not_begins_space_of_word {word : List Char} (h : IsRun isWordChar word)
    (rest : List Char) : ¬ Begins isSpace (word ++ rest) :=
  h.begins_append rest fun c hc => by simpa using hc

theorem not_begins_word_of_space {gap : List Char} (h : IsRun isSpace gap) (rest : List Char) :
    ¬ Begins isWordChar (gap ++ rest) :=
  h.begins_append rest fun c hc => by simp [hc]

theorem blank?_eq_some_iff {cs rest : List Char} :
    blank? cs = some rest ↔
      ∃ gap, IsRun isSpace gap ∧ ¬ Begins isSpace rest ∧ cs = gap ++ rest := by
  simp only [blank?, Option.map_eq_some_iff, Prod.exists, run?_eq_some_iff]
  constructor
  · intro h
    obtain ⟨gap, rest', h, rfl⟩ := h
    exact ⟨gap, h⟩
  · intro h
    obtain ⟨gap, h⟩ := h
    exact ⟨gap, rest, h, rfl⟩

theorem thread?_eq_some_iff {cs rest : List Char} :
    thread? cs = some rest ↔
      ∃ thread, Thread thread ∧ thread ≠ [] ∧ ¬ Begins isSpace rest ∧ cs = thread ++ rest := by
  simp only [thread?, Option.bind_eq_bind, Option.bind_eq_some_iff, Prod.exists,
    after?_eq_some_iff, blank?_eq_some_iff, run?_eq_some_iff]
  constructor
  · intro h
    obtain ⟨_, rfl, _, ⟨gap, hgap, -, rfl⟩, number, _, ⟨hnumber, -, rfl⟩, _, rfl, gap', hgap',
      hrest, rfl⟩ := h
    exact ⟨_, .present hgap hnumber hgap', by simp, hrest, by simp⟩
  · intro h
    obtain ⟨_, hthread, hne, hrest, rfl⟩ := h
    cases hthread with
    | absent => exact absurd rfl hne
    | @present gap number gap' hgap hnumber hgap' =>
      refine ⟨_, by simp only [List.append_assoc], _, ⟨gap, hgap, ?_, rfl⟩, number, _,
        ⟨hnumber, ?_, rfl⟩, _, rfl, gap', hgap', hrest, rfl⟩
      · exact hnumber.begins_append _ fun _ => isSpace_of_isDecimalDigit
      · exact not_begins_singleton_append (by decide) _

theorem thread?_marker (rest : List Char) : thread? (marker ++ rest) = none := by
  have h : after? "[pid".toList (marker ++ rest) = none := by
    rw [after?_eq_none_iff]
    simp [marker]
  rw [thread?, h]
  rfl

/-- A line opens with its thread, if it names one, the word `write`, and the descriptor. -/
theorem opening?_eq_some_iff {cs digits rest : List Char} :
    opening? cs = some (digits, rest) ↔ ∃ thread, Thread thread ∧ IsRun isDecimalDigit digits ∧
      cs = thread ++ (marker ++ (digits ++ (", ".toList ++ rest))) := by
  simp only [opening?, Option.bind_eq_bind, Option.bind_eq_some_iff, Prod.exists,
    after?_eq_some_iff, run?_eq_some_iff]
  constructor
  · intro h
    obtain ⟨_, hcs, _, _, ⟨hdigits, -, rfl⟩, _, rfl, h⟩ := h
    cases h
    cases hthread : thread? cs with
    | none =>
      rw [hthread] at hcs
      exact ⟨[], .absent, hdigits, hcs⟩
    | some cs' =>
      rw [hthread] at hcs
      obtain ⟨thread, ht, -, -, rfl⟩ := thread?_eq_some_iff.mp hthread
      exact ⟨thread, ht, hdigits, by rw [← hcs]; rfl⟩
  · intro h
    obtain ⟨thread, ht, hdigits, rfl⟩ := h
    have hcomma : ¬ Begins isDecimalDigit (", ".toList ++ rest) := by
      rw [show ", ".toList = [',', ' '] from rfl, List.cons_append, begins_cons]
      decide
    refine ⟨digits ++ (", ".toList ++ rest), ?_, digits, _, ⟨hdigits, hcomma, rfl⟩, _, rfl, rfl⟩
    -- Without a thread the line begins with the marker, which is not taken for one.
    by_cases hne : thread = []
    · rw [hne, List.nil_append, thread?_marker]
      rfl
    · have hmarker : ¬ Begins isSpace (marker ++ (digits ++ (", ".toList ++ rest))) := by
        rw [show marker = ['w', 'r', 'i', 't', 'e', '('] from rfl, List.cons_append, begins_cons]
        decide
      rw [thread?_eq_some_iff.mpr ⟨thread, ht, hne, hmarker, rfl⟩]
      rfl

theorem address?_eq_some_iff {cs rest : List Char} (hrest : ¬ Begins isHexDigit rest) :
    address? cs = some rest ↔ ∃ address, Address address ∧ cs = address ++ rest := by
  -- The two kinds of address do not overlap, so that it does not matter which is tried first.
  have hpointer {digits : List Char} :
      after? "NULL".toList ("0x".toList ++ digits ++ rest) = none := by
    rw [after?_eq_none_iff]
    simp
  unfold address?
  split
  · next cs' h =>
    obtain rfl := after?_eq_some_iff.mp h
    rw [Option.some.injEq]
    constructor
    · intro heq
      subst heq
      exact ⟨_, .null, rfl⟩
    · intro hexists
      obtain ⟨_, haddress, happ⟩ := hexists
      cases haddress with
      | null => exact List.append_cancel_left happ
      | pointer =>
        rw [happ, hpointer] at h
        cases h
  · next h =>
    simp only [Option.bind_eq_bind, Option.bind_eq_some_iff, Prod.exists, after?_eq_some_iff,
      run?_eq_some_iff]
    constructor
    · intro hexists
      obtain ⟨_, rfl, digits, _, ⟨hdigits, -, rfl⟩, hrest⟩ := hexists
      cases hrest
      exact ⟨_, .pointer hdigits, (List.append_assoc ..).symm⟩
    · intro hexists
      obtain ⟨_, haddress, rfl⟩ := hexists
      cases haddress with
      | null =>
        rw [after?_append] at h
        cases h
      | @pointer digits hdigits =>
        exact ⟨_, List.append_assoc .., digits, rest, ⟨hdigits, hrest, rfl⟩, rfl⟩

/-- What follows the result is read as the word after it, if anything follows. The line does not end
with white space, so that white space cannot be all that follows. -/
theorem trailer_iff {trailer : List Char} {errno : Option (List Char)}
    (hends : ¬ Ends isSpace trailer) :
    ¬ Begins isWordChar trailer ∧ ((blank? trailer).bind (run? isWordChar)).map (·.1) = errno ↔
      Trailer trailer errno := by
  constructor
  · intro hexists
    obtain ⟨hword, rfl⟩ := hexists
    by_cases hne : trailer = []
    · rw [hne]
      exact .nothing
    · have hspace : Begins isSpace trailer := begins_of_not_begins_not hne hword
      obtain ⟨gap, rest, hgap⟩ := exists_run?_of_begins hspace
      obtain ⟨hrun, hrest, rfl⟩ := run?_eq_some_iff.mp hgap
      have hblank : blank? (gap ++ rest) = some rest := by rw [blank?, hgap]; rfl
      -- Were white space all that follows, the line would end with it.
      have hrestne : rest ≠ [] := by
        intro heq
        subst heq
        rw [List.append_nil] at hends
        exact hends hrun.ends
      obtain ⟨name, rest', hname⟩ := exists_run?_of_begins (p := isWordChar)
        (begins_not_of_not_begins hrestne hrest)
      obtain ⟨hnamerun, hrest', rfl⟩ := run?_eq_some_iff.mp hname
      rw [hblank, Option.bind_some, hname, ← List.append_assoc]
      exact .word hrun hnamerun hrest'
  · intro h
    cases h with
    | nothing => exact ⟨not_begins_nil _, rfl⟩
    | @word gap name rest hgap hname hrest =>
      have hblank : blank? (gap ++ name ++ rest) = some (name ++ rest) :=
        blank?_eq_some_iff.mpr
          ⟨gap, hgap, not_begins_space_of_word hname rest, List.append_assoc ..⟩
      have hrun : run? isWordChar (name ++ rest) = some (name, rest) :=
        run?_eq_some_iff.mpr ⟨hname, hrest, rfl⟩
      refine ⟨?_, ?_⟩
      · rw [List.append_assoc]
        exact not_begins_word_of_space hgap _
      · rw [hblank, Option.bind_some, hrun]
        rfl

/-- The words after a payload or an address, and how they are set apart. -/
theorem tail?_eq_some_iff {cs : List Char} {tail : Tail} (hends : ¬ Ends isSpace cs) :
    tail? cs = some tail ↔ ∃ gap gap' trailer, IsRun isDecimalDigit tail.length ∧
      IsRun isSpace gap ∧ IsRun isSpace gap' ∧ IsRun isWordChar tail.result ∧
      Trailer trailer tail.errno ∧ cs = ", ".toList ++ (tail.length ++ ([')'] ++ (gap ++
        (['='] ++ (gap' ++ (tail.result ++ trailer)))))) := by
  simp only [tail?, Option.bind_eq_bind, Option.bind_eq_some_iff, Prod.exists, after?_eq_some_iff,
    run?_eq_some_iff, blank?_eq_some_iff]
  constructor
  · intro hexists
    obtain ⟨_, rfl, length, _, ⟨hlength, -, rfl⟩, _, rfl, _, ⟨gap, hgap, -, rfl⟩, _, rfl, _,
      ⟨gap', hgap', -, rfl⟩, word, trailer, ⟨hword, htrailer, rfl⟩, h⟩ := hexists
    cases h
    have hends' : ¬ Ends isSpace trailer := by
      simp only [← List.append_assoc] at hends
      exact not_ends_of_append hends
    exact ⟨gap, gap', trailer, hlength, hgap, hgap', hword,
      (trailer_iff hends').mp ⟨htrailer, rfl⟩, rfl⟩
  · intro hexists
    obtain ⟨gap, gap', trailer, hlength, hgap, hgap', hword, htrailer, rfl⟩ := hexists
    have hends' : ¬ Ends isSpace trailer := by
      simp only [← List.append_assoc] at hends
      exact not_ends_of_append hends
    obtain ⟨hnoword, herrno⟩ := (trailer_iff hends').mpr htrailer
    refine ⟨_, rfl, tail.length, _, ⟨hlength, ?_, rfl⟩, _, rfl, _, ⟨gap, hgap, ?_, rfl⟩, _, rfl, _,
      ⟨gap', hgap', ?_, rfl⟩, tail.result, trailer, ⟨hword, hnoword, rfl⟩, ?_⟩
    · exact not_begins_singleton_append (by decide) _
    · exact not_begins_singleton_append (by decide) _
    · exact not_begins_space_of_word hword trailer
    · show some _ = some tail
      rw [herrno]

/-! ## Values -/

/-- A question mark is no number. -/
theorem not_isInteger_question (v : Int) : ¬ IsInteger ['?'] v := by
  intro h
  obtain ⟨digits, n, hdigits, ⟨hword | hword, -⟩ | ⟨hword, -⟩⟩ := h
  · rw [← hword] at hdigits
    exact not_isNumeral_cons (by decide) [] n hdigits
  · cases hword
  · cases hword

theorem readResult_question (errno : Option (List Char)) (result : WriteResult) :
    readResult ['?'] errno = .ok result ↔
      (∃ name, errno = some name ∧ "ERESTART".toList <+: name ∧
        result = .failed (String.ofList name)) ∨
      (∀ name ∈ errno, ¬ "ERESTART".toList <+: name) ∧ result = .unknown := by
  unfold readResult
  rw [if_pos rfl]
  cases errno with
  | none =>
    show Except.ok WriteResult.unknown = Except.ok result ↔ _
    simp [eq_comm]
  | some name =>
    dsimp only
    by_cases hrestart : "ERESTART".toList <+: name
    · rw [if_pos (isSome_after?_iff.mpr hrestart)]
      constructor
      · intro h
        cases h
        exact .inl ⟨name, rfl, hrestart, rfl⟩
      · intro h
        rcases h with ⟨_, hname, -, rfl⟩ | ⟨hnot, -⟩
        · cases hname
          rfl
        · exact absurd hrestart (hnot name rfl)
    · rw [if_neg (mt isSome_after?_iff.mp hrestart)]
      constructor
      · intro h
        cases h
        refine .inr ⟨fun _ hname => ?_, rfl⟩
        cases hname
        exact hrestart
      · intro h
        rcases h with ⟨_, hname, hrestart', -⟩ | ⟨-, rfl⟩
        · cases hname
          exact absurd hrestart' hrestart
        · rfl

theorem readResult_number {word : List Char} (hword : word ≠ ['?']) (errno : Option (List Char))
    (result : WriteResult) :
    readResult word errno = .ok result ↔ ∃ value, IsInteger word value ∧ -2 ^ 63 ≤ value ∧
      value < 2 ^ 63 ∧ result = if value < 0 then .failed (String.ofList (errno.getD []))
        else .written (UInt64.ofNat value.toNat) := by
  unfold readResult
  rw [if_neg hword, bind_eq_ok_iff]
  simp only [number_eq_ok_iff, int64?_eq_some_iff, and_assoc]
  refine exists_congr fun value => and_congr_right fun _ => and_congr_right fun _ =>
    and_congr_right fun _ => ?_
  split
  · show Except.ok _ = Except.ok result ↔ _
    rw [Except.ok.injEq, eq_comm]
  · show Except.ok _ = Except.ok result ↔ _
    rw [Except.ok.injEq, eq_comm]

theorem readResult_eq_ok_iff {word : List Char} {errno : Option (List Char)}
    {result : WriteResult} : readResult word errno = .ok result ↔ Reports word errno result := by
  by_cases hword : word = ['?']
  · rw [hword, readResult_question]
    constructor
    · intro h
      rcases h with ⟨name, herrno, hrestart, rfl⟩ | ⟨hrestart, rfl⟩
      · exact .restarted rfl herrno hrestart
      · exact .unknown rfl hrestart
    · intro h
      cases h with
      | written hint _ => exact absurd hint (not_isInteger_question _)
      | negative hint _ _ => exact absurd hint (not_isInteger_question _)
      | restarted _ herrno hrestart => exact .inl ⟨_, herrno, hrestart, rfl⟩
      | unknown _ hrestart => exact .inr ⟨hrestart, rfl⟩
  · rw [readResult_number hword]
    constructor
    · intro h
      obtain ⟨value, hint, hlow, hhigh, rfl⟩ := h
      split
      · next hneg => exact .negative hint hlow hneg
      · next hneg =>
        -- A number that is not negative fits 63 bits, hence the 64 of a count.
        have hlt : value.toNat < 2 ^ 64 := by omega
        have hcount : (UInt64.ofNat value.toNat).toNat = value.toNat :=
          UInt64.toNat_ofNat_of_lt' hlt
        refine .written ?_ (by omega)
        rw [hcount, Int.toNat_of_nonneg (by omega)]
        exact hint
    · intro h
      cases h with
      | @written count hint hlt =>
        refine ⟨count.toNat, hint, by omega, by omega, ?_⟩
        rw [if_neg (by omega), Int.toNat_natCast, UInt64.ofNat_toNat]
      | @negative value hint hlow hneg =>
        exact ⟨value, hint, hlow, by omega, (if_pos hneg).symm⟩
      | restarted hquestion _ _ => exact absurd hquestion hword
      | unknown hquestion _ => exact absurd hquestion hword

/-- The words after a payload or an address are read with their values as the grammar says. -/
theorem closing_iff {closing : List Char} {length : UInt64} {result : WriteResult}
    (hends : ¬ Ends isSpace closing) :
    (∃ tail, tail? closing = some tail ∧ uint64? tail.length = some length ∧
      readResult tail.result tail.errno = .ok result) ↔ Closing closing length.toNat result := by
  constructor
  · intro h
    obtain ⟨tail, htail, hlength, hresult⟩ := h
    obtain ⟨gap, gap', trailer, hdigits, hgap, hgap', hword, htrailer, rfl⟩ :=
      (tail?_eq_some_iff hends).mp htail
    have hnumeral := (isNumeral_of_digits hdigits).mp (uint64?_eq_some_iff.mp hlength)
    have hreports := readResult_eq_ok_iff.mp hresult
    simpa only [List.append_assoc] using
      Closing.mk hnumeral hgap hgap' hword htrailer hreports
  · intro h
    cases h with
    | @mk digits gap gap' word trailer _ errno _ hnumeral hgap hgap' hword htrailer hreports =>
      refine ⟨⟨digits, word, errno⟩, (tail?_eq_some_iff hends).mpr ?_, ?_, ?_⟩
      · exact ⟨gap, gap', trailer, hnumeral.isRun_isDecimalDigit, hgap, hgap', hword, htrailer,
          by simp only [List.append_assoc]⟩
      · exact uint64?_eq_some_iff.mpr ⟨digits, .inl rfl, hnumeral⟩
      · exact readResult_eq_ok_iff.mpr hreports

/-! ## Lines -/

/-- What follows a whole payload is not taken for the dots of a cut one. -/
theorem after?_dots_closing {closing : List Char} {length : Nat} {result : WriteResult}
    (h : Closing closing length result) : after? "...".toList closing = none := by
  rw [after?_eq_none_iff]
  cases h
  simp

/-- A call is put together from what precedes the closing words and from what these say. -/
theorem readClosing_eq_ok_iff {fd : UInt32} {payload : List UInt8} {truncated : Bool}
    {closing : List Char} {call : TracedWrite} (hends : ¬ Ends isSpace closing) :
    (match tail? closing with
      | none => throw .missingTail
      | some tail => do
        let length ← number uint64? tail.length
        let result ← readResult tail.result tail.errno
        return ⟨fd, payload, length, truncated, result⟩) = Except.ok call ↔
      call.fd = fd ∧ call.payload = payload ∧ call.truncated = truncated ∧
        Closing closing call.length.toNat call.result := by
  rw [← closing_iff hends]
  constructor
  · intro h
    cases htail : tail? closing with
    | none =>
      rw [htail] at h
      cases h
    | some tail =>
      rw [htail] at h
      simp only [bind_eq_ok_iff, number_eq_ok_iff] at h
      obtain ⟨length, hlength, result, hresult, h⟩ := h
      cases h
      exact ⟨rfl, rfl, rfl, tail, rfl, hlength, hresult⟩
  · intro h
    obtain ⟨rfl, rfl, rfl, tail, htail, hlength, hresult⟩ := h
    rw [htail]
    simp only [bind_eq_ok_iff, number_eq_ok_iff]
    exact ⟨call.length, hlength, call.result, hresult, rfl⟩

/-- A call whose payload is shown. -/
theorem readQuoted_eq_ok_iff {digits body : List Char} {offset : Nat} {call : TracedWrite}
    (hdigits : IsRun isDecimalDigit digits) (hends : ¬ Ends isSpace body) :
    readQuoted digits offset body = .ok call ↔ ∃ text closing, IsNumeral digits call.fd.toNat ∧
      Spells text call.payload ∧ Closing closing call.length.toNat call.result ∧
      ¬ "<unfinished ...>".toList <:+: dots call.truncated ++ closing ∧
      body = text ++ '"' :: (dots call.truncated ++ closing) := by
  have hclosingends {text closing : List Char} (cut : List Char)
      (h : body = text ++ '"' :: (cut ++ closing)) : ¬ Ends isSpace closing := by
    rw [h, List.append_cons, ← List.append_assoc] at hends
    exact not_ends_of_append hends
  unfold readQuoted
  simp only [bind_eq_ok_iff, number_eq_ok_iff, mapError_eq_ok_iff, Prod.exists,
    uint32?_eq_some_iff, isNumeral_of_digits hdigits, readPayload_eq_ok_iff]
  constructor
  · intro h
    obtain ⟨fd, hfd, payload, rest, ⟨text, htext, hbody⟩, h⟩ := h
    split at h
    · cases h
    · next hunfinished =>
      rw [contains_iff] at hunfinished
      -- The dots are read if they are there, and the closing words cannot be taken for them.
      cases hdots : after? "...".toList rest with
      | none =>
        rw [hdots] at h
        obtain ⟨rfl, rfl, htruncated, hclosing⟩ :=
          (readClosing_eq_ok_iff (hclosingends [] hbody)).mp h
        rw [htruncated]
        exact ⟨text, rest, hfd, htext, hclosing, hunfinished, hbody⟩
      | some closing =>
        rw [hdots] at h
        obtain rfl := after?_eq_some_iff.mp hdots
        obtain ⟨rfl, rfl, htruncated, hclosing⟩ :=
          (readClosing_eq_ok_iff (hclosingends _ hbody)).mp h
        rw [htruncated]
        exact ⟨text, closing, hfd, htext, hclosing, hunfinished, hbody⟩
  · intro h
    obtain ⟨text, closing, hfd, htext, hclosing, hunfinished, hbody⟩ := h
    refine ⟨call.fd, hfd, call.payload, _, ⟨text, htext, hbody⟩, ?_⟩
    rw [if_neg (mt contains_iff.mp hunfinished)]
    cases htruncated : call.truncated with
    | false =>
      rw [dots, if_neg Bool.false_ne_true, List.nil_append, after?_dots_closing hclosing]
      exact (readClosing_eq_ok_iff (hclosingends _ hbody)).mpr ⟨rfl, rfl, htruncated, hclosing⟩
    | true =>
      rw [dots, if_pos rfl, after?_append]
      exact (readClosing_eq_ok_iff (hclosingends _ hbody)).mpr ⟨rfl, rfl, htruncated, hclosing⟩

theorem exists_cons_of_tail? {cs : List Char} {tail : Tail} (h : tail? cs = some tail) :
    ∃ rest, cs = ',' :: rest := by
  obtain ⟨rest, hcomma, -⟩ := Option.bind_eq_some_iff.mp h
  rw [after?_eq_some_iff] at hcomma
  exact ⟨' ' :: rest, hcomma⟩

theorem not_begins_hex_of_tail? {cs : List Char} {tail : Tail} (h : tail? cs = some tail) :
    ¬ Begins isHexDigit cs := by
  obtain ⟨rest, rfl⟩ := exists_cons_of_tail? h
  rw [begins_cons]
  decide

/-- A call whose buffer is shown as an address. -/
theorem readAddressed_eq_ok_iff {digits rest : List Char} {call : TracedWrite}
    (hdigits : IsRun isDecimalDigit digits) (hends : ¬ Ends isSpace rest) :
    readAddressed digits rest = .ok call ↔ ∃ address closing errno, IsNumeral digits call.fd.toNat ∧
      Address address ∧ call.payload = [] ∧ call.truncated = false ∧
      Closing closing call.length.toNat call.result ∧ call.result = .failed errno ∧
      rest = address ++ closing := by
  unfold readAddressed
  constructor
  · intro h
    cases htail : (address? rest).bind tail? with
    | none =>
      rw [htail] at h
      cases h
    | some tail =>
      rw [htail] at h
      simp only [bind_eq_ok_iff] at h
      obtain ⟨result, hresult, h⟩ := h
      obtain ⟨closing, hclosing, hwords⟩ := Option.bind_eq_some_iff.mp htail
      obtain ⟨address, haddress, rfl⟩ :=
        (address?_eq_some_iff (not_begins_hex_of_tail? hwords)).mp hclosing
      have hclosingends := not_ends_of_append hends
      cases result with
      | failed errno =>
        simp only [bind_eq_ok_iff, number_eq_ok_iff, uint32?_eq_some_iff,
          isNumeral_of_digits hdigits] at h
        obtain ⟨fd, hfd, length, hlength, h⟩ := h
        cases h
        have hgrammar := (closing_iff hclosingends).mp ⟨tail, hwords, hlength, hresult⟩
        exact ⟨address, closing, errno, hfd, haddress, rfl, rfl, hgrammar, rfl, rfl⟩
      | written count => cases h
      | unknown => cases h
  · intro h
    obtain ⟨address, closing, errno, hfd, haddress, hpayload, htruncated, hclosing, herrno,
      rfl⟩ := h
    obtain ⟨tail, htail, hlength, hresult⟩ :=
      (closing_iff (not_ends_of_append hends)).mpr hclosing
    have haddressed : address? (address ++ closing) = some closing :=
      (address?_eq_some_iff (not_begins_hex_of_tail? htail)).mpr ⟨address, haddress, rfl⟩
    rw [haddressed, Option.bind_some, htail]
    simp only [bind_eq_ok_iff]
    refine ⟨call.result, hresult, ?_⟩
    rw [herrno]
    simp only [bind_eq_ok_iff, number_eq_ok_iff, uint32?_eq_some_iff, isNumeral_of_digits hdigits]
    refine ⟨call.fd, hfd, call.length, hlength, ?_⟩
    rw [← hpayload, ← htruncated, ← herrno]
    rfl

/-- No address begins like a payload. -/
theorem Address.ne_quote {address : List Char} (h : Address address) (rest body : List Char) :
    address ++ rest ≠ '"' :: body := by
  cases h with
  | null => simp
  | pointer => simp

/-- A line without white space at its end is read as a call exactly if it is about that call. -/
theorem readCall_eq_ok_iff {line : List Char} {call : TracedWrite} (hends : ¬ Ends isSpace line) :
    readCall line = .ok call ↔ Denotes line call := by
  unfold readCall
  constructor
  · intro h
    cases hopening : opening? line with
    | none =>
      rw [hopening] at h
      cases h
    | some opening =>
      obtain ⟨digits, rest⟩ := opening
      rw [hopening] at h
      obtain ⟨thread, hthread, hdigits, rfl⟩ := opening?_eq_some_iff.mp hopening
      simp only [← List.append_assoc] at hends
      dsimp only at h
      -- What stands behind the comma decides between the two forms.
      split at h
      · next body =>
        have hbody : ¬ Ends isSpace body := by
          rw [List.append_cons] at hends
          exact not_ends_of_append hends
        obtain ⟨text, closing, hfd, htext, hclosing, hunfinished, rfl⟩ :=
          (readQuoted_eq_ok_iff hdigits hbody).mp h
        have hline := Denotes.shown hthread hfd htext hclosing hunfinished
        simp only [List.append_assoc] at hline
        exact hline
      · obtain ⟨address, closing, errno, hfd, haddress, hpayload, htruncated, hclosing, herrno,
          rfl⟩ :=
          (readAddressed_eq_ok_iff hdigits (not_ends_of_append hends)).mp h
        have hline :=
          Denotes.unreadable hthread hfd haddress hpayload htruncated hclosing herrno
        simp only [List.append_assoc] at hline
        exact hline
  · intro h
    cases h with
    | @shown thread digits text closing _ hthread hfd htext hclosing hunfinished =>
      have hopening : opening? (thread ++ "write(".toList ++ digits ++ ", \"".toList ++ text ++
          ['"'] ++ dots call.truncated ++ closing) =
            some (digits, '"' :: (text ++ '"' :: (dots call.truncated ++ closing))) :=
        opening?_eq_some_iff.mpr ⟨thread, hthread, hfd.isRun_isDecimalDigit, by
          simp only [List.append_assoc]
          rfl⟩
      rw [hopening]
      refine (readQuoted_eq_ok_iff hfd.isRun_isDecimalDigit ?_).mpr
        ⟨text, closing, hfd, htext, hclosing, hunfinished, rfl⟩
      have hsplit : ¬ Ends isSpace ((thread ++ "write(".toList ++ digits ++ ", \"".toList) ++
          (text ++ '"' :: (dots call.truncated ++ closing))) := by
        simp only [List.append_assoc] at hends ⊢
        exact hends
      exact not_ends_of_append hsplit
    | @unreadable thread digits address closing _ errno hthread hfd haddress hpayload htruncated
        hclosing herrno =>
      have hopening : opening? (thread ++ "write(".toList ++ digits ++ ", ".toList ++ address ++
          closing) = some (digits, address ++ closing) :=
        opening?_eq_some_iff.mpr ⟨thread, hthread, hfd.isRun_isDecimalDigit, by
          simp only [List.append_assoc]
          rfl⟩
      rw [hopening]
      dsimp only
      split
      · next body hbody => exact absurd hbody (haddress.ne_quote closing body)
      · refine (readAddressed_eq_ok_iff hfd.isRun_isDecimalDigit ?_).mpr
          ⟨address, closing, errno, hfd, haddress, hpayload, htruncated, hclosing, herrno, rfl⟩
        rw [List.append_assoc] at hends
        exact not_ends_of_append hends

theorem Denotes.marked {line : List Char} {call : TracedWrite} (h : Denotes line call) :
    marker <:+: line := by
  cases h with
  | @shown thread digits text closing =>
    exact ⟨thread, digits ++ ", \"".toList ++ text ++ ['"'] ++ dots call.truncated ++ closing, by
      simp only [List.append_assoc]
      rfl⟩
  | @unreadable thread digits address closing =>
    exact ⟨thread, digits ++ ", ".toList ++ address ++ closing, by
      simp only [List.append_assoc]
      rfl⟩

/-- **Reading follows the grammar**: a line is read as a call exactly if the line without white
space around it is about that call, so that every line of the grammar is read and nothing else
is. -/
theorem ofLine_eq_call_iff (line : String) (call : TracedWrite) :
    ofLine line = .ok (some call) ↔ Denotes (trim line.toList) call := by
  rw [← readCall_eq_ok_iff (not_ends_trim line.toList)]
  unfold ofLine
  dsimp only
  constructor
  · intro h
    split at h
    · cases hread : readCall (trim line.toList) with
      | error e =>
        rw [hread] at h
        cases h
      | ok read =>
        rw [hread] at h
        cases h
        rfl
    · cases h
  · intro h
    have hmarked := ((readCall_eq_ok_iff (not_ends_trim line.toList)).mp h).marked
    rw [if_pos (contains_iff.mpr hmarked), h]
    rfl

end TraceRelay.TracedWrite
