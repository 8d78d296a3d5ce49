import TraceRelay.Proofs.Text.Positions
import TraceRelay.Proofs.Text.Trim
import TraceRelay.Proofs.TracedWrite.Decoding
import TraceRelay.Proofs.TracedWrite.Read

/-!
# Where a bad escape is reported

The error about a bad escape tells how many bytes stand in front of the backslash. White space at
the front of the line is not among them, since the line is read without it: in an indented line the
backslash stands as much further on as the indentation is long, and the place that is told lies
before it.

`HasBadEscape line position reported` says, apart from any way of reading, where the first bad
escape of a line as it was handed over stands. White space behind a backslash that nothing else
follows is not an escape but the end of the line.
-/

namespace TraceRelay.TracedWrite

open Text

/-! ## Lines with a bad escape -/

/-- What stands in front of a payload, up to the quote that opens it. -/
inductive Opens : List Char → Prop
  | mk {thread digits} {fd : UInt32} : Thread thread → IsNumeral digits fd.toNat →
      Opens (thread ++ marker ++ digits ++ ", \"".toList)

/-- The first bad escape of a line: the bytes in front of its backslash, and what is reported of
it. -/
inductive HasBadEscape : (line : List Char) → (position : Nat) → (reported : List Char) → Prop
  | mk {lead head text bytes rest reported} : IsBlank lead → Opens head → Spells text bytes →
      NoEscape rest reported → ¬ IsBlank rest →
      HasBadEscape (lead ++ (head ++ (text ++ '\\' :: rest)))
        (byteLength lead + (byteLength head + byteLength text)) reported

/-- The bytes of white space in front of a line. -/
def indentation (line : List Char) : Nat :=
  byteLength (line.takeWhile isSpace)

theorem Opens.exists_cons {head : List Char} (h : Opens head) :
    ∃ c cs, head = c :: cs ∧ isSpace c = false := by
  obtain ⟨hthread, -⟩ := h
  cases hthread with
  | absent => exact ⟨'w', _, rfl, by decide⟩
  | present => exact ⟨'[', _, rfl, by decide⟩

theorem Opens.marked {head : List Char} (h : Opens head) (rest : List Char) :
    marker <:+: head ++ rest := by
  obtain @⟨thread, digits, -, -, -⟩ := h
  exact ⟨thread, digits ++ ", \"".toList ++ rest, by simp only [List.append_assoc]⟩

/-- An opening is read as one, with what is quoted behind it. -/
theorem opening?_eq_quote_iff {line digits body : List Char} :
    opening? line = some (digits, '"' :: body) ↔ ∃ thread, Thread thread ∧
      IsRun isDecimalDigit digits ∧
        line = (thread ++ marker ++ digits ++ ", \"".toList) ++ body := by
  rw [opening?_eq_some_iff]
  simp only [List.append_assoc]
  rfl

/-! ## White space behind an escape -/

theorem not_isHexDigit_of_isSpace {c : Char} (h : isSpace c = true) : isHexDigit c = false := by
  have hall : ∀ c : Char, c.toNat < 128 → isSpace c = true → isHexDigit c = false :=
    forall_char_lt (by decide +kernel)
  by_contra hhex
  rw [Bool.not_eq_false] at hhex
  exact absurd (hall c (toNat_lt_of_isHexDigit hhex) h) (by simp [hhex])

theorem not_begins_hex_of_isBlank {trail : List Char} (h : IsBlank trail) :
    ¬ Begins isHexDigit trail := by
  cases trail with
  | nil => exact not_begins_nil _
  | cons c trail =>
    rw [begins_cons, not_isHexDigit_of_isSpace (h c (by simp))]
    exact Bool.false_ne_true

/-- Digits end in front of a text that begins with none. -/
theorem takeWhile_take_append {p : Char → Bool} {most : Nat} {tail : List Char}
    (h : ¬ Begins p tail) (cs : List Char) :
    ((cs ++ tail).take most).takeWhile p = (cs.take most).takeWhile p := by
  obtain ⟨next, hcs, hall, hlen, hmax⟩ :=
    takeWhile_take_eq_iff.mp (rfl : (cs.take most).takeWhile p = _)
  refine takeWhile_take_eq_iff.mpr ⟨next ++ tail, ?_, hall, hlen, ?_⟩
  · rw [← List.append_assoc, ← hcs]
  · rwa [begins_append_iff h]

theorem frontEscape_append {c : Char} {cs tail : List Char} (h : ¬ Begins isHexDigit tail) :
    frontEscape (c :: cs ++ tail) = frontEscape (c :: cs) := by
  have hoctal : ((c :: cs ++ tail).take 3).takeWhile isOctalDigit =
      ((c :: cs).take 3).takeWhile isOctalDigit :=
    takeWhile_take_append (not_begins_octal_of_hex h) (c :: cs)
  have hhex : ((cs ++ tail).take 2).takeWhile isHexDigit = (cs.take 2).takeWhile isHexDigit :=
    takeWhile_take_append h cs
  rw [List.cons_append] at hoctal ⊢
  rw [frontEscape, frontEscape, hoctal, hhex]

theorem NoEscape.ne_nil {rest reported : List Char} (h : NoEscape rest reported) : rest ≠ [] := by
  cases h with
  | letter => simp
  | octal hd =>
    have hne := hd.run.1
    simp [hne]
  | hex => simp

/-- White space behind the text of a bad escape is of no concern to it. -/
theorem noEscape_append_iff {rest trail reported : List Char} (hne : rest ≠ [])
    (htrail : IsBlank trail) : NoEscape (rest ++ trail) reported ↔ NoEscape rest reported := by
  obtain ⟨c, cs, rfl⟩ := List.exists_cons_of_ne_nil hne
  rw [← frontEscape_eq_invalid_iff, ← frontEscape_eq_invalid_iff,
    frontEscape_append (not_begins_hex_of_isBlank htrail)]

/-! ## Results that blame no escape -/

/-- A result that is no error about an escape. -/
def BlamesNoEscape {α : Type} (x : Except Error α) : Prop :=
  ∀ offset escape, x ≠ .error (.badEscape offset escape)

theorem BlamesNoEscape.ok {α : Type} (a : α) : BlamesNoEscape (.ok a) := by
  intro offset escape h
  cases h

theorem BlamesNoEscape.bind {α β : Type} {x : Except Error α} {f : α → Except Error β}
    (hx : BlamesNoEscape x) (hf : ∀ a, BlamesNoEscape (f a)) : BlamesNoEscape (x >>= f) := by
  intro offset escape h
  rcases bind_eq_error_iff.mp h with h | ⟨a, -, h⟩
  · exact hx offset escape h
  · exact hf a offset escape h

theorem blamesNoEscape_number {α : Type} (read? : List Char → Option α) (cs : List Char) :
    BlamesNoEscape (number read? cs) := by
  intro offset escape h
  unfold number at h
  split at h <;> cases h

theorem blamesNoEscape_readResult (word : List Char) (errno : Option (List Char)) :
    BlamesNoEscape (readResult word errno) := by
  unfold readResult
  split
  · split
    · split
      · exact .ok _
      · exact .ok _
    · exact .ok _
  · refine (blamesNoEscape_number int64? word).bind fun value => ?_
    split
    · exact .ok _
    · exact .ok _

theorem blamesNoEscape_readAddressed (digits rest : List Char) :
    BlamesNoEscape (readAddressed digits rest) := by
  unfold readAddressed
  split
  · intro offset escape h
    cases h
  · next tail _ =>
    refine (blamesNoEscape_readResult tail.result tail.errno).bind fun result => ?_
    split
    · refine (blamesNoEscape_number uint32? digits).bind fun fd => ?_
      exact (blamesNoEscape_number uint64? tail.length).bind fun length => .ok _
    · intro offset escape h
      cases h

/-- The words behind a payload blame no escape of it. -/
theorem blamesNoEscape_closing (fd : UInt32) (payload : List UInt8) (truncated : Bool)
    (closing : List Char) :
    BlamesNoEscape (match tail? closing with
      | none => throw .missingTail
      | some tail => do
        let length ← number uint64? tail.length
        let result ← readResult tail.result tail.errno
        return (⟨fd, payload, length, truncated, result⟩ : TracedWrite)) := by
  split
  · intro offset escape h
    cases h
  · next tail _ =>
    refine (blamesNoEscape_number uint64? tail.length).bind fun length => ?_
    exact (blamesNoEscape_readResult tail.result tail.errno).bind fun result => .ok _

/-! ## Reading a line with a bad escape -/

theorem readPayload_eq_badEscape_iff {offset position : Nat} {cs reported : List Char} :
    readPayload offset cs = .error (.badEscape position reported) ↔ ∃ text bytes rest,
      Spells text bytes ∧ NoEscape rest reported ∧ cs = text ++ '\\' :: rest ∧
        position = offset + byteLength text := by
  rw [readPayload_eq_iff]
  constructor
  · intro h
    cases h with
    | invalid hspells hno => exact ⟨_, _, _, hspells, hno, rfl, rfl⟩
  · rintro ⟨text, bytes, rest, hspells, hno, rfl, rfl⟩
    exact .invalid hspells hno

/-- Only the payload of a call can have a bad escape, and only once its descriptor is read. -/
theorem readQuoted_eq_badEscape_iff {digits body : List Char} {offset position : Nat}
    {escape : String} :
    readQuoted digits offset body = .error (.badEscape position escape) ↔
      (∃ fd, uint32? digits = some fd) ∧
        readPayload offset body = .error (.badEscape position escape.toList) := by
  unfold readQuoted
  constructor
  · intro h
    rcases bind_eq_error_iff.mp h with h | ⟨fd, hfd, h⟩
    · exact absurd h (blamesNoEscape_number _ _ _ _)
    · refine ⟨⟨fd, number_eq_ok_iff.mp hfd⟩, ?_⟩
      rcases bind_eq_error_iff.mp h with h | ⟨⟨payload, rest⟩, -, h⟩
      · obtain ⟨e, he, hescape⟩ := mapError_eq_error_iff.mp h
        cases e with
        | unterminated => cases hescape
        | badEscape position reported =>
          cases hescape
          rw [he, String.toList_ofList]
      · -- The payload was read, and nothing behind it is about an escape.
        exfalso
        dsimp only at h
        split at h
        · cases h
        · cases hdots : after? "...".toList rest with
          | none =>
            rw [hdots] at h
            exact blamesNoEscape_closing _ _ _ _ _ _ h
          | some closing =>
            rw [hdots] at h
            exact blamesNoEscape_closing _ _ _ _ _ _ h
  · rintro ⟨⟨fd, hfd⟩, hread⟩
    refine bind_eq_error_iff.mpr (.inr ⟨fd, number_eq_ok_iff.mpr hfd, ?_⟩)
    refine bind_eq_error_iff.mpr (.inl (mapError_eq_error_iff.mpr ⟨_, hread, ?_⟩))
    show Error.badEscape position (String.ofList escape.toList) = .badEscape position escape
    rw [String.ofList_toList]

theorem readCall_eq_badEscape_iff {line : List Char} {offset : Nat} {escape : String} :
    readCall line = .error (.badEscape offset escape) ↔ ∃ head text bytes rest,
      Opens head ∧ Spells text bytes ∧ NoEscape rest escape.toList ∧
        line = head ++ (text ++ '\\' :: rest) ∧ offset = byteLength head + byteLength text := by
  unfold readCall
  constructor
  · intro h
    cases hopening : opening? line with
    | none =>
      rw [hopening] at h
      cases h
    | some opening =>
      obtain ⟨digits, rest⟩ := opening
      rw [hopening] at h
      dsimp only at h
      split at h
      · next body =>
        obtain ⟨thread, hthread, hdigits, rfl⟩ := opening?_eq_quote_iff.mp hopening
        obtain ⟨⟨fd, hfd⟩, hread⟩ := readQuoted_eq_badEscape_iff.mp h
        rw [uint32?_eq_some_iff, isNumeral_of_digits hdigits] at hfd
        obtain ⟨text, bytes, rest, hspells, hno, rfl, rfl⟩ := readPayload_eq_badEscape_iff.mp hread
        refine ⟨_, text, bytes, rest, .mk hthread hfd, hspells, hno, rfl, ?_⟩
        rw [byteLength_append _ (text ++ _), Nat.add_sub_cancel]
      · exact absurd h (blamesNoEscape_readAddressed _ _ _ _)
  · rintro ⟨_, text, bytes, rest, @⟨thread, digits, fd, hthread, hfd⟩, hspells, hno, rfl, rfl⟩
    have hdigits := hfd.isRun_isDecimalDigit
    rw [opening?_eq_quote_iff.mpr ⟨thread, hthread, hdigits, rfl⟩]
    refine readQuoted_eq_badEscape_iff.mpr ⟨⟨fd, ?_⟩, ?_⟩
    · exact uint32?_eq_some_iff.mpr ((isNumeral_of_digits hdigits).mpr hfd)
    · rw [byteLength_append _ (text ++ _), Nat.add_sub_cancel]
      exact readPayload_eq_badEscape_iff.mpr ⟨text, bytes, rest, hspells, hno, rfl, rfl⟩

theorem ofLine_eq_badEscape_iff {line : String} {offset : Nat} {escape : String} :
    ofLine line = .error (.badEscape offset escape) ↔
      readCall (trim line.toList) = .error (.badEscape offset escape) := by
  unfold ofLine
  dsimp only
  split
  · cases readCall (trim line.toList) with
    | error e =>
      show Except.error e = Except.error _ ↔ Except.error e = Except.error _
      rw [Except.error.injEq, Except.error.injEq]
    | ok call => exact ⟨fun h => (nomatch h), fun h => (nomatch h)⟩
  · next hmarker =>
    refine ⟨fun h => (nomatch h), fun h => ?_⟩
    -- A line with a bad escape opens like a call, so that it would be marked.
    obtain ⟨head, text, bytes, rest, hopens, -, -, hline, -⟩ := readCall_eq_badEscape_iff.mp h
    rw [hline] at hmarker
    exact absurd (contains_iff.mpr (hopens.marked _)) hmarker

/-! ## Positions in the line as it was handed over -/

section Line

variable {line lead head text rest reported : List Char} {bytes : List UInt8} {position : Nat}

theorem Opens.not_begins (h : Opens head) (rest : List Char) : ¬ Begins isSpace (head ++ rest) := by
  obtain ⟨c, cs, rfl, hc⟩ := h.exists_cons
  rw [List.cons_append, begins_cons, hc]
  exact Bool.false_ne_true

theorem indentation_append (hlead : IsBlank lead) (hopens : Opens head) (rest : List Char) :
    indentation (lead ++ (head ++ rest)) = byteLength lead := by
  obtain ⟨htake, -⟩ := takeWhile_of_not_begins (hopens.not_begins rest)
  rw [indentation, List.takeWhile_append_of_pos hlead, htake, List.append_nil]

/-- Trimming cuts off what is blank in front of the opening and behind the escape. -/
theorem trim_opened (hlead : IsBlank lead) (hopens : Opens head) (hrest : ¬ IsBlank rest) :
    trim (lead ++ (head ++ (text ++ '\\' :: rest))) =
      head ++ (text ++ '\\' :: trimEnd rest) := by
  rw [trim_eq_iff]
  obtain ⟨trail, hcut, htrail⟩ := exists_trimEnd_append rest
  refine ⟨⟨lead, trail, ?_, hlead, htrail⟩, hopens.not_begins _, ?_⟩
  · simp only [List.append_assoc, List.cons_append]
    rw [← hcut]
  · rw [List.append_cons, ← List.append_assoc, ends_append_of_ne_nil (trimEnd_ne_nil hrest)]
    exact not_ends_trimEnd rest

/-- The rest of a trimmed line with a bad escape is not blank, and it is no more so with what was
cut off. -/
theorem not_isBlank_append {before trail : List Char} (hends : ¬ Ends isSpace (before ++ rest))
    (hne : rest ≠ []) : ¬ IsBlank (rest ++ trail) := by
  intro hblank
  have hrun : IsRun isSpace rest := ⟨hne, (List.forall_mem_append.mp hblank).1⟩
  exact hends ((ends_append_of_ne_nil hne before).mpr hrun.ends)

/-- The error about a bad escape counts from where the indentation ends. -/
theorem hasBadEscape_iff (line : String) (offset : Nat) (escape : String) :
    ofLine line = .error (.badEscape offset escape) ↔
      HasBadEscape line.toList (indentation line.toList + offset) escape.toList := by
  rw [ofLine_eq_badEscape_iff, readCall_eq_badEscape_iff]
  generalize line.toList = cs
  constructor
  · rintro ⟨head, text, bytes, rest, hopens, hspells, hno, htrim, rfl⟩
    obtain ⟨⟨lead, trail, rfl, hlead, htrail⟩, -, hends⟩ := trim_eq_iff.mp htrim
    rw [List.append_cons, ← List.append_assoc] at hends
    have hrest : ¬ IsBlank (rest ++ trail) := not_isBlank_append hends hno.ne_nil
    have h := HasBadEscape.mk hlead hopens hspells
      ((noEscape_append_iff hno.ne_nil htrail).mpr hno) hrest
    rw [← indentation_append hlead hopens] at h
    simpa only [List.append_assoc, List.cons_append] using h
  · intro h
    generalize hposition : indentation cs + offset = position at h
    cases h with
    | @mk lead head text bytes rest _ hlead hopens hspells hno hrest =>
      rw [indentation_append hlead hopens, Nat.add_left_cancel_iff] at hposition
      refine ⟨head, text, bytes, trimEnd rest, hopens, hspells, ?_,
        trim_opened hlead hopens hrest, hposition⟩
      obtain ⟨trail, hcut, htrail⟩ := exists_trimEnd_append rest
      rw [hcut] at hno
      exact (noEscape_append_iff (trimEnd_ne_nil hrest) htrail).mp hno

theorem HasBadEscape.indentation_le (h : HasBadEscape line position reported) :
    indentation line ≤ position := by
  cases h with
  | mk hlead hopens =>
    rw [indentation_append hlead hopens]
    exact Nat.le_add_right _ _

/-- The byte at the place of a bad escape is its backslash. -/
theorem HasBadEscape.backslash (h : HasBadEscape line position reported) :
    (encode line)[position]? = some 0x5C := by
  cases h with
  | @mk lead head text bytes rest =>
    have hbyte := getElem?_encode_cons (by decide : String.utf8EncodeChar '\\' = [0x5C])
      (lead ++ (head ++ text)) rest
    simpa only [byteLength_append, List.append_assoc] using hbyte

/-- A line has one place where it is first at fault. -/
theorem HasBadEscape.position_unique {position' : Nat} {reported' : List Char}
    (h : HasBadEscape line position reported) (h' : HasBadEscape line position' reported') :
    position = position' := by
  obtain ⟨offset, rfl⟩ := Nat.exists_eq_add_of_le h.indentation_le
  obtain ⟨offset', rfl⟩ := Nat.exists_eq_add_of_le h'.indentation_le
  have hread := (hasBadEscape_iff (String.ofList line) offset (String.ofList reported)).mpr
    (by simpa only [String.toList_ofList] using h)
  rw [(hasBadEscape_iff (String.ofList line) offset' (String.ofList reported')).mpr
    (by simpa only [String.toList_ofList] using h')] at hread
  rw [(Error.badEscape.inj (Except.error.inj hread)).1]

theorem indentation_eq_zero_iff : indentation line = 0 ↔ ¬ Begins isSpace line := by
  constructor
  · intro h hbegins
    cases line with
    | nil => exact not_begins_nil _ hbegins
    | cons c line =>
      rw [indentation, List.takeWhile_cons_of_pos ((begins_cons ..).mp hbegins)] at h
      exact absurd h (Nat.ne_of_gt (byteLength_pos (by simp)))
  · intro h
    rw [indentation, (takeWhile_of_not_begins h).1]
    rfl

end Line

/-- **A bad escape is told by its distance from the indentation.** A line is refused for a bad
escape just if it has one, and what is told is how far its backslash stands behind the white space
in front of the line. The backslash is the byte at the sum of both. So the place that is told is the
place in the line as it was handed over if the line is not indented, and a wrong one otherwise. -/
theorem bad_escape_told_from_indentation (line : String) :
    (∀ offset escape, ofLine line = .error (.badEscape offset escape) ↔
      HasBadEscape line.toList (indentation line.toList + offset) escape.toList) ∧
    (∀ position reported, HasBadEscape line.toList position reported →
      indentation line.toList ≤ position ∧ (encode line.toList)[position]? = some 0x5C) ∧
    ∀ offset escape, ofLine line = .error (.badEscape offset escape) →
      ((∃ reported, HasBadEscape line.toList offset reported) ↔ ¬ Begins isSpace line.toList) := by
  refine ⟨hasBadEscape_iff line, fun _ _ h => ⟨h.indentation_le, h.backslash⟩, ?_⟩
  intro offset escape h
  rw [hasBadEscape_iff] at h
  rw [← indentation_eq_zero_iff]
  constructor
  · rintro ⟨reported, hplace⟩
    have := hplace.position_unique h
    omega
  · intro hindentation
    rw [hindentation, Nat.zero_add] at h
    exact ⟨_, h⟩

/-- A bad escape behind one that is none, in a line that a tab indents. -/
theorem bad_escape_told_from_indentation_tab :
    ofLine "\t[pid 7] write(1, \"é\\n\\q\", 3) = 3 \n" = .error (.badEscape 22 "q") ∧
    HasBadEscape "\t[pid 7] write(1, \"é\\n\\q\", 3) = 3 \n".toList 23 ['q'] ∧
    (encode "\t[pid 7] write(1, \"é\\n\\q\", 3) = 3 \n".toList)[23]? = some 0x5C ∧
    ¬ ∃ reported, HasBadEscape "\t[pid 7] write(1, \"é\\n\\q\", 3) = 3 \n".toList 22 reported := by
  obtain ⟨htold, hplace, hright⟩ :=
    bad_escape_told_from_indentation "\t[pid 7] write(1, \"é\\n\\q\", 3) = 3 \n"
  have hline : ofLine "\t[pid 7] write(1, \"é\\n\\q\", 3) = 3 \n" = .error (.badEscape 22 "q") := by
    decide +kernel
  have hbad := (htold 22 "q").mp hline
  have hindented : Begins isSpace "\t[pid 7] write(1, \"é\\n\\q\", 3) = 3 \n".toList :=
    ⟨'\t', by simp, by decide⟩
  exact ⟨hline, hbad, (hplace _ _ hbad).2, fun h => (hright _ _ hline).mp h hindented⟩

/-- **The place told lies before the backslash**: in a line that two blanks indent it is that of the
quote in front of the payload. -/
theorem bad_escape_told_before_backslash :
    ofLine "  write(1, \"a\\q\", 3) = 3" = .error (.badEscape 11 "q") ∧
    HasBadEscape "  write(1, \"a\\q\", 3) = 3".toList 13 ['q'] ∧
    (encode "  write(1, \"a\\q\", 3) = 3".toList)[11]? = some 0x22 ∧
    ¬ ∃ reported, HasBadEscape "  write(1, \"a\\q\", 3) = 3".toList 11 reported := by
  have hline : ofLine "  write(1, \"a\\q\", 3) = 3" = .error (.badEscape 11 "q") := by
    decide +kernel
  have hbyte : (encode "  write(1, \"a\\q\", 3) = 3".toList)[11]? = some 0x22 := by
    decide +kernel
  refine ⟨hline, (hasBadEscape_iff _ 11 "q").mp hline, hbyte, ?_⟩
  rintro ⟨reported, h⟩
  rw [h.backslash] at hbyte
  cases hbyte

end TraceRelay.TracedWrite
