import TraceRelay.Proofs.TracedWrite.Payload

/-!
# Decoding of any text

Every text is a sequence of elements and something behind them that is not one: the closing quote,
the end of the text, a backslash with nothing behind it, or a backslash that begins no escape.
`Decodes offset cs result` says what the text comes to in each of these cases, and reading a payload
comes to that and nothing else, so that the cases exclude each other and leave nothing out.
-/

namespace TraceRelay.TracedWrite

open Text

/-! ## Where a text stops being elements -/

/-- What stands behind a backslash and begins no escape, with the part of it that is reported: a
character that no escape begins with, octal digits for more than a byte, or an `x` in front of no
digit. Of characters only the ASCII ones are reported as they are. -/
inductive NoEscape : (rest reported : List Char) → Prop
  | letter {c rest} : (∀ b, (c, b) ∉ simpleEscapes) → isOctalDigit c = false → c ≠ 'x' →
      NoEscape (c :: rest) [if c.toNat < 0x80 then c else '\uFFFD']
  | octal {digits next} : Greedy isOctalDigit 3 digits next → 255 < numeral 8 digits →
      NoEscape (digits ++ next) digits
  | hex {next} : ¬ Begins isHexDigit next → NoEscape ('x' :: next) ['x']

/-- The ways in which elements can end, and what a text at `offset` comes to by them. -/
inductive Decodes (offset : Nat) : List Char → Except PayloadError (List UInt8 × List Char) → Prop
  /-- A quote closes the elements, whatever stands behind it. -/
  | closed {text bytes rest} : Spells text bytes →
      Decodes offset (text ++ '"' :: rest) (.ok (bytes, rest))
  | ended {text bytes} : Spells text bytes → Decodes offset text (.error .unterminated)
  /-- The text ends inside an escape. -/
  | cutOff {text bytes} : Spells text bytes →
      Decodes offset (text ++ ['\\']) (.error .unterminated)
  | invalid {text bytes rest reported} : Spells text bytes → NoEscape rest reported →
      Decodes offset (text ++ '\\' :: rest)
        (.error (.badEscape (offset + byteLength text) reported))

theorem simpleEscape?_isSome_eq_false_iff {c : Char} :
    (simpleEscape? c).isSome = false ↔ ∀ b, (c, b) ∉ simpleEscapes := by
  rw [Option.isSome_eq_false_iff, Option.isNone_iff_eq_none, Option.eq_none_iff_forall_ne_some]
  exact forall_congr' fun b => not_congr simpleEscape?_eq_some_iff

/-- A reader that looks for digits finds none just if the text begins with none. -/
theorem takeWhile_take_eq_nil_iff {p : Char → Bool} {most : Nat} (hmost : 0 < most)
    {cs : List Char} : (cs.take most).takeWhile p = [] ↔ ¬ Begins p cs := by
  obtain ⟨n, rfl⟩ := Nat.exists_eq_succ_of_ne_zero (Nat.ne_of_gt hmost)
  cases cs with
  | nil => simp
  | cons c cs => by_cases hc : p c = true <;> simp [hc]

theorem frontEscape_eq_invalid_iff {cs reported : List Char} :
    frontEscape cs = .invalid reported ↔ NoEscape cs reported := by
  constructor
  · intro h
    cases cs with
    | nil => cases h
    | cons c cs =>
      rw [frontEscape] at h
      split at h
      · cases h
      · next hsimple =>
        rw [Bool.not_eq_true, simpleEscape?_isSome_eq_false_iff] at hsimple
        split at h
        · next hoctal =>
          dsimp only at h
          split at h
          · cases h
          · next hlarge =>
            cases h
            have hne : ((c :: cs).take 3).takeWhile isOctalDigit ≠ [] := by
              rw [Ne, takeWhile_take_eq_nil_iff (by decide), begins_cons, not_not]
              exact hoctal
            obtain ⟨next, happ, hd⟩ := (takeWhile_take_eq_greedy_iff hne).mp rfl
            rw [ofDigits_octal hd.run] at hlarge
            have hinvalid := NoEscape.octal hd (by omega)
            rwa [← happ] at hinvalid
        · next hoctal =>
          split at h
          · next hx =>
            dsimp only at h
            split at h
            · next hnone =>
              cases h
              rw [hx]
              exact .hex ((takeWhile_take_eq_nil_iff (by decide)).mp hnone)
            · cases h
          · next hx =>
            cases h
            exact .letter hsimple (by simpa using hoctal) hx
  · intro h
    cases h with
    | @letter c rest hsimple hoctal hx =>
      rw [← simpleEscape?_isSome_eq_false_iff] at hsimple
      rw [frontEscape, if_neg (by simp [hsimple]), if_neg (by simp [hoctal]), if_neg hx]
      rfl
    | @octal digits next hd hlarge =>
      obtain ⟨d, more, rfl, hoctal⟩ := hd.run.exists_cons
      have htake := hd.takeWhile_take
      rw [← ofDigits_octal hd.run] at hlarge
      rw [List.cons_append] at htake ⊢
      rw [frontEscape, if_neg (by simp [simpleEscape?_of_isOctalDigit hoctal]), if_pos hoctal,
        htake]
      exact if_neg (by omega)
    | @hex next hnone =>
      rw [frontEscape, if_neg (by decide), if_neg (by decide), if_pos rfl,
        (takeWhile_take_eq_nil_iff (by decide)).mpr hnone]
      rfl

theorem frontEscape_eq_cutOff_iff {cs : List Char} : frontEscape cs = .cutOff ↔ cs = [] := by
  cases cs with
  | nil => simp [frontEscape]
  | cons c cs =>
    rw [frontEscape]
    dsimp only
    split_ifs <;> simp

theorem front_eq_invalid_iff {cs reported : List Char} :
    front cs = .invalid reported ↔ ∃ rest, cs = '\\' :: rest ∧ NoEscape rest reported := by
  cases cs with
  | nil => simp [front]
  | cons c cs =>
    by_cases hquote : c = '"'
    · simp [front, hquote]
    · by_cases hslash : c = '\\'
      · simp [front, hslash, frontEscape_eq_invalid_iff]
      · simp [front, hquote, hslash]

theorem front_eq_cutOff_iff {cs : List Char} : front cs = .cutOff ↔ cs = [] ∨ cs = ['\\'] := by
  cases cs with
  | nil => simp [front]
  | cons c cs =>
    by_cases hquote : c = '"'
    · simp [front, hquote]
    · by_cases hslash : c = '\\'
      · simp [front, hslash, frontEscape_eq_cutOff_iff]
      · simp [front, hquote, hslash]

/-! ## Reading a text that is not closed -/

theorem decodeFrom_of_cutOff {cs : List Char} (h : front cs = .cutOff) (offset : Nat) :
    decodeFrom offset 0 cs = .error .unterminated := by
  cases cs with
  | nil => rfl
  | cons c cs => rw [decodeFrom, h]

theorem decodeFrom_of_invalid {cs reported : List Char} (h : front cs = .invalid reported)
    (offset : Nat) : decodeFrom offset 0 cs = .error (.badEscape offset reported) := by
  cases cs with
  | nil => cases h
  | cons c cs => rw [decodeFrom, h]

/-- Reading comes to what is written where the elements end. -/
theorem readPayload_of_decodes {offset : Nat} {cs : List Char}
    {result : Except PayloadError (List UInt8 × List Char)} (h : Decodes offset cs result) :
    readPayload offset cs = result := by
  -- Elements in front of a text where none stands only shift the place of an error.
  have herror {text tail : List Char} {bytes : List UInt8} {e : PayloadError}
      (hspells : Spells text bytes) (htail : ∀ t, front tail ≠ .token t)
      (hread : decodeFrom (offset + byteLength text) 0 tail = .error e) :
      readPayload offset (text ++ tail) = .error e := by
    rw [readPayload, decodeFrom_append hspells (not_begins_hex_of_front htail), hread]
    rfl
  cases h with
  | closed hspells => exact readPayload_eq_ok_iff.mpr ⟨_, hspells, rfl⟩
  | ended hspells =>
    have hend : front [] = .cutOff := front_eq_cutOff_iff.mpr (.inl rfl)
    rw [← List.append_nil cs]
    exact herror hspells (by simp [hend]) (decodeFrom_of_cutOff hend _)
  | cutOff hspells =>
    have hend : front ['\\'] = .cutOff := front_eq_cutOff_iff.mpr (.inr rfl)
    exact herror hspells (by simp [hend]) (decodeFrom_of_cutOff hend _)
  | invalid hspells hno =>
    have hinvalid := front_eq_invalid_iff.mpr ⟨_, rfl, hno⟩
    exact herror hspells (by simp [hinvalid]) (decodeFrom_of_invalid hinvalid _)

/-- One of the cases holds of every text. -/
theorem exists_decodes (offset : Nat) (cs : List Char) : ∃ result, Decodes offset cs result := by
  obtain ⟨text, tail, bytes, rfl, hspells, htail⟩ := exists_spells_append cs
  cases hfront : front tail with
  | close =>
    obtain ⟨rest, rfl⟩ := front_eq_close_iff.mp hfront
    exact ⟨_, .closed hspells⟩
  | token t => exact absurd hfront (htail t)
  | cutOff =>
    rcases front_eq_cutOff_iff.mp hfront with rfl | rfl
    · rw [List.append_nil]
      exact ⟨_, .ended hspells⟩
    · exact ⟨_, .cutOff hspells⟩
  | invalid reported =>
    obtain ⟨rest, rfl, hno⟩ := front_eq_invalid_iff.mp hfront
    exact ⟨_, .invalid hspells hno⟩

theorem readPayload_eq_iff {offset : Nat} {cs : List Char}
    {result : Except PayloadError (List UInt8 × List Char)} :
    readPayload offset cs = result ↔ Decodes offset cs result := by
  constructor
  · intro h
    obtain ⟨other, hother⟩ := exists_decodes offset cs
    rw [← h, readPayload_of_decodes hother]
    exact hother
  · exact readPayload_of_decodes

/-! ## Spellings of bytes -/

/-- The octal digit of a value. -/
def octalDigit (n : Nat) : Char :=
  Char.ofNat (n + '0'.toNat)

theorem octalDigit_value {n : Nat} (h : n < 8) :
    isOctalDigit (octalDigit n) = true ∧ digitValue (octalDigit n) = n := by
  have hall : ∀ n < 8, isOctalDigit (octalDigit n) = true ∧ digitValue (octalDigit n) = n := by
    decide +kernel
  exact hall n h

/-- The three octal digits of a byte. -/
def octalDigits (b : UInt8) : List Char :=
  [octalDigit (b.toNat / 64), octalDigit (b.toNat / 8 % 8), octalDigit (b.toNat % 8)]

theorem octalDigits_value (b : UInt8) :
    IsRun isOctalDigit (octalDigits b) ∧ numeral 8 (octalDigits b) = b.toNat := by
  have hlt := b.toNat_lt
  obtain ⟨hhigh, hhigh'⟩ := octalDigit_value (n := b.toNat / 64) (by omega)
  obtain ⟨hmid, hmid'⟩ := octalDigit_value (n := b.toNat / 8 % 8) (by omega)
  obtain ⟨hlow, hlow'⟩ := octalDigit_value (n := b.toNat % 8) (by omega)
  constructor
  · simp [IsRun, octalDigits, hhigh, hmid, hlow]
  · simp only [numeral, octalDigits, List.reverse_cons, List.reverse_nil, List.nil_append,
      List.cons_append, List.map_cons, List.map_nil, hhigh', hmid', hlow', Nat.ofDigits_cons,
      Nat.ofDigits_nil]
    omega

/-- Every byte string has a spelling, were it the octal escapes of its bytes. -/
theorem exists_spells (bytes : List UInt8) : ∃ text, Spells text bytes := by
  induction bytes with
  | nil => exact ⟨[], .nil⟩
  | cons b bytes ih =>
    obtain ⟨text, htext⟩ := ih
    obtain ⟨hrun, hvalue⟩ := octalDigits_value b
    have hgreedy : Greedy isOctalDigit 3 (octalDigits b) text := ⟨hrun, Nat.le_refl 3, .inl rfl⟩
    have helement := Element.octal hgreedy (hvalue ▸ Nat.le_of_lt_succ b.toNat_lt)
    rw [hvalue, UInt8.ofNat_toNat] at helement
    exact ⟨_, .cons helement htext⟩

/-- **Reading a payload is greedy tokenisation**: what a text comes to is decided by what stands
where its elements end, which is exactly one of the four things in `Decodes`, and nothing behind a
closing quote matters. The elements and the quote are what is taken from the text. Every byte string
has a spelling, and each of its spellings is read as it. -/
theorem readPayload_is_greedy (offset : Nat) (cs : List Char) :
    (∀ result, readPayload offset cs = result ↔ Decodes offset cs result) ∧
    (∃! result, Decodes offset cs result) ∧
    (∀ bytes rest, readPayload offset cs = .ok (bytes, rest) →
      ∃ text, Spells text bytes ∧ cs = text ++ '"' :: rest ∧
        byteLength cs - byteLength rest = byteLength text + 1) ∧
    ∀ bytes, (∃ text, Spells text bytes) ∧
      ∀ text rest, Spells text bytes →
        readPayload offset (text ++ '"' :: rest) = .ok (bytes, rest) := by
  refine ⟨fun _ => readPayload_eq_iff, ?_, ?_, ?_⟩
  · refine ⟨_, readPayload_eq_iff.mp rfl, ?_⟩
    intro result h
    exact (readPayload_eq_iff.mpr h).symm
  · intro bytes rest h
    obtain ⟨text, hspells, rfl⟩ := readPayload_eq_ok_iff.mp h
    have hquote : ('"' : Char).utf8Size = 1 := by decide
    refine ⟨text, hspells, rfl, ?_⟩
    rw [byteLength_append, byteLength_cons, hquote]
    omega
  · intro bytes
    refine ⟨exists_spells bytes, ?_⟩
    intro text rest hspells
    exact readPayload_eq_ok_iff.mpr ⟨text, hspells, rfl⟩

/-- A token's digits go on as long as they can: a digit behind three octal ones is a character, and
an escape may be cut anywhere. -/
example : readPayload 7 "\\1234\\x4g\\\\\" = 2".toList =
      .ok ([83, 52, 4, 103, 92], " = 2".toList) ∧
    readPayload 7 "a\\18\\".toList = .error .unterminated ∧
    readPayload 7 "é\\400\"".toList = .error (.badEscape 9 "400".toList) := by
  decide +kernel

end TraceRelay.TracedWrite
