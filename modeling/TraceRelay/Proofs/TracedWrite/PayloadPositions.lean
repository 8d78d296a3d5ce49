import TraceRelay.Proofs.Text.Access
import TraceRelay.Proofs.TracedWrite.Decoding

/-!
# Payloads by positions

A payload can be decoded by positions in its bytes instead of from the front: a byte at a time, the
digits of an escape as the part of the text between two positions. A plain character of several
bytes is then taken over in as many rounds, most of which begin inside it. Parts of the text are
taken at digits alone, and these stand between characters. So decoding by positions never halts with
a fault, and otherwise it is the same as decoding from the front.
-/

namespace TraceRelay.TracedWrite

open Text

/-! ## Rounds -/

/-- The position behind the digits from a position on, of which at most `most` are taken. -/
def digitsEnd (isDigit : Char → Bool) (bytes : List UInt8) :
    (most position : Nat) → Except (Halt PayloadError) Nat
  | 0, position => .ok position
  | most + 1, position =>
    if position < bytes.length then do
      if isDigit (byteChar (← byteAt bytes position)) then
        digitsEnd isDigit bytes most (position + 1)
      else return position
    else return position

/-- What one round of decoding comes to. -/
inductive Round
  /-- The closing quote, with the number of bytes up to it and with it. -/
  | closed (consumed : Nat)
  /-- A byte of the payload, and the position from which to go on. -/
  | decoded (byte : UInt8) (next : Nat)

/-- The round at a backslash with a byte behind it; the backslash stands at `position`. -/
def escapeRound (base : Nat) (text : List Char) (position : Nat) (b : UInt8) :
    Except (Halt PayloadError) Round :=
  let invalid (escape : List Char) : Except (Halt PayloadError) Round :=
    .error (.reported (.badEscape (base + position) escape))
  match simpleEscape? (byteChar b) with
  | some byte => return .decoded byte (position + 2)
  | none =>
    if isOctalDigit (byteChar b) then do
      let last ← digitsEnd isOctalDigit (encode text) 3 (position + 1)
      let digits ← partOf text (position + 1) last
      if ofDigits 8 digits ≤ 255 then return .decoded (UInt8.ofNat (ofDigits 8 digits)) last
      else invalid digits
    else if byteChar b = 'x' then do
      let last ← digitsEnd isHexDigit (encode text) 2 (position + 2)
      if last = position + 2 then invalid ['x']
      else
        let digits ← partOf text (position + 2) last
        let byte ← byteOf (ofDigits 16 digits)
        return .decoded byte last
    else invalid (decodeLossy [b])

/-- One round of decoding, at a position of the text. -/
def round (base : Nat) (text : List Char) (position : Nat) : Except (Halt PayloadError) Round :=
  if position < (encode text).length then do
    let b ← byteAt (encode text) position
    if b = 0x22 then return .closed (position + 1)
    else if b = 0x5C then
      match (encode text)[position + 1]? with
      | some b => escapeRound base text position b
      | none => .error (.reported .unterminated)
    else return .decoded b (position + 1)
  else .error (.reported .unterminated)

theorem le_of_digitsEnd {isDigit : Char → Bool} {bytes : List UInt8} {most position last : Nat}
    (h : digitsEnd isDigit bytes most position = .ok last) : position ≤ last := by
  induction most generalizing position with
  | zero =>
    cases h
    exact Nat.le_refl _
  | succ most ih =>
    rw [digitsEnd] at h
    split at h
    · obtain ⟨b, -, h⟩ := bind_eq_ok_iff.mp h
      split at h
      · exact Nat.le_of_succ_le (ih h)
      · cases h
        exact Nat.le_refl _
    · cases h
      exact Nat.le_refl _

theorem lt_of_escapeRound {base : Nat} {text : List Char} {position next : Nat} {b byte : UInt8}
    (h : escapeRound base text position b = .ok (.decoded byte next)) : position < next := by
  unfold escapeRound at h
  dsimp only at h
  split at h
  · cases h
    omega
  · split at h
    · obtain ⟨last, hlast, h⟩ := bind_eq_ok_iff.mp h
      obtain ⟨digits, -, h⟩ := bind_eq_ok_iff.mp h
      have hle := le_of_digitsEnd hlast
      split at h
      · cases h
        omega
      · cases h
    · split at h
      · obtain ⟨last, hlast, h⟩ := bind_eq_ok_iff.mp h
        have hle := le_of_digitsEnd hlast
        split at h
        · cases h
        · obtain ⟨digits, -, h⟩ := bind_eq_ok_iff.mp h
          obtain ⟨byte, -, h⟩ := bind_eq_ok_iff.mp h
          cases h
          omega
      · cases h

/-- Each round that goes on goes on behind where it began, inside the text. -/
theorem lt_of_round {base : Nat} {text : List Char} {position next : Nat} {byte : UInt8}
    (h : round base text position = .ok (.decoded byte next)) :
    position < byteLength text ∧ position < next := by
  unfold round at h
  split at h
  · next hlt =>
    rw [length_encode] at hlt
    refine ⟨hlt, ?_⟩
    obtain ⟨b, -, h⟩ := bind_eq_ok_iff.mp h
    split at h
    · cases h
    · split at h
      · split at h
        · exact lt_of_escapeRound h
        · cases h
      · cases h
        omega
  · cases h

/-- The payload from a position on, behind the bytes decoded before, and the number of bytes up to
its closing quote and with it. -/
def decodeAt (base : Nat) (text : List Char) (position : Nat) (decoded : List UInt8) :
    Except (Halt PayloadError) (List UInt8 × Nat) :=
  match h : round base text position with
  | .error halt => .error halt
  | .ok (.closed consumed) => .ok (decoded, consumed)
  | .ok (.decoded byte next) =>
    -- A round that goes on began inside the text, and leaves less of it.
    have := lt_of_round h
    decodeAt base text next (decoded ++ [byte])
termination_by byteLength text - position

/-! ## Escapes -/

section Escapes

variable {b : UInt8} {bytes : List UInt8}

/-- Digits are counted by their bytes, of which each has one. -/
theorem digitsEnd_append {isDigit : Char → Bool}
    (hother : ∀ c : Char, 0x80 ≤ c.toNat → isDigit c = false) (most : Nat) (before cs : List Char) :
    digitsEnd isDigit (encode (before ++ cs)) most (byteLength before) =
      .ok (byteLength before + byteLength ((cs.take most).takeWhile isDigit)) := by
  induction most generalizing before cs with
  | zero => simp [digitsEnd]
  | succ most ih =>
    rw [digitsEnd]
    cases cs with
    | nil =>
      rw [List.append_nil, length_encode, if_neg (Nat.lt_irrefl _)]
      rfl
    | cons c cs =>
      obtain ⟨b, bytes, hc, -⟩ := exists_utf8EncodeChar_eq c
      have hbyte := getElem?_encode_cons hc before cs
      have hlt := (List.getElem?_eq_some_iff.mp hbyte).1
      rw [if_pos hlt, byteAt_of_getElem? hbyte, ok_bind, apply_byteChar hother hc,
        List.take_succ_cons]
      by_cases hdig : isDigit c = true
      · -- A digit has one byte, so that the next position is behind it.
        have hascii : c.toNat < 0x80 := toNat_lt_of_ne hother (by simp [hdig])
        have hsize := utf8Size_of_lt hascii
        have hnext := ih (before ++ [c]) cs
        rw [List.append_assoc, List.singleton_append, byteLength_append, byteLength_cons, hsize]
          at hnext
        rw [if_pos hdig, List.takeWhile_cons_of_pos hdig, byteLength_cons, hsize, ← Nat.add_assoc]
        exact hnext
      · rw [if_neg hdig, List.takeWhile_cons_of_neg hdig]
        rfl

/-- The digits behind a position are the part of the text up to their end. -/
theorem partOf_digits {ε : Type} {isDigit : Char → Bool} (most : Nat) (before cs : List Char) :
    (partOf (before ++ cs) (byteLength before)
      (byteLength before + byteLength ((cs.take most).takeWhile isDigit)) :
        Except (Halt ε) (List Char)) = .ok ((cs.take most).takeWhile isDigit) := by
  obtain ⟨next, hcs, -⟩ := (@takeWhile_take_eq_iff isDigit most cs _).mp rfl
  have hpart := @partOf_append ε before ((cs.take most).takeWhile isDigit) next
  rwa [← hcs] at hpart

theorem simpleEscape?_of_le {c : Char} (h : 0x80 ≤ c.toNat) : simpleEscape? c = none := by
  have hascii : ∀ escape ∈ simpleEscapes, escape.1.toNat < 0x80 := by decide
  rw [Option.eq_none_iff_forall_ne_some]
  intro b hb
  have hlt := hascii _ (simpleEscape?_eq_some_iff.mp hb)
  exact Nat.not_lt.mpr h hlt

theorem isOctalDigit_of_le {c : Char} (h : 0x80 ≤ c.toNat) : isOctalDigit c = false := by
  rw [← Bool.not_eq_true, isOctalDigit_iff]
  omega

theorem isHexDigit_of_le {c : Char} (h : 0x80 ≤ c.toNat) : isHexDigit c = false := by
  rw [← Bool.not_eq_true]
  intro hdigit
  exact Nat.not_lt.mpr h (toNat_lt_of_isHexDigit hdigit)

/-- Two hexadecimal digits denote a byte. -/
theorem ofDigits_hex_lt (cs : List Char) :
    ofDigits 16 ((cs.take 2).takeWhile isHexDigit) < 256 := by
  obtain ⟨-, -, -, hlen, -⟩ := (@takeWhile_take_eq_iff isHexDigit 2 cs _).mp rfl
  calc ofDigits 16 ((cs.take 2).takeWhile isHexDigit)
    _ < 16 ^ ((cs.take 2).takeWhile isHexDigit).length := ofDigits_lt_pow _
    _ ≤ 16 ^ 2 := Nat.pow_le_pow_right (by decide) hlen

/-- What a round comes to where something stands in front; an escape stands for one byte. -/
def roundOf (base position : Nat) : Front → Except (Halt PayloadError) Round
  | .close => .ok (.closed (position + 1))
  | .token t => .ok (.decoded (t.bytes.headD 0) (position + byteLength t.spelling))
  | .cutOff => .error (.reported .unterminated)
  | .invalid escape => .error (.reported (.badEscape (base + position) escape))

theorem utf8Size_backslash : ('\\' : Char).utf8Size = 1 := by decide

theorem escapeRound_of_simple {c : Char} (h : String.utf8EncodeChar c = b :: bytes) {byte : UInt8}
    (hsimple : simpleEscape? c = some byte) (base : Nat) (before cs : List Char) :
    escapeRound base (before ++ '\\' :: c :: cs) (byteLength before) b =
      roundOf base (byteLength before) (frontEscape (c :: cs)) := by
  have hascii : c.toNat < 0x80 :=
    toNat_lt_of_ne (fun c => simpleEscape?_of_le) (by simp [hsimple])
  rw [escapeRound, apply_byteChar (fun c => simpleEscape?_of_le) h, frontEscape, hsimple]
  show Except.ok _ = roundOf base (byteLength before) (.token (.simple c))
  rw [roundOf, Token.bytes, hsimple, Token.spelling, byteLength_cons, byteLength_cons,
    utf8Size_backslash, utf8Size_of_lt hascii]
  rfl

theorem escapeRound_of_octal {c : Char} (h : String.utf8EncodeChar c = b :: bytes)
    (hoctal : isOctalDigit c = true) (base : Nat) (before cs : List Char) :
    escapeRound base (before ++ '\\' :: c :: cs) (byteLength before) b =
      roundOf base (byteLength before) (frontEscape (c :: cs)) := by
  have hnone := simpleEscape?_of_isOctalDigit hoctal
  have hbefore : byteLength (before ++ ['\\']) = byteLength before + 1 := by
    rw [byteLength_append, byteLength_cons, utf8Size_backslash, byteLength_nil]
  have hend := digitsEnd_append (fun c => isOctalDigit_of_le) 3 (before ++ ['\\']) (c :: cs)
  have hpart := @partOf_digits PayloadError isOctalDigit 3 (before ++ ['\\']) (c :: cs)
  rw [List.append_assoc, List.singleton_append, hbefore] at hend hpart
  have hfront : frontEscape (c :: cs) =
      if ofDigits 8 (((c :: cs).take 3).takeWhile isOctalDigit) ≤ 255 then
        .token (.octal (((c :: cs).take 3).takeWhile isOctalDigit))
      else .invalid (((c :: cs).take 3).takeWhile isOctalDigit) := by
    rw [frontEscape, hnone, if_neg (by decide), if_pos hoctal]
  generalize ((c :: cs).take 3).takeWhile isOctalDigit = digits at hend hpart hfront
  rw [hfront, escapeRound, apply_byteChar (fun c => simpleEscape?_of_le) h, hnone]
  dsimp only
  rw [apply_byteChar (fun c => isOctalDigit_of_le) h, if_pos hoctal, hend, ok_bind, hpart, ok_bind]
  by_cases hle : ofDigits 8 digits ≤ 255
  · rw [if_pos hle, if_pos hle, roundOf, Token.spelling, byteLength_cons, utf8Size_backslash,
      ← Nat.add_assoc]
    rfl
  · rw [if_neg hle, if_neg hle, roundOf]

theorem escapeRound_of_hex (base : Nat) (before cs : List Char) :
    escapeRound base (before ++ '\\' :: 'x' :: cs) (byteLength before) 0x78 =
      roundOf base (byteLength before) (frontEscape ('x' :: cs)) := by
  have hbefore : byteLength (before ++ ['\\', 'x']) = byteLength before + 2 := by
    rw [byteLength_append]
    rfl
  have hend := digitsEnd_append (fun c => isHexDigit_of_le) 2 (before ++ ['\\', 'x']) cs
  have hpart := @partOf_digits PayloadError isHexDigit 2 (before ++ ['\\', 'x']) cs
  have hbyte := @byteOf_of_lt PayloadError _ (ofDigits_hex_lt cs)
  rw [List.append_assoc, hbefore, List.cons_append, List.singleton_append] at hend hpart
  have hfront : frontEscape ('x' :: cs) =
      if (cs.take 2).takeWhile isHexDigit = [] then .invalid ['x']
      else .token (.hex ((cs.take 2).takeWhile isHexDigit)) := by
    rw [frontEscape, if_neg (by decide), if_neg (by decide), if_pos rfl]
  have hx : byteChar 0x78 = 'x' := by decide
  have hsimple : simpleEscape? 'x' = none := rfl
  have hoctal : isOctalDigit 'x' = false := by decide
  generalize (cs.take 2).takeWhile isHexDigit = digits at hend hpart hbyte hfront
  rw [hfront, escapeRound, hx, hsimple, hoctal]
  dsimp only
  rw [if_neg (by decide), if_pos rfl, hend, ok_bind]
  by_cases hnone : digits = []
  · rw [if_pos (by rw [hnone]; rfl), if_pos hnone, roundOf]
  · have hpos := byteLength_pos hnone
    have hlength : byteLength (Token.hex digits).spelling = 2 + byteLength digits := by
      rw [Token.spelling, byteLength_cons, byteLength_cons, utf8Size_backslash, ← Nat.add_assoc]
      rfl
    rw [if_neg (by omega), if_neg hnone, hpart, ok_bind, hbyte, ok_bind, roundOf, hlength,
      ← Nat.add_assoc]
    rfl

theorem escapeRound_of_none {c : Char} (h : String.utf8EncodeChar c = b :: bytes)
    (hsimple : simpleEscape? c = none) (hoctal : isOctalDigit c = false) (hx : c ≠ 'x') (base : Nat)
    (before cs : List Char) :
    escapeRound base (before ++ '\\' :: c :: cs) (byteLength before) b =
      roundOf base (byteLength before) (frontEscape (c :: cs)) := by
  have hletter : byteChar b ≠ 'x' := by
    have hother : ∀ c : Char, 0x80 ≤ c.toNat → decide (c = 'x') = false := by
      intro c hc
      rw [decide_eq_false_iff_not]
      rintro rfl
      exact absurd hc (by decide)
    have hbyte := apply_byteChar hother h
    simpa [hx] using hbyte
  rw [escapeRound, apply_byteChar (fun c => simpleEscape?_of_le) h, frontEscape, hsimple]
  dsimp only
  rw [apply_byteChar (fun c => isOctalDigit_of_le) h, hoctal, if_neg (by decide),
    if_neg hletter, if_neg (by decide), if_neg (by decide), if_neg hx, decodeLossy_first h]
  rfl

/-- An escape is read by positions as it is from the front. -/
theorem escapeRound_eq {c : Char} (h : String.utf8EncodeChar c = b :: bytes) (base : Nat)
    (before cs : List Char) :
    escapeRound base (before ++ '\\' :: c :: cs) (byteLength before) b =
      roundOf base (byteLength before) (frontEscape (c :: cs)) := by
  cases hsimple : simpleEscape? c with
  | some byte => exact escapeRound_of_simple h hsimple base before cs
  | none =>
    by_cases hoctal : isOctalDigit c = true
    · exact escapeRound_of_octal h hoctal base before cs
    · by_cases hx : c = 'x'
      · subst hx
        cases h
        exact escapeRound_of_hex base before cs
      · exact escapeRound_of_none h hsimple (by simpa using hoctal) hx base before cs

end Escapes

/-! ## Rounds by what stands in front -/

section Rounds

variable {base : Nat} {before cs : List Char}

theorem round_eq {text : List Char} {position : Nat} {b : UInt8}
    (h : (encode text)[position]? = some b) :
    round base text position =
      if b = 0x22 then .ok (.closed (position + 1))
      else if b = 0x5C then
        match (encode text)[position + 1]? with
        | some b => escapeRound base text position b
        | none => .error (.reported .unterminated)
      else .ok (.decoded b (position + 1)) := by
  rw [round, if_pos (List.getElem?_eq_some_iff.mp h).1, byteAt_of_getElem? h, ok_bind]
  rfl

theorem round_nil : round base before (byteLength before) = .error (.reported .unterminated) := by
  rw [round, length_encode, if_neg (Nat.lt_irrefl _)]

theorem round_quote : round base (before ++ '"' :: cs) (byteLength before) =
    .ok (.closed (byteLength before + 1)) := by
  have hquote : String.utf8EncodeChar '"' = [0x22] := rfl
  rw [round_eq (getElem?_encode_cons hquote before cs), if_pos rfl]

theorem round_backslash : round base (before ++ '\\' :: cs) (byteLength before) =
    roundOf base (byteLength before) (frontEscape cs) := by
  have hslash : String.utf8EncodeChar '\\' = [0x5C] := rfl
  rw [round_eq (getElem?_encode_cons hslash before cs), if_neg (by decide), if_pos rfl,
    getElem?_encode_append, encode_cons hslash, List.nil_append, List.getElem?_cons_succ]
  cases cs with
  | nil => rfl
  | cons c cs =>
    obtain ⟨b, bytes, hc, -⟩ := exists_utf8EncodeChar_eq c
    rw [encode_cons hc, List.getElem?_cons_zero]
    exact escapeRound_eq hc base before cs

/-- The bytes of a character that is neither a quote nor a backslash are those of neither. -/
theorem ne_of_mem_utf8EncodeChar {c : Char} (hquote : c ≠ '"') (hslash : c ≠ '\\') {b : UInt8}
    (hb : b ∈ String.utf8EncodeChar c) : b ≠ 0x22 ∧ b ≠ 0x5C := by
  rcases Nat.lt_or_ge c.toNat 0x80 with hlt | hge
  · rw [utf8EncodeChar_of_lt hlt, List.mem_singleton] at hb
    subst hb
    have hchar := byteChar_of_lt hlt
    constructor
    · intro h
      rw [h] at hchar
      exact hquote hchar.symm
    · intro h
      rw [h] at hchar
      exact hslash hchar.symm
  · have hle := le_of_mem_utf8EncodeChar hge hb
    constructor
    · rintro rfl
      exact absurd hle (by decide)
    · rintro rfl
      exact absurd hle (by decide)

end Rounds

/-! ## Payloads -/

section Payloads

variable {base position : Nat} {text : List Char}

/-- Decoding is a round and, if the round goes on, what is decoded from there. -/
theorem decodeAt_round (base : Nat) (text : List Char) (position : Nat) (decoded : List UInt8) :
    decodeAt base text position decoded =
      match round base text position with
      | .error halt => .error halt
      | .ok (.closed consumed) => .ok (decoded, consumed)
      | .ok (.decoded byte next) => decodeAt base text next (decoded ++ [byte]) := by
  rw [decodeAt]
  split
  · next h => rw [h]
  · next h => rw [h]
  · next h =>
    dsimp only
    rw [h]

/-- Bytes that are neither quotes nor backslashes are taken over one by one, whether they begin
characters or not. -/
theorem decodeAt_plain {skipped bytes rest : List UInt8}
    (htext : encode text = skipped ++ (bytes ++ rest))
    (h : ∀ b ∈ bytes, b ≠ 0x22 ∧ b ≠ 0x5C) (decoded : List UInt8) :
    decodeAt base text skipped.length decoded =
      decodeAt base text (skipped.length + bytes.length) (decoded ++ bytes) := by
  induction bytes generalizing skipped decoded with
  | nil => rw [List.append_nil, List.length_nil, Nat.add_zero]
  | cons b bytes ih =>
    obtain ⟨⟨hquote, hslash⟩, hbytes⟩ := List.forall_mem_cons.mp h
    have hbyte : (encode text)[skipped.length]? = some b := by
      rw [htext, List.getElem?_append_right (Nat.le_refl _), Nat.sub_self]
      rfl
    have hround : round base text skipped.length = .ok (.decoded b (skipped.length + 1)) := by
      rw [round_eq hbyte, if_neg hquote, if_neg hslash]
    have hnext :=
      @ih (skipped ++ [b]) (by rw [htext, List.append_assoc]; rfl) hbytes (decoded ++ [b])
    rw [List.length_append, List.length_singleton, List.append_assoc,
      List.singleton_append] at hnext
    rw [decodeAt_round, hround]
    dsimp only
    rw [hnext, List.length_cons, Nat.add_assoc, Nat.add_comm 1]

/-- An escape stands for one byte. -/
theorem exists_byte_of_frontEscape {cs : List Char} {t : Token} (h : frontEscape cs = .token t) :
    ∃ b, t.bytes = [b] := by
  obtain ⟨next, hcs, he⟩ := frontEscape_eq_token h
  -- Only a plain character stands for more bytes, and no backslash is one.
  generalize t.spelling = head at hcs he
  generalize t.bytes = bytes at he
  cases he with
  | plain _ hslash =>
    cases hcs
    exact absurd rfl hslash
  | simple _ => exact ⟨_, rfl⟩
  | octal _ _ => exact ⟨_, rfl⟩
  | hex _ => exact ⟨_, rfl⟩

/-- A token in front is decoded in as many rounds as it takes, after which the position is behind
it. -/
theorem decodeAt_of_token {cs : List Char} {t : Token} (before : List Char)
    (h : front cs = .token t) (decoded : List UInt8) :
    decodeAt base (before ++ cs) (byteLength before) decoded =
      decodeAt base (before ++ cs) (byteLength before + byteLength t.spelling)
        (decoded ++ t.bytes) := by
  cases cs with
  | nil => cases h
  | cons c cs =>
    rw [front] at h
    split at h
    · cases h
    · next hquote =>
      split at h
      -- An escape takes one round, a plain character one for each of its bytes.
      · next hslash =>
        subst hslash
        obtain ⟨b, hb⟩ := exists_byte_of_frontEscape h
        rw [decodeAt_round, round_backslash, h, roundOf, hb]
        rfl
      · next hslash =>
        cases h
        have hbytes : encode (before ++ c :: cs) =
            encode before ++ (String.utf8EncodeChar c ++ encode cs) :=
          encode_append before (c :: cs)
        have hplain := @decodeAt_plain base _ _ _ _ hbytes
          (fun b hb => ne_of_mem_utf8EncodeChar hquote hslash hb) decoded
        rwa [length_encode, String.length_utf8EncodeChar] at hplain

theorem byteLength_closed (before : List Char) :
    byteLength (before ++ ['"']) = byteLength before + 1 :=
  byteLength_append ..

/-- The bytes up to a quote and with it are those that are not behind it. -/
theorem byteLength_sub_rest (before rest : List Char) :
    byteLength (before ++ '"' :: rest) - byteLength rest = byteLength before + 1 := by
  rw [List.append_cons, byteLength_append, Nat.add_sub_cancel, byteLength_closed]

/-- **A payload is decoded by positions as it is from the front**, and where it is closed the
position is the one in front of the text handed back. -/
theorem decodeAt_eq (base : Nat) (before cs : List Char) (decoded : List UInt8) :
    decodeAt base (before ++ cs) (byteLength before) decoded =
      reported ((decodeFrom (base + byteLength before) 0 cs).map fun (bytes, rest) =>
        (decoded ++ bytes, byteLength (before ++ cs) - byteLength rest)) := by
  -- What is in front of the position grows by a token at a time.
  induction hlen : cs.length using Nat.strong_induction_on generalizing before cs decoded with
  | _ n ih =>
    cases hfront : front cs with
    | close =>
      obtain ⟨rest, rfl⟩ := front_eq_close_iff.mp hfront
      rw [decodeAt_round, round_quote, decodeFrom_close]
      show Except.ok (decoded, byteLength before + 1) = Except.ok (decoded ++ [], _)
      rw [List.append_nil, byteLength_sub_rest]
    | token t =>
      obtain ⟨next, rfl, -⟩ := front_eq_token hfront
      have hlt : next.length < n := by
        have := t.length_spelling_pos
        rw [List.length_append] at hlen
        omega
      have hnext := ih next.length hlt (before ++ t.spelling) next (decoded ++ t.bytes) rfl
      rw [List.append_assoc, byteLength_append, ← Nat.add_assoc] at hnext
      rw [decodeAt_of_token before hfront, hnext, decodeFrom_of_token hfront, List.drop_left]
      cases decodeFrom (base + byteLength before + byteLength t.spelling) 0 next with
      | error e => rfl
      | ok read =>
        show Except.ok (decoded ++ t.bytes ++ read.1, _) =
          Except.ok (decoded ++ (t.bytes ++ read.1), _)
        rw [List.append_assoc]
    | cutOff =>
      rw [decodeFrom_of_cutOff hfront, decodeAt_round]
      rcases front_eq_cutOff_iff.mp hfront with rfl | rfl
      · rw [List.append_nil, round_nil]
        rfl
      · rw [round_backslash]
        rfl
    | invalid escape =>
      obtain ⟨rest, rfl, hno⟩ := front_eq_invalid_iff.mp hfront
      rw [decodeFrom_of_invalid hfront, decodeAt_round, round_backslash,
        frontEscape_eq_invalid_iff.mpr hno]
      rfl

theorem decodeAt_start (base : Nat) (body : List Char) :
    decodeAt base body 0 [] = reported ((readPayload base body).map fun (bytes, rest) =>
      (bytes, byteLength body - byteLength rest)) :=
  decodeAt_eq base [] body []

/-- A character of two bytes takes two rounds, an escape one. -/
example : decodeAt 0 "é\\1014\"".toList 0 [] = .ok ([0xC3, 0xA9, 0x41, 0x34], 8) := by
  rw [decodeAt_start]
  rfl

/-- Where a payload is closed, the position is behind a quote and in front of a character. -/
theorem decodeAt_closed {base : Nat} {text : List Char} {bytes : List UInt8} {consumed : Nat}
    (h : decodeAt base text 0 [] = .ok (bytes, consumed)) :
    0 < consumed ∧ consumed ≤ byteLength text ∧ (encode text)[consumed - 1]? = some 0x22 ∧
      IsBoundary text consumed := by
  rw [decodeAt_start] at h
  cases hread : readPayload base text with
  | error e =>
    rw [hread] at h
    cases h
  | ok read =>
    obtain ⟨read, rest⟩ := read
    obtain ⟨before, -, rfl⟩ := readPayload_eq_ok_iff.mp hread
    rw [hread] at h
    cases h
    have hquote : String.utf8EncodeChar '"' = [0x22] := rfl
    have hboundary := isBoundary_append (before ++ ['"']) rest
    rw [byteLength_closed, List.append_assoc, List.singleton_append] at hboundary
    have hle : byteLength (before ++ '"' :: rest) - byteLength rest ≤
        byteLength (before ++ '"' :: rest) := Nat.sub_le ..
    rw [byteLength_sub_rest] at hle ⊢
    refine ⟨Nat.succ_pos _, hle, ?_, hboundary⟩
    rw [Nat.add_sub_cancel]
    exact getElem?_encode_cons hquote before rest

end Payloads

end TraceRelay.TracedWrite
