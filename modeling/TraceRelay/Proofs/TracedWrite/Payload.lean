import TraceRelay.Proofs.Text.Numeral
import TraceRelay.TracedWrite.Payload

/-!
# What a payload spells

The grammar of a quoted payload, apart from any way of reading it: `Element head next bytes` says
that `head` is one element of a payload when `next` follows it, `Spells text bytes` that a text is a
sequence of elements. What follows an element matters for the digits of an escape alone, which go on
for as long as they can.

The main fact is that reading a payload succeeds exactly on the texts that spell something and are
closed by a quote, and yields the bytes spelled.
-/

namespace TraceRelay.TracedWrite

open Text

/-! ## The grammar -/

/-- The escapes of one letter and the bytes they stand for. -/
def simpleEscapes : List (Char × UInt8) :=
  [('n', 0x0A), ('t', 0x09), ('r', 0x0D), ('v', 0x0B), ('f', 0x0C), ('a', 0x07), ('b', 0x08),
    ('\\', 0x5C), ('"', 0x22), ('\'', 0x27)]

/-- Digits of one class, at most `most` of them, which are as many as there can be in front of the
text. -/
structure Greedy (p : Char → Bool) (most : Nat) (digits next : List Char) : Prop where
  run : IsRun p digits
  length_le : digits.length ≤ most
  maximal : digits.length = most ∨ ¬ Begins p next

/-- One element of a payload in front of a text, with the bytes that it stands for. -/
inductive Element : (head next : List Char) → List UInt8 → Prop
  | plain {c next} : c ≠ '"' → c ≠ '\\' → Element [c] next (String.utf8EncodeChar c)
  | simple {c b next} : (c, b) ∈ simpleEscapes → Element ['\\', c] next [b]
  | octal {digits next} : Greedy isOctalDigit 3 digits next → numeral 8 digits ≤ 255 →
      Element ('\\' :: digits) next [UInt8.ofNat (numeral 8 digits)]
  | hex {digits next} : Greedy isHexDigit 2 digits next →
      Element ('\\' :: 'x' :: digits) next [UInt8.ofNat (numeral 16 digits)]

/-- A sequence of elements with the bytes that it stands for. -/
inductive Spells : (text : List Char) → List UInt8 → Prop
  | nil : Spells [] []
  | cons {head text bytes more} : Element head text bytes → Spells text more →
      Spells (head ++ text) (bytes ++ more)

theorem begins_append_iff {p : Char → Bool} {tail : List Char} (h : ¬ Begins p tail)
    (text : List Char) : Begins p (text ++ tail) ↔ Begins p text := by
  cases text with
  | nil => simpa using h
  | cons c text => simp

theorem not_begins_octal_of_hex {text : List Char} (h : ¬ Begins isHexDigit text) :
    ¬ Begins isOctalDigit text := by
  intro hexists
  obtain ⟨c, hc, hoctal⟩ := hexists
  exact h ⟨c, hc, isHexDigit_of_isOctalDigit hoctal⟩

/-- What stands behind a text is of no concern to an element in front of it, as long as it does not
begin with a digit. -/
theorem element_append_iff {head text tail : List Char} {bytes : List UInt8}
    (h : ¬ Begins isHexDigit tail) :
    Element head (text ++ tail) bytes ↔ Element head text bytes := by
  have hhex := begins_append_iff h text
  have hoctal := begins_append_iff (not_begins_octal_of_hex h) text
  constructor
  · intro he
    cases he with
    | plain hq hb => exact .plain hq hb
    | simple hc => exact .simple hc
    | octal hd hv => exact .octal ⟨hd.run, hd.length_le, by rw [← hoctal]; exact hd.maximal⟩ hv
    | hex hd => exact .hex ⟨hd.run, hd.length_le, by rw [← hhex]; exact hd.maximal⟩
  · intro he
    cases he with
    | plain hq hb => exact .plain hq hb
    | simple hc => exact .simple hc
    | octal hd hv => exact .octal ⟨hd.run, hd.length_le, by rw [hoctal]; exact hd.maximal⟩ hv
    | hex hd => exact .hex ⟨hd.run, hd.length_le, by rw [hhex]; exact hd.maximal⟩

/-! ## Reading one token -/

theorem simpleEscape?_eq_some_iff {c : Char} {b : UInt8} :
    simpleEscape? c = some b ↔ (c, b) ∈ simpleEscapes := by
  unfold simpleEscape?
  split <;> simp_all [simpleEscapes, eq_comm]

/-- An octal digit is no letter of an escape. -/
theorem simpleEscape?_of_isOctalDigit {c : Char} (h : isOctalDigit c = true) :
    simpleEscape? c = none := by
  have hlt : c.toNat < 128 := toNat_lt_of_isHexDigit (isHexDigit_of_isOctalDigit h)
  exact forall_char_lt (P := fun c => isOctalDigit c = true → simpleEscape? c = none)
    (by decide +kernel) c hlt h

/-- The characters of a class in front of a text, cut to `most` of them, go on for as long as they
can. -/
theorem takeWhile_take_eq_iff {p : Char → Bool} {most : Nat} {cs digits : List Char} :
    (cs.take most).takeWhile p = digits ↔ ∃ next, cs = digits ++ next ∧
      (∀ c ∈ digits, p c = true) ∧ digits.length ≤ most ∧
        (digits.length = most ∨ ¬ Begins p next) := by
  induction most generalizing cs digits with
  | zero =>
    rw [List.take_zero, List.takeWhile_nil]
    constructor
    · intro h
      subst h
      exact ⟨cs, by simp⟩
    · intro h
      obtain ⟨next, -, -, hlen, -⟩ := h
      exact (List.eq_nil_of_length_eq_zero (Nat.le_zero.mp hlen)).symm
  | succ most ih =>
    cases cs with
    | nil =>
      rw [List.take_nil, List.takeWhile_nil]
      constructor
      · intro h
        subst h
        exact ⟨[], by simp⟩
      · intro h
        obtain ⟨next, happ, -⟩ := h
        exact (List.append_eq_nil_iff.mp happ.symm).1.symm
    | cons c cs =>
      by_cases hc : p c = true
      · rw [List.take_succ_cons, List.takeWhile_cons_of_pos hc]
        constructor
        · intro h
          subst h
          obtain ⟨next, happ, hall, hlen, hmax⟩ := ih.mp rfl
          refine ⟨next, by rw [List.cons_append, ← happ], ?_, by simpa using hlen, ?_⟩
          · simpa [hc] using hall
          · simpa using hmax
        · intro h
          obtain ⟨next, happ, hall, hlen, hmax⟩ := h
          cases digits with
          | nil =>
            rw [List.nil_append] at happ
            simp [← happ, hc] at hmax
          | cons d digits =>
            rw [List.cons_append, List.cons_eq_cons] at happ
            obtain ⟨rfl, happ⟩ := happ
            rw [ih.mpr ⟨next, happ, fun x hx => hall x (by simp [hx]), by simpa using hlen,
              by simpa using hmax⟩]
      · rw [List.take_succ_cons, List.takeWhile_cons_of_neg hc]
        constructor
        · intro h
          subst h
          exact ⟨c :: cs, by simp [hc]⟩
        · intro h
          obtain ⟨next, happ, hall, -, -⟩ := h
          cases digits with
          | nil => rfl
          | cons d digits =>
            obtain ⟨rfl, -⟩ := List.cons_eq_cons.mp happ
            exact absurd (hall c (by simp)) hc

/-- The greedy runs in front of a text are what a reader takes that looks for digits there. -/
theorem takeWhile_take_eq_greedy_iff {p : Char → Bool} {most : Nat} {cs digits : List Char}
    (hne : digits ≠ []) : (cs.take most).takeWhile p = digits ↔
      ∃ next, cs = digits ++ next ∧ Greedy p most digits next := by
  rw [takeWhile_take_eq_iff]
  constructor
  · intro hexists
    obtain ⟨next, happ, hall, hlen, hmax⟩ := hexists
    exact ⟨next, happ, ⟨hne, hall⟩, hlen, hmax⟩
  · intro hexists
    obtain ⟨next, happ, hd⟩ := hexists
    exact ⟨next, happ, hd.run.2, hd.length_le, hd.maximal⟩

theorem Greedy.takeWhile_take {p : Char → Bool} {most : Nat} {digits next : List Char}
    (h : Greedy p most digits next) : ((digits ++ next).take most).takeWhile p = digits :=
  (takeWhile_take_eq_greedy_iff h.run.1).mpr ⟨next, rfl, h⟩

theorem ofDigits_octal {digits : List Char} (h : IsRun isOctalDigit digits) :
    ofDigits 8 digits = numeral 8 digits :=
  ofDigits_eq_numeral fun c hc => isHexDigit_of_isOctalDigit (h.2 c hc)

theorem ofDigits_hex {digits : List Char} (h : IsRun isHexDigit digits) :
    ofDigits 16 digits = numeral 16 digits :=
  ofDigits_eq_numeral h.2

/-- A token behind a backslash is an escape, spelled and meant as the token says. -/
theorem frontEscape_eq_token {cs : List Char} {t : Token} (h : frontEscape cs = .token t) :
    ∃ next, '\\' :: cs = t.spelling ++ next ∧ Element t.spelling next t.bytes := by
  cases cs with
  | nil => simp [frontEscape] at h
  | cons c cs =>
    -- The cases are those of the reader: a letter, octal digits, and hexadecimal ones after an `x`.
    rw [frontEscape] at h
    split at h
    · next hsimple =>
      cases h
      obtain ⟨b, hb⟩ := Option.isSome_iff_exists.mp hsimple
      refine ⟨cs, rfl, ?_⟩
      rw [Token.bytes, hb]
      exact .simple (simpleEscape?_eq_some_iff.mp hb)
    · split at h
      · next hoctal =>
        dsimp only at h
        split at h
        · next hle =>
          cases h
          have hne : ((c :: cs).take 3).takeWhile isOctalDigit ≠ [] := by
            rw [List.take_succ_cons, List.takeWhile_cons_of_pos hoctal]
            exact List.cons_ne_nil _ _
          obtain ⟨next, happ, hd⟩ := (takeWhile_take_eq_greedy_iff hne).mp rfl
          refine ⟨next, by rw [Token.spelling, List.cons_append, ← happ], ?_⟩
          rw [ofDigits_octal hd.run] at hle
          rw [Token.bytes, ofDigits_octal hd.run]
          exact .octal hd hle
        · cases h
      · split at h
        · next hx =>
          dsimp only at h
          split at h
          · cases h
          · next hne =>
            cases h
            obtain ⟨next, happ, hd⟩ := (takeWhile_take_eq_greedy_iff hne).mp rfl
            refine ⟨next, ?_, ?_⟩
            · rw [Token.spelling, hx, List.cons_append, List.cons_append, ← happ]
            · rw [Token.bytes, ofDigits_hex hd.run]
              exact .hex hd
        · cases h

/-- A token at the front of a text is an element of it, spelled and meant as the token says. -/
theorem front_eq_token {cs : List Char} {t : Token} (h : front cs = .token t) :
    ∃ next, cs = t.spelling ++ next ∧ Element t.spelling next t.bytes := by
  cases cs with
  | nil => simp [front] at h
  | cons c cs =>
    rw [front] at h
    split at h
    · cases h
    · next hquote =>
      split at h
      · next hslash =>
        subst hslash
        exact frontEscape_eq_token h
      · next hslash =>
        cases h
        exact ⟨cs, rfl, .plain hquote hslash⟩

/-- An element at the front of a text is read as one token. -/
theorem front_of_element {head next : List Char} {bytes : List UInt8}
    (h : Element head next bytes) :
    ∃ t, front (head ++ next) = .token t ∧ t.spelling = head ∧ t.bytes = bytes := by
  cases h with
  | @plain c _ hquote hslash =>
    exact ⟨.plain c, by simp [front, hquote, hslash], rfl, rfl⟩
  | @simple c b _ hc =>
    have hb := simpleEscape?_eq_some_iff.mpr hc
    exact ⟨.simple c, by simp [front, frontEscape, hb], rfl, by simp [Token.bytes, hb]⟩
  | @octal digits _ hd hle =>
    -- The first digit is no letter of an escape, so that the digits are what is read.
    obtain ⟨d, more, rfl, hoctal⟩ := hd.run.exists_cons
    have hnone := simpleEscape?_of_isOctalDigit hoctal
    have htake := hd.takeWhile_take
    rw [List.cons_append] at htake
    refine ⟨.octal (d :: more), ?_, rfl, by rw [Token.bytes, ofDigits_octal hd.run]⟩
    rw [← ofDigits_octal hd.run] at hle
    show frontEscape (d :: (more ++ next)) = _
    rw [frontEscape, if_neg (by simp [hnone]), if_pos hoctal, htake]
    exact if_pos hle
  | @hex digits _ hd =>
    have htake := hd.takeWhile_take
    refine ⟨.hex digits, ?_, rfl, by rw [Token.bytes, ofDigits_hex hd.run]⟩
    show frontEscape ('x' :: (digits ++ next)) = _
    rw [frontEscape, if_neg (by decide), if_neg (by decide), if_pos rfl, htake]
    exact if_neg hd.run.1

theorem frontEscape_ne_close (cs : List Char) : frontEscape cs ≠ .close := by
  cases cs with
  | nil => simp [frontEscape]
  | cons c cs =>
    rw [frontEscape]
    dsimp only
    split_ifs <;> simp

theorem front_eq_close_iff {cs : List Char} : front cs = .close ↔ ∃ rest, cs = '"' :: rest := by
  constructor
  · intro h
    cases cs with
    | nil => simp [front] at h
    | cons c cs =>
      rw [front] at h
      split at h
      · next hquote => exact ⟨cs, by rw [hquote]⟩
      · split at h
        · exact absurd h (frontEscape_ne_close cs)
        · cases h
  · intro h
    obtain ⟨rest, rfl⟩ := h
    simp [front]

/-! ## Reading a payload -/

/-- Characters that belong to the last token are dropped. -/
theorem decodeFrom_skip (offset skip : Nat) (cs : List Char) :
    decodeFrom offset skip cs = decodeFrom offset 0 (cs.drop skip) := by
  induction cs generalizing skip with
  | nil => simp [decodeFrom]
  | cons c cs ih =>
    cases skip with
    | zero => rfl
    | succ skip => rw [decodeFrom, ih, List.drop_succ_cons]

theorem Token.length_spelling_pos (t : Token) : 0 < t.spelling.length := by
  cases t <;> simp [Token.spelling]

/-- Reading goes on behind the token in front. -/
theorem decodeFrom_of_token {cs : List Char} {t : Token} (h : front cs = .token t) (offset : Nat) :
    decodeFrom offset 0 cs =
      (decodeFrom (offset + byteLength t.spelling) 0 (cs.drop t.spelling.length)).map
        fun (bytes, rest) => (t.bytes ++ bytes, rest) := by
  cases cs with
  | nil => simp [front] at h
  | cons c cs =>
    -- A token has at least one character, so that dropping it drops the first one.
    have hdrop : cs.drop (t.spelling.length - 1) = (c :: cs).drop t.spelling.length := by
      obtain ⟨n, hn⟩ := Nat.exists_eq_succ_of_ne_zero (Nat.ne_of_gt t.length_spelling_pos)
      rw [hn]
      rfl
    rw [decodeFrom, h]
    dsimp only
    rw [decodeFrom_skip, hdrop]

/-- Reading a text that spells something comes to what follows it, unless that adds digits to the
last escape. -/
theorem decodeFrom_append {text tail : List Char} {bytes : List UInt8} (h : Spells text bytes)
    (htail : ¬ Begins isHexDigit tail) (offset : Nat) :
    decodeFrom offset 0 (text ++ tail) =
      (decodeFrom (offset + byteLength text) 0 tail).map
        fun (more, rest) => (bytes ++ more, rest) := by
  induction h generalizing offset with
  | nil =>
    rw [byteLength_nil, Nat.add_zero, List.nil_append]
    cases decodeFrom offset 0 tail <;> rfl
  | @cons head text bytes more he _ ih =>
    obtain ⟨t, ht, hspelling, hbytes⟩ := front_of_element ((element_append_iff htail).mpr he)
    rw [List.append_assoc, decodeFrom_of_token ht, hspelling, hbytes, List.drop_left, ih,
      byteLength_append, Nat.add_assoc]
    cases decodeFrom (offset + (byteLength head + byteLength text)) 0 tail with
    | error e => rfl
    | ok read => simp [Except.map, List.append_assoc]

/-- A text that begins with no token begins with no digit either. -/
theorem not_begins_hex_of_front {cs : List Char} (h : ∀ t, front cs ≠ .token t) :
    ¬ Begins isHexDigit cs := by
  cases cs with
  | nil => exact not_begins_nil _
  | cons c cs =>
    rw [begins_cons]
    intro hc
    have hquote : c ≠ '"' := by
      intro heq
      subst heq
      exact absurd hc (by decide)
    have hslash : c ≠ '\\' := by
      intro heq
      subst heq
      exact absurd hc (by decide)
    exact h (.plain c) (by simp [front, hquote, hslash])

/-- Every text is a sequence of elements up to a place where no token stands. -/
theorem exists_spells_append (cs : List Char) :
    ∃ text tail bytes, cs = text ++ tail ∧ Spells text bytes ∧ ∀ t, front tail ≠ .token t := by
  induction hlen : cs.length using Nat.strong_induction_on generalizing cs with
  | _ n ih =>
    by_cases htoken : ∃ t, front cs = .token t
    · obtain ⟨t, ht⟩ := htoken
      obtain ⟨next, rfl, he⟩ := front_eq_token ht
      have hlt : next.length < n := by
        have := t.length_spelling_pos
        rw [List.length_append] at hlen
        omega
      obtain ⟨text, tail, bytes, rfl, hspells, htail⟩ := ih next.length hlt next rfl
      -- The element stood in front of all that follows; the end of it makes no difference to it.
      have he' := (element_append_iff (not_begins_hex_of_front htail)).mp he
      exact ⟨t.spelling ++ text, tail, t.bytes ++ bytes, (List.append_assoc ..).symm,
        .cons he' hspells, htail⟩
    · exact ⟨[], cs, [], rfl, .nil, fun t ht => htoken ⟨t, ht⟩⟩

theorem decodeFrom_close (offset : Nat) (rest : List Char) :
    decodeFrom offset 0 ('"' :: rest) = .ok ([], rest) := by
  simp [decodeFrom, front]

/-- Decoding yields exactly the bytes that are spelled up to the closing quote. -/
theorem readPayload_eq_ok_iff {offset : Nat} {cs rest : List Char} {bytes : List UInt8} :
    readPayload offset cs = .ok (bytes, rest) ↔
      ∃ text, Spells text bytes ∧ cs = text ++ '"' :: rest := by
  rw [readPayload]
  constructor
  · intro h
    obtain ⟨text, tail, spelled, rfl, hspells, htail⟩ := exists_spells_append cs
    rw [decodeFrom_append hspells (not_begins_hex_of_front htail)] at h
    -- No token stands at the tail, so that reading ends there: well only at a quote.
    cases tail with
    | nil => simp [decodeFrom, Except.map] at h
    | cons c tail =>
      cases hfront : front (c :: tail) with
      | close =>
        obtain ⟨_, hquote⟩ := front_eq_close_iff.mp hfront
        cases hquote
        rw [decodeFrom_close] at h
        cases h
        exact ⟨text, by simpa using hspells, rfl⟩
      | token t => exact absurd hfront (htail t)
      | cutOff => simp [decodeFrom, hfront, Except.map] at h
      | invalid escape => simp [decodeFrom, hfront, Except.map] at h
  · intro h
    obtain ⟨text, hspells, rfl⟩ := h
    have hquote : ¬ Begins isHexDigit ('"' :: rest) := by
      rw [begins_cons]
      decide
    rw [decodeFrom_append hspells hquote, decodeFrom_close]
    simp [Except.map]

end TraceRelay.TracedWrite
