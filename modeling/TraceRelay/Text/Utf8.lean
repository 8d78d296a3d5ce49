/-!
# Decoding UTF-8

A decoder with one state: the sequence that is still open, if any. Each byte either extends the
open sequence or ends it; an open sequence that is ended too early, and a byte that can begin none,
is ill-formed. The lossy reading puts one replacement character for each ill-formed piece (the
longest beginning of a sequence, or a single byte), the strict reading refuses the text.
-/

namespace TraceRelay.Text

/-- A sequence that has begun: the bits read so far, the number of bytes still owed, and the range
that the next one has to lie in. -/
structure OpenSequence where
  bits : Nat
  owed : Nat
  low : UInt8
  high : UInt8

/-- The state after a byte that begins a sequence, with what it completes: a character, or an
ill-formed piece (`none`). The second byte's range excludes overlong forms, surrogates and what
lies beyond the last code point. -/
def beginSequence (b : UInt8) : List (Option Char) × Option OpenSequence :=
  if b < 0x80 then ([some (Char.ofNat b.toNat)], none)
  else if b < 0xC2 then ([none], none)
  else if b < 0xE0 then ([], some ⟨b.toNat - 0xC0, 1, 0x80, 0xBF⟩)
  else if b < 0xF0 then
    ([], some ⟨b.toNat - 0xE0, 2, if b = 0xE0 then 0xA0 else 0x80, if b = 0xED then 0x9F else 0xBF⟩)
  else if b < 0xF5 then
    ([], some ⟨b.toNat - 0xF0, 3, if b = 0xF0 then 0x90 else 0x80, if b = 0xF4 then 0x8F else 0xBF⟩)
  else ([none], none)

/-- One byte: what it completes, and the state after it. -/
def decodeByte : Option OpenSequence → UInt8 → List (Option Char) × Option OpenSequence
  | none, b => beginSequence b
  | some s, b =>
    if s.low ≤ b ∧ b ≤ s.high then
      let bits := s.bits * 64 + (b.toNat - 0x80)
      if s.owed ≤ 1 then ([some (Char.ofNat bits)], none)
      else ([], some ⟨bits, s.owed - 1, 0x80, 0xBF⟩)
    else (none :: (beginSequence b).1, (beginSequence b).2)

/-- The characters and ill-formed pieces of the bytes, from a state on. -/
def decodePieces : Option OpenSequence → List UInt8 → List (Option Char)
  | none, [] => []
  | some _, [] => [none]
  | s, b :: bs => (decodeByte s b).1 ++ decodePieces (decodeByte s b).2 bs

/-- The character that stands for an ill-formed piece. -/
def replacement : Char := '\uFFFD'

/-- The text of the bytes, with a replacement character for each ill-formed piece. -/
def decodeLossy (bytes : List UInt8) : List Char :=
  (decodePieces none bytes).map (·.getD replacement)

/-- The text of the bytes if they are well-formed. -/
def decodeStrict? (bytes : List UInt8) : Option (List Char) :=
  (decodePieces none bytes).mapM id

/-- The bytes of a text. -/
def encode (cs : List Char) : List UInt8 :=
  cs.flatMap String.utf8EncodeChar

end TraceRelay.Text
