import TraceRelay.Text.Numeral
import TraceRelay.Text.Scan
import TraceRelay.Text.Utf8

/-!
# The payload of a trace line

A payload is written between double quotes: plain characters, escapes of one letter, octal escapes
of one to three digits, hexadecimal escapes of one or two. It is read token by token up to the
closing quote. Octal and hexadecimal digits are taken greedily, so a text has at most one
reading; the characters after the closing quote are handed back.
-/

namespace TraceRelay.TracedWrite

open Text

/-- Why a payload cannot be decoded. Offsets count bytes. -/
inductive PayloadError
  | unterminated
  | badEscape (offset : Nat) (escape : List Char)
deriving DecidableEq, Repr

/-- One element of a payload as it is spelled. -/
inductive Token
  | plain (c : Char)
  | simple (c : Char)
  | octal (digits : List Char)
  | hex (digits : List Char)
deriving DecidableEq, Repr

/-- The byte of an escape that consists of a backslash and one more character. -/
def simpleEscape? : Char → Option UInt8
  | 'n' => some 0x0A
  | 't' => some 0x09
  | 'r' => some 0x0D
  | 'v' => some 0x0B
  | 'f' => some 0x0C
  | 'a' => some 0x07
  | 'b' => some 0x08
  | '\\' => some 0x5C
  | '"' => some 0x22
  | '\'' => some 0x27
  | _ => none

/-- The characters of a token. -/
def Token.spelling : Token → List Char
  | .plain c => [c]
  | .simple c => ['\\', c]
  | .octal digits => '\\' :: digits
  | .hex digits => '\\' :: 'x' :: digits

/-- The bytes that a token stands for. -/
def Token.bytes : Token → List UInt8
  | .plain c => String.utf8EncodeChar c
  | .simple c => (simpleEscape? c).toList
  | .octal digits => [UInt8.ofNat (ofDigits 8 digits)]
  | .hex digits => [UInt8.ofNat (ofDigits 16 digits)]

/-- What stands at the front of the rest of a payload. -/
inductive Front
  | close
  | token (t : Token)
  | cutOff
  | invalid (escape : List Char)
deriving DecidableEq, Repr

/-- What follows a backslash. A character that begins no escape is reported as it is if it is ASCII
and as the replacement character otherwise. -/
def frontEscape : List Char → Front
  | [] => .cutOff
  | c :: cs =>
    if (simpleEscape? c).isSome then .token (.simple c)
    else if isOctalDigit c then
      let digits := ((c :: cs).take 3).takeWhile isOctalDigit
      if ofDigits 8 digits ≤ 255 then .token (.octal digits) else .invalid digits
    else if c = 'x' then
      let digits := (cs.take 2).takeWhile isHexDigit
      if digits = [] then .invalid ['x'] else .token (.hex digits)
    else .invalid [if c.toNat < 0x80 then c else replacement]

/-- What stands at the front of the text. -/
def front : List Char → Front
  | [] => .cutOff
  | c :: cs =>
    if c = '"' then .close
    else if c = '\\' then frontEscape cs
    else .token (.plain c)

/-- Decodes the text from `offset` on; its first `skip` characters belong to the last token read.
-/
def decodeFrom : (offset skip : Nat) → List Char → Except PayloadError (List UInt8 × List Char)
  | _, _, [] => .error .unterminated
  | offset, skip + 1, _ :: cs => decodeFrom offset skip cs
  | offset, 0, c :: cs =>
    match front (c :: cs) with
    | .close => .ok ([], cs)
    | .token t =>
      (decodeFrom (offset + byteLength t.spelling) (t.spelling.length - 1) cs).map
        fun (bytes, rest) => (t.bytes ++ bytes, rest)
    | .cutOff => .error .unterminated
    | .invalid escape => .error (.badEscape offset escape)

/-- The bytes of a payload and the text after its closing quote; `offset` is the position of the
text in its line. -/
def readPayload (offset : Nat) (cs : List Char) : Except PayloadError (List UInt8 × List Char) :=
  decodeFrom offset 0 cs

end TraceRelay.TracedWrite
