import TraceRelay.Text.Space
import TraceRelay.TracedWrite.Basic
import TraceRelay.TracedWrite.Payload

/-!
# Reading a trace line

The grammar of a line about a write call, after white space at both ends is removed:

    [pid N] write(FD, "PAYLOAD"[...], LENGTH) = RESULT [ERRNO] ...

The thread in brackets is optional, and so are the dots that mark a payload cut at the string
limit. In place of the payload the tracer prints an address when it cannot read the buffer; such a
line is about a call only if the call failed. Lines without `write(` are about something else.
-/

namespace TraceRelay.TracedWrite

open Text

/-- Why a line that mentions a write call is not one. -/
inductive Error
  /-- The line does not begin like a write call, or shows an address for a call that did not fail.
  -/
  | missingHead
  | unterminated
  | badEscape (offset : Nat) (escape : String)
  /-- Nothing readable follows the closing quote. -/
  | missingTail
  | badNumber (text : String)
  /-- The call is shown in two parts, this being the first. -/
  | unfinished
deriving DecidableEq, Repr

/-- The text of an error. -/
def Error.message : Error → String
  | .missingHead => "line does not start with a write call"
  | .unterminated => "unterminated payload string"
  | .badEscape offset escape => "invalid escape \\" ++ escape ++ " at byte " ++ offset.repr
  | .missingTail => "missing length and return value"
  | .badNumber text => "invalid number: " ++ text
  | .unfinished => "unfinished call"

/-- A payload's error as an error of the line. -/
def Error.ofPayload : PayloadError → Error
  | .unterminated => .unterminated
  | .badEscape offset escape => .badEscape offset (String.ofList escape)

/-! ## Pieces of a line -/

/-- The text that marks a line as being about a write call. -/
def marker : List Char := "write(".toList

/-- Drops a nonempty run of white space. -/
def blank? (cs : List Char) : Option (List Char) :=
  (run? isSpace cs).map (·.2)

/-- Drops `[pid N]` and the white space after it. -/
def thread? (cs : List Char) : Option (List Char) := do
  let cs ← after? "[pid".toList cs
  let cs ← blank? cs
  let (_, cs) ← run? isDecimalDigit cs
  let cs ← after? [']'] cs
  blank? cs

/-- The descriptor's digits and the text after `write(FD, `. -/
def opening? (cs : List Char) : Option (List Char × List Char) := do
  let cs ← after? marker ((thread? cs).getD cs)
  let (fd, cs) ← run? isDecimalDigit cs
  let cs ← after? ", ".toList cs
  return (fd, cs)

/-- Drops the address of a buffer. -/
def address? (cs : List Char) : Option (List Char) :=
  match after? "NULL".toList cs with
  | some cs => some cs
  | none => do
    let cs ← after? "0x".toList cs
    let (_, cs) ← run? isHexDigit cs
    return cs

/-- The words after the payload: the length's digits, the result, and the word after the result. -/
structure Tail where
  length : List Char
  result : List Char
  errno : Option (List Char)
deriving DecidableEq, Repr

/-- Reads `, LENGTH) = RESULT [ERRNO]` at the front of the text. -/
def tail? (cs : List Char) : Option Tail := do
  let cs ← after? ", ".toList cs
  let (length, cs) ← run? isDecimalDigit cs
  let cs ← after? [')'] cs
  let cs ← blank? cs
  let cs ← after? ['='] cs
  let cs ← blank? cs
  let (result, cs) ← run? (!isSpace ·) cs
  let errno := ((blank? cs).bind (run? (!isSpace ·))).map (·.1)
  return ⟨length, result, errno⟩

/-! ## Values -/

/-- A number of the line, as far as it fits its width. -/
def number {α : Type} (read? : List Char → Option α) (cs : List Char) : Except Error α :=
  match read? cs with
  | some n => .ok n
  | none => .error (.badNumber (String.ofList cs))

/-- The result of a call from the word after the equals sign and the one after that. A question
mark stands for a call whose result is not known, or which is to be restarted. -/
def readResult (word : List Char) (errno : Option (List Char)) : Except Error WriteResult := do
  if word = ['?'] then
    match errno with
    | some e =>
      if (after? "ERESTART".toList e).isSome then return .failed (String.ofList e)
      else return .unknown
    | none => return .unknown
  else
    let value ← number int64? word
    if value < 0 then return .failed (String.ofList (errno.getD []))
    else return .written (UInt64.ofNat value.toNat)

/-! ## Lines -/

/-- A call whose payload is shown: `body` is the text after the opening quote, which stands at
`offset`. -/
def readQuoted (fd : List Char) (offset : Nat) (body : List Char) : Except Error TracedWrite := do
  let fd ← number uint32? fd
  let (payload, rest) ← (readPayload offset body).mapError Error.ofPayload
  if contains "<unfinished ...>".toList rest then throw .unfinished
  let (truncated, rest) :=
    match after? "...".toList rest with
    | some rest => (true, rest)
    | none => (false, rest)
  match tail? rest with
  | none => throw .missingTail
  | some tail =>
    let length ← number uint64? tail.length
    let result ← readResult tail.result tail.errno
    return ⟨fd, payload, length, truncated, result⟩

/-- A call whose buffer is shown as an address, which has to have failed. -/
def readAddressed (fd : List Char) (rest : List Char) : Except Error TracedWrite := do
  match (address? rest).bind tail? with
  | none => throw .missingHead
  | some tail =>
    match ← readResult tail.result tail.errno with
    | .failed errno =>
      let fd ← number uint32? fd
      let length ← number uint64? tail.length
      return ⟨fd, [], length, false, .failed errno⟩
    | _ => throw .missingHead

/-- The call that a line without white space around it is about. -/
def readCall (line : List Char) : Except Error TracedWrite :=
  match opening? line with
  | none => .error .missingHead
  | some (fd, rest) =>
    match rest with
    | '"' :: body => readQuoted fd (byteLength line - byteLength body) body
    | _ => readAddressed fd rest

/-- The call that a line of the tracer is about, if it is about one. -/
def ofLine (line : String) : Except Error (Option TracedWrite) :=
  let line := trim line.toList
  if contains marker line then (readCall line).map some else .ok none

end TraceRelay.TracedWrite
