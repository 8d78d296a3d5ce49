import TraceRelay.Log.Pattern
import TraceRelay.Log.Record
import TraceRelay.Text.Alphanumeric
import TraceRelay.Text.Scan
import TraceRelay.Text.Space

/-!
# Directives of a filter

A directive is written `target[span{field=value}]=level`, where each part may be missing; a single
word is a level if it can be one and a target otherwise. Without a level everything is shown.

The reader finds the byte offsets at which the parts begin and end in the text without white space
around it, and cuts the parts out of the text as it was given. So white space at the end belongs to
the last part, and white space at the front shifts the parts; a part that then begins or ends inside
a character cannot be cut.
-/

namespace TraceRelay.Log

open Text

/-- The least level shown; `none` shows nothing. -/
abbrev Threshold := Option Level

/-- Whether records of a level are shown. -/
def Threshold.admits (threshold : Threshold) (level : Level) : Bool :=
  threshold.any fun least => least.rank ≤ level.rank

/-- A field that a directive asks for: its name, and whether it has to have a given value. -/
structure FieldQuery where
  name : List Char
  hasValue : Bool
deriving DecidableEq, Repr

/-- A rule on which records are shown. -/
structure Directive where
  threshold : Threshold := some .trace
  target : Option (List Char) := none
  /-- The name of a span. -/
  span : Option (List Char) := none
  field : Option FieldQuery := none
deriving DecidableEq, Repr

/-- Why a text is no directive. -/
inductive DirectiveError
  | malformed
  /-- A part would begin or end inside a character. -/
  | splitCharacter
deriving DecidableEq, Repr

/-- The text of a part, between byte offsets. -/
def part (text : List Char) (first last : Nat) : Except DirectiveError (List Char) :=
  match slice? first last text with
  | some cs => .ok cs
  | none => .error .splitCharacter

/-- A level by its name in any case, or by its number. -/
def level? (cs : List Char) : Option Threshold :=
  match unsigned? cs with
  | some 0 => some none
  | some 1 => some (some .error)
  | some 2 => some (some .warn)
  | some 3 => some (some .info)
  | some 4 => some (some .debug)
  | some 5 => some (some .trace)
  | some _ => none
  | none =>
    match String.ofList (cs.map Char.toLower) with
    | "off" => some none
    | "error" => some (some .error)
    | "warn" => some (some .warn)
    | "info" => some (some .info)
    | "debug" => some (some .debug)
    | "trace" => some (some .trace)
    | _ => none

/-- The level of a directive; an empty one shows everything. -/
def readLevel (cs : List Char) : Except DirectiveError Threshold :=
  if cs = [] then .ok (some .trace)
  else
    match level? cs with
    | some threshold => .ok threshold
    | none => .error .malformed

/-- The field of a directive. Behind a second equals sign nothing counts. -/
def readField (cs : List Char) : Except DirectiveError FieldQuery :=
  let name := cs.takeWhile (· ≠ '=')
  match cs.dropWhile (· ≠ '=') with
  | [] => if name = [] then .error .malformed else .ok ⟨name, false⟩
  | _ :: value =>
    if Pattern.isValue (value.takeWhile (· ≠ '=')) then .ok ⟨name, true⟩ else .error .malformed

/-- How far the reader of a directive has come, with the offset at which the open part begins. -/
inductive Progress
  | start
  /-- In a word that is a target or a level. -/
  | word (first : Nat)
  | span (first : Nat)
  | field (first : Nat)
  | afterField
  | afterSpan
  | level (first : Nat)
deriving DecidableEq, Repr

/-- Reads the character at an offset. -/
def Directive.step (text : List Char) (offset : Nat) (c : Char) :
    Progress × Directive → Except DirectiveError (Progress × Directive)
  | (.start, d) =>
    if c = '[' then .ok (.span (offset + 1), d)
    else if isAlphanumeric c || ['-', ':', '_'].contains c then .ok (.word offset, d)
    else .error .malformed
  | (.word first, d) =>
    if c = '=' then do
      return (.level (offset + 1), { d with target := some (← part text first offset) })
    else if c = '[' then do
      return (.span (offset + 1), { d with target := some (← part text first offset) })
    else .ok (.word first, d)
  | (.span first, d) =>
    if c = ']' then do
      return (.afterSpan, { d with span := some (← part text first offset) })
    else if c = '\x7b' then do
      let name ← part text first offset
      return (.field (offset + 1), { d with span := if name = [] then none else some name })
    else .ok (.span first, d)
  | (.field first, d) =>
    if c = '\x7d' then do
      return (.afterField, { d with field := some (← readField (← part text first offset)) })
    else .ok (.field first, d)
  | (.afterField, d) => if c = ']' then .ok (.afterSpan, d) else .error .malformed
  | (.afterSpan, d) => if c = '=' then .ok (.level (offset + 1), d) else .error .malformed
  | (.level first, d) => .ok (.level first, d)

/-- Reads characters from an offset on. -/
def Directive.steps (text : List Char) :
    (offset : Nat) → List Char → Progress × Directive →
      Except DirectiveError (Progress × Directive)
  | _, [], state => .ok state
  | offset, c :: cs, state => do
    let state ← Directive.step text offset c state
    Directive.steps text (offset + c.utf8Size) cs state

/-- The directive at the end of the text. -/
def Directive.finish (text : List Char) : Progress × Directive → Except DirectiveError Directive
  | (.word first, d) => do
    let word ← part text first (byteLength text)
    match level? word with
    | some threshold => return { d with threshold }
    | none => return { d with target := some word }
  | (.level first, d) => do
    return { d with threshold := ← readLevel (← part text first (byteLength text)) }
  | (.afterSpan, d) => .ok d
  | _ => .error .malformed

/-- Reads a directive. -/
def Directive.parse (text : List Char) : Except DirectiveError Directive := do
  Directive.finish text (← Directive.steps text 0 (trim text) (.start, {}))

end TraceRelay.Log
