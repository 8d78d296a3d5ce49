import TraceRelay.Proofs.TracedWrite.Payload
import TraceRelay.TracedWrite.Basic

/-!
# The grammar of a line about a call

`Denotes line call` says, apart from any way of reading it, that a line without white space around
it is about the call:

    [pid N] write(FD, "PAYLOAD"[...], LENGTH) = RESULT [ERRNO] ...
    [pid N] write(FD, ADDRESS, LENGTH) = RESULT [ERRNO] ...

The thread in brackets is optional in both. In the second form the call has to have failed.
-/

namespace TraceRelay.TracedWrite

open Text

/-- A character of a word: any but white space. -/
abbrev isWordChar (c : Char) : Bool :=
  !isSpace c

/-- `[pid N]` and the white space after it, or nothing. -/
inductive Thread : List Char → Prop
  | absent : Thread []
  | present {gap number gap'} : IsRun isSpace gap → IsRun isDecimalDigit number →
      IsRun isSpace gap' → Thread ("[pid".toList ++ gap ++ number ++ [']'] ++ gap')

/-- What is printed in place of a buffer that cannot be read. -/
inductive Address : List Char → Prop
  | null : Address "NULL".toList
  | pointer {digits} : IsRun isHexDigit digits → Address ("0x".toList ++ digits)

/-- What follows the result: nothing, or a word and then anything. -/
inductive Trailer : List Char → Option (List Char) → Prop
  | nothing : Trailer [] none
  | word {gap errno rest} : IsRun isSpace gap → IsRun isWordChar errno → ¬ Begins isWordChar rest →
      Trailer (gap ++ errno ++ rest) (some errno)

/-- What the word after the equals sign and the one after that say of a call: a number of 64 bits is
the bytes written, a negative one a failure, a question mark a call that is to be restarted or whose
result is not known. -/
inductive Reports (word : List Char) (errno : Option (List Char)) : WriteResult → Prop
  | written {count : UInt64} : IsInteger word count.toNat → count.toNat < 2 ^ 63 →
      Reports word errno (.written count)
  | negative {value : Int} : IsInteger word value → -2 ^ 63 ≤ value → value < 0 →
      Reports word errno (.failed (String.ofList (errno.getD [])))
  | restarted {name} : word = ['?'] → errno = some name → "ERESTART".toList <+: name →
      Reports word errno (.failed (String.ofList name))
  | unknown : word = ['?'] → (∀ name ∈ errno, ¬ "ERESTART".toList <+: name) →
      Reports word errno .unknown

/-- What follows a payload or an address. -/
inductive Closing : List Char → (length : Nat) → WriteResult → Prop
  | mk {digits gap gap' word trailer length errno result} : IsNumeral digits length →
      IsRun isSpace gap → IsRun isSpace gap' → IsRun isWordChar word → Trailer trailer errno →
      Reports word errno result →
      Closing (", ".toList ++ digits ++ [')'] ++ gap ++ ['='] ++ gap' ++ word ++ trailer) length
        result

/-- The dots that mark a payload cut at the string limit. -/
def dots (truncated : Bool) : List Char :=
  if truncated then "...".toList else []

/-- A line and the call that it is about. -/
inductive Denotes : List Char → TracedWrite → Prop
  | shown {thread digits text closing call} : Thread thread → IsNumeral digits call.fd.toNat →
      Spells text call.payload → Closing closing call.length.toNat call.result →
      ¬ "<unfinished ...>".toList <:+: dots call.truncated ++ closing →
      Denotes (thread ++ "write(".toList ++ digits ++ ", \"".toList ++ text ++ ['"'] ++
        dots call.truncated ++ closing) call
  | unreadable {thread digits address closing call errno} : Thread thread →
      IsNumeral digits call.fd.toNat → Address address → call.payload = [] →
      call.truncated = false → Closing closing call.length.toNat call.result →
      call.result = .failed errno →
      Denotes (thread ++ "write(".toList ++ digits ++ ", ".toList ++ address ++ closing) call

end TraceRelay.TracedWrite
