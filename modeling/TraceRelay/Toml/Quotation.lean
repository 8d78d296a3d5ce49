import TraceRelay.Text.Numeral
import TraceRelay.Text.Scan

/-!
# Strings of a TOML document

A string is written in one of four ways: basic, with escapes, or literal, without; and each on one
line or, between triple quotes, on several. Readers are given the text after the opening quotes and
hand back what follows the closing ones.
-/

namespace TraceRelay.Toml

open Text

/-- Blanks within a line. -/
def isBlank (c : Char) : Bool :=
  c = ' ' || c = '\t'

/-- Characters that a text may hold as they are: the tab and everything that is no control character
of ASCII. -/
def isText (c : Char) : Bool :=
  c = '\t' || (' ' ≤ c && c ≠ '\x7f')

/-- The text after a line break, of either form. -/
def newline? : List Char → Option (List Char)
  | '\n' :: cs => some cs
  | '\r' :: '\n' :: cs => some cs
  | _ => none

/-- The character of a code point given by a fixed number of hexadecimal digits. -/
def codePoint? (width : Nat) (cs : List Char) : Option Char :=
  let digits := cs.take width
  if digits.length = width ∧ digits.all isHexDigit then
    let n := ofDigits 16 digits
    if n.isValidChar then some (Char.ofNat n) else none
  else none

/-- The character that an escape stands for, and how many characters it takes after the backslash.
-/
def escape? : List Char → Option (Char × Nat)
  | 'b' :: _ => some ('\x08', 1)
  | 't' :: _ => some ('\t', 1)
  | 'n' :: _ => some ('\n', 1)
  | 'f' :: _ => some ('\x0c', 1)
  | 'r' :: _ => some ('\r', 1)
  | '"' :: _ => some ('"', 1)
  | '\\' :: _ => some ('\\', 1)
  | 'u' :: cs => (codePoint? 4 cs).map (·, 5)
  | 'U' :: cs => (codePoint? 8 cs).map (·, 9)
  | _ => none

/-- What a reader of strings returns: the text and the rest. -/
abbrev StringRead := Option (List Char × List Char)

/-- Puts a character before the text read. -/
def consRead (c : Char) (read : StringRead) : StringRead :=
  read.map fun (text, rest) => (c :: text, rest)

/-- Reads a basic string on one line; the first `skip` characters belong to the last escape. -/
def basicFrom : (skip : Nat) → List Char → StringRead
  | _, [] => none
  | skip + 1, _ :: cs => basicFrom skip cs
  | 0, c :: cs =>
    if c = '"' then some ([], cs)
    else if c = '\\' then
      match escape? cs with
      | some (e, width) => consRead e (basicFrom width cs)
      | none => none
    else if isText c then consRead c (basicFrom 0 cs)
    else none

/-- Reads a literal string on one line. -/
def literalFrom : List Char → StringRead
  | [] => none
  | c :: cs =>
    if c = '\'' then some ([], cs)
    else if isText c then consRead c (literalFrom cs)
    else none

/-- The number of quotes at the front, and what a run of them means in a string of several lines:
fewer than three are text, three close the string, and up to two before them still are text. -/
def closing? (quote : Char) (cs : List Char) : Option StringRead :=
  let run := (cs.takeWhile (· = quote)).length
  if run < 3 then none
  else if run ≤ 5 then some (some (List.replicate (run - 3) quote, cs.drop run))
  else some none

/-- The number of blanks and line breaks at the front; a carriage return counts only before a line
feed. -/
def gapLength : List Char → Nat
  | [] => 0
  | c :: cs =>
    if isBlank c || c = '\n' then gapLength cs + 1
    else if c = '\r' && cs.head? = some '\n' then gapLength cs + 1
    else 0

/-- The number of characters after a backslash that ends a line: blanks, the line break, and all
blanks and line breaks that follow. -/
def lineContinuation? (cs : List Char) : Option Nat :=
  let rest := cs.dropWhile isBlank
  if (newline? rest).isSome then some (gapLength cs) else none

/-- Reads a basic string of several lines; the first `skip` characters belong to the last escape. -/
def multilineBasicFrom : (skip : Nat) → List Char → StringRead
  | _, [] => none
  | skip + 1, _ :: cs => multilineBasicFrom skip cs
  | 0, c :: cs =>
    if c = '"' then
      match closing? '"' (c :: cs) with
      | some read => read
      | none => consRead c (multilineBasicFrom 0 cs)
    else if c = '\\' then
      match escape? cs with
      | some (e, width) => consRead e (multilineBasicFrom width cs)
      | none =>
        match lineContinuation? cs with
        | some width => multilineBasicFrom width cs
        | none => none
    else if c = '\n' || isText c then consRead c (multilineBasicFrom 0 cs)
    else if c = '\r' && cs.head? = some '\n' then multilineBasicFrom 0 cs
    else none

/-- Reads a literal string of several lines. -/
def multilineLiteralFrom : List Char → StringRead
  | [] => none
  | c :: cs =>
    if c = '\'' then
      match closing? '\'' (c :: cs) with
      | some read => read
      | none => consRead c (multilineLiteralFrom cs)
    else if c = '\n' || isText c then consRead c (multilineLiteralFrom cs)
    else if c = '\r' && cs.head? = some '\n' then multilineLiteralFrom cs
    else none

/-- The text after a line break, which is dropped where a string of several lines opens. -/
def dropNewline (cs : List Char) : List Char :=
  (newline? cs).getD cs

/-- Reads a string on one line, in either form. -/
def simpleString? : List Char → StringRead
  | '"' :: cs => basicFrom 0 cs
  | '\'' :: cs => literalFrom cs
  | _ => none

/-- Reads a string in any form. -/
def string? (cs : List Char) : StringRead :=
  match after? ['"', '"', '"'] cs with
  | some cs => multilineBasicFrom 0 (dropNewline cs)
  | none =>
    match after? ['\'', '\'', '\''] cs with
    | some cs => multilineLiteralFrom (dropNewline cs)
    | none => simpleString? cs

/-! ## Writing -/

/-- The ways to write a string. -/
inductive Style
  | basic
  | literal
  | multilineBasic
  | multilineLiteral
deriving DecidableEq, Repr

/-- Control characters other than the tab and the line feed, which only an escape can show. -/
def needsCode (c : Char) : Bool :=
  c ≠ '\t' && c ≠ '\n' && (c < ' ' || c = '\x7f')

/-- Whether the text holds three of the character in a row. -/
def hasTriple (quote : Char) (cs : List Char) : Bool :=
  contains (List.replicate 3 quote) cs

/-- The most readable way to write a text: without escapes if that can be, on one line if that can
be. -/
def Style.choose (cs : List Char) : Style :=
  if cs.any needsCode then
    if cs.contains '\n' then .multilineBasic else .basic
  else if !cs.contains '\\' && !cs.contains '"' && !cs.contains '\n' then .basic
  else if !cs.contains '\'' && !cs.contains '\n' then .literal
  else if !cs.contains '\\' && !hasTriple '"' cs then .multilineBasic
  else if !hasTriple '\'' cs then .multilineLiteral
  else if cs.contains '\n' then .multilineBasic
  else .basic

/-- A code point as an escape of four digits. -/
def codeEscape (c : Char) : List Char :=
  let digits := (hexDigits c.toNat).map Char.toUpper
  ['\\', 'u'] ++ List.replicate (4 - digits.length) '0' ++ digits

/-- The escaped form of a character other than a quote or a line feed. -/
def escaped (c : Char) : List Char :=
  match c with
  | '\x08' => ['\\', 'b']
  | '\t' => ['\\', 't']
  | '\x0c' => ['\\', 'f']
  | '\r' => ['\\', 'r']
  | '\\' => ['\\', '\\']
  | c => if needsCode c then codeEscape c else [c]

/-- The text between the quotes of a basic string on one line. -/
def basicBody (cs : List Char) : List Char :=
  cs.flatMap fun c =>
    if c = '"' then ['\\', '"'] else if c = '\n' then ['\\', 'n'] else escaped c

/-- The text between the quotes of a basic string of several lines: a third quote in a row is
escaped. -/
def multilineBasicBody : (quotes : Nat) → List Char → List Char
  | _, [] => []
  | quotes, c :: cs =>
    if c = '"' then
      if quotes < 2 then '"' :: multilineBasicBody (quotes + 1) cs
      else '\\' :: '"' :: multilineBasicBody 0 cs
    else if c = '\n' then '\n' :: multilineBasicBody 0 cs
    else escaped c ++ multilineBasicBody 0 cs

/-- A text in a given style. Between triple quotes a text of several lines begins on a new line. -/
def Style.write (style : Style) (cs : List Char) : List Char :=
  let lead := if cs.contains '\n' then ['\n'] else []
  match style with
  | .basic => '"' :: basicBody cs ++ ['"']
  | .literal => '\'' :: cs ++ ['\'']
  | .multilineBasic => ['"', '"', '"'] ++ lead ++ multilineBasicBody 0 cs ++ ['"', '"', '"']
  | .multilineLiteral => ['\'', '\'', '\''] ++ lead ++ cs ++ ['\'', '\'', '\'']

/-- A text as a string of a document. -/
def writeString (s : String) : List Char :=
  (Style.choose s.toList).write s.toList

end TraceRelay.Toml
