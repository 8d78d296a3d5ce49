import TraceRelay.Toml.Node
import TraceRelay.Toml.Number
import TraceRelay.Toml.Quotation

/-!
# Reading TOML documents

A document is read into its statements, and the statements into a tree of nodes. The readers of
values call each other, so they are given fuel; one unit for each character and a few more are
enough, because every second call takes a character.
-/

namespace TraceRelay.Toml

open Text

/-- Arrays and inline tables nest less deep than this, and dotted keys have fewer parts. -/
def nestingLimit : Nat := 80

/-- The text after blanks within a line. -/
def skipBlanks (cs : List Char) : List Char :=
  cs.dropWhile isBlank

/-- The text after the blanks and the comment, if any, that end a line. -/
def skipComment (cs : List Char) : List Char :=
  match skipBlanks cs with
  | '#' :: cs => cs.dropWhile isText
  | cs => cs

/-- The text after the end of a line, which a comment may precede. -/
def endOfLine? (cs : List Char) : Option (List Char) :=
  match skipComment cs with
  | [] => some []
  | cs => newline? cs

/-- The text after blanks, line breaks and comments that end in a line break. -/
def skipLines : (fuel : Nat) → List Char → List Char
  | 0, cs => cs
  | fuel + 1, cs =>
    match newline? (skipComment cs) with
    | some rest => skipLines fuel rest
    | none => skipBlanks cs

/-! ## Keys -/

/-- Characters of a key without quotes. -/
def isBareKey (c : Char) : Bool :=
  isDigit c || ('a' ≤ c && c ≤ 'z') || ('A' ≤ c && c ≤ 'Z') || c = '_' || c = '-'

/-- One part of a key. -/
def keyPart? (cs : List Char) : Option (String × List Char) :=
  let part := match run? isBareKey cs with
    | some part => some part
    | none => simpleString? cs
  part.map fun (text, rest) => (String.ofList text, rest)

/-- The parts of a dotted key, with blanks around them: those before the last, and the last. -/
def keyFrom : (fuel : Nat) → List Char → Option ((List String × String) × List Char)
  | 0, _ => none
  | fuel + 1, cs => do
    let (part, cs) ← keyPart? (skipBlanks cs)
    match skipBlanks cs with
    | '.' :: cs => do
      let ((path, key), cs) ← keyFrom fuel cs
      return ((part :: path, key), cs)
    | cs => return (([], part), cs)

/-- Reads a dotted key. -/
def key? (cs : List Char) : Option ((List String × String) × List Char) := do
  let ((path, key), cs) ← keyFrom (cs.length + 1) cs
  if nestingLimit ≤ path.length + 1 then none
  return ((path, key), cs)

/-! ## Values -/

/-- Reads a word of fixed spelling. -/
def word? (word : String) (node : Node) (cs : List Char) : Option (Node × List Char) :=
  (after? word.toList cs).map (node, ·)

/-- Reads a time, a float or an integer. -/
def numeric? (cs : List Char) : Option (Node × List Char) :=
  match dateTime? cs with
  | some cs => some (.dateTime, cs)
  | none =>
    match (decimalFloat? cs).or (specialFloat? cs) with
    | some cs => some (.float, cs)
    | none => (integer? cs).map fun (n, cs) => (.integer n, cs)

/-- The inline table of the entries read. -/
def inlineTable? (pairs : List ((List String × String) × Node)) : Option Node :=
  (pairs.foldlM (fun (entries : Entries) ((path, key), value) => entries.assign path key value)
    []).map Node.inline

mutual

/-- Reads a value inside `depth` arrays and inline tables. -/
def value? : (fuel depth : Nat) → List Char → Option (Node × List Char)
  | 0, _, _ => none
  | _, _, [] => none
  | fuel + 1, depth, c :: cs =>
    if c = '"' ∨ c = '\'' then
      (string? (c :: cs)).map fun (text, rest) => (.string (String.ofList text), rest)
    else if c = '[' then
      if nestingLimit ≤ depth + 1 then none
      else
        match skipLines (cs.length + 1) cs with
        | ']' :: cs => some (.array [], cs)
        | cs => (items? fuel (depth + 1) cs).map fun (items, cs) => (.array items, cs)
    else if c = '\x7b' then
      if nestingLimit ≤ depth + 1 then none
      else
        match skipBlanks cs with
        | '\x7d' :: cs => some (.inline [], cs)
        | cs => do
          let (pairs, cs) ← pairs? fuel (depth + 1) cs
          return (← inlineTable? pairs, cs)
    else if c = '+' ∨ c = '-' ∨ isDigit c then numeric? (c :: cs)
    else if c = 't' then word? "true" (.boolean true) (c :: cs)
    else if c = 'f' then word? "false" (.boolean false) (c :: cs)
    else if c = 'i' then word? "inf" .float (c :: cs)
    else if c = 'n' then word? "nan" .float (c :: cs)
    else none

/-- Reads the items of an array, of which there is at least one, and its closing bracket. A comma
may follow the last. -/
def items? : (fuel depth : Nat) → List Char → Option (List Node × List Char)
  | 0, _, _ => none
  | fuel + 1, depth, cs => do
    let (item, cs) ← value? fuel depth cs
    match skipLines (cs.length + 1) cs with
    | ']' :: cs => return ([item], cs)
    | ',' :: cs =>
      match skipLines (cs.length + 1) cs with
      | ']' :: cs => return ([item], cs)
      | cs => do
        let (items, cs) ← items? fuel depth cs
        return (item :: items, cs)
    | _ => none

/-- Reads the entries of an inline table, of which there is at least one, and its closing brace. -/
def pairs? : (fuel depth : Nat) → List Char →
    Option (List ((List String × String) × Node) × List Char)
  | 0, _, _ => none
  | fuel + 1, depth, cs => do
    let (key, cs) ← key? cs
    let cs ← after? ['='] cs
    let (value, cs) ← value? fuel depth (skipBlanks cs)
    match skipBlanks cs with
    | '\x7d' :: cs => return ([(key, value)], cs)
    | ',' :: cs => do
      let (pairs, cs) ← pairs? fuel depth cs
      return ((key, value) :: pairs, cs)
    | _ => none

end

/-! ## Documents -/

/-- Reads one statement up to the end of its line. -/
def statement? : List Char → Option (Statement × List Char)
  | '[' :: '[' :: cs => do
    let ((path, key), cs) ← key? cs
    let cs ← after? [']', ']'] cs
    return (.member path key, ← endOfLine? cs)
  | '[' :: cs => do
    let ((path, key), cs) ← key? cs
    let cs ← after? [']'] cs
    return (.header path key, ← endOfLine? cs)
  | cs => do
    let ((path, key), cs) ← key? cs
    let cs ← after? ['='] cs
    let (value, cs) ← value? (2 * cs.length + 2) 0 (skipBlanks cs)
    return (.assign path key value, ← endOfLine? cs)

/-- The statements of a text. -/
def statementsFrom? : (fuel : Nat) → List Char → Option (List Statement)
  | 0, _ => none
  | fuel + 1, cs =>
    match skipLines (cs.length + 1) cs with
    | [] => some []
    | '#' :: cs => if cs.dropWhile isText = [] then some [] else none
    | cs => do
      let (statement, rest) ← statement? cs
      let statements ← statementsFrom? fuel rest
      return statement :: statements

/-- The document that a text holds. A byte order mark at its front is passed over. -/
def parse? (cs : List Char) : Option Entries :=
  let cs := (after? ['\uFEFF'] cs).getD cs
  (statementsFrom? (cs.length + 1) cs).bind Entries.ofStatements?

end TraceRelay.Toml
