import TraceRelay.Text.Alphanumeric
import TraceRelay.Text.Numeral

/-!
# Patterns of field values

A filter may ask for the value of a field: a truth value, a number, or a regular expression. Only
whether a text is one of these matters, since no record has a value that is compared. A regular
expression is checked construct by construct: groups and classes are closed, a repetition has
something to repeat, and every escape is known. Word boundaries are refused: they depend on the
letters of all scripts, which a pattern that is matched in one pass cannot look back at.
-/

namespace TraceRelay.Log.Pattern

open Text

/-! ## Escapes -/

/-- What an escape stands for. -/
inductive Escape
  | literal (c : Char)
  /-- A class of characters. -/
  | set
  /-- The beginning or the end of the text. -/
  | anchor
deriving DecidableEq, Repr

/-- The character with the code point that hexadecimal digits denote. -/
def codePoint? (digits : List Char) : Option Escape :=
  if digits.all isHexDigit ∧ (ofDigits 16 digits).isValidChar then
    some (.literal (Char.ofNat (ofDigits 16 digits)))
  else none

/-- An escape of exactly `width` hexadecimal digits. -/
def codeEscape? (width : Nat) (cs : List Char) : Option (Escape × List Char) :=
  if (cs.take width).length = width then
    (codePoint? (cs.take width)).map (·, cs.drop width)
  else none

/-- The letters that name a general category. -/
def categories : List Char :=
  ['c', 'l', 'm', 'n', 'p', 's', 'z']

/-- Reads what follows a backslash. -/
def escape? : List Char → Option (Escape × List Char)
  | [] => none
  | c :: cs =>
    match c with
    | 'x' => codeEscape? 2 cs
    | 'u' => codeEscape? 4 cs
    | 'U' => codeEscape? 8 cs
    | 'a' => some (.literal '\x07', cs)
    | 'f' => some (.literal '\x0c', cs)
    | 't' => some (.literal '\t', cs)
    | 'n' => some (.literal '\n', cs)
    | 'r' => some (.literal '\r', cs)
    | 'v' => some (.literal '\x0b', cs)
    | 'A' => some (.anchor, cs)
    | 'z' => some (.anchor, cs)
    | c =>
      if ['d', 's', 'w', 'D', 'S', 'W'].contains c then some (.set, cs)
      else if c = 'p' ∨ c = 'P' then
        match cs with
        | name :: cs => if categories.contains name.toLower then some (.set, cs) else none
        | [] => none
      else if c.toNat < 0x80 ∧ !c.isAlphanum ∧ c ≠ '<' ∧ c ≠ '>' then some (.literal c, cs)
      else none

/-! ## Classes -/

/-- One item of a class: a character, or an escape that is no anchor. -/
def classItem? : List Char → Option (Escape × List Char)
  | [] => none
  | '\\' :: cs => (escape? cs).filter (·.1 ≠ .anchor)
  | c :: cs => some (.literal c, cs)

/-- One item of a class or a range of characters. A minus sign before a closing bracket or another
minus sign begins no range. -/
def classRange? (cs : List Char) : Option (List Char) := do
  let (low, cs) ← classItem? cs
  match cs with
  | '-' :: ']' :: _ => return cs
  | '-' :: '-' :: _ => return cs
  | '-' :: cs => do
    let (high, cs) ← classItem? cs
    match low, high with
    | .literal a, .literal b => if a ≤ b then return cs else none
    | _, _ => none
  | cs => return cs

/-- The names of the classes that are written between colons. -/
def namedClasses : List String :=
  ["alnum", "alpha", "ascii", "blank", "cntrl", "digit", "graph", "lower", "print", "punct",
    "space", "upper", "word", "xdigit"]

/-- Drops the name of a class with its colons and closing bracket. -/
def namedClass? : List Char → Option (List Char)
  | ':' :: cs =>
    let cs := match cs with
      | '^' :: cs => cs
      | cs => cs
    match cs.dropWhile (· ≠ ':') with
    | ':' :: ']' :: rest =>
      if namedClasses.contains (String.ofList (cs.takeWhile (· ≠ ':'))) then some rest else none
    | _ => none
  | _ => none

/-- Drops what may stand at the front of a class only: a caret, then minus signs or one closing
bracket that stand for themselves. -/
def classFront (cs : List Char) : List Char :=
  let cs := match cs with
    | '^' :: cs => cs
    | cs => cs
  match cs with
  | ']' :: cs => cs
  | cs => cs.dropWhile (· = '-')

/-- Drops the rest of a class of which `depth` brackets are open beside the outermost. -/
def afterClass? : (fuel depth : Nat) → List Char → Option (List Char)
  | 0, _, _ => none
  | _, _, [] => none
  | fuel + 1, depth, c :: cs =>
    if c = ']' then
      match depth with
      | 0 => some cs
      | depth + 1 => afterClass? fuel depth cs
    else if c = '[' then
      match namedClass? cs with
      | some cs => afterClass? fuel depth cs
      | none => afterClass? fuel (depth + 1) (classFront cs)
    else if (c = '&' ∨ c = '-' ∨ c = '~') ∧ cs.head? = some c then
      afterClass? fuel depth (cs.drop 1)
    else (classRange? (c :: cs)).bind (afterClass? fuel depth)

/-! ## Groups -/

/-- Reads the flags of a group: each once, with at most one minus sign that is not the last. Whether
the group goes on after them is told by the sign that ends them. -/
def afterFlags? (seen : List Char) : List Char → Option (Bool × List Char)
  | ':' :: cs => if seen.head? = some '-' then none else some (true, cs)
  | ')' :: cs => if seen = [] ∨ seen.head? = some '-' then none else some (false, cs)
  | c :: cs =>
    if ['i', 'm', 's', 'U', 'u', 'x', 'R', '-'].contains c ∧ !seen.contains c then
      afterFlags? (c :: seen) cs
    else none
  | [] => none

/-- Drops the name of a group and its closing sign. -/
def afterName? (cs : List Char) : Option (List Char) :=
  let name := cs.takeWhile (· ≠ '>')
  let fits (c : Char) : Bool := isAlphanumeric c || ['_', '.', '[', ']'].contains c
  match name, cs.dropWhile (· ≠ '>') with
  | first :: rest, '>' :: cs =>
    if (first = '_' ∨ (isAlphanumeric first ∧ !isDigit first)) ∧ rest.all fits then some cs
    else none
  | _, _ => none

/-- Reads what follows the parenthesis that opens a group. The group goes on, or it only sets
flags. -/
def afterOpening? : List Char → Option (Bool × List Char)
  | '?' :: 'P' :: '<' :: cs => (afterName? cs).map (true, ·)
  | '?' :: '<' :: cs => (afterName? cs).map (true, ·)
  | '?' :: cs => afterFlags? [] cs
  | cs => some (true, cs)

/-! ## Expressions -/

/-- Whether the text is the rest of an expression of which `groups` groups are open; `repeatable`
tells whether something stands before it that a repetition can follow. -/
def isRest : (fuel groups : Nat) → (repeatable : Bool) → List Char → Bool
  | 0, _, _, _ => false
  | _, groups, _, [] => groups = 0
  | fuel + 1, groups, repeatable, c :: cs =>
    match c with
    | '(' =>
      match afterOpening? cs with
      | some (true, cs) => isRest fuel (groups + 1) false cs
      | some (false, cs) => isRest fuel groups false cs
      | none => false
    | ')' => groups ≠ 0 && isRest fuel (groups - 1) true cs
    | '|' => isRest fuel groups false cs
    | '[' =>
      match afterClass? (cs.length + 1) 0 (classFront cs) with
      | some cs => isRest fuel groups true cs
      | none => false
    | '\\' =>
      match escape? cs with
      | some (_, cs) => isRest fuel groups true cs
      | none => false
    | '\x7b' => false
    | c =>
      if c = '*' ∨ c = '+' ∨ c = '?' then
        repeatable && isRest fuel groups true (if cs.head? = some '?' then cs.drop 1 else cs)
      else isRest fuel groups true cs

/-- Whether the text is a regular expression without counted repetitions, which need a brace that a
filter cannot hold. -/
def isExpression (cs : List Char) : Bool :=
  isRest (cs.length + 1) 0 false cs

/-! ## Values -/

/-- Whether the text is a decimal number without a sign, perhaps with a fraction and an exponent, or
the word for infinity or for what is not a number. -/
def isUnsignedFloat (cs : List Char) : Bool :=
  let whole := cs.takeWhile isDigit
  let (fraction, rest) := match cs.dropWhile isDigit with
    | '.' :: cs => (cs.takeWhile isDigit, cs.dropWhile isDigit)
    | cs => ([], cs)
  let exponent := match rest with
    | 'e' :: cs => some cs
    | 'E' :: cs => some cs
    | _ => none
  let exponentFits := match exponent with
    | none => rest = []
    | some ('+' :: digits) => (natural? digits).isSome
    | some ('-' :: digits) => (natural? digits).isSome
    | some digits => (natural? digits).isSome
  let named := ["inf", "infinity", "nan"].contains (String.ofList (cs.map Char.toLower))
  named || (whole ++ fraction ≠ [] && exponentFits)

/-- Whether the text can be asked for as a value. Without a plus sign in front every number is a
regular expression too. -/
def isValue : List Char → Bool
  | '+' :: cs => isUnsignedFloat cs
  | cs => isExpression cs

end TraceRelay.Log.Pattern
