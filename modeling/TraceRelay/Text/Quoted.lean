import TraceRelay.Text.Hidden
import TraceRelay.Text.Numeral

/-!
# Quoted text

Text shown inside double quotes: a quote, a backslash and the usual control characters get a short
escape, every other hidden character its code point in hexadecimal. What is shown is one line that
can be told apart from the words around it.
-/

namespace TraceRelay.Text

/-- The form of one character between double quotes. -/
def quoteChar (c : Char) : List Char :=
  match c with
  | '\x00' => ['\\', '0']
  | '\t' => ['\\', 't']
  | '\r' => ['\\', 'r']
  | '\n' => ['\\', 'n']
  | '\\' => ['\\', '\\']
  | '"' => ['\\', '"']
  | c => if isHidden c then ['\\', 'u', '\x7b'] ++ hexDigits c.toNat ++ ['\x7d'] else [c]

/-- The text in double quotes. -/
def quote (s : String) : String :=
  String.ofList ('"' :: s.toList.flatMap quoteChar ++ ['"'])

/-- Items in square brackets, separated by a comma and a blank. -/
def bracketed (items : List String) : String :=
  "[" ++ ", ".intercalate items ++ "]"

/-- A list of texts, each in double quotes. -/
def quoteList (texts : List String) : String :=
  bracketed (texts.map quote)

end TraceRelay.Text
