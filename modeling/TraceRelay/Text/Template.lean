import TraceRelay.Text.Scan

/-!
# Templates

A template is a text with holes: patterns that are each replaced by a filling wherever they occur,
from left to right and without overlap. A filling is not searched again.
-/

namespace TraceRelay.Text

/-- A pattern and what takes its place. -/
structure Hole where
  pattern : List Char
  filling : List Char

/-- Fills the holes of a text whose first `skip` characters belong to the last hole found. -/
def fillFrom (holes : List Hole) : Nat → List Char → List Char
  | _, [] => []
  | skip + 1, _ :: cs => fillFrom holes skip cs
  | 0, c :: cs =>
    match holes.find? (fun h => (after? h.pattern (c :: cs)).isSome) with
    | some h => h.filling ++ fillFrom holes (h.pattern.length - 1) cs
    | none => c :: fillFrom holes 0 cs

/-- Fills every hole of the text; at one place the first pattern that fits wins. -/
def fillAll (holes : List Hole) (cs : List Char) : List Char :=
  fillFrom holes 0 cs

/-- Replaces every occurrence of a pattern in a string. -/
def fill (pattern filling : String) (s : String) : String :=
  String.ofList (fillAll [⟨pattern.toList, filling.toList⟩] s.toList)

end TraceRelay.Text
