import TraceRelay.Log.Directive
import TraceRelay.Text.Segments

/-!
# Which records are shown

A filter is a list of directives, separated by commas. A directive sets the least level of the
records whose component's path begins with its target and which have the field that it names; the
most specific directive that applies to a record decides. Directives that name a span or ask for a
value apply to nothing, since records are not in spans.
-/

namespace TraceRelay.Log

open Text

/-- A filter: its directives in the order in which they were given. -/
abbrev Filter := List Directive

/-- Reads a filter; empty pieces are passed over. -/
def Filter.parse (text : String) : Except DirectiveError Filter :=
  let pieces := (segments (· == ',') text.toList).map (·.filter (· ≠ ','))
  (pieces.filter (· ≠ [])).mapM Directive.parse

/-- Whether a record has a field. Its message is one. -/
def Record.hasField (r : Record) (name : List Char) : Bool :=
  name = "message".toList || r.fields.any (·.1.toList = name) || r.withheld.any (·.toList = name)

/-- Whether a directive has a say on a record. -/
def Directive.applies (d : Directive) (r : Record) : Bool :=
  let hasTarget := d.target.all fun target =>
    (after? target r.component.path.toList).isSome
  let hasField := d.field.all fun field => !field.hasValue && r.hasField field.name
  d.span.isNone && hasTarget && hasField

/-- How specific a directive is: a longer target counts first, then a field, and of two fields the
one with the greater name. -/
structure Specificity where
  target : Nat
  field : Option (List Char)
deriving DecidableEq, Repr

/-- How specific a directive is. -/
def Directive.specificity (d : Directive) : Specificity where
  target := (d.target.map (·.length + 1)).getD 0
  field := d.field.map (·.name)

/-- Whether one directive is less specific than another. -/
def Specificity.below (a b : Specificity) : Bool :=
  if a.target = b.target then
    match a.field, b.field with
    | none, some _ => true
    | some x, some y => x < y
    | _, none => false
  else a.target < b.target

/-- The more specific of two directives, the later one if they are equally specific. -/
def Directive.moreSpecific (earlier : Option Directive) (later : Directive) : Option Directive :=
  match earlier with
  | none => some later
  | some d => if later.specificity.below d.specificity then some d else some later

/-- Whether a filter shows a record. -/
def Filter.admits (filter : Filter) (r : Record) : Bool :=
  let deciding := (filter.filter (·.applies r)).foldl Directive.moreSpecific none
  deciding.any fun d => d.threshold.admits r.level

/-- The filter that shows everything from a level on. -/
def Filter.atLeast (level : Level) : Filter :=
  [{ threshold := some level }]

end TraceRelay.Log
