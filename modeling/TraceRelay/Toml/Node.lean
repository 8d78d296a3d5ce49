/-!
# TOML documents

A document is a tree of named nodes. A table remembers how it came about, because that decides which
later lines may add to it: a table with a header of its own takes no dotted keys from outside, and
one made by dotted keys takes no header. Nodes that no setting can use (floats and times) keep their
kind only.
-/

namespace TraceRelay.Toml

/-- How a table came about. -/
inductive Origin
  /-- By a header of its own; the document itself counts as such. -/
  | header
  /-- As an ancestor of a table with a header. -/
  | implied
  /-- By a dotted key. -/
  | dotted
deriving DecidableEq, Repr

/-- A value or a table. -/
inductive Node
  | string (text : String)
  | integer (value : Int)
  | float
  | boolean (value : Bool)
  | dateTime
  | array (items : List Node)
  /-- A table written as a value, which takes no additions. -/
  | inline (entries : List (String × Node))
  | table (origin : Origin) (entries : List (String × Node))
  /-- The tables of one array, each under a header of its own. -/
  | tables (members : List (List (String × Node)))

/-- The named nodes of a table, in the order in which they came. -/
abbrev Entries := List (String × Node)

namespace Entries

/-- Puts a node in place of the one of its name, or at the end. -/
def put (key : String) (node : Node) : Entries → Entries
  | [] => [(key, node)]
  | (k, n) :: entries => if k = key then (key, node) :: entries else (k, n) :: put key node entries

/-- Changes the table at a path, making the tables on the way that are missing. A path through an
array of tables goes to its last member; a path through any other value leads nowhere. On the way of
a dotted key no table may have a header. -/
def atPath (isDotted : Bool) (change : Origin → Entries → Option Entries) :
    List String → Origin → Entries → Option Entries
  | [], origin, entries => change origin entries
  | key :: path, _, entries =>
    match entries.lookup key with
    | none => do
      let origin := if isDotted then Origin.dotted else .implied
      let child ← atPath isDotted change path origin []
      return put key (.table origin child) entries
    | some (.table origin child) =>
      if isDotted && origin = .header then none
      else do
        let child ← atPath isDotted change path origin child
        return put key (.table origin child) entries
    | some (.tables members) =>
      match members.getLast? with
      | none => none
      | some last => do
        let last ← atPath isDotted change path .header last
        return put key (.tables (members.dropLast ++ [last])) entries
    | some _ => none

/-- Adds a value under a dotted key: its last part is new in its table, and that table is one made
by dotted keys exactly if there are parts before the last. -/
def assign (path : List String) (key : String) (value : Node) (entries : Entries) :
    Option Entries :=
  let add (origin : Origin) (table : Entries) : Option Entries :=
    if decide (origin = .dotted) == path.isEmpty then none
    else if (table.lookup key).isSome then none
    else some (put key value table)
  atPath true add path .header entries

/-- Opens the table of a header, which may exist only as an ancestor so far. -/
def openTable (path : List String) (key : String) (entries : Entries) : Option Entries :=
  let change (_ : Origin) (table : Entries) : Option Entries :=
    match table.lookup key with
    | none => some (put key (.table .header []) table)
    | some (.table .implied child) => some (put key (.table .header child) table)
    | some _ => none
  atPath false change path .header entries

/-- Adds a member to the array of tables of a header. -/
def openMember (path : List String) (key : String) (entries : Entries) : Option Entries :=
  let change (_ : Origin) (table : Entries) : Option Entries :=
    match table.lookup key with
    | none => some (put key (.tables [[]]) table)
    | some (.tables members) => some (put key (.tables (members ++ [[]])) table)
    | some _ => none
  atPath false change path .header entries

end Entries

/-! ## Statements -/

/-- One line of a document. A key is given as the parts before the last and the last. -/
inductive Statement
  | header (path : List String) (key : String)
  | member (path : List String) (key : String)
  | assign (path : List String) (key : String) (value : Node)

/-- A document so far, and the table that assignments go to. -/
structure Draft where
  entries : Entries := []
  current : List String := []

/-- The document with one more statement. -/
def Draft.add (draft : Draft) : Statement → Option Draft
  | .header path key => do
    return ⟨← draft.entries.openTable path key, path ++ [key]⟩
  | .member path key => do
    return ⟨← draft.entries.openMember path key, path ++ [key]⟩
  | .assign path key value => do
    let entries ← draft.entries.atPath false (fun _ table => table.assign path key value)
      draft.current .header
    return { draft with entries }

/-- The document that the statements make up, unless one of them contradicts those before. -/
def Entries.ofStatements? (statements : List Statement) : Option Entries :=
  (statements.foldlM Draft.add {}).map (·.entries)

end TraceRelay.Toml
