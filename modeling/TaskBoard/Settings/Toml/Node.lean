import TaskBoard.Settings.Source

/-!
# Tables of a TOML document

A key may be defined once only.  A table that a header or dotted keys have
defined may not be defined by another header, and dotted keys lead neither into
a table that a header has defined nor into an inline one.
-/

namespace TaskBoard.Settings.Toml

/-- What has defined a table. -/
inductive Origin where
  /-- The header of a table within it. -/
  | implied
  /-- A header of its own. -/
  | header
  /-- Dotted keys. -/
  | keys
  deriving DecidableEq, Repr

/-- A node of a document that is being read. -/
inductive Node where
  | leaf (value : Source)
  | table (origin : Origin) (entries : List (String × Node))
  /-- The tables of the headers in double brackets, the last one apart. -/
  | tables (done : List Source) (last : List (String × Node))
  deriving Inhabited

/-- The entries of a table. -/
abbrev Entries := List (String × Node)

namespace Node

mutual

/-- The source that a node denotes. -/
def toSource : Node → Source
  | .leaf value => value
  | .table _ entries => .table (toEntries entries)
  | .tables done last => .list (done ++ [.table (toEntries last)])

/-- The entries of a source that the entries of a table denote. -/
def toEntries : Entries → List (String × Source)
  | [] => []
  | (name, node) :: rest => (name, node.toSource) :: toEntries rest

end

/-- Put an entry in place of the one with the same name. -/
def put (name : String) (entries : Entries) (node : Node) : Entries :=
  (entries.filter fun entry => entry.1 != name) ++ [(name, node)]

/-- Open a table where its header names it; tables on the way to it are implied. -/
def openAt (openLast : Option Node → Option Node) : (path : List String) → Entries →
    Option Entries
  | [], _ => none
  | [name], entries => (openLast (entries.lookup name)).map (put name entries)
  | name :: rest, entries =>
      match entries.lookup name with
      | none => (openAt openLast rest []).map fun inner => put name entries (.table .implied inner)
      | some (.table origin inner) =>
          (openAt openLast rest inner).map fun inner => put name entries (.table origin inner)
      | some (.tables done last) =>
          (openAt openLast rest last).map fun last => put name entries (.tables done last)
      | some (.leaf _) => none

/-- Open a table by its header: there is none of that name, or it is implied. -/
def openTable (path : List String) (entries : Entries) : Option Entries :=
  openAt
    (fun
      | none => some (.table .header [])
      | some (.table .implied inner) => some (.table .header inner)
      | some _ => none)
    path entries

/-- Open one more table by a header in double brackets. -/
def appendTable (path : List String) (entries : Entries) : Option Entries :=
  openAt
    (fun
      | none => some (.tables [] [])
      | some (.tables done last) => some (.tables (done ++ [.table (toEntries last)]) [])
      | some _ => none)
    path entries

/-- Define a dotted key in the table that is open.  The key may lead through a
table that a header implies and the last one of several tables, but not into it. -/
def define (value : Source) : (key : List String) → Entries → Option Entries
  | [], _ => none
  | [name], entries =>
      match entries.lookup name with
      | none => some (put name entries (.leaf value))
      | some _ => none
  | name :: rest, entries =>
      match entries.lookup name with
      | none => (define value rest []).map fun inner => put name entries (.table .keys inner)
      | some (.table .keys inner) =>
          (define value rest inner).map fun inner => put name entries (.table .keys inner)
      | some (.table .implied inner) =>
          if rest.length ≤ 1 then none
          else (define value rest inner).map fun inner => put name entries (.table .implied inner)
      | some (.tables done last) =>
          if rest.length ≤ 1 then none
          else (define value rest last).map fun last => put name entries (.tables done last)
      | some (.table .header _) => none
      | some (.leaf _) => none

/-- Define a dotted key in the table at a path. -/
def defineAt (value : Source) (key : List String) : (path : List String) → Entries →
    Option Entries
  | [], entries => define value key entries
  | name :: rest, entries =>
      match entries.lookup name with
      | some (.table origin inner) =>
          (defineAt value key rest inner).map fun inner => put name entries (.table origin inner)
      | some (.tables done last) =>
          (defineAt value key rest last).map fun last => put name entries (.tables done last)
      | _ => none

end Node

end TaskBoard.Settings.Toml
