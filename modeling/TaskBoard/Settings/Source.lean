import TaskBoard.Settings.Basic

/-!
# Sources of settings

A source of settings is a tree of named values.  Sources are laid over one
another: tables are merged, and any other value hides what is below it.  A
section is a table of its settings or a list of them in their order.
-/

namespace TaskBoard.Settings

/-- A value of a source. -/
inductive Source where
  | text (value : String)
  | number (value : Int)
  /-- A value of a type that no setting has. -/
  | other
  | list (items : List Source)
  | table (entries : List (String × Source))
  deriving Inhabited

namespace Source

/-- The source without values. -/
def nothing : Source := .table []

mutual

/-- Lay a source over another. -/
def overlay (upper lower : Source) : Source :=
  match upper, lower with
  | .table above, .table below => .table (overlayEntries above below)
  | value, _ => value

/-- Lay the entries of a table over those of another, one after the other. -/
def overlayEntries (above below : List (String × Source)) : List (String × Source) :=
  match above with
  | [] => below
  | (name, value) :: rest =>
      overlayEntries rest
        ((name, value.overlay ((below.lookup name).getD .other)) ::
          below.filter fun entry => entry.1 != name)

end

/-- A setting of a section, by its name in a table or its position in a list;
no other value is a section. -/
def setting? (position : Nat) (name : String) : Source → Option (Option Source)
  | .table entries => some (entries.lookup name)
  | .list items => some items[position]?
  | _ => none

/-- The text of a setting, or one that stands in for it. -/
def textOr (group : Source) (position : Nat) (name default : String) : Option String :=
  match group.setting? position name with
  | none => none
  | some none => some default
  | some (some (.text value)) => some value
  | some (some _) => none

/-- The number of a setting, up to a limit, or one that stands in for it. -/
def numberOr (group : Source) (position : Nat) (name : String) (limit default : Nat) :
    Option Nat :=
  match group.setting? position name with
  | none => none
  | some none => some default
  | some (some (.number value)) =>
      if 0 ≤ value ∧ value ≤ limit then some value.toNat else none
  | some (some _) => none

/-- A section of a source; the empty one where there is none. -/
def section? (source : Source) (name : String) : Option Source :=
  match source with
  | .table entries => some ((entries.lookup name).getD nothing)
  | _ => none

/-- The section on the chain. -/
def toChain? (source : Source) : Option ChainSettings := do
  let endpoint ← source.textOr 0 "endpoint" standard.chain.endpoint
  return { endpoint }

/-- The section on searches. -/
def toSearch? (source : Source) : Option SearchSettings := do
  let pageSize ← source.numberOr 0 "default_page_size" 4294967295
    standard.search.defaultPageSize.val
  let quickSearchLimit ← source.numberOr 1 "quick_search_limit" 18446744073709551615
    standard.search.quickSearchLimit
  let previewLength ← source.numberOr 2 "description_preview_chars" 18446744073709551615
    standard.search.previewLength
  return { defaultPageSize := Bounded.cap pageSize, quickSearchLimit, previewLength }

/-- The section on the log. -/
def toLog? (source : Source) : Option LogSettings := do
  let level ← source.textOr 0 "level" standard.log.level
  return { level }

/-- The settings of a source, if every value has the type of its setting. -/
def toSettings? (source : Source) : Option Settings := do
  let chain ← source.section? "chain" >>= toChain?
  let search ← source.section? "search" >>= toSearch?
  let log ← source.section? "log" >>= toLog?
  return { chain, search, log }

end Source

end TaskBoard.Settings
