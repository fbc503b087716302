import TaskBoard.CommandLine.Options
import TaskBoard.Search.Request
import TaskBoard.Text.Numeral

/-!
# Invocations

The program searches a snapshot, searches it quickly for a keyword or shows its
statistics.  An invocation is what the arguments of the command line ask for.
-/

namespace TaskBoard.CommandLine

/-- What a search on the command line asks for. -/
structure SearchOptions where
  filters : Filters
  order : SortOrder
  page : Word32
  /-- The page size of the settings is used where none is given. -/
  pageSize : Option Word32
  deriving DecidableEq

/-- What the program is asked to do with a snapshot. -/
inductive Job where
  | search (options : SearchOptions)
  | quick (keyword : String)
  | stats
  deriving DecidableEq

/-- What the arguments ask for. -/
inductive Invocation where
  | version
  | help
  /-- Do a job with the tasks of a file, perhaps with a file of settings. -/
  | work (config : Option String) (tasks : String) (json : Bool) (job : Job)
  deriving DecidableEq

/-! ## Values of options -/

/-- Any value. -/
def anyText (_ : String) : Bool := true

/-- A value that names a file. -/
def isPath (text : String) : Bool := !text.isEmpty

/-- A number below a limit of at most thirty-two bits, which may be written with a sign. -/
def small? {limit : Nat} (text : String) : Option (Bounded limit) :=
  match Text.readInteger 9223372036854775808 9223372036854775807 text.toList with
  | .ok value => if 0 ≤ value then Bounded.ofNat? value.toNat else none
  | .error _ => none

/-- A number of sixty-four bits. -/
def large? (text : String) : Option Word64 :=
  (Text.readNatural 10 18446744073709551615 text.toList).toOption >>= Bounded.ofNat?

/-- A difficulty, which need not be a level. -/
def difficulty? : String → Option Word8 := small?

/-- A page or the size of a page. -/
def count? : String → Option Word32 := small?

def status? (text : String) : Option Status := (Status.ofText text).toOption
def priority? (text : String) : Option Priority := (Priority.ofText text).toOption
def sortKey? (text : String) : Option SortKey := (SortKey.ofText text).toOption

/-! ## Options -/

/-- An option with a value that can be read. -/
def readable {α : Type} (name : String) (read? : String → Option α) : OptionForm :=
  ⟨name, none, .value fun text => (read? text).isSome⟩

/-- An option without a value. -/
def flag (name : String) : OptionForm := ⟨name, none, .flag⟩

/-- The options that may stand before the command and after it. -/
def sharedForms : List OptionForm :=
  [⟨"config", none, .value isPath⟩, ⟨"verbose", some 'v', .flag⟩, ⟨"quiet", some 'q', .flag⟩,
    ⟨"help", some 'h', .final⟩]

/-- The options that may stand before the command. -/
def leadingForms : List OptionForm := sharedForms ++ [⟨"version", some 'V', .final⟩]

/-- The options of every command. -/
def commandForms : List OptionForm :=
  sharedForms ++ [⟨"tasks", none, .value isPath⟩, flag "json"]

/-- The options of a search. -/
def searchForms : List OptionForm :=
  commandForms ++
    [⟨"keyword", some 'k', .value anyText⟩, readable "status" status?,
      readable "priority" priority?, readable "min-difficulty" difficulty?,
      readable "max-difficulty" difficulty?, readable "min-reward" large?,
      readable "max-reward" large?, ⟨"creator", none, .value anyText⟩,
      ⟨"assignee", none, .value anyText⟩, flag "unassigned-only", flag "has-deadline",
      readable "sort-by" sortKey?, flag "asc", readable "page" count?,
      readable "page-size" count?]

namespace Given

/-- The value of an option, if it is given and can be read. -/
def read? {α : Type} (given : Given) (name : String) (read? : String → Option α) : Option α :=
  given.value? name >>= read?

/-- The range between two options, which must be given together. -/
def range? {α : Type} (given : Given) (least greatest : String) (read? : String → Option α) :
    Option (Option (Range α)) :=
  match given.read? least read?, given.read? greatest read? with
  | some min, some max => some (some ⟨min, max⟩)
  | none, none => some none
  | _, _ => none

/-- The filters that are given. -/
def filters? (given : Given) : Option Filters := do
  let difficultyRange ← given.range? "min-difficulty" "max-difficulty" difficulty?
  let rewardRange ← given.range? "min-reward" "max-reward" large?
  if given.has "assignee" && given.has "unassigned-only" then none
  else
    return {
      keyword := given.value? "keyword"
      status := given.read? "status" status?
      priority := given.read? "priority" priority?
      difficultyRange
      rewardRange
      creator := given.value? "creator"
      assignee := given.value? "assignee"
      deadlineRange := none
      createdRange := none
      unassignedOnly := given.has "unassigned-only"
      hasDeadline := given.has "has-deadline" }

/-- What is given for a search. -/
def searchOptions? (given : Given) : Option SearchOptions :=
  given.filters?.map fun filters =>
    { filters
      order := ⟨(given.read? "sort-by" sortKey?).getD .createdAt, !given.has "asc"⟩
      page := (given.read? "page" count?).getD 1
      pageSize := given.read? "page-size" count? }

/-- Whether the program is told to be verbose and quiet at once. -/
def isContradictory (given : Given) : Bool := given.has "verbose" && given.has "quiet"

end Given

/-- A command: its options, the number of its operands, and how its job is read
from what is given. -/
structure Command where
  forms : List OptionForm
  operands : Nat
  job? : Given → Option Job

/-- The command of a name. -/
def command? (name : String) : Option Command :=
  match name with
  | "search" => some ⟨searchForms, 0, fun given => given.searchOptions?.map .search⟩
  | "quick" => some ⟨commandForms, 1, fun given => given.operands.head?.map .quick⟩
  | "stats" => some ⟨commandForms, 0, fun _ => some .stats⟩
  | _ => none

/-- The invocation that the arguments of a command ask for, after what was given
before it. -/
def readCommand? (leading : Given) (name : String) (arguments : List String) :
    Option Invocation := do
  let command ← command? name
  let (given, _) ← give command.forms (.take command.operands) arguments .proceed .nothing
  if given.has "help" then return .help
  else
    let tasks ← given.value? "tasks"
    let job ← command.job? given
    if leading.isContradictory || given.isContradictory then none
    else
      let config := (given.value? "config").or (leading.value? "config")
      return .work config tasks (given.has "json") job

/-- Whether there is help on what the arguments name: a command or the whole program. -/
def hasHelp : List String → Bool
  | [] => true
  | [name] => name == "help" || (command? name).isSome
  | _ => false

/-- The invocation that the arguments ask for, if they make sense. -/
def Invocation.ofArguments? (arguments : List String) : Option Invocation := do
  let (leading, rest) ← give leadingForms .leave arguments .proceed .nothing
  if leading.has "version" then return .version
  else if leading.has "help" then return .help
  else
    match rest with
    | [] => none
    | "help" :: topic => if hasHelp topic then return .help else none
    | name :: rest => readCommand? leading name rest

end TaskBoard.CommandLine
