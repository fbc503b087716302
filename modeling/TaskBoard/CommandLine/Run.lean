import TaskBoard.App
import TaskBoard.CommandLine.Invocation
import TaskBoard.CommandLine.Report
import TaskBoard.Json.Selective
import TaskBoard.Settings.Load
import TaskBoard.View.Format

/-!
# Running the program

A run is determined by the arguments, the files, the environment and the time.
It prints a text, fails with a message, breaks off or finds that the arguments
make no sense.
-/

namespace TaskBoard.CommandLine

/-- What a run can see besides its arguments. -/
structure Surroundings where
  entryAt : String → Entry
  environment : List (String × String)
  now : Instant

/-- Why a run fails. -/
inductive RunError where
  | settings (path : Option String) (cause : Settings.LoadError)
  | missingSnapshot (path : String)
  | malformedSnapshot (path : String)
  | unbuildable (cause : BuildError)
  | app (cause : AppError)
  deriving DecidableEq

namespace RunError

/-- The text that reports a failed run. -/
def message : RunError → String
  | settings none _ => "failed to load config"
  | settings (some path) _ => "failed to load config from " ++ path
  | missingSnapshot path => "failed to read task snapshot " ++ path
  | malformedSnapshot path => "failed to parse task snapshot " ++ path
  | unbuildable _ => "failed to build app"
  | app cause => cause.message

/-- The setting that made the run fail, if one did. -/
def invalidSetting? : RunError → Option Settings.Invalid
  | settings _ (.invalid cause) => some cause
  | unbuildable (.invalid cause) => some cause
  | _ => none

/-- The report of a failed run: its message and, indented below it, the setting that is to blame. -/
def report (error : RunError) : String :=
  let cause :=
    match error.invalidSetting? with
    | none => []
    | some invalid => ["", "Caused by:", "    " ++ invalid.message]
  unlines (("Error: " ++ error.message) :: cause)

end RunError

/-- How a run ends. -/
inductive Outcome where
  | printed (text : String)
  | failed (error : RunError)
  /-- The arguments make no sense. -/
  | misused
  /-- The environment cannot be used at all. -/
  | brokenOff
  deriving DecidableEq

/-- The tasks of a snapshot in JSON, if it is one; members that no task has are
passed over. -/
def readSnapshot? (text : String) : Option (List Task) :=
  match Json.readRecords? Task.hasMember text with
  | none => none
  | some records => (Decoder.list Task.decode .direct (.array records)).toOption

/-- The ledger that begins with the snapshot of a file. -/
def loadLedger (surroundings : Surroundings) (path : String) : Except RunError Ledger :=
  match (surroundings.entryAt path).read? with
  | none => .error (.missingSnapshot path)
  | some text =>
      match readSnapshot? text with
      | none => .error (.malformedSnapshot path)
      | some tasks => .ok (Ledger.ofSnapshot .standard tasks)

/-- The request for a search, in the page size that is given or in that of the settings. -/
def SearchOptions.toRequest (options : SearchOptions) (app : App) : Request :=
  let request := app.request options.filters
  { request with
    order := options.order
    page := options.page
    pageSize := options.pageSize.getD request.pageSize }

/-- A text of lines, or a JSON value over several lines. -/
def render (asJson : Bool) (json : Json) (lines : List String) : String :=
  if asJson then json.pretty ++ "\n" else unlines lines

/-- Print the page that a search asks for. -/
def runSearch (app : App) (ledger : Ledger) (asJson : Bool) (options : SearchOptions) :
    Except AppError String := do
  let page ← App.search ledger (options.toRequest app)
  let listing := app.listing page (options.filters.keyword.getD "")
  return render asJson listing.encode (listingLines listing)

/-- Print what a quick search finds. -/
def runQuick (app : App) (ledger : Ledger) (asJson : Bool) (keyword : String) :
    Except AppError String := do
  let found ← app.quickSearch ledger keyword
  let rows := found.map fun task => Row.ofTask task keyword app.settings.search.previewLength
  return render asJson (.array (rows.map Row.encode)) (quickLines rows)

/-- Print the statistics of the snapshot. -/
def runStats (ledger : Ledger) (asJson : Bool) (now : Instant) : Except AppError String := do
  let statistics ← App.statistics ledger now
  return render asJson statistics.encode (statisticsLines statistics)

/-- Do a job on the snapshot of a file. -/
def runJob (surroundings : Surroundings) (config : Option String) (tasks : String)
    (asJson : Bool) (job : Job) : Except RunError String := do
  let settings ←
    (Settings.load surroundings.entryAt surroundings.environment config).mapError
      (.settings config)
  let ledger ← loadLedger surroundings tasks
  let app ← (App.build true settings).mapError .unbuildable
  (match job with
    | .search options => runSearch app ledger asJson options
    | .quick keyword => runQuick app ledger asJson keyword
    | .stats => runStats ledger asJson surroundings.now).mapError .app

/-- The name and the version of the program. -/
def versionText : String := "decentra 0.1.0\n"

/-- What the program offers. -/
def helpText : String :=
  unlines [
    "Search a decentra task board snapshot",
    "",
    "Usage: decentra [OPTIONS] <COMMAND>",
    "",
    "Commands:",
    "  search  Filter, sort and paginate the snapshot",
    "  quick   Keyword-only search with the configured result limit",
    "  stats   Status, priority and reward statistics"]

/-- The files that a run may look at. -/
def neededFiles (arguments : List String) : List String :=
  match Invocation.ofArguments? arguments with
  | some (.work config tasks _ _) => [config.getD Settings.standardFile, tasks]
  | _ => []

/-- The variable of the environment that lays down the number of worker threads. -/
def workerVariable : String := "TOKIO_WORKER_THREADS"

/-- Whether a run has worker threads: their number is left open or positive. -/
def hasWorkers (environment : List (String × String)) : Bool :=
  match environment.lookup workerVariable with
  | none => true
  | some text =>
      match Text.readNatural 10 18446744073709551615 text.toList with
      | .ok count => decide (0 < count)
      | .error _ => false

/-- Run the program for its arguments. -/
def runArguments (arguments : List String) (surroundings : Surroundings) : Outcome :=
  match Invocation.ofArguments? arguments with
  | none => .misused
  | some .version => .printed versionText
  | some .help => .printed helpText
  | some (.work config tasks asJson job) =>
      match runJob surroundings config tasks asJson job with
      | .ok text => .printed text
      | .error (.settings _ .cutCharacter) => .brokenOff
      | .error error => .failed error

/-- Run the program; without worker threads it breaks off before anything else. -/
def run (arguments : List String) (surroundings : Surroundings) : Outcome :=
  if hasWorkers surroundings.environment then runArguments arguments surroundings else .brokenOff

end TaskBoard.CommandLine
