import TaskBoard.Ledger.Basic
import TaskBoard.Ledger.Subscription
import TaskBoard.Search.Request
import TaskBoard.Session
import TaskBoard.Settings.Basic
import TaskBoard.Statistics
import TaskBoard.View.Row

/-!
# The application

The application searches the tasks that the ledger lists at the time of each
call, with the page size, the limit and the preview length of its settings.
-/

namespace TaskBoard

/-- Why a call of the application fails. -/
inductive AppError where
  | argument (cause : ArgumentError)
  | refused (cause : Refusal)
  | session (cause : SessionError)
  deriving DecidableEq

/-- The text that reports a failed call. -/
def AppError.message : AppError → String
  | argument cause => cause.message
  | refused cause => cause.message
  | session cause => cause.message

/-- Why an application cannot be built. -/
inductive BuildError where
  | missingTaskSource
  | invalid (cause : Settings.Invalid)
  deriving DecidableEq, Repr

/-- The text that reports why an application cannot be built. -/
def BuildError.message : BuildError → String
  | missingTaskSource =>
      "no task source configured; call AppBuilder::task_source before build"
  | invalid cause => cause.message

/-- An application, which is determined by its settings. -/
structure App where
  settings : Settings
  deriving DecidableEq

namespace App

/-- The application with given settings, if it has tasks to search. -/
def build (hasTasks : Bool) (settings : Settings) : Except BuildError App :=
  if hasTasks then
    match settings.validate with
    | .error cause => .error (.invalid cause)
    | .ok () => .ok ⟨settings⟩
  else .error .missingTaskSource

/-- The first page for some filters, in the page size of the settings. -/
def request (app : App) (filters : Filters) : Request :=
  { Request.ofFilters filters with page := 1, pageSize := app.settings.search.defaultPageSize }

/-- The tasks that the ledger lists. -/
def snapshot (ledger : Ledger) : Except AppError (List Task) :=
  ledger.listTasks.mapError .refused

/-- Search the ledger; a request for a page that cannot exist is refused before
the ledger is asked. -/
def search (ledger : Ledger) (request : Request) : Except AppError Page := do
  request.validate.mapError .argument
  let tasks ← snapshot ledger
  (TaskBoard.search tasks request).mapError .argument

/-- Search the ledger for a keyword; a blank one finds nothing and does not ask
the ledger. -/
def quickSearch (app : App) (ledger : Ledger) (keyword : String) :
    Except AppError (List Task) :=
  if Text.isAllBlank keyword then .ok []
  else do
    let tasks ← snapshot ledger
    return TaskBoard.quickSearch tasks keyword app.settings.search.quickSearchLimit

/-- The statistics of the ledger at an instant. -/
def statistics (ledger : Ledger) (now : Instant) : Except AppError Statistics := do
  let tasks ← snapshot ledger
  return Statistics.ofTasks tasks now

/-- The listing of a page with the preview length of the settings. -/
def listing (app : App) (page : Page) (keyword : String) : Listing :=
  Listing.ofPage page keyword app.settings.search.previewLength

/-- A subscriber to the notifications of the account that is selected now. -/
def watchNotifications (session : Session) (ledger : Ledger) : Except AppError Subscription := do
  let account ← session.require.mapError .session
  let subscription ← (ledger.subscribe .notifications).mapError .refused
  return subscription.onlyFor account

end App

end TaskBoard
