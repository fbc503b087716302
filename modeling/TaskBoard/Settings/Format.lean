import TaskBoard.Settings.Basic
import TaskBoard.Task.Format

/-!
# Settings in JSON

Every section and every setting may be left out.
-/

namespace TaskBoard

namespace ChainSettings

def endpointField : Field String :=
  .withDefault "endpoint" .string Settings.standard.chain.endpoint

/-- The section from JSON. -/
def decode : Decoder ChainSettings :=
  Record.decode "struct ChainConfig" [endpointField.slot] fun record => do
    let endpoint ← record.read 0 endpointField
    return { endpoint }

/-- The section in JSON. -/
def encode (settings : ChainSettings) : Json :=
  .object [("endpoint", .string settings.endpoint)]

end ChainSettings

namespace SearchSettings

def defaultPageSizeField : Field Word32 :=
  .withDefault "default_page_size" .word32 Settings.standard.search.defaultPageSize
def quickSearchLimitField : Field Nat :=
  .withDefault "quick_search_limit" .size Settings.standard.search.quickSearchLimit
def previewLengthField : Field Nat :=
  .withDefault "description_preview_chars" .size Settings.standard.search.previewLength

/-- The section from JSON. -/
def decode : Decoder SearchSettings :=
  Record.decode "struct SearchConfig"
    [defaultPageSizeField.slot, quickSearchLimitField.slot, previewLengthField.slot]
    fun record => do
      let defaultPageSize ← record.read 0 defaultPageSizeField
      let quickSearchLimit ← record.read 1 quickSearchLimitField
      let previewLength ← record.read 2 previewLengthField
      return { defaultPageSize, quickSearchLimit, previewLength }

/-- The section in JSON. -/
def encode (settings : SearchSettings) : Json :=
  .object [
    ("default_page_size", settings.defaultPageSize.encode),
    ("quick_search_limit", .nat settings.quickSearchLimit),
    ("description_preview_chars", .nat settings.previewLength)]

end SearchSettings

namespace LogSettings

def levelField : Field String := .withDefault "level" .string Settings.standard.log.level

/-- The section from JSON. -/
def decode : Decoder LogSettings :=
  Record.decode "struct LogConfig" [levelField.slot] fun record => do
    let level ← record.read 0 levelField
    return { level }

/-- The section in JSON. -/
def encode (settings : LogSettings) : Json := .object [("level", .string settings.level)]

end LogSettings

namespace Settings

def chainField : Field ChainSettings :=
  .withDefault "chain" ChainSettings.decode standard.chain
def searchField : Field SearchSettings :=
  .withDefault "search" SearchSettings.decode standard.search
def logField : Field LogSettings := .withDefault "log" LogSettings.decode standard.log

/-- Settings from JSON. -/
def decode : Decoder Settings :=
  Record.decode "struct AppConfig" [chainField.slot, searchField.slot, logField.slot]
    fun record => do
      let chain ← record.read 0 chainField
      let search ← record.read 1 searchField
      let log ← record.read 2 logField
      return { chain, search, log }

/-- Settings in JSON. -/
def encode (settings : Settings) : Json :=
  .object [
    ("chain", settings.chain.encode),
    ("search", settings.search.encode),
    ("log", settings.log.encode)]

end Settings

end TaskBoard
