import TaskBoard.Number.Bounded
import TaskBoard.Text.Blank

/-!
# Settings

The settings of the program in three sections, the values that they have where
nothing else is laid down, and the conditions that they must meet.
-/

namespace TaskBoard

/-- How the node is reached. -/
structure ChainSettings where
  endpoint : String
  deriving DecidableEq, Repr

/-- How searches are carried out and shown. -/
structure SearchSettings where
  defaultPageSize : Word32
  quickSearchLimit : Nat
  /-- The number of characters of a description that are shown. -/
  previewLength : Nat
  deriving DecidableEq

/-- What is logged. -/
structure LogSettings where
  level : String
  deriving DecidableEq, Repr

/-- The settings of the program. -/
structure Settings where
  chain : ChainSettings
  search : SearchSettings
  log : LogSettings
  deriving DecidableEq

namespace Settings

/-- The settings where nothing else is laid down. -/
def standard : Settings where
  chain := ⟨"ws://127.0.0.1:9944"⟩
  search := ⟨10, 8, 80⟩
  log := ⟨"warn"⟩

instance : Inhabited Settings := ⟨standard⟩

/-- A setting that cannot be used. -/
inductive Invalid where
  | missingFile (path : String)
  | zeroPageSize
  | zeroQuickSearchLimit
  | emptyEndpoint
  deriving DecidableEq, Repr

/-- The setting that cannot be used. -/
def Invalid.field : Invalid → String
  | missingFile _ => "config"
  | zeroPageSize => "search.default_page_size"
  | zeroQuickSearchLimit => "search.quick_search_limit"
  | emptyEndpoint => "chain.endpoint"

/-- The reason in words. -/
def Invalid.reason : Invalid → String
  | missingFile path => path ++ " does not exist"
  | zeroPageSize => "must be positive"
  | zeroQuickSearchLimit => "must be positive"
  | emptyEndpoint => "must not be empty"

/-- The text that reports a setting that cannot be used. -/
def Invalid.message (invalid : Invalid) : String :=
  "invalid configuration value for '" ++ invalid.field ++ "': " ++ invalid.reason

/-- Refuse settings that cannot be used. -/
def validate (settings : Settings) : Except Invalid Unit :=
  if settings.search.defaultPageSize.val = 0 then .error .zeroPageSize
  else if settings.search.quickSearchLimit = 0 then .error .zeroQuickSearchLimit
  else if Text.isAllBlank settings.chain.endpoint then .error .emptyEndpoint
  else .ok ()

end Settings

end TaskBoard
