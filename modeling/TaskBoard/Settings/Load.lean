import TaskBoard.Files
import TaskBoard.Settings.Environment
import TaskBoard.Settings.Toml.Document
import TaskBoard.Settings.Wrapper

/-!
# Loading settings

Settings come from a file in the working directory or a file that is named, and
from the environment, which lies over the file.
-/

namespace TaskBoard.Settings

/-- Why settings cannot be loaded. -/
inductive LoadError where
  /-- A file that is not TOML or a value of a wrong type. -/
  | unreadable
  /-- A variable of the environment in which a character would be cut. -/
  | cutCharacter
  | invalid (cause : Invalid)
  deriving DecidableEq, Repr

/-- The file of settings where none is named. -/
def standardFile : String := "decentra.toml"

/-- The source that stands at a path: only a regular file is read, and it must be TOML. -/
def ofEntry? : Entry → Option Source
  | .file text => text >>= Toml.read? >>= Source.unwrapFile?
  | _ => some Source.nothing

/-- The settings that an entry and the environment lay down. -/
def ofSources (entry : Entry) (environment : List (String × String)) :
    Except LoadError Settings :=
  match Environment.toSource? environment with
  | none => .error .cutCharacter
  | some upper =>
      match ofEntry? entry with
      | none => .error .unreadable
      | some document =>
          match (upper.overlay document).toSettings? with
          | none => .error .unreadable
          | some settings =>
              match settings.validate with
              | .error cause => .error (.invalid cause)
              | .ok () => .ok settings

/-- Load the settings; something must stand at a path that is named. -/
def load (entryAt : String → Entry) (environment : List (String × String)) :
    (path : Option String) → Except LoadError Settings
  | none => ofSources (entryAt standardFile) environment
  | some path =>
      if (entryAt path).isPresent then ofSources (entryAt path) environment
      else .error (.invalid (.missingFile path))

end TaskBoard.Settings
