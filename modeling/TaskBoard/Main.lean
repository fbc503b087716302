import Std.Time.DateTime.Timestamp
import TaskBoard.CommandLine.Run

/-!
# The program

The program reads the files that its arguments name, the environment and the
clock, and leaves the rest to `CommandLine.run`.
-/

open TaskBoard

/-- What stands behind an open file; what cannot be read is no regular file. -/
def readHandle (handle : IO.FS.Handle) : IO Entry := do
  try return .file (String.fromUTF8? (← handle.readBinToEnd))
  catch _ => return .folder

/-- What stands at a path, as far as it can be opened. -/
def readEntry (path : String) : IO Entry := do
  try readHandle (← IO.FS.Handle.mk path .read)
  catch _ => return .nothing

/-- The variables of the environment, where the system lists them. -/
def readEnvironment : IO (List (String × String)) := do
  let text := (← readEntry "/proc/self/environ").read?.getD ""
  let entries := text.toList.splitOn '\x00'
  return entries.map fun entry =>
    let name := entry.takeWhile fun character => character != '='
    (String.ofList name, String.ofList (entry.drop (name.length + 1)))

/-- The present time. -/
def readClock : IO Instant := do
  let now ← Std.Time.Timestamp.now
  return (Instant.ofMillis? now.toMillisecondsSinceUnixEpoch.val).getD .epoch

/-- Run the program on the arguments. -/
def main (arguments : List String) : IO UInt32 := do
  let known ← (CommandLine.neededFiles arguments).mapM fun path => do
    return (path, ← readEntry path)
  let surroundings : CommandLine.Surroundings :=
    { entryAt := fun path => (known.lookup path).getD .nothing
      environment := ← readEnvironment
      now := ← readClock }
  match CommandLine.run arguments surroundings with
  | .printed text =>
      IO.print text
      return 0
  | .failed error =>
      IO.eprint error.report
      return 1
  | .brokenOff =>
      IO.eprintln "the environment cannot be used"
      return 101
  | .misused =>
      IO.eprintln "error: the arguments make no sense; try --help"
      return 2
