import TaskBoard.Number.Bounded

/-!
# Refused arguments

A value that is well-formed but means nothing to the board is refused with the
name of the argument and the reason.
-/

namespace TaskBoard

/-- Why an argument is refused. -/
inductive ArgumentError where
  | zeroId
  | difficulty (level : Word8)
  | unknownStatus (text : String)
  | unknownPriority (text : String)
  | unknownSortKey (text : String)
  | zeroPageSize
  | zeroPage
  deriving DecidableEq

namespace ArgumentError

/-- The argument that is refused. -/
def field : ArgumentError → String
  | .zeroId => "id"
  | .difficulty _ => "difficulty"
  | .unknownStatus _ => "status"
  | .unknownPriority _ => "priority"
  | .unknownSortKey _ => "sort_by"
  | .zeroPageSize => "page_size"
  | .zeroPage => "page"

/-- The reason in words. -/
def reason : ArgumentError → String
  | .zeroId => "ids are positive integers, got 0"
  | .difficulty level => "must be within 1..=10, got " ++ toString level.val
  | .unknownStatus text => "unknown status '" ++ text ++ "'"
  | .unknownPriority text => "unknown priority '" ++ text ++ "'"
  | .unknownSortKey text =>
      "unknown sort key '" ++ text ++
        "', expected one of created_at, updated_at, deadline, reward, difficulty, priority"
  | .zeroPageSize => "must be positive, got 0"
  | .zeroPage => "pages are 1-indexed, got 0"

/-- The text that reports a refused argument. -/
def message (error : ArgumentError) : String :=
  "invalid argument `" ++ error.field ++ "`: " ++ error.reason

end ArgumentError

end TaskBoard
