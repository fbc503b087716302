import TaskBoard.Text.Blank
import TaskBoard.Text.Lowercase

/-!
# Loosely written names

Names such as those of statuses are recognised whatever their case, with any
underscores, hyphens and blanks between their words and white space around them.
-/

namespace TaskBoard.Text

/-- A character that may separate the words of a name. -/
def isSeparator (character : Char) : Bool :=
  character == '_' || character == '-' || character == ' '

/-- The lower-case letters of a name, without white space around it and
separators in it. -/
def looseName (text : String) : String :=
  String.ofList (lowerChars ((trimChars text.toList).filter fun character =>
    !isSeparator character))

end TaskBoard.Text
