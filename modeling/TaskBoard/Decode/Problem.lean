import TaskBoard.Argument
import TaskBoard.Json.Printer
import TaskBoard.Text.Quoted
import TaskBoard.Time.Rfc3339

/-!
# What is wrong with a JSON value

The reasons why a JSON value does not denote the value that was expected in its
place, and the text that reports each of them.
-/

namespace TaskBoard.Decode

/-- Why a JSON value is not the expected one. -/
inductive Problem where
  /-- A value of another type. -/
  | wrongType (found : Json) (expected : String)
  /-- A whole number outside the width of the expected one. -/
  | wrongWidth (found : Int) (expected : String)
  /-- A name that is none of the choices. -/
  | unknownVariant (name : String) (choices : List String)
  /-- An object in place of a name that has not exactly one member. -/
  | severalMembers
  | missingField (name : String)
  | duplicateField (name : String)
  /-- A record written as an array that ends before a field without default. -/
  | tooFewItems (count : Nat) (title : String) (size : Nat)
  /-- A record written as an array with more items than fields. -/
  | tooManyItems (count : Nat)
  /-- The same for a record whose parts were set aside first. -/
  | tooManySetAside (count : Nat) (size : Nat)
  /-- A value that has none of the alternative forms. -/
  | noAlternative (name : String)
  | illegalInstant (millis : Int)
  | badMoment (cause : Rfc3339.ReadError)
  | refused (cause : ArgumentError)

namespace Problem

/-- What a value is, in words. -/
def describe : Json → String
  | .null => "null"
  | .bool true => "boolean `true`"
  | .bool false => "boolean `false`"
  | .int value => "integer `" ++ toString value ++ "`"
  | .float negative magnitude => "floating point `" ++ Json.floatText negative magnitude ++ "`"
  | .string value => "string " ++ Text.quoted value
  | .array _ => "sequence"
  | .object _ => "map"

/-- A number of elements, in words. -/
def elements (count : Nat) : String :=
  if count = 1 then "1 element" else toString count ++ " elements"

/-- The text that reports a problem. -/
def message : Problem → String
  | .wrongType found expected => "invalid type: " ++ describe found ++ ", expected " ++ expected
  | .wrongWidth found expected =>
      "invalid value: integer `" ++ toString found ++ "`, expected " ++ expected
  | .unknownVariant name choices =>
      "unknown variant `" ++ name ++ "`, expected one of " ++
        String.intercalate ", " (choices.map fun choice => "`" ++ choice ++ "`")
  | .severalMembers => "invalid value: map, expected map with a single key"
  | .missingField name => "missing field `" ++ name ++ "`"
  | .duplicateField name => "duplicate field `" ++ name ++ "`"
  | .tooFewItems count title size =>
      "invalid length " ++ toString count ++ ", expected " ++ title ++ " with " ++ elements size
  | .tooManyItems count =>
      "invalid length " ++ toString count ++ ", expected fewer elements in array"
  | .tooManySetAside count size =>
      "invalid length " ++ toString count ++ ", expected " ++ elements size ++ " in sequence"
  | .noAlternative name => "data did not match any variant of untagged enum " ++ name
  | .illegalInstant millis => "value is not a legal timestamp: " ++ toString millis
  | .badMoment cause => cause.message
  | .refused cause => cause.message

end Problem

end TaskBoard.Decode
