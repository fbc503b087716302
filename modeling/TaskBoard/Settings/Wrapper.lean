import TaskBoard.Settings.Source

/-!
# Wrapped values

In a file of settings a value may be wrapped: a table that has an entry with the
wrapper's name stands for the value of that entry, whatever else it holds.  A
table must not have an entry with the name of a mark.  Neither rule holds for
the table that is the whole file.
-/

namespace TaskBoard.Settings.Source

/-- The name of the entry that holds a wrapped value. -/
def wrapperName : String := "___figment_value_value"

/-- The name of the mark, which no value in a file may carry. -/
def markName : String := "___figment_value_id"

mutual

/-- The value that a source stands for, if nothing in it carries a mark. -/
def unwrap? : Source → Option Source
  | .table entries =>
      match unwrapEntries? entries with
      | none => none
      | some entries =>
          if (entries.lookup markName).isSome then none
          else some ((entries.lookup wrapperName).getD (.table entries))
  | .list items => (unwrapItems? items).map .list
  | value => some value

/-- The values that the items of a list stand for. -/
def unwrapItems? : List Source → Option (List Source)
  | [] => some []
  | item :: rest =>
      match item.unwrap?, unwrapItems? rest with
      | some item, some rest => some (item :: rest)
      | _, _ => none

/-- The values that the entries of a table stand for, under their names. -/
def unwrapEntries? : List (String × Source) → Option (List (String × Source))
  | [] => some []
  | (name, value) :: rest =>
      match value.unwrap?, unwrapEntries? rest with
      | some value, some rest => some ((name, value) :: rest)
      | _, _ => none

end

/-- The source that a whole file stands for. -/
def unwrapFile? : Source → Option Source
  | .table entries => (unwrapEntries? entries).map .table
  | value => value.unwrap?

end TaskBoard.Settings.Source
