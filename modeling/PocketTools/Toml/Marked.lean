import PocketTools.Toml.DateTime
import PocketTools.Toml.Document

/-! # Date-times written as tables

A table stands for a date-time if its first key is the mark of date-times: the
string under the mark is the date-time, and what else the table holds is not
looked at. A table with the mark first and no date-time under it has no meaning.
A document as a whole is never a date-time.
-/

namespace PocketTools.Toml

/-- The key that marks a date-time. -/
def dateTimeMark : String := "$__toml_private_datetime"

/-- The value under the mark of date-times, if that is a table's first key. -/
def Table.marked? : Table → Option Value
  | [] => none
  | (key, value) :: _ => if key = dateTimeMark then some value else none

/-- The date-time that a string writes. -/
def Value.toDateTime? : Value → Option Value
  | .string text => if isDateTime text then some (.dateTime text) else none
  | _ => none

mutual

/-- A value with the date-times that its tables stand for. -/
def Value.resolve? : Value → Option Value
  | .array items => (resolveItems? items).map .array
  | .table entries =>
      match Table.marked? entries with
      | some value => value.toDateTime?
      | none => (resolveEntries? entries).map .table
  | value => some value

/-- Items of an array with the date-times that their tables stand for. -/
def resolveItems? : List Value → Option (List Value)
  | [] => some []
  | item :: rest =>
      match item.resolve? with
      | none => none
      | some item => (resolveItems? rest).map (item :: ·)

/-- Entries of a table with the date-times that their tables stand for. -/
def resolveEntries? : List (String × Value) → Option (List (String × Value))
  | [] => some []
  | (key, value) :: rest =>
      match value.resolve? with
      | none => none
      | some value => (resolveEntries? rest).map ((key, value) :: ·)

end

/-- The table that a TOML document writes, with the date-times that the tables
in it stand for. -/
def parseResolved (text : String) : Option Table :=
  (parse text).bind resolveEntries?

end PocketTools.Toml
