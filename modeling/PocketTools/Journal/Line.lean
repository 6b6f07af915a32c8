import PocketTools.Journal.Description
import PocketTools.Journal.Event

/-! # Log lines -/

namespace PocketTools.Journal

/-- The value of a field: text that stands as it is, or text that a line puts in
quotes. -/
inductive FieldValue where
  | plain (text : String)
  | quoted (text : String)

/-- The value of a field as bare text. -/
def FieldValue.text : FieldValue → String
  | .plain text => text
  | .quoted text => text

/-- The value of a field on a line. -/
def FieldValue.written : FieldValue → String
  | .plain text => text
  | .quoted text => Text.quote text

/-- A number as the value of a field. -/
def FieldValue.number (n : Nat) : FieldValue :=
  .plain (toString n)

/-- The name of an overflow mode in the log. -/
def modeName : OverflowMode → String
  | .wrap => "Wrap"
  | .reject => "Reject"

/-- The fields of an event in order. -/
def Event.fields : Event → List (String × FieldValue)
  | .converted digits value mode =>
      [("digits", .number digits), ("value", .number value.toNat),
        ("overflow", .plain (modeName mode))]
  | .measured length unit => [("len", .number length), ("unit", .quoted unit.name)]
  | .openedFile path => [("path", .plain path.display)]
  | .streamExhausted tally =>
      [("bytes_read", .number tally.bytes), ("count", .number tally.newlines)]
  | .loadedImage path length => [("path", .plain path.display), ("len", .number length)]
  | .executing operation =>
      [("pc", .number operation.pc.toNat), ("op", .quoted operation.opcode.mnemonic)]
  | .halted summary =>
      [("steps", .number summary.steps), ("pc", .number summary.registers.pc.toNat),
        ("r1", .number summary.registers.r1.toNat), ("r2", .number summary.registers.r2.toNat)]
  | .loadedSection path name => [("path", .plain path.display), ("section", .quoted name)]
  | .loadedSettings path => [("path", .plain path.display)]
  | .toolFailed failure =>
      [("error", .plain (describe failure)), ("code", .number failure.status.toNat)]

/-- The line of an event in the log. -/
def Event.line (event : Event) : String :=
  let fields := event.fields.map fun field => " " ++ field.1 ++ "=" ++ field.2.written
  event.level.name ++ " " ++ event.target ++ ": " ++ event.text ++ String.join fields ++ "\n"

end PocketTools.Journal
