import PocketTools.Failure
import PocketTools.Text.Escape

/-! # Failures spelled out

In the log a failure is written with all that is known of it: the name of each
cause, and its data by name in braces or in order in parentheses.
-/

namespace PocketTools.Journal

/-- A name with named data in braces. -/
def record (name : String) (fields : List (String × String)) : String :=
  let body := ", ".intercalate (fields.map fun field => field.1 ++ ": " ++ field.2)
  name ++ " \x7b " ++ body ++ " \x7d"

/-- A name with one datum in parentheses. -/
def wrapped (name datum : String) : String :=
  name ++ "(" ++ datum ++ ")"

/-- A file or stream fault spelled out. -/
def describeFiles (fault : Files.Fault) : String :=
  match fault with
  | .reported kind text =>
      record "Custom" [("kind", kind.name), ("error", Text.quote text)]
  | .sinkFull => record "Custom" [("kind", fault.kind.name), ("error", Text.quote fault.text)]
  | _ =>
      match fault.systemCode? with
      | some code =>
          record "Os"
            [("code", toString code), ("kind", fault.kind.name), ("message", Text.quote fault.text)]
      | none => record "Error" [("kind", fault.kind.name), ("message", Text.quote fault.text)]

/-- A fault of a numeral spelled out. -/
def describeNumeral : Numeral.Fault → String
  | .invalidDigit digit position =>
      record "InvalidDigit" [("digit", Text.quoteChar digit), ("position", toString position)]
  | .overflow digits => record "Overflow" [("digits", toString digits)]

/-- A fault of a newline count spelled out. -/
def describeNewlines : Newlines.Fault → String
  | .unopened path cause =>
      record "Open" [("path", Text.quoteBytes path.bytes), ("source", describeFiles cause)]
  | .unread bytesRead cause =>
      record "Read" [("bytes_read", toString bytesRead), ("source", describeFiles cause)]

/-- A fault of the toy computer spelled out. -/
def describeMachine : Machine.Fault → String
  | .illegalOpcode opcode pc =>
      record "IllegalOpcode" [("opcode", toString opcode), ("pc", toString pc)]
  | .invalidRegister register pc =>
      record "InvalidRegister" [("register", toString register), ("pc", toString pc)]
  | .addressOutOfBounds address =>
      record "AddressOutOfBounds"
        [("addr", toString address), ("size", toString Machine.memorySize)]
  | .stepLimitExceeded limit => record "StepLimitExceeded" [("limit", toString limit)]
  | .imageSize actual =>
      record "ImageSize" [("expected", toString Machine.memorySize), ("actual", toString actual)]
  | .unreadable cause => wrapped "Io" (describeFiles cause)

/-- A fault of the settings spelled out. -/
def describeSettings (fault : Settings.Fault) : String :=
  match fault with
  | .unreadable path cause =>
      record "Read" [("path", Text.quote path.display), ("source", describeFiles cause)]
  | .malformed => wrapped "Parse" fault.message
  | .badVariable key cause =>
      record "EnvInvalid" [("key", Text.quote key), ("source", cause.message)]

/-- A failure spelled out. -/
def describe : Failure → String
  | .numeral cause => wrapped "Binary" (describeNumeral cause)
  | .newlines cause => wrapped "LineCount" (describeNewlines cause)
  | .machine cause => wrapped "Vm" (describeMachine cause)
  | .settings cause => wrapped "Config" (describeSettings cause)
  | .output cause => wrapped "Io" (describeFiles cause)

end PocketTools.Journal
