import PocketTools.Command.Tool
import PocketTools.Journal.Filter
import PocketTools.Journal.Line

/-! # A tool as a process

A call's transcript becomes what is seen from outside: the bytes on the output,
the log and the message of a failure, and the exit status.
-/

namespace PocketTools.Command

open Journal

/-- What a call came to. -/
structure Report where
  written : List UInt8
  events : List Event
  result : Except Failure Unit

/-- The exit status of a result. -/
def statusOf : Except Failure Unit → UInt8
  | .ok () => 0
  | .error failure => failure.status

/-- The events that end a call. -/
def closing : Except Failure Unit → List Event
  | .ok () => []
  | .error failure => [.toolFailed failure]

/-- The report of a transcript on an output with limited room, if `room` is some
number of bytes. -/
def report (room : Option Nat) (transcript : Transcript Failure Unit) : Report :=
  let played := transcript.within room
  ⟨written played.acts, noted played.acts ++ closing played.result, played.result⟩

/-- The message of a result for people. -/
def messageOf : Except Failure Unit → String
  | .ok () => ""
  | .error failure => failure.message ++ "\n"

/-- What a process leaves. -/
structure Output where
  status : UInt8
  stdout : List UInt8
  stderr : String

/-- The variable that chooses what is logged. -/
def filterVariable : String := "RUST_LOG"

/-- The output of a call: the log goes with the failure's message, after it was
filtered. -/
def Call.output (world : World) (call : Call) : Output :=
  let report := report none (call.run world)
  let filter := Filter.choose (world.environment filterVariable) call.verbosity
  let log := (report.events.filter filter.shows).map Event.line
  ⟨statusOf report.result, report.written, String.join log ++ messageOf report.result⟩

/-- The output of a tool on a command line. The wording of usage faults is left
to the caller. -/
def Tool.output (tool : Tool) (world : World) (arguments : List Argument) : Output :=
  match tool.read arguments with
  | .ok call => call.output world
  | .error stop => ⟨stop.status, Text.encode (tool.stopText stop), ""⟩

end PocketTools.Command
