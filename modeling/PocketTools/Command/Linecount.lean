import PocketTools.Command.Help
import PocketTools.Command.Values
import PocketTools.Command.World
import PocketTools.Journal.Operations

/-! # The tool linecount

Counts the newline bytes of a file.
-/

namespace PocketTools.Command.Linecount

open Journal

/-- What the tool's command line can hold. -/
def grammar : Grammar Files.Path Unit where
  options := ()
  subject := readPath

/-- The tool's help page. -/
def help : HelpPage where
  tool := "linecount"
  purpose := "Count newline bytes in a file"
  subject := ⟨"<FILE>", ""⟩
  options := []

/-- Runs the tool. -/
def run (world : World) (call : Invocation Files.Path Unit) : Transcript Failure Unit := do
  let count ← (countFile world.files call.subject).mapFault .newlines
  Transcript.write s!"Lines count: {count}\n"

end PocketTools.Command.Linecount
