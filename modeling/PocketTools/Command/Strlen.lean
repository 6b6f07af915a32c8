import PocketTools.Command.Help
import PocketTools.Command.Values
import PocketTools.Journal.Operations

/-! # The tool strlen

Tells the length of a text, in characters or in bytes.
-/

namespace PocketTools.Command.Strlen

open Journal

/-- The options of the tool. -/
structure Options where
  bytes : Bool := false
  deriving DecidableEq, Repr

/-- What the tool's command line can hold. -/
def grammar : Grammar String Options where
  options := {}
  flags :=
    [("bytes", fun options =>
      if options.bytes then .error .argumentConflict else .ok { options with bytes := true })]
  subject := readText
  hyphenated := true

/-- The tool's help page. -/
def help : HelpPage where
  tool := "strlen"
  purpose := "Length of a string"
  subject := ⟨"<INPUT>", ""⟩
  options := [⟨"    --bytes", "Count UTF-8 bytes instead of characters"⟩]

/-- The unit that the options ask for. -/
def Options.unit (options : Options) : Length.Measure :=
  if options.bytes then .bytes else .chars

/-- Runs the tool. -/
def run (call : Invocation String Options) : Transcript Failure Unit := do
  let length ← measure call.options.unit call.subject
  Transcript.write s!"Input: {call.subject}\n"
  Transcript.write s!"Length: {length}\n"

end PocketTools.Command.Strlen
