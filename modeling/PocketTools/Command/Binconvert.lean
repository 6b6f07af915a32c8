import PocketTools.Command.Help
import PocketTools.Command.Values
import PocketTools.Command.World
import PocketTools.Journal.Operations
import PocketTools.Settings.Load

/-! # The tool binconvert

Converts a binary numeral to decimal. The overflow mode comes from the command
line, or else from the settings.
-/

namespace PocketTools.Command.Binconvert

open Journal

/-- The options of the tool. -/
structure Options where
  overflow : Option OverflowMode := none
  deriving DecidableEq, Repr

/-- What the tool's command line can hold. -/
def grammar : Grammar String Options where
  options := {}
  settings :=
    [("overflow", fun value options => do
      return { options with overflow := ← setOnce readOverflow options.overflow value })]
  subject := readText
  hyphenated := true

/-- The tool's help page. -/
def help : HelpPage where
  tool := "binconvert"
  purpose := "Convert a binary numeral to decimal"
  subject := ⟨"<BINARY>", "Binary digits, most significant first"⟩
  options :=
    [⟨"    --overflow <OVERFLOW>",
      "Behaviour past 64 bits. Overrides `binary.overflow` from config " ++
        "[possible values: wrap, reject]"⟩]

/-- Converts with given settings. The numeral is echoed before it is judged. -/
def convertWith (settings : Settings.Binary) (call : Invocation String Options) :
    Transcript Failure Unit := do
  let mode := call.options.overflow.getD settings.overflow
  Transcript.write s!"Binary number entered: {call.subject}\n"
  let value ← (convert mode call.subject).mapFault .numeral
  Transcript.write s!"Decimal: {value}\n"

/-- Runs the tool. Settings that cannot be loaded stop it before it writes
anything. -/
def run (world : World) (call : Invocation String Options) : Transcript Failure Unit := do
  let settings ←
    (Settings.loadBinary world.files world.environment Settings.file).mapFault .settings
  convertWith settings call

end PocketTools.Command.Binconvert
