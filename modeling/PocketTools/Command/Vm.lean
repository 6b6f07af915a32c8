import PocketTools.Command.Help
import PocketTools.Command.Values
import PocketTools.Command.World
import PocketTools.Journal.Operations
import PocketTools.Settings.Load

/-! # The tool vm

Runs a memory image on the toy computer. The inputs may be given on the command
line; the instruction budget comes from there or else from the settings.
-/

namespace PocketTools.Command.Vm

open Journal Machine

/-- The options of the tool. -/
structure Options where
  input1 : Option UInt16 := none
  input2 : Option UInt16 := none
  maxSteps : Option UInt64 := none
  deriving DecidableEq, Repr

/-- What the tool's command line can hold. -/
def grammar : Grammar Files.Path Options where
  options := {}
  settings :=
    [("input1", fun value options => do
        return { options with input1 := ← setOnce readWord options.input1 value }),
      ("input2", fun value options => do
        return { options with input2 := ← setOnce readWord options.input2 value }),
      ("max-steps", fun value options => do
        return { options with maxSteps := ← setOnce readCount options.maxSteps value })]
  subject := readPath

/-- The tool's help page. -/
def help : HelpPage where
  tool := "vm"
  purpose := "Run a 20-byte memory image on the toy computer"
  subject := ⟨"<IMAGE>", "Raw memory image, exactly 20 bytes"⟩
  options :=
    [⟨"    --input1 <INPUT1>", "Overwrite the first input word before running"⟩,
      ⟨"    --input2 <INPUT2>", "Overwrite the second input word before running"⟩,
      ⟨"    --max-steps <MAX_STEPS>",
        "Instruction budget. Overrides `vm.max_steps` from config"⟩]

/-- Memory with the inputs that the command line gives. -/
def Options.inputs (options : Options) (memory : Memory) : Memory :=
  let memory := options.input1.elim memory memory.setInput1
  options.input2.elim memory memory.setInput2

/-- Runs an image with given settings. Nothing is written unless the program
halts. -/
def runWith (settings : Settings.Vm) (files : Files.FileSystem)
    (call : Invocation Files.Path Options) : Transcript Failure Unit := do
  let image ← (loadImage files call.subject).mapFault .machine
  let computer := Computer.new (call.options.maxSteps.getD settings.maxSteps)
  let (summary, memory) ← (runProgram computer (call.options.inputs image)).mapFault .machine
  let registers := summary.registers
  Transcript.write s!"Input1: {memory.input1}\n"
  Transcript.write s!"Input2: {memory.input2}\n"
  Transcript.write s!"Output: {memory.output}\n"
  Transcript.write s!"Registers: pc={registers.pc} r1={registers.r1} r2={registers.r2}\n"
  Transcript.write s!"Steps: {summary.steps}\n"

/-- Runs the tool. Settings that cannot be loaded stop it before the image is
looked at. -/
def run (world : World) (call : Invocation Files.Path Options) : Transcript Failure Unit := do
  let settings ←
    (Settings.loadVm world.files world.environment Settings.file).mapFault .settings
  runWith settings world.files call

end PocketTools.Command.Vm
