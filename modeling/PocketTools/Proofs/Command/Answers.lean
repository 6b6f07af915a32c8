import PocketTools.Command.Process
import PocketTools.Proofs.Settings.Sources

/-!
# What the tools answer

What is seen of a call on an output that takes everything: the bytes written and the
result. For each tool with settings it is a function of the setting that counts in the
end, and of nothing else that the settings hold (`Binconvert.answer`, `Vm.answer`).
-/

namespace PocketTools.Command

open Files Journal Machine Settings

/-- The bytes written and the result. -/
def Report.seen (report : Report) : List UInt8 × Except Failure Unit :=
  (report.written, report.result)

/-- On an output that takes everything the report shows what is seen of the call. -/
theorem seen_report_none (transcript : Transcript Failure Unit) :
    (report none transcript).seen = transcript.seen :=
  rfl

/-- The line in which a numeral is echoed. -/
def Binconvert.echo (numeral : String) : List UInt8 :=
  Text.encode s!"Binary number entered: {numeral}\n"

/-- What the converter answers in a mode: the numeral is echoed in any case, and its value
follows if it has one. -/
def Binconvert.answer (mode : OverflowMode) (numeral : String) :
    List UInt8 × Except Failure Unit :=
  match Numeral.convert mode numeral with
  | .ok value => (echo numeral ++ Text.encode s!"Decimal: {value}\n", .ok ())
  | .error fault => (echo numeral, .error (.numeral fault))

/-- The lines about a program that halted: the inputs and the output that it left in
memory, its registers, and the instructions it took. -/
def Vm.lines (summary : Summary) (memory : Memory) : List UInt8 :=
  let registers := summary.registers
  Text.encode s!"Input1: {memory.input1}\n" ++ Text.encode s!"Input2: {memory.input2}\n" ++
    Text.encode s!"Output: {memory.output}\n" ++
    Text.encode s!"Registers: pc={registers.pc} r1={registers.r1} r2={registers.r2}\n" ++
    Text.encode s!"Steps: {summary.steps}\n"

/-- What the computer answers under a budget: nothing is written unless the image is one
and its program halts. -/
def Vm.answer (limit : UInt64) (files : FileSystem)
    (call : Invocation Path Vm.Options) : List UInt8 × Except Failure Unit :=
  match files.readBytes call.subject with
  | .error cause => ([], .error (.machine (.unreadable cause)))
  | .ok image =>
      match Memory.ofImage image with
      | .error fault => ([], .error (.machine fault))
      | .ok memory =>
          let run := (Computer.new limit).run (call.options.inputs memory)
          match run.result with
          | .error fault => ([], .error (.machine fault))
          | .ok summary => (Vm.lines summary run.final.memory, .ok ())

namespace Binconvert

/-- **The converter's answer.** Of the settings only the mode counts, and only if the
command line gives none. -/
theorem seen_convertWith (settings : Settings.Binary) (call : Invocation String Options) :
    (convertWith settings call).seen =
      answer (call.options.overflow.getD settings.overflow) call.subject := by
  rw [convertWith, Transcript.seen_write, Transcript.seen_bind (written_convert _ _),
    result_convert, answer]
  cases Numeral.convert (call.options.overflow.getD settings.overflow) call.subject with
  | error fault =>
      simp only [List.append_nil]
      rfl
  | ok value =>
      simp only [Transcript.seen_write_last]
      rfl

end Binconvert

namespace Vm

/-- **The computer's answer.** Of the settings only the budget counts, and only if the
command line gives none. -/
theorem seen_runWith (settings : Settings.Vm) (files : FileSystem)
    (call : Invocation Path Options) :
    (runWith settings files call).seen =
      answer (call.options.maxSteps.getD settings.maxSteps) files call := by
  rw [runWith, Transcript.seen_bind (written_loadImage _ _), result_loadImage, answer]
  cases files.readBytes call.subject with
  | error cause => rfl
  | ok image =>
  simp only
  cases Memory.ofImage image with
  | error fault => rfl
  | ok memory =>
  simp only [Transcript.seen_bind (written_runProgram _ _), result_runProgram]
  cases ((Computer.new _).run (call.options.inputs memory)).result with
  | error fault => rfl
  | ok summary =>
      simp only [Except.map, Transcript.seen_write, Transcript.seen_write_last, lines,
        List.append_assoc]

end Vm

/-! ## Tools that load settings -/

/-- A tool that loads its settings before all else, and looks for them at the path of the
settings file only. -/
structure LoadsFirst {σ ο α : Type} (run : World → Invocation σ ο → Transcript Failure Unit)
    (load : FileSystem → Environment → Path → Transcript Settings.Fault α)
    (goOn : α → FileSystem → Invocation σ ο → Transcript Failure Unit) : Prop where
  run_eq : ∀ world call, run world call =
    (load world.files world.environment file).mapFault .settings >>= fun settings =>
      goOn settings world.files call
  silent : ∀ files environment path, written (load files environment path).acts = []
  only_path : ∀ {files other : FileSystem} {path : Path},
    files.exists? path = other.exists? path → files.openFile path = other.openFile path →
    ∀ environment, load files environment path = load other environment path

/-- The converter loads its settings before anything else. -/
theorem Binconvert.loadsFirst :
    LoadsFirst Binconvert.run loadBinary fun settings _ call =>
      Binconvert.convertWith settings call :=
  ⟨fun _ _ => rfl, written_loadBinary, loadBinary_congr⟩

theorem Vm.loadsFirst : LoadsFirst Vm.run loadVm Vm.runWith :=
  ⟨fun _ _ => rfl, written_loadVm, loadVm_congr⟩

variable {σ ο α : Type} {run : World → Invocation σ ο → Transcript Failure Unit}
  {load : FileSystem → Environment → Path → Transcript Settings.Fault α}
  {goOn : α → FileSystem → Invocation σ ο → Transcript Failure Unit}

/-- Of settings that were loaded only the rest of the call is seen. -/
theorem LoadsFirst.seen_run (tool : LoadsFirst run load goOn) (world : World)
    (call : Invocation σ ο) :
    (run world call).seen =
      match (load world.files world.environment file).result with
      | .ok settings => (goOn settings world.files call).seen
      | .error fault => ([], .error (.settings fault)) := by
  rw [tool.run_eq, Transcript.seen_bind (tool.silent _ _ _)]
  cases (load world.files world.environment file).result <;> rfl

end PocketTools.Command
