import PocketTools.Files.Tree
import PocketTools.Proofs.Command.Answers

/-!
# Which setting counts

The two tools with settings take a value from the command line before one of the
environment, one of the environment before one of the settings file, and their own
default last. Settings that are broken are never passed over for the sake of a source that
comes before them: the tool stops there, and neither its command line nor any file but
that of the settings makes a difference (`StopsAtSettings`).
-/

namespace PocketTools.Command

open Files Journal Settings

/-- **The tool stops at its settings**: it writes nothing and fails with the fault, whatever
it is called with and whatever files there are besides that of the settings. -/
def StopsAtSettings {σ ο : Type} (run : World → Invocation σ ο → Transcript Failure Unit)
    (world : World) (fault : Settings.Fault) : Prop :=
  ∃ events, ∀ (other : FileSystem) (call : Invocation σ ο),
    world.files.exists? file = other.exists? file →
    world.files.openFile file = other.openFile file →
    report none (run ⟨other, world.environment⟩ call) = ⟨[], events, .error (.settings fault)⟩

namespace LoadsFirst

variable {σ ο α : Type} {run : World → Invocation σ ο → Transcript Failure Unit}
  {load : FileSystem → Environment → Path → Transcript Settings.Fault α}
  {goOn : α → FileSystem → Invocation σ ο → Transcript Failure Unit} {world : World}

/-- Settings that cannot be loaded stop the tool. -/
theorem stopsAtSettings (tool : LoadsFirst run load goOn) {fault : Settings.Fault}
    (fails : (load world.files world.environment file).result = .error fault) :
    StopsAtSettings run world fault := by
  let events := noted (load world.files world.environment file).acts
  refine ⟨events ++ [.toolFailed (.settings fault)], fun other call exists_eq open_eq => ?_⟩
  have same := tool.only_path exists_eq open_eq world.environment
  have stopped : ((load other world.environment file).mapFault Failure.settings).result =
      .error (.settings fault) := by
    rw [Transcript.mapFault, ← same, fails]
    rfl
  calc report none (run ⟨other, world.environment⟩ call)
      = ⟨written (load other world.environment file).acts,
          noted (load other world.environment file).acts ++ [.toolFailed (.settings fault)],
          .error (.settings fault)⟩ := by
        rw [tool.run_eq, Transcript.bind_of_error stopped]
        rfl
    _ = ⟨[], events ++ [.toolFailed (.settings fault)], .error (.settings fault)⟩ := by
        rw [tool.silent, ← same]

end LoadsFirst

/-- A directory with a settings file and nothing else. -/
def filesWith (text : String) : FileSystem :=
  (Tree.empty.insert file (.file (Text.encode text))).fileSystem

/-- The settings file is there. -/
theorem exists_filesWith (text : String) :
    (filesWith text).exists? file = true := by
  rfl

/-- A file that opens to one chunk reads as that chunk. -/
theorem readBytes_of_openFile {files : FileSystem} {path : Path} {bytes : List UInt8}
    (opened : files.openFile path = .ok [.chunk bytes]) : files.readBytes path = .ok bytes := by
  rw [FileSystem.readBytes, opened]
  change Stream.readAll [.chunk bytes] = _
  cases bytes with
  | nil => rfl
  | cons b bytes =>
      rw [Stream.readAll]
      simp only [Stream.readAll, List.append_nil]

/-- A file whose bytes are those of a text reads as that text. -/
theorem readText_of_readBytes {files : FileSystem} {path : Path} {text : String}
    (bytes : files.readBytes path = .ok (Text.encode text)) : files.readText path = .ok text := by
  simp only [FileSystem.readText, bytes, bind, Except.bind, Text.decode?_encode]

/-- A file that holds a text in one piece is read as that text. -/
theorem readText_of_openFile {files : FileSystem} {path : Path} {text : String}
    (opened : files.openFile path = .ok [.chunk (Text.encode text)]) :
    files.readText path = .ok text :=
  readText_of_readBytes (readBytes_of_openFile opened)

/-- The settings file reads as the text that it was made with. -/
theorem readText_filesWith (text : String) :
    (filesWith text).readText file = .ok text :=
  readText_of_openFile rfl

/-- **What the tools do on every state of their settings.** A settings file that cannot be
used comes first, a variable that cannot be read second, and at either the tool stops. On
all other settings it answers with the value of the command line if that gives one, else
the variable's, else the file's, else its default. -/
theorem effective_settings (world : World) :
    ((∃ said, FileSays world.files file "binary" "overflow" modeOfValue? said) ∧
      (∃ given, VariableSays world.environment "ARCHTOOLS_OVERFLOW" readMode given) ∧
      ∀ said given,
      FileSays world.files file "binary" "overflow" modeOfValue? said →
      VariableSays world.environment "ARCHTOOLS_OVERFLOW" readMode given →
      match said, given with
      | .error fault, _ => StopsAtSettings Binconvert.run world fault
      | .ok _, .error cause =>
          StopsAtSettings Binconvert.run world (.badVariable "ARCHTOOLS_OVERFLOW" cause)
      | .ok fileValue, .ok variableValue => ∀ call,
          (report none (Binconvert.run world call)).seen =
            Binconvert.answer
              (call.options.overflow.getD (variableValue.getD (fileValue.getD .wrap)))
              call.subject) ∧
    ((∃ said, FileSays world.files file "vm" "max_steps" stepsOfValue? said) ∧
      (∃ given, VariableSays world.environment "ARCHTOOLS_VM_MAX_STEPS" readSteps given) ∧
      ∀ said given,
      FileSays world.files file "vm" "max_steps" stepsOfValue? said →
      VariableSays world.environment "ARCHTOOLS_VM_MAX_STEPS" readSteps given →
      match said, given with
      | .error fault, _ => StopsAtSettings Vm.run world fault
      | .ok _, .error cause =>
          StopsAtSettings Vm.run world (.badVariable "ARCHTOOLS_VM_MAX_STEPS" cause)
      | .ok fileValue, .ok variableValue => ∀ call,
          (report none (Vm.run world call)).seen =
            Vm.answer (call.options.maxSteps.getD (variableValue.getD (fileValue.getD 10000)))
              world.files call) := by
  refine ⟨⟨exists_fileSays .., exists_variableSays .., fun said given inFile inVariable => ?_⟩,
    ⟨exists_fileSays .., exists_variableSays .., fun said given inFile inVariable => ?_⟩⟩
  · have loaded := result_loadBinary inFile inVariable
    match said, given with
    | .error fault, _ => exact Binconvert.loadsFirst.stopsAtSettings loaded
    | .ok _, .error cause => exact Binconvert.loadsFirst.stopsAtSettings loaded
    | .ok fileValue, .ok variableValue =>
        intro call
        rw [seen_report_none, Binconvert.loadsFirst.seen_run, loaded]
        exact Binconvert.seen_convertWith _ call
  · have loaded := result_loadVm inFile inVariable
    match said, given with
    | .error fault, _ => exact Vm.loadsFirst.stopsAtSettings loaded
    | .ok _, .error cause => exact Vm.loadsFirst.stopsAtSettings loaded
    | .ok fileValue, .ok variableValue =>
        intro call
        rw [seen_report_none, Vm.loadsFirst.seen_run, loaded]
        exact Vm.seen_runWith _ world.files call

/-- A settings file with a section for each tool. -/
def bothSections : String :=
  "[binary]\noverflow = \"reject\"\n[vm]\nmax_steps = 7\n"

/-- The converter's variable given, the computer's blank. -/
def modeGiven : Environment := fun key =>
  if key = overflowVariable then some " Wrap "
  else if key = maxStepsVariable then some " "
  else none

/-- The variable comes before the file, and a blank one does not. -/
theorem effective_settings_of_both_sections :
    (∀ call, (report none (Binconvert.run ⟨filesWith bothSections, modeGiven⟩ call)).seen =
      Binconvert.answer (call.options.overflow.getD .wrap) call.subject) ∧
    (∀ call, (report none (Vm.run ⟨filesWith bothSections, modeGiven⟩ call)).seen =
      Vm.answer (call.options.maxSteps.getD 7) (filesWith bothSections) call) := by
  have reads := readText_filesWith bothSections
  obtain ⟨⟨-, -, convert⟩, -, -, compute⟩ :=
    effective_settings ⟨filesWith bothSections, modeGiven⟩
  constructor
  · exact convert (.ok (some .reject)) (.ok (some .wrap))
      (fileSays_value (exists_filesWith _) reads (by decide +kernel)) (.value rfl (by decide) rfl)
  · exact compute (.ok (some 7)) (.ok none)
      (fileSays_value (exists_filesWith _) reads (by decide +kernel)) (.blank rfl (by decide))

/-- A settings file whose only section is the computer's. That is a table marked as a
date-time, and is none. -/
def foreignMark : String :=
  "[vm]\n\"$__toml_private_datetime\" = 1\n"

/-- **A table of the other tool can stop a tool.** The settings file is a TOML document
without a section for the converter and no variable is set, and yet the converter does not
answer in its default mode. -/
theorem stopped_by_foreign_table :
    (∃ table, Toml.parse foreignMark = some table ∧ table.lookup "binary" = none) ∧
      (report none (Binconvert.run ⟨filesWith foreignMark, fun _ => none⟩ ⟨"101", {}, 0⟩)).seen ≠
        Binconvert.answer .wrap "101" := by
  have document : Toml.parse foreignMark =
      some [("vm", .table [(Toml.dateTimeMark, .integer 1)])] := by decide +kernel
  have unresolved :
      Toml.resolveEntries? [("vm", .table [(Toml.dateTimeMark, .integer 1)])] = none := by
    decide +kernel
  have said : FileSays (filesWith foreignMark) file "binary" "overflow" modeOfValue?
      (.error .malformed) :=
    .misMarked (exists_filesWith _) (readText_filesWith _) document unresolved
  have given : VariableSays (fun _ => none) overflowVariable readMode (.ok none) := .unset rfl
  have value : Numeral.convert .wrap "101" = .ok 5 := by rfl
  refine ⟨⟨_, document, rfl⟩, ?_⟩
  rw [seen_report_none, Binconvert.loadsFirst.seen_run, result_loadBinary said given,
    Binconvert.answer, value]
  rintro ⟨⟩

end PocketTools.Command
