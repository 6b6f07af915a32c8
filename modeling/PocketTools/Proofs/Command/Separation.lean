import PocketTools.Proofs.Command.Precedence
import PocketTools.Proofs.Command.Truncation
import PocketTools.Proofs.Settings.SameSection

/-!
# Settings of one tool and calls of another

Two runs of a tool come to the same if the tool's own section of the settings file and its
own variable are the same in both (`unaffected_by_foreign_settings`). Of all that the rest
of the file holds, one thing can be told: whether every table that is marked as a date-time
is one. If that is not so, a tool that loads settings stops, wherever the table stands
(`affected_by_foreign_date_time`). The tools without settings cannot tell any two settings
apart.
-/

namespace PocketTools.Command

open Files Journal Settings Toml

/-- A tool whose settings are the same in two worlds, and that goes on in the same way with
them, comes to the same in both. -/
theorem LoadsFirst.outcome_eq {σ ο α : Type}
    {run : World → Invocation σ ο → Transcript Failure Unit}
    {load : FileSystem → Environment → Path → Transcript Settings.Fault α}
    {goOn : α → FileSystem → Invocation σ ο → Transcript Failure Unit}
    (tool : LoadsFirst run load goOn) {world other : World} {call again : Invocation σ ο}
    (loaded : load world.files world.environment file = load other.files other.environment file)
    (rest : ∀ settings,
      (goOn settings world.files call).seen = (goOn settings other.files again).seen)
    (room : Option Nat) : outcome room (run world call) = outcome room (run other again) := by
  apply outcome_eq_of_seen_eq
  rw [tool.seen_run, tool.seen_run, loaded]
  simp only [rest]

/-- A tool that cannot load its settings for the document's sake writes nothing and fails. -/
theorem LoadsFirst.outcome_of_malformed {σ ο α : Type}
    {run : World → Invocation σ ο → Transcript Failure Unit}
    {load : FileSystem → Environment → Path → Transcript Settings.Fault α}
    {goOn : α → FileSystem → Invocation σ ο → Transcript Failure Unit}
    (tool : LoadsFirst run load goOn) {world : World}
    (broken : (load world.files world.environment file).result = .error .malformed)
    (room : Option Nat) (call : Invocation σ ο) :
    outcome room (run world call) = ([], .error (.settings .malformed), 1) := by
  have stopped : (run world call).seen = ([], .error (.settings .malformed)) := by
    rw [tool.seen_run, broken]
  exact outcome_of_seen_error stopped room

/-- The answer of the computer depends on its budget, its inputs and the bytes of its image. -/
theorem Vm.answer_congr {files other : FileSystem} {call again : Invocation Path Options}
    (options : call.options = again.options)
    (image : files.readBytes call.subject = other.readBytes again.subject) (limit : UInt64) :
    answer limit files call = answer limit other again := by
  rw [answer, answer, options, image]

/-- **Settings do not interfere.** Take two worlds whose settings files are TOML documents.
If the documents have the same section for a tool and the tool's own variable is the same,
then the tool's calls come to the same in both, on every output, whatever else the
documents and the environments hold: as long as both documents are well marked, or neither
is. A document that is not well marked stops both tools with settings. For the computer the
image has to hold the same bytes, at whatever path. Counting newlines depends on the
counted file only, and measuring a text on no file or variable. -/
theorem unaffected_by_foreign_settings (world other : World) :
    (∀ first second, DocumentAt world.files file first → DocumentAt other.files file second →
      (SameSection "binary" first second →
        world.environment "ARCHTOOLS_OVERFLOW" = other.environment "ARCHTOOLS_OVERFLOW" →
        (first.WellMarked ↔ second.WellMarked) → ∀ room call,
          outcome room (Binconvert.run world call) = outcome room (Binconvert.run other call)) ∧
      (SameSection "vm" first second →
        world.environment "ARCHTOOLS_VM_MAX_STEPS" = other.environment "ARCHTOOLS_VM_MAX_STEPS" →
        (first.WellMarked ↔ second.WellMarked) → ∀ room call again,
          call.options = again.options →
          world.files.readBytes call.subject = other.files.readBytes again.subject →
          outcome room (Vm.run world call) = outcome room (Vm.run other again)) ∧
      (¬ first.WellMarked → ∀ room,
        (∀ call, outcome room (Binconvert.run world call) =
          ([], .error (.settings .malformed), 1)) ∧
        ∀ call, outcome room (Vm.run world call) = ([], .error (.settings .malformed), 1))) ∧
    (∀ room call, world.files.openFile call.subject = other.files.openFile call.subject →
      outcome room (Linecount.run world call) = outcome room (Linecount.run other call)) ∧
    ∀ room call, outcome room (Call.run world (.strlen call)) =
      outcome room (Call.run other (.strlen call)) := by
  refine ⟨fun first second document document' => ⟨?_, ?_, ?_⟩, ?_, ?_⟩
  · intro same agree marked room call
    apply Binconvert.loadsFirst.outcome_eq
    · exact loadBinary_eq_of_sameSection document document' same marked agree
    · intro settings
      rfl
  · intro same agree marked room call again options image
    apply Vm.loadsFirst.outcome_eq
    · exact loadVm_eq_of_sameSection document document' same marked agree
    · intro settings
      rw [Vm.seen_runWith, Vm.seen_runWith, Vm.answer_congr options image, options]
  · intro broken room
    constructor
    · apply Binconvert.loadsFirst.outcome_of_malformed
      exact document.result_loadBinary_of_misMarked broken _
    · apply Vm.loadsFirst.outcome_of_malformed
      exact document.result_loadVm_of_misMarked broken _
  · intro room call counted
    rw [Linecount.run, Linecount.run, countFile, countFile, counted]
  · intro room call
    rfl

/-- A directory with a settings file and an image. -/
def filesWithImage (text : String) (image : List UInt8) : FileSystem :=
  ((Tree.empty.insert (Path.ofString "image") (.file image)).insert file
    (.file (Text.encode text))).fileSystem

/-- The directory holds the document that the text of its settings file is. -/
theorem documentAt_filesWithImage {text : String} {table : Table}
    (document : parse text = some table) (image : List UInt8) :
    DocumentAt (filesWithImage text image) file table :=
  ⟨rfl, text, readText_of_openFile rfl, document⟩

/-- The converter's section of `bothSections` with other things around it, the computer's
section broken. -/
def modeAlone : String :=
  "vm = \"none\"\nnote = 1.5\n[binary]\noverflow = \"reject\"\n"

/-- The computer's section of `bothSections` with the converter's section broken. -/
def budgetAlone : String :=
  "binary = 3\n[vm]\nmax_steps = 7\n"

/-- One variable is given, and it is no setting. -/
def brokenVariable (key : String) : Environment := fun other =>
  if other = key then some "sideways" else none

/-- Neither tool is disturbed by what is wrong with the settings of the other. -/
theorem unaffected_by_broken_foreign_settings :
    (∀ room call,
      outcome room (Binconvert.run ⟨filesWithImage bothSections [], fun _ => none⟩ call) =
        outcome room (Binconvert.run
          ⟨filesWithImage modeAlone [0xFF], brokenVariable maxStepsVariable⟩ call)) ∧
    ∀ room options,
      outcome room (Vm.run ⟨filesWithImage bothSections [0xFF, 0x00], fun _ => none⟩
          ⟨Path.ofString "image", options, 0⟩) =
        outcome room (Vm.run
          ⟨filesWithImage budgetAlone [0xFF, 0x00], brokenVariable overflowVariable⟩
          ⟨Path.ofString "image", options, 2⟩) := by
  have both : parse bothSections = some
      [("binary", .table [("overflow", .string "reject")]),
        ("vm", .table [("max_steps", .integer 7)])] := by decide +kernel
  have modes : parse modeAlone = some [("vm", .string "none"), ("note", .float "1.5"),
      ("binary", .table [("overflow", .string "reject")])] := by decide +kernel
  have budgets : parse budgetAlone = some
      [("binary", .integer 3), ("vm", .table [("max_steps", .integer 7)])] := by decide +kernel
  constructor
  · obtain ⟨converter, -⟩ := (unaffected_by_foreign_settings
      ⟨filesWithImage bothSections [], fun _ => none⟩
      ⟨filesWithImage modeAlone [0xFF], brokenVariable maxStepsVariable⟩).1 _ _
      (documentAt_filesWithImage both _) (documentAt_filesWithImage modes _)
    exact converter (.of_lookup_eq rfl) rfl ⟨fun _ => rfl, fun _ => rfl⟩
  · intro room options
    obtain ⟨-, computer, -⟩ := (unaffected_by_foreign_settings
      ⟨filesWithImage bothSections [0xFF, 0x00], fun _ => none⟩
      ⟨filesWithImage budgetAlone [0xFF, 0x00], brokenVariable overflowVariable⟩).1 _ _
      (documentAt_filesWithImage both _) (documentAt_filesWithImage budgets _)
    exact computer (.of_lookup_eq rfl) rfl ⟨fun _ => rfl, fun _ => rfl⟩ room _ _ rfl rfl

/-- A settings file whose only setting is a budget that is marked as a date-time, and is
none. -/
def misMarkedBudget : String :=
  "[vm.max_steps]\n\"$__toml_private_datetime\" = \"soon\"\n"

/-- **A foreign date-time is told.** Two settings files are TOML documents without a section
for the converter, and no variable is set, and yet the converter comes to different ends: a
broken budget stops it. -/
theorem affected_by_foreign_date_time :
    (∃ first second, DocumentAt (filesWith "") file first ∧
      DocumentAt (filesWith misMarkedBudget) file second ∧
      first.lookup "binary" = none ∧ second.lookup "binary" = none) ∧
    outcome none (Binconvert.run ⟨filesWith "", fun _ => none⟩ ⟨"101", {}, 0⟩) ≠
      outcome none (Binconvert.run ⟨filesWith misMarkedBudget, fun _ => none⟩ ⟨"101", {}, 0⟩) := by
  have empty : parse "" = some [] := by decide +kernel
  have document : parse misMarkedBudget = some
      [("vm", .table [("max_steps", .table [(dateTimeMark, .string "soon")])])] := by decide +kernel
  have first : DocumentAt (filesWith "") file [] := ⟨rfl, "", readText_filesWith _, empty⟩
  have second : DocumentAt (filesWith misMarkedBudget) file _ :=
    ⟨rfl, misMarkedBudget, readText_filesWith _, document⟩
  have stopped : outcome none
      (Binconvert.run ⟨filesWith misMarkedBudget, fun _ => none⟩ ⟨"101", {}, 0⟩) =
        ([], .error (.settings .malformed), 1) := by
    apply Binconvert.loadsFirst.outcome_of_malformed
    exact second.result_loadBinary_of_misMarked (by decide) fun _ => none
  have goes : (outcome none
      (Binconvert.run ⟨filesWith "", fun _ => none⟩ ⟨"101", {}, 0⟩)).2.2 = 0 := by
    decide +kernel
  refine ⟨⟨_, _, first, second, rfl, rfl⟩, ?_⟩
  intro same
  rw [same, stopped] at goes
  cases goes

end PocketTools.Command
