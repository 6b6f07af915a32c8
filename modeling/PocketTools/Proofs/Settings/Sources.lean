import PocketTools.Proofs.Journal.Parts
import PocketTools.Settings.Load

/-!
# Where settings come from

What a settings file says about a key depends on the state of its path, and what a
variable says on its value; each of these states is a constructor of `FileSays` or
`VariableSays`. A tool's settings are loaded as the two say: a fault of the file comes
before one of the variable, and a value of the variable before one of the file
(`result_loadBinary`, `result_loadVm`). Loading writes nothing and looks at no path but
that of the settings file.
-/

namespace PocketTools.Settings

open Files Journal Toml

/-- **What a settings file says** about the key of a section: a value, nothing, or that
the file cannot be used. A file that is not there, a section that is not there and a
section without the key say nothing. -/
inductive FileSays {α : Type} (fs : FileSystem) (path : Path) (name key : String)
    (decode? : Value → Option α) : Except Fault (Option α) → Prop where
  | absent (absent : fs.exists? path = false) : FileSays fs path name key decode? (.ok none)
  | unreadable {cause : Files.Fault} (there : fs.exists? path = true)
      (broken : fs.readText path = .error cause) :
      FileSays fs path name key decode? (.error (.unreadable path cause))
  | notToml {text : String} (there : fs.exists? path = true)
      (reads : fs.readText path = .ok text) (broken : parse text = none) :
      FileSays fs path name key decode? (.error .malformed)
  /-- The document has a table that is marked as a date-time and is none. -/
  | misMarked {text : String} {table : Table} (there : fs.exists? path = true)
      (reads : fs.readText path = .ok text) (document : parse text = some table)
      (broken : resolveEntries? table = none) :
      FileSays fs path name key decode? (.error .malformed)
  | noSection {text : String} {table : Table} (there : fs.exists? path = true)
      (reads : fs.readText path = .ok text) (document : parseResolved text = some table)
      (missing : table.lookup name = none) : FileSays fs path name key decode? (.ok none)
  | badSection {text : String} {table : Table} {value : Value} (there : fs.exists? path = true)
      (reads : fs.readText path = .ok text) (document : parseResolved text = some table)
      (found : table.lookup name = some value) (broken : onlyField? .alone key value = none) :
      FileSays fs path name key decode? (.error .malformed)
  | noKey {text : String} {table : Table} {value : Value} (there : fs.exists? path = true)
      (reads : fs.readText path = .ok text) (document : parseResolved text = some table)
      (found : table.lookup name = some value)
      (missing : onlyField? .alone key value = some none) :
      FileSays fs path name key decode? (.ok none)
  | badValue {text : String} {table : Table} {value field : Value}
      (there : fs.exists? path = true) (reads : fs.readText path = .ok text)
      (document : parseResolved text = some table) (found : table.lookup name = some value)
      (given : onlyField? .alone key value = some (some field)) (broken : decode? field = none) :
      FileSays fs path name key decode? (.error .malformed)
  | value {text : String} {table : Table} {value field : Value} {a : α}
      (there : fs.exists? path = true) (reads : fs.readText path = .ok text)
      (document : parseResolved text = some table) (found : table.lookup name = some value)
      (given : onlyField? .alone key value = some (some field)) (decoded : decode? field = some a) :
      FileSays fs path name key decode? (.ok (some a))

/-- **What a variable says**: a value, nothing, or that it cannot be read. A variable
that is unset or blank says nothing. -/
inductive VariableSays {α : Type} (environment : Environment) (key : String)
    (read : String → Except ValueFault α) : Except ValueFault (Option α) → Prop where
  | unset (missing : environment key = none) : VariableSays environment key read (.ok none)
  | blank {s : String} (found : environment key = some s) (blank : Text.trim s = "") :
      VariableSays environment key read (.ok none)
  | invalid {s : String} {cause : ValueFault} (found : environment key = some s)
      (filled : Text.trim s ≠ "") (broken : read s = .error cause) :
      VariableSays environment key read (.error cause)
  | value {s : String} {a : α} (found : environment key = some s) (filled : Text.trim s ≠ "")
      (reads : read s = .ok a) : VariableSays environment key read (.ok (some a))

variable {α β : Type} {fs other : FileSystem} {path : Path} {name key : String}
  {decode? : Value → Option α} {environment : Environment}
  {read : String → Except ValueFault α} {said : Except Fault (Option α)}
  {given : Except ValueFault (Option α)}

/-- Every state of a path is one of those that have been told apart. -/
theorem exists_fileSays (fs : FileSystem) (path : Path) (name key : String)
    (decode? : Value → Option α) : ∃ said, FileSays fs path name key decode? said := by
  cases there : fs.exists? path with
  | false => exact ⟨_, .absent there⟩
  | true =>
  cases reads : fs.readText path with
  | error cause => exact ⟨_, .unreadable there reads⟩
  | ok text =>
  cases document : parse text with
  | none => exact ⟨_, .notToml there reads document⟩
  | some table =>
  cases resolved : resolveEntries? table with
  | none => exact ⟨_, .misMarked there reads document resolved⟩
  | some table' =>
  have document : parseResolved text = some table' := by
    rw [parseResolved, document, Option.bind_some, resolved]
  cases found : table'.lookup name with
  | none => exact ⟨_, .noSection there reads document found⟩
  | some value =>
  cases field : onlyField? .alone key value with
  | none => exact ⟨_, .badSection there reads document found field⟩
  | some entry =>
  cases entry with
  | none => exact ⟨_, .noKey there reads document found field⟩
  | some entry =>
  cases decoded : decode? entry with
  | none => exact ⟨_, .badValue there reads document found field decoded⟩
  | some a => exact ⟨_, .value there reads document found field decoded⟩

/-- A value that can be read off a file is what the file says. -/
theorem fileSays_value {text : String} {a : α} (there : fs.exists? path = true)
    (reads : fs.readText path = .ok text)
    (chain : ((parseResolved text).bind fun table => (table.lookup name).bind fun value =>
      (onlyField? .alone key value).bind fun entry => entry.bind decode?) = some a) :
    FileSays fs path name key decode? (.ok (some a)) := by
  obtain ⟨table, document, chain⟩ := Option.bind_eq_some_iff.mp chain
  obtain ⟨value, found, chain⟩ := Option.bind_eq_some_iff.mp chain
  obtain ⟨entry, given, chain⟩ := Option.bind_eq_some_iff.mp chain
  obtain ⟨field, rfl, decoded⟩ := Option.bind_eq_some_iff.mp chain
  exact .value there reads document found given decoded

/-- A variable always says something, if only that it sets nothing. -/
theorem exists_variableSays (environment : Environment) (key : String)
    (read : String → Except ValueFault α) :
    ∃ given, VariableSays environment key read given := by
  cases found : environment key with
  | none => exact ⟨_, .unset found⟩
  | some s =>
  by_cases blank : Text.trim s = ""
  · exact ⟨_, .blank found blank⟩
  cases reads : read s with
  | error cause => exact ⟨_, .invalid found blank reads⟩
  | ok a => exact ⟨_, .value found blank reads⟩

/-- A setting is what its variable says, and a bad value names the variable. -/
theorem setting?_eq (inVariable : VariableSays environment key read given) :
    setting? environment key read = given.mapError (.badVariable key) := by
  unfold setting?
  cases inVariable with
  | unset missing => rw [missing]; rfl
  | blank found blank => rw [found]; exact if_pos blank
  | invalid found filled broken => simp only [found, if_neg filled, broken]; rfl
  | value found filled reads => simp only [found, if_neg filled, reads]; rfl

/-! ## Overriding by a variable -/

/-- The converter's mode is replaced if its variable sets one. -/
theorem Binary.override_eq (environment : Environment) (settings : Binary) :
    settings.override environment =
      (setting? environment overflowVariable readMode).map fun value =>
        value.elim settings Binary.mk := by
  rw [Binary.override]
  rcases setting? environment overflowVariable readMode with fault | (_ | mode) <;> rfl

theorem Vm.override_eq (environment : Environment) (settings : Vm) :
    settings.override environment =
      (setting? environment maxStepsVariable readSteps).map fun value =>
        value.elim settings Vm.mk := by
  rw [Vm.override]
  rcases setting? environment maxStepsVariable readSteps with fault | (_ | steps) <;> rfl

/-- A setting depends on its own variable only. -/
theorem setting?_congr {environment' : Environment} (agree : environment key = environment' key)
    (read : String → Except ValueFault α) :
    setting? environment key read = setting? environment' key read := by
  rw [setting?, setting?, agree]

/-- The converter's settings depend on their own variable only. -/
theorem Binary.override_congr {environment' : Environment}
    (agree : environment overflowVariable = environment' overflowVariable) (settings : Binary) :
    settings.override environment = settings.override environment' := by
  rw [Binary.override_eq, Binary.override_eq, setting?_congr agree]

theorem Vm.override_congr {environment' : Environment}
    (agree : environment maxStepsVariable = environment' maxStepsVariable) (settings : Vm) :
    settings.override environment = settings.override environment' := by
  rw [Vm.override_eq, Vm.override_eq, setting?_congr agree]

/-! ## One section -/

/-- Loading a section, state by state. -/
theorem loadSection_eq (fs : FileSystem) (path : Path) (name : String)
    (ofValue? : Value → Option β) (default : β) :
    loadSection fs path name ofValue? default =
      match readTable parseResolved fs path with
      | .error fault => ⟨[], .error fault⟩
      | .ok table =>
          match table.bind (·.lookup name) with
          | none => ⟨[], .ok default⟩
          | some value =>
              match ofValue? value with
              | none => ⟨[], .error .malformed⟩
              | some settings => ⟨[.note (.loadedSection path name)], .ok settings⟩ := by
  unfold loadSection
  cases readTable parseResolved fs path with
  | error fault => rfl
  | ok table =>
      rw [Transcript.bind_of_ok rfl]
      cases found : table.bind (·.lookup name) with
      | none =>
          simp only [found]
          rfl
      | some value =>
          cases decoded : ofValue? value <;> simp only [found, decoded] <;> rfl

/-- A settings file that is there and cannot be read is reported with its path. -/
theorem readTable_of_unreadable {cause : Files.Fault} (there : fs.exists? path = true)
    (broken : fs.readText path = .error cause) :
    readTable parseResolved fs path = .error (.unreadable path cause) := by
  rw [readTable, readIfPresent, if_pos there, broken]

/-- A settings file that reads as a text is what the text parses to. -/
theorem readTable_of_text {text : String} (there : fs.exists? path = true)
    (reads : fs.readText path = .ok text) :
    readTable parseResolved fs path =
      match parseResolved text with
      | some table => .ok (some table)
      | none => .error .malformed := by
  have present : readIfPresent fs path = .ok (some text) := by
    rw [readIfPresent, if_pos there, reads]
  unfold readTable
  cases document : parseResolved text <;> simp only [present, document]

/-- The section's settings as the file says. -/
theorem result_loadSection {ofValue? : Value → Option β} {default : β} {make : α → β}
    (shape : ∀ value, ofValue? value =
      match onlyField? .alone key value with
      | none => none
      | some none => some default
      | some (some field) => (decode? field).map make)
    (inFile : FileSays fs path name key decode? said) :
    (loadSection fs path name ofValue? default).result =
      said.map fun value => value.elim default make := by
  rw [loadSection_eq]
  cases inFile with
  | absent absent =>
      have table : readTable parseResolved fs path = .ok none := by
        rw [readTable, readIfPresent, absent]
        rfl
      rw [table]
      rfl
  | unreadable there broken => rw [readTable_of_unreadable there broken]; rfl
  | notToml there reads broken => rw [readTable_of_text there reads, parseResolved, broken]; rfl
  | misMarked there reads document broken =>
      rw [readTable_of_text there reads, parseResolved, document, Option.bind_some, broken]; rfl
  | noSection there reads document missing =>
      simp only [readTable_of_text there reads, document, Option.bind_some, missing]; rfl
  | badSection there reads document found broken =>
      simp only [readTable_of_text there reads, document, Option.bind_some, found, shape, broken]
      rfl
  | noKey there reads document found missing =>
      simp only [readTable_of_text there reads, document, Option.bind_some, found, shape, missing]
      rfl
  | badValue there reads document found entry broken =>
      simp only [readTable_of_text there reads, document, Option.bind_some, found, shape, entry,
        broken]
      rfl
  | value there reads document found entry decoded =>
      simp only [readTable_of_text there reads, document, Option.bind_some, found, shape, entry,
        decoded]
      rfl

/-- Loading a section writes nothing. -/
theorem written_loadSection (fs : FileSystem) (path : Path) (name : String)
    (ofValue? : Value → Option β) (default : β) :
    written (loadSection fs path name ofValue? default).acts = [] := by
  rw [loadSection_eq]
  split
  · rfl
  · split
    · rfl
    · split <;> rfl

/-- Loading a section looks at the path of the settings file only. -/
theorem loadSection_congr (exists_eq : fs.exists? path = other.exists? path)
    (open_eq : fs.openFile path = other.openFile path) (name : String)
    (ofValue? : Value → Option β) (default : β) :
    loadSection fs path name ofValue? default = loadSection other path name ofValue? default := by
  have reads : fs.readText path = other.readText path := by
    rw [FileSystem.readText, FileSystem.readText, FileSystem.readBytes, FileSystem.readBytes,
      open_eq]
  rw [loadSection_eq, loadSection_eq, readTable, readTable, readIfPresent, readIfPresent,
    exists_eq, reads]

/-! ## A tool's settings -/

/-- What a file and a variable settle on. The file is judged first, and the variable's
value comes before the file's. -/
def settle (key : String) (default : α) (said : Except Fault (Option α))
    (given : Except ValueFault (Option α)) : Except Fault α :=
  match said, given with
  | .error fault, _ => .error fault
  | .ok _, .error cause => .error (.badVariable key cause)
  | .ok fileValue, .ok variableValue => .ok (variableValue.getD (fileValue.getD default))

/-- A section that is loaded and then overridden by a variable, as file and variable say. -/
theorem result_loadSection_bind {ofValue? : Value → Option β} {default : α} {make : α → β}
    {override : β → Except Fault β} {overriding : String}
    (shape : ∀ value, ofValue? value =
      match onlyField? .alone key value with
      | none => none
      | some none => some (make default)
      | some (some field) => (decode? field).map make)
    (overrides : ∀ settings, override settings =
      (setting? environment overriding read).map fun value => value.elim settings make)
    (inFile : FileSays fs path name key decode? said)
    (inVariable : VariableSays environment overriding read given) :
    (loadSection fs path name ofValue? (make default) >>= fun settings =>
      Transcript.ofExcept (override settings)).result =
      (settle overriding default said given).map make := by
  have loaded := result_loadSection shape inFile
  cases said with
  | error fault => rw [Transcript.bind_of_error loaded]; rfl
  | ok fileValue =>
      rw [Transcript.bind_of_ok loaded, overrides, setting?_eq inVariable]
      cases given with
      | error cause => rfl
      | ok variableValue => cases variableValue <;> cases fileValue <;> rfl

/-- The converter's settings are settled by what the file and the variable say. -/
theorem result_loadBinary {said : Except Fault (Option OverflowMode)}
    {given : Except ValueFault (Option OverflowMode)}
    (inFile : FileSays fs path "binary" "overflow" modeOfValue? said)
    (inVariable : VariableSays environment overflowVariable readMode given) :
    (loadBinary fs environment path).result =
      (settle overflowVariable .wrap said given).map Binary.mk :=
  result_loadSection_bind (fun _ => rfl) (Binary.override_eq environment) inFile inVariable

theorem result_loadVm {said : Except Fault (Option UInt64)}
    {given : Except ValueFault (Option UInt64)}
    (inFile : FileSays fs path "vm" "max_steps" stepsOfValue? said)
    (inVariable : VariableSays environment maxStepsVariable readSteps given) :
    (loadVm fs environment path).result =
      (settle maxStepsVariable 10000 said given).map Vm.mk :=
  result_loadSection_bind (fun _ => rfl) (Vm.override_eq environment) inFile inVariable

/-- The converter's settings depend on the settings file only. -/
theorem loadBinary_congr (exists_eq : fs.exists? path = other.exists? path)
    (open_eq : fs.openFile path = other.openFile path) (environment : Environment) :
    loadBinary fs environment path = loadBinary other environment path := by
  rw [loadBinary, loadBinary, loadSection_congr exists_eq open_eq]

theorem loadVm_congr (exists_eq : fs.exists? path = other.exists? path)
    (open_eq : fs.openFile path = other.openFile path) (environment : Environment) :
    loadVm fs environment path = loadVm other environment path := by
  rw [loadVm, loadVm, loadSection_congr exists_eq open_eq]

/-- Loading the converter's settings writes nothing. -/
theorem written_loadBinary (fs : FileSystem) (environment : Environment) (path : Path) :
    written (loadBinary fs environment path).acts = [] :=
  Transcript.written_bind_eq_nil (written_loadSection _ _ _ _ _) fun _ => rfl

theorem written_loadVm (fs : FileSystem) (environment : Environment) (path : Path) :
    written (loadVm fs environment path).acts = [] :=
  Transcript.written_bind_eq_nil (written_loadSection _ _ _ _ _) fun _ => rfl

end PocketTools.Settings
