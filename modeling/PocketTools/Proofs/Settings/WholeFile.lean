import PocketTools.Proofs.Settings.SameSection

/-!
# Settings of the whole file and of one section

The settings of all tools are decoded from a document as it stands. A tool's own settings
are decoded from the one value under its key, in which tables may have turned into
date-times, and more is asked of that value. What a section gives on its own it gives as
part of the file too (`Binary.ofValue?_of_resolve`, `Vm.ofValue?_of_resolve`), so two
loaders that both succeed have loaded the same settings (`loaders_agree`).
-/

namespace PocketTools.Settings

open Files Journal Toml

/-! ## Settings before and after date-times are put in place -/

section Resolved

variable {value resolved : Value}

/-- Resolving date-times makes no unit and removes none. -/
theorem isUnit_resolve (done : value.resolve? = some resolved) :
    isUnit resolved = isUnit value := by
  cases value with
  | string | integer | float | boolean | dateTime =>
      cases done
      rfl
  | array items =>
      obtain ⟨others, same, rfl⟩ := resolve?_array done
      cases items with
      | nil =>
          cases same
          rfl
      | cons item items =>
          obtain ⟨other, rest, -, -, rfl⟩ := resolveItems?_cons same
          rfl
  | table entries =>
      rcases resolve?_table done with ⟨others, same, rfl⟩ | ⟨⟨inner, rest, rfl⟩, literal, rfl⟩
      · cases entries with
        | nil =>
            cases same
            rfl
        | cons entry entries =>
            obtain ⟨other, rest, -, -, rfl⟩ := resolveEntries?_cons same
            rfl
      · rfl

/-- The mark of date-times is no mode, so a mode is the same before and after. -/
theorem modeOfValue?_resolve (done : value.resolve? = some resolved) :
    modeOfValue? resolved = modeOfValue? value := by
  cases value with
  | string | integer | float | boolean | dateTime =>
      cases done
      rfl
  | array items =>
      obtain ⟨others, same, rfl⟩ := resolve?_array done
      rfl
  | table entries =>
      rcases resolve?_table done with ⟨others, same, rfl⟩ | ⟨⟨inner, rest, rfl⟩, literal, rfl⟩
      · match entries with
        | [] =>
            cases same
            rfl
        | [(word, inner)] =>
            obtain ⟨other, rest, inside, none, rfl⟩ := resolveEntries?_cons same
            cases none
            rw [modeOfValue?, modeOfValue?, isUnit_resolve inside]
        | (word, inner) :: (word', inner') :: entries =>
            obtain ⟨other, rest, -, more, rfl⟩ := resolveEntries?_cons same
            obtain ⟨other', rest, -, -, rfl⟩ := resolveEntries?_cons more
            rfl
      · have noMode : OverflowMode.ofWord? dateTimeMark = none := by decide
        cases rest with
        | nil => simp only [modeOfValue?, noMode, ite_self]
        | cons entry rest => rfl

theorem stepsOfValue?_resolve (done : value.resolve? = some resolved) :
    stepsOfValue? resolved = stepsOfValue? value := by
  cases value with
  | string | integer | float | boolean | dateTime =>
      cases done
      rfl
  | array items =>
      obtain ⟨others, same, rfl⟩ := resolve?_array done
      rfl
  | table entries =>
      rcases resolve?_table done with ⟨others, same, rfl⟩ | ⟨-, literal, rfl⟩
      · rfl
      · rfl

end Resolved

/-! ## A section alone and in its file -/

section Scopes

variable {α β : Type} {value resolved : Value} {name : String}

/-- What a section gives for its field alone, it gives for it in the whole file, but for the
date-times. -/
theorem onlyField?_of_resolve (done : value.resolve? = some resolved) {given : Option Value}
    (alone : onlyField? .alone name resolved = some given) :
    ∃ field, onlyField? .wholeFile name value = some field ∧
      Option.Rel (fun before after => before.resolve? = some after) field given := by
  cases value with
  | string | integer | float | boolean | dateTime =>
      cases done
      cases alone
  | array items =>
      obtain ⟨others, same, rfl⟩ := resolve?_array done
      cases items with
      | nil =>
          cases same
          cases alone
          exact ⟨none, rfl, .none⟩
      | cons item items =>
          obtain ⟨other, rest, here, -, rfl⟩ := resolveItems?_cons same
          simp only [onlyField?, Option.ite_none_left_eq_some] at alone
          cases alone.2
          exact ⟨some item, rfl, .some here⟩
  | table entries =>
      rcases resolve?_table done with ⟨others, same, rfl⟩ | ⟨-, literal, rfl⟩
      · cases alone
        exact ⟨entries.lookup name, rfl, rel_lookup_resolveEntries same name⟩
      · cases alone

/-- A section with one field gives on its own only what it gives in the whole file. -/
theorem ofValue?_of_resolve {ofValue? : Scope → Value → Option β} {decode? : Value → Option α}
    {default : β} {make : α → β}
    (shape : ∀ scope value, ofValue? scope value =
      match onlyField? scope name value with
      | none => none
      | some none => some default
      | some (some field) => (decode? field).map make)
    (decodes : ∀ {value resolved : Value}, value.resolve? = some resolved →
      decode? resolved = decode? value)
    (done : value.resolve? = some resolved) {settings : β}
    (alone : ofValue? .alone resolved = some settings) :
    ofValue? .wholeFile value = some settings := by
  rw [shape] at alone ⊢
  cases given : onlyField? .alone name resolved with
  | none =>
      rw [given] at alone
      cases alone
  | some after =>
      obtain ⟨before, found, same⟩ := onlyField?_of_resolve done given
      rw [given] at alone
      rw [found]
      cases same with
      | none => exact alone
      | some inside =>
          simp only [decodes inside] at alone
          exact alone

/-- What is accepted alone as the converter's section is accepted in the whole file. -/
theorem Binary.ofValue?_of_resolve {settings : Binary} (done : value.resolve? = some resolved)
    (alone : Binary.ofValue? .alone resolved = some settings) :
    Binary.ofValue? .wholeFile value = some settings :=
  Settings.ofValue?_of_resolve (fun _ _ => rfl) modeOfValue?_resolve done alone

theorem Vm.ofValue?_of_resolve {settings : Vm} (done : value.resolve? = some resolved)
    (alone : Vm.ofValue? .alone resolved = some settings) :
    Vm.ofValue? .wholeFile value = some settings :=
  Settings.ofValue?_of_resolve (fun _ _ => rfl) stepsOfValue?_resolve done alone

/-- What a document gives for one section, read alone. -/
def sectionAlone? (ofValue? : Value → Option β) (default : β) (name : String) (table : Table) :
    Option β :=
  (resolveEntries? table).bind fun others => entryOr ofValue? default (others.lookup name)

/-- A section that is accepted alone under its name, or lacking, is accepted in the whole file. -/
theorem entryOr_of_sectionAlone? {inFile alone? : Value → Option β} {default settings : β}
    {table : Table}
    (decodes : ∀ {value resolved : Value} {settings : β}, value.resolve? = some resolved →
      alone? resolved = some settings → inFile value = some settings)
    (alone : sectionAlone? alone? default name table = some settings) :
    entryOr inFile default (table.lookup name) = some settings := by
  obtain ⟨others, done, alone⟩ := Option.bind_eq_some_iff.mp alone
  have each := rel_lookup_resolveEntries done name
  revert alone each
  generalize table.lookup name = before
  generalize others.lookup name = after
  intro alone each
  cases each with
  | none => exact alone
  | some here => exact decodes here alone

end Scopes

/-- The whole file is decoded section by section. -/
theorem Tools.ofTable?_eq_some_iff {table : Table} {tools : Tools} :
    Tools.ofTable? table = some tools ↔
      entryOr (Binary.ofValue? .wholeFile) {} (table.lookup "binary") = some tools.binary ∧
        entryOr (Vm.ofValue? .wholeFile) {} (table.lookup "vm") = some tools.vm := by
  rw [Tools.ofTable?]
  cases entryOr (Binary.ofValue? .wholeFile) {} (table.lookup "binary") with
  | none => simp
  | some converter =>
      cases entryOr (Vm.ofValue? .wholeFile) {} (table.lookup "vm") with
      | none => simp
      | some computer =>
          constructor
          · intro made
            cases made
            exact ⟨rfl, rfl⟩
          · rintro ⟨⟨⟩, ⟨⟩⟩
            rfl

/-! ## The loaders -/

section Loaders

variable {α : Type} {decode? : Table → Option α} {default settings : α}
  {content : Except Fault (Option Table)}

/-- Settings from what a settings file holds: a fault, nothing, or a document. -/
def settingsOf (decode? : Table → Option α) (default : α) :
    Except Fault (Option Table) → Except Fault α
  | .error fault => .error fault
  | .ok none => .ok default
  | .ok (some table) =>
      match decode? table with
      | some settings => .ok settings
      | none => .error .malformed

/-- Settings come from a table that is decoded, or are the defaults where there is none. -/
theorem settingsOf_eq_ok_iff :
    settingsOf decode? default content = .ok settings ↔
      (content = .ok none ∧ settings = default) ∨
        ∃ table, content = .ok (some table) ∧ decode? table = some settings := by
  rcases content with fault | table | table
  · simp [settingsOf]
  · simp [settingsOf, eq_comm]
  · rw [settingsOf]
    cases decoded : decode? table <;> simp [decoded]

/-- Decoding a table does not make a file unreadable. -/
theorem settingsOf_eq_unreadable_iff {path : Path} {cause : Files.Fault} :
    settingsOf decode? default content = .error (.unreadable path cause) ↔
      content = .error (.unreadable path cause) := by
  rcases content with fault | table | table
  · simp [settingsOf]
  · simp [settingsOf]
  · rw [settingsOf]
    cases decode? table <;> simp

/-- A loader for a part of the settings of all tools. -/
theorem part_eq_of_loaded {tools : Tools} (part : Tools → α) (defaults : part {} = default)
    (decodes : ∀ table tools settings, Tools.ofTable? table = some tools →
      decode? table = some settings → settings = part tools)
    (whole : settingsOf Tools.ofTable? {} content = .ok tools)
    (alone : settingsOf decode? default content = .ok settings) : settings = part tools := by
  rcases settingsOf_eq_ok_iff.mp whole with ⟨nothing, rfl⟩ | ⟨table, document, wholeDecoded⟩
  · rw [nothing] at alone
    cases alone
    exact defaults.symm
  · rw [document] at alone
    obtain ⟨⟨⟩, -⟩ | ⟨table', same, decoded⟩ := settingsOf_eq_ok_iff.mp alone
    cases same
    exact decodes table tools settings wholeDecoded decoded

/-- Without a settings file there is no table. -/
theorem readTable_of_absent {parse : String → Option Table} {fs : FileSystem} {path : Path}
    (absent : fs.exists? path = false) : readTable parse fs path = .ok none := by
  rw [readTable, readIfPresent, absent]
  rfl

/-- A settings file is unreadable if it is there and its text cannot be read. -/
theorem readTable_eq_unreadable_iff {parse : String → Option Table} {fs : FileSystem}
    {path other : Path} {cause : Files.Fault} :
    readTable parse fs path = .error (.unreadable other cause) ↔
      fs.exists? path = true ∧ fs.readText path = .error cause ∧ other = path := by
  rw [readTable, readIfPresent]
  by_cases there : fs.exists? path = true
  · rw [if_pos there]
    cases fs.readText path with
    | error broken => simp [there, and_comm, eq_comm]
    | ok text =>
        simp only
        cases parse text <;> simp
  · simp [there]

/-- One document is behind every loader. -/
theorem readTable_parseResolved (fs : FileSystem) (path : Path) :
    readTable parseResolved fs path =
      settingsOf (fun table => (resolveEntries? table).map some) none
        (readTable parse fs path) := by
  rw [readTable, readTable]
  cases readIfPresent fs path with
  | error fault => rfl
  | ok text =>
      cases text with
      | none => rfl
      | some text =>
          simp only [parseResolved]
          cases parse text with
          | none => rfl
          | some table =>
              simp only [Option.bind_some, settingsOf]
              cases resolveEntries? table <;> rfl

variable (fs : FileSystem) (path : Path)

/-- A section is loaded from the table that is read, whatever is noted on the way. -/
theorem result_loadSection_eq (name : String) (ofValue? : Value → Option α) (default : α) :
    (loadSection fs path name ofValue? default).result =
      settingsOf (sectionAlone? ofValue? default name) default (readTable parse fs path) := by
  rw [loadSection_eq, readTable_parseResolved]
  rcases readTable parse fs path with fault | table | table
  · rfl
  · rfl
  · simp only [settingsOf, sectionAlone?]
    cases resolveEntries? table with
    | none => rfl
    | some others =>
        simp only [Option.map_some, Option.bind_some]
        cases others.lookup name with
        | none => rfl
        | some value =>
            simp only [entryOr]
            cases ofValue? value <;> rfl

/-- The whole file is loaded from the table that is read, whatever is noted on the way. -/
theorem result_loadTools_eq :
    (loadTools fs path).result = settingsOf Tools.ofTable? {} (readTable parse fs path) := by
  rw [loadTools]
  rcases readTable parse fs path with fault | table | table
  · rfl
  · rfl
  · rw [Transcript.bind_of_ok rfl, settingsOf]
    cases decoded : Tools.ofTable? table <;> simp only [decoded] <;> rfl

/-- Without variables a section is left as it was loaded. -/
theorem result_loadBinary_unset :
    (loadBinary fs (fun _ => none) path).result =
      settingsOf (sectionAlone? (Binary.ofValue? .alone) {} "binary") {}
        (readTable parse fs path) := by
  rw [loadBinary, Transcript.result_bind, ← result_loadSection_eq]
  cases (loadSection fs path "binary" (Binary.ofValue? .alone) {}).result <;> rfl

/-- Without variables the computer's settings are those of the file. -/
theorem result_loadVm_unset :
    (loadVm fs (fun _ => none) path).result =
      settingsOf (sectionAlone? (Vm.ofValue? .alone) {} "vm") {} (readTable parse fs path) := by
  rw [loadVm, Transcript.result_bind, ← result_loadSection_eq]
  cases (loadSection fs path "vm" (Vm.ofValue? .alone) {}).result <;> rfl

end Loaders

/-- **The loaders agree.** Without variables, a tool's own settings are those of the whole file
if both can be loaded, and the settings of the whole file can be loaded if those of each tool
can. All loaders fail alike on a file that is there and cannot be read, and give the defaults if
there is none. -/
theorem loaders_agree (fs : FileSystem) (path : Path) :
    let whole := (loadTools fs path).result
    let binary := (loadBinary fs (fun _ => none) path).result
    let vm := (loadVm fs (fun _ => none) path).result
    (∀ tools settings, whole = .ok tools → binary = .ok settings → settings = tools.binary) ∧
    (∀ tools settings, whole = .ok tools → vm = .ok settings → settings = tools.vm) ∧
    (∀ converter computer, binary = .ok converter → vm = .ok computer →
      whole = .ok ⟨converter, computer⟩) ∧
    (∀ other cause,
      let unreadable :=
        fs.exists? path = true ∧ fs.readText path = .error cause ∧ other = path
      (whole = .error (.unreadable other cause) ↔ unreadable) ∧
      (binary = .error (.unreadable other cause) ↔ unreadable) ∧
      (vm = .error (.unreadable other cause) ↔ unreadable)) ∧
    (fs.exists? path = false →
      whole = .ok ⟨⟨.wrap⟩, ⟨10000⟩⟩ ∧ binary = .ok ⟨.wrap⟩ ∧ vm = .ok ⟨10000⟩) := by
  intro whole binary vm
  have wholeIs : whole = _ := result_loadTools_eq fs path
  have binaryIs : binary = _ := result_loadBinary_unset fs path
  have vmIs : vm = _ := result_loadVm_unset fs path
  rw [wholeIs, binaryIs, vmIs]
  refine ⟨?_, ?_, ?_, ?_, ?_⟩
  · intro tools settings
    apply part_eq_of_loaded Tools.binary rfl
    intro table tools settings wholeDecoded decoded
    have inFile := entryOr_of_sectionAlone? Binary.ofValue?_of_resolve decoded
    rw [(Tools.ofTable?_eq_some_iff.mp wholeDecoded).1] at inFile
    exact (Option.some.inj inFile).symm
  · intro tools settings
    apply part_eq_of_loaded Tools.vm rfl
    intro table tools settings wholeDecoded decoded
    have inFile := entryOr_of_sectionAlone? Vm.ofValue?_of_resolve decoded
    rw [(Tools.ofTable?_eq_some_iff.mp wholeDecoded).2] at inFile
    exact (Option.some.inj inFile).symm
  · intro converter computer binaryLoaded vmLoaded
    rw [settingsOf_eq_ok_iff] at binaryLoaded vmLoaded ⊢
    rcases binaryLoaded with ⟨nothing, rfl⟩ | ⟨table, document, binaryDecoded⟩
    · rw [nothing] at vmLoaded ⊢
      obtain ⟨-, rfl⟩ | ⟨table, ⟨⟩, -⟩ := vmLoaded
      exact .inl ⟨rfl, rfl⟩
    · rw [document] at vmLoaded ⊢
      obtain ⟨⟨⟩, -⟩ | ⟨table', same, vmDecoded⟩ := vmLoaded
      cases same
      refine .inr ⟨table, rfl, Tools.ofTable?_eq_some_iff.mpr ⟨?_, ?_⟩⟩
      · exact entryOr_of_sectionAlone? Binary.ofValue?_of_resolve binaryDecoded
      · exact entryOr_of_sectionAlone? Vm.ofValue?_of_resolve vmDecoded
  · intro other cause unreadable
    simp only [settingsOf_eq_unreadable_iff, readTable_eq_unreadable_iff]
    exact ⟨Iff.rfl, Iff.rfl, Iff.rfl⟩
  · intro absent
    rw [readTable_of_absent absent]
    exact ⟨rfl, rfl, rfl⟩

end PocketTools.Settings
