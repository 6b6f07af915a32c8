import PocketTools.Proofs.Command.Precedence
import PocketTools.Proofs.Settings.WholeFile

/-!
# Sections of a file that is valid as a whole

A file that gives the settings of all tools gives each tool its own, with two exceptions. A section
that is read alone may be neither a date-time nor an array with items to spare
(`Toml.Value.standsAlone`), and no section can be read alone from a document with a table that is
marked as a date-time and is none (`loaded_alone_of_whole`).
-/

namespace PocketTools.Toml

/-- Whether a value that is a section of a whole file is one on its own. -/
def Value.standsAlone : Value → Bool
  | .array (_ :: _ :: _) => false
  | .table entries => (Table.marked? entries).isNone
  | .dateTime _ => false
  | _ => true

variable {value resolved : Value} {entries : List (String × Value)}

/-- A table that is not marked stays a table. -/
theorem resolve?_of_unmarked (unmarked : Table.marked? entries = none) :
    (Value.table entries).resolve? = (resolveEntries? entries).map .table := by
  rw [Value.resolve?, unmarked]

/-- A table that is marked turns into a date-time, if into anything. -/
theorem resolve?_of_marked {under : Value} (marked : Table.marked? entries = some under)
    (done : (Value.table entries).resolve? = some resolved) :
    ∃ literal, resolved = .dateTime literal := by
  rcases resolve?_table done with ⟨others, same, rfl⟩ | ⟨-, literal, rfl⟩
  · rw [Value.resolve?, marked] at done
    cases under with
    | string text =>
        simp only [Value.toDateTime?, Option.ite_none_right_eq_some] at done
        cases done.2
    | integer | float | boolean | dateTime | array | table => cases done
  · exact ⟨literal, rfl⟩

end PocketTools.Toml

namespace PocketTools.Settings

open Command Files Journal Toml

/-! ## One section -/

section Alone

variable {α β : Type} {value resolved : Value} {name : String}

/-- A section that stands alone has the same field read alone as in the whole file. -/
theorem onlyField?_of_standsAlone (alone : value.standsAlone)
    (done : value.resolve? = some resolved) {field : Option Value}
    (whole : onlyField? .wholeFile name value = some field) :
    ∃ given, onlyField? .alone name resolved = some given ∧
      Option.Rel (fun before after => before.resolve? = some after) field given := by
  cases value with
  | string | integer | float | boolean => cases whole
  | dateTime => cases alone
  | array items =>
      obtain ⟨others, same, rfl⟩ := resolve?_array done
      match items with
      | [] =>
          cases same
          cases whole
          exact ⟨none, rfl, .none⟩
      | [item] =>
          obtain ⟨other, rest, here, none, rfl⟩ := resolveItems?_cons same
          cases none
          cases whole
          exact ⟨some other, rfl, .some here⟩
      | _ :: _ :: _ => cases alone
  | table entries =>
      have unmarked : Table.marked? entries = none := Option.isNone_iff_eq_none.mp alone
      rw [resolve?_of_unmarked unmarked, Option.map_eq_some_iff] at done
      obtain ⟨others, same, rfl⟩ := done
      cases whole
      exact ⟨others.lookup name, rfl, rel_lookup_resolveEntries same name⟩

/-- A section that does not stand alone has no field when it is read alone. -/
theorem onlyField?_of_not_standsAlone (broken : value.standsAlone = false)
    (done : value.resolve? = some resolved) : onlyField? .alone name resolved = none := by
  cases value with
  | string | integer | float | boolean => cases broken
  | dateTime =>
      cases done
      rfl
  | array items =>
      obtain ⟨others, same, rfl⟩ := resolve?_array done
      match items with
      | [] => cases broken
      | [_] => cases broken
      | _ :: _ :: _ =>
          obtain ⟨_, _, -, more, rfl⟩ := resolveItems?_cons same
          obtain ⟨_, _, -, -, rfl⟩ := resolveItems?_cons more
          rfl
  | table entries =>
      cases marked : Table.marked? entries with
      | none =>
          rw [Value.standsAlone, marked] at broken
          cases broken
      | some under =>
          obtain ⟨literal, rfl⟩ := resolve?_of_marked marked done
          rfl

/-- A section with one field that is valid in the whole file. -/
theorem ofValue?_alone {ofValue? : Scope → Value → Option β} {decode? : Value → Option α}
    {default settings : β} {make : α → β}
    (shape : ∀ scope value, ofValue? scope value =
      match onlyField? scope name value with
      | none => none
      | some none => some default
      | some (some field) => (decode? field).map make)
    (decodes : ∀ {value resolved : Value}, value.resolve? = some resolved →
      decode? resolved = decode? value)
    (done : value.resolve? = some resolved) (whole : ofValue? .wholeFile value = some settings) :
    ofValue? .alone resolved = if value.standsAlone then some settings else none := by
  rw [shape] at whole ⊢
  by_cases alone : value.standsAlone
  · rw [if_pos alone]
    cases field : onlyField? .wholeFile name value with
    | none =>
        rw [field] at whole
        cases whole
    | some before =>
        obtain ⟨after, given, same⟩ := onlyField?_of_standsAlone alone done field
        rw [field] at whole
        rw [given]
        cases same with
        | none => exact whole
        | some inside =>
            simp only [decodes inside]
            exact whole
  · rw [if_neg alone, onlyField?_of_not_standsAlone (Bool.eq_false_iff.mpr alone) done]

/-- What the whole file takes as the converter's section is accepted alone if it stands
alone, as the same settings. -/
theorem Binary.ofValue?_alone {settings : Binary} (done : value.resolve? = some resolved)
    (whole : Binary.ofValue? .wholeFile value = some settings) :
    Binary.ofValue? .alone resolved = if value.standsAlone then some settings else none :=
  Settings.ofValue?_alone (fun _ _ => rfl) modeOfValue?_resolve done whole

theorem Vm.ofValue?_alone {settings : Vm} (done : value.resolve? = some resolved)
    (whole : Vm.ofValue? .wholeFile value = some settings) :
    Vm.ofValue? .alone resolved = if value.standsAlone then some settings else none :=
  Settings.ofValue?_alone (fun _ _ => rfl) stepsOfValue?_resolve done whole

/-- Whether a section can be read alone from a document. -/
def ReadsAlone (name : String) (table : Table) : Prop :=
  table.WellMarked ∧ (table.lookup name).all Value.standsAlone

instance (name : String) (table : Table) : Decidable (ReadsAlone name table) :=
  inferInstanceAs (Decidable (_ ∧ _))

/-- A section that the whole file takes under its name, or lacks, is accepted alone if it stands
alone, as the same settings. -/
theorem sectionAlone?_of_entryOr {inFile alone? : Value → Option β} {default settings : β}
    {table : Table}
    (decodes : ∀ {value resolved : Value}, value.resolve? = some resolved →
      inFile value = some settings →
      alone? resolved = if value.standsAlone then some settings else none)
    (whole : entryOr inFile default (table.lookup name) = some settings) :
    sectionAlone? alone? default name table =
      if ReadsAlone name table then some settings else none := by
  rw [sectionAlone?]
  cases resolved : resolveEntries? table with
  | none =>
      have broken : ¬ ReadsAlone name table := by
        intro reads
        have marked := reads.1
        rw [Table.WellMarked, resolved] at marked
        cases marked
      rw [if_neg broken, Option.bind_none]
  | some others =>
      have reads : ReadsAlone name table ↔ (table.lookup name).all Value.standsAlone := by
        rw [ReadsAlone, Table.WellMarked, resolved]
        exact and_iff_right rfl
      have each := rel_lookup_resolveEntries resolved name
      simp only [reads, Option.bind_some]
      revert whole each
      generalize table.lookup name = before
      generalize others.lookup name = after
      intro whole each
      cases each with
      | none => exact whole
      | some here => exact decodes here whole

end Alone

/-! ## The loaders -/

section Loaders

variable {fs : FileSystem} {path : Path} {table other : Table}

/-- A table that was read is that of the document there, and without a table there is no file. -/
theorem found_of_readTable {content : Option Table}
    (read : readTable parse fs path = .ok content) :
    content.elim (fs.exists? path = false) (DocumentAt fs path) := by
  rw [readTable, readIfPresent] at read
  by_cases there : fs.exists? path = true
  · rw [if_pos there] at read
    cases reads : fs.readText path with
    | error cause =>
        rw [reads] at read
        cases read
    | ok text =>
        simp only [reads] at read
        cases document : parse text with
        | none =>
            rw [document] at read
            cases read
        | some table =>
            rw [document] at read
            cases read
            exact ⟨there, text, reads, document⟩
  · rw [if_neg there] at read
    cases read
    exact Bool.eq_false_iff.mpr there

/-- A file holds one document. -/
theorem DocumentAt.unique (document : DocumentAt fs path table)
    (document' : DocumentAt fs path other) : other = table := by
  obtain ⟨text, reads, parsed⟩ := document.reads
  obtain ⟨text', reads', parsed'⟩ := document'.reads
  rw [reads] at reads'
  cases reads'
  rw [parsed] at parsed'
  exact (Option.some.inj parsed').symm

/-- A document is read as its table. -/
theorem DocumentAt.readTable_parse (document : DocumentAt fs path table) :
    readTable parse fs path = .ok (some table) := by
  obtain ⟨text, reads, parsed⟩ := document.reads
  rw [readTable, readIfPresent, if_pos document.there, reads]
  simp only [parsed]

/-- The whole file loads as what its table is decoded to. -/
theorem DocumentAt.result_loadTools (document : DocumentAt fs path table) :
    (loadTools fs path).result = settingsOf Tools.ofTable? {} (.ok (some table)) := by
  rw [result_loadTools_eq, document.readTable_parse]

/-- What loading a section alone comes to if the file as a whole gives these settings. -/
def loadedAlone {α : Type} (name : String) (table : Table) (settings : α) : Except Fault α :=
  if ReadsAlone name table then .ok settings else .error .malformed

/-- What the loader of one section comes to on a table that the whole file takes. -/
theorem settingsOf_sectionAlone? {α : Type} {inFile alone? : Value → Option α}
    {default settings : α} {name : String}
    (decodes : ∀ {value resolved : Value}, value.resolve? = some resolved →
      inFile value = some settings →
      alone? resolved = if value.standsAlone then some settings else none)
    (whole : entryOr inFile default (table.lookup name) = some settings) :
    settingsOf (sectionAlone? alone? default name) default (.ok (some table)) =
      loadedAlone name table settings := by
  rw [settingsOf, sectionAlone?_of_entryOr decodes whole, loadedAlone]
  by_cases reads : ReadsAlone name table
  · rw [if_pos reads, if_pos reads]
  · rw [if_neg reads, if_neg reads]

/-- **What a file that is valid as a whole gives each tool.** With no variable set, a tool loads
the settings that the whole file gives it if its section can be read alone, and fails if not. If
there is no file, every tool loads its defaults. -/
theorem loaded_alone_of_whole {tools : Tools} (whole : (loadTools fs path).result = .ok tools) :
    let binary := (loadBinary fs (fun _ => none) path).result
    let vm := (loadVm fs (fun _ => none) path).result
    fs.exists? path = false ∧ binary = .ok tools.binary ∧ vm = .ok tools.vm ∨
      ∃ table, DocumentAt fs path table ∧
        binary = loadedAlone "binary" table tools.binary ∧
        vm = loadedAlone "vm" table tools.vm := by
  rw [result_loadBinary_unset, result_loadVm_unset]
  rw [result_loadTools_eq] at whole
  rcases settingsOf_eq_ok_iff.mp whole with ⟨nothing, rfl⟩ | ⟨table, document, decoded⟩
  · refine .inl ⟨found_of_readTable nothing, ?_⟩
    rw [nothing]
    exact ⟨rfl, rfl⟩
  · obtain ⟨converter, computer⟩ := Tools.ofTable?_eq_some_iff.mp decoded
    refine .inr ⟨table, found_of_readTable document, ?_⟩
    rw [document]
    exact ⟨settingsOf_sectionAlone? Binary.ofValue?_alone converter,
      settingsOf_sectionAlone? Vm.ofValue?_alone computer⟩

/-- A text that gives settings for all tools, as a settings file. -/
theorem exists_documentAt_filesWith {text : String} {tools : Tools}
    (decoded : (parse text).bind Tools.ofTable? = some tools) :
    ∃ table, parse text = some table ∧ DocumentAt (filesWith text) file table ∧
      (loadTools (filesWith text) file).result = .ok tools := by
  obtain ⟨table, parsed, given⟩ := Option.bind_eq_some_iff.mp decoded
  have document : DocumentAt (filesWith text) file table :=
    ⟨exists_filesWith text, text, readText_filesWith text, parsed⟩
  refine ⟨table, parsed, document, ?_⟩
  rw [document.result_loadTools, settingsOf, given]

end Loaders

/-- A settings file with a section for each tool, that of the computer a date. -/
def datedBudget : String :=
  "binary = [\"reject\"]\nvm = 1979-05-27\n"

/-- The converter loads its mode from the file, and the computer loads nothing. -/
theorem loaded_alone_of_datedBudget :
    (loadTools (filesWith datedBudget) file).result = .ok ⟨⟨.reject⟩, ⟨10000⟩⟩ ∧
      (loadBinary (filesWith datedBudget) (fun _ => none) file).result = .ok ⟨.reject⟩ ∧
      (loadVm (filesWith datedBudget) (fun _ => none) file).result = .error .malformed := by
  have decoded : (parse datedBudget).bind Tools.ofTable? = some ⟨⟨.reject⟩, ⟨10000⟩⟩ := by
    decide +kernel
  have sections : (parse datedBudget).map
      (fun table => (decide (ReadsAlone "binary" table), decide (ReadsAlone "vm" table))) =
        some (true, false) := by
    decide +kernel
  obtain ⟨table, parsed, document, whole⟩ := exists_documentAt_filesWith decoded
  rw [parsed, Option.map_some, Option.some.injEq, Prod.mk.injEq] at sections
  have converterAlone : ReadsAlone "binary" table := of_decide_eq_true sections.1
  have computerAlone : ¬ ReadsAlone "vm" table := of_decide_eq_false sections.2
  refine ⟨whole, ?_⟩
  rcases loaded_alone_of_whole whole with ⟨absent, -⟩ | ⟨table, document', converter, computer⟩
  · cases absent
  · obtain rfl := document.unique document'
    rw [converter, computer, loadedAlone, loadedAlone, if_pos converterAlone,
      if_neg computerAlone]
    exact ⟨rfl, rfl⟩

/-- A settings file whose only section is the computer's, with a budget and one item more. -/
def spareBudget : String :=
  "vm = [5, 6]\n"

/-- The whole file takes an array as the computer's section. -/
theorem ofTable?_spareBudget :
    (parse spareBudget).bind Tools.ofTable? = some ⟨⟨.wrap⟩, ⟨5⟩⟩ := by
  decide +kernel

/-- **A valid file that a tool cannot load.** The file as a whole gives a budget, and yet the
computer does not load one from it. -/
theorem unusable_with_spareBudget :
    (loadTools (filesWith spareBudget) file).result = .ok ⟨⟨.wrap⟩, ⟨5⟩⟩ ∧
      ∀ settings,
        (loadVm (filesWith spareBudget) (fun _ => none) file).result ≠ .ok settings := by
  have broken : ((parse spareBudget).map
      (sectionAlone? (Vm.ofValue? .alone) {} "vm")) = some none := by
    decide +kernel
  obtain ⟨table, parsed, document, whole⟩ := exists_documentAt_filesWith ofTable?_spareBudget
  rw [parsed, Option.map_some, Option.some.injEq] at broken
  refine ⟨whole, ?_⟩
  intro settings loaded
  rw [result_loadVm_unset, document.readTable_parse, settingsOf, broken] at loaded
  cases loaded

end PocketTools.Settings
