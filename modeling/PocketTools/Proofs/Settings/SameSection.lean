import Mathlib.Data.List.Forall2
import PocketTools.Proofs.Settings.Sources
import PocketTools.Proofs.Toml.Resolved

/-!
# Documents with the same section

Two documents have the same section if the values under its key are alike
(`Toml.SameSection`): the same but for the order of keys. A tool that loads its section
from either of them gets the same settings, whatever stands under other keys, unless one
of the documents has a table that is marked as a date-time and is none
(`loadBinary_eq_of_sameSection`, `loadVm_eq_of_sameSection`).
-/

namespace PocketTools.Toml

/-- **Values that are alike.** They are the same value, whatever the order of the keys in
their tables. Two floats are not told apart, and neither are two date-times: no setting is
one. -/
inductive Value.Alike : Value → Value → Prop where
  | string (text : String) : Alike (.string text) (.string text)
  | integer (n : Int) : Alike (.integer n) (.integer n)
  | float (literal other : String) : Alike (.float literal) (.float other)
  | boolean (b : Bool) : Alike (.boolean b) (.boolean b)
  | dateTime (literal other : String) : Alike (.dateTime literal) (.dateTime other)
  | array {items others : List Value} (same : List.Forall₂ Alike items others) :
      Alike (.array items) (.array others)
  | table {entries others : List (String × Value)} (count : entries.length = others.length)
      (same : ∀ key, Option.Rel Alike (entries.lookup key) (others.lookup key)) :
      Alike (.table entries) (.table others)

namespace Value.Alike

mutual

/-- Every value is like itself. -/
theorem refl : (value : Value) → Alike value value
  | .string text => .string text
  | .integer n => .integer n
  | .float literal => .float literal literal
  | .boolean b => .boolean b
  | .dateTime literal => .dateTime literal literal
  | .array items => .array (refl_items items)
  | .table entries => .table rfl (refl_entries entries)

theorem refl_items : (items : List Value) → List.Forall₂ Alike items items
  | [] => .nil
  | item :: rest => .cons (refl item) (refl_items rest)

theorem refl_entries : (entries : List (String × Value)) → ∀ key,
    Option.Rel Alike (entries.lookup key) (entries.lookup key)
  | [], _ => .none
  | (name, value) :: rest, key => by
      rw [List.lookup_cons]
      cases key == name with
      | true => exact .some (refl value)
      | false => exact refl_entries rest key

end

end Value.Alike

/-- Every table that is marked as a date-time is one. -/
def Table.WellMarked (table : Table) : Prop :=
  (resolveEntries? table).isSome

instance (table : Table) : Decidable table.WellMarked :=
  inferInstanceAs (Decidable ((resolveEntries? table).isSome = true))

/-- **The same section.** Two documents have values under a key that are alike, or both
have none there. Tables that stand for date-times count as those. -/
def SameSection (name : String) (first second : Table) : Prop :=
  Option.Rel Value.Alike ((first.lookup name).bind Value.resolve?)
    ((second.lookup name).bind Value.resolve?)

/-- What stands under a key depends on nothing else in the document. -/
theorem SameSection.of_lookup_eq {name : String} {first second : Table}
    (same : first.lookup name = second.lookup name) : SameSection name first second := by
  rw [SameSection, same]
  cases (second.lookup name).bind Value.resolve? with
  | none => exact .none
  | some value => exact .some (.refl value)

end PocketTools.Toml

namespace PocketTools.Settings

open Files Journal Toml

/-! ## Sections that are alike give the same settings -/

variable {value other : Value}

/-- Values that are alike have fields that are alike. -/
theorem onlyField?_alike (alike : value.Alike other) (name : String) :
    Option.Rel (Option.Rel Value.Alike) (onlyField? .alone name value)
      (onlyField? .alone name other) := by
  cases alike with
  | table count same => exact .some (same name)
  | array same =>
      cases same with
      | nil => exact .some .none
      | cons head rest =>
          cases rest with
          | nil => exact .some (.some head)
          | cons _ _ => exact .none
  | string | integer | float | boolean | dateTime => exact .none

/-- Of values that are alike both are units or neither is. -/
theorem isUnit_eq_of_alike (alike : value.Alike other) : isUnit value = isUnit other := by
  cases alike with
  | @table entries others count same =>
      cases entries <;> cases others <;> first | rfl | cases count
  | array same => cases same <;> rfl
  | string | integer | float | boolean | dateTime => rfl

/-- Values that are alike are the same mode. -/
theorem modeOfValue?_eq_of_alike (alike : value.Alike other) :
    modeOfValue? value = modeOfValue? other := by
  cases alike with
  | @table entries others count same =>
      match entries, others, count with
      | [], [], _ => rfl
      | _ :: _ :: _, _ :: _ :: _, _ => rfl
      | [(word, inner)], [(word', inner')], _ =>
          -- the only key of the one is a key of the other, so it is its only key
          have under := same word
          rw [List.lookup_cons, beq_self_eq_true, List.lookup_cons] at under
          cases named : word == word' with
          | false =>
              rw [named] at under
              cases under
          | true =>
              rw [named] at under
              obtain rfl := eq_of_beq named
              cases under with
              | some inside => rw [modeOfValue?, modeOfValue?, isUnit_eq_of_alike inside]
  | string | array | integer | float | boolean | dateTime => rfl

theorem stepsOfValue?_eq_of_alike (alike : value.Alike other) :
    stepsOfValue? value = stepsOfValue? other := by
  cases alike <;> rfl

/-- A section with one field, from what it gives for that field. -/
theorem fields_eq_of_alike {α β : Type} {decode? : Value → Option α} {default : β} {make : α → β}
    {ofValue? : Value → Option β} {name : String}
    (shape : ∀ value, ofValue? value =
      match onlyField? .alone name value with
      | none => none
      | some none => some default
      | some (some field) => (decode? field).map make)
    (decodes : ∀ {value other : Value}, value.Alike other → decode? value = decode? other)
    (alike : value.Alike other) : ofValue? value = ofValue? other := by
  have given := onlyField?_alike alike name
  rw [shape, shape]
  revert given
  generalize onlyField? .alone name value = first
  generalize onlyField? .alone name other = second
  intro given
  rcases given with (inside | _) | _
  · simp only [decodes inside]
  · rfl
  · rfl

/-- Values that are alike are the same settings of the converter. -/
theorem Binary.ofValue?_eq_of_alike (alike : value.Alike other) :
    Binary.ofValue? .alone value = Binary.ofValue? .alone other :=
  fields_eq_of_alike (fun _ => rfl) modeOfValue?_eq_of_alike alike

theorem Vm.ofValue?_eq_of_alike (alike : value.Alike other) :
    Vm.ofValue? .alone value = Vm.ofValue? .alone other :=
  fields_eq_of_alike (fun _ => rfl) stepsOfValue?_eq_of_alike alike

/-! ## Loading from documents with the same section -/

/-- There is a TOML document at a path, and it writes a table. -/
structure DocumentAt (fs : FileSystem) (path : Path) (table : Table) : Prop where
  there : fs.exists? path = true
  reads : ∃ text, fs.readText path = .ok text ∧ parse text = some table

variable {α : Type} {fs fs' : FileSystem} {path : Path} {first second table : Table}
  {environment environment' : Environment}

/-- A document is read as its table, or as malformed if it is not well marked. -/
theorem DocumentAt.readTable_eq (document : DocumentAt fs path table) :
    readTable parseResolved fs path =
      match resolveEntries? table with
      | some resolved => .ok (some resolved)
      | none => .error .malformed := by
  obtain ⟨text, reads, parsed⟩ := document.reads
  rw [readTable_of_text document.there reads, parseResolved, parsed, Option.bind_some]
  rfl

/-- A document with a table that is wrongly marked gives no settings at all. -/
theorem DocumentAt.loadSection_of_misMarked (document : DocumentAt fs path table)
    (broken : ¬ table.WellMarked) (name : String) (ofValue? : Value → Option α) (default : α) :
    loadSection fs path name ofValue? default = ⟨[], .error .malformed⟩ := by
  rw [Table.WellMarked, Option.not_isSome_iff_eq_none] at broken
  rw [loadSection_eq, document.readTable_eq, broken]

/-- **A section is loaded alone.** Documents with the same section give the same settings and
note the same events, if both of them are well marked or neither is. -/
theorem loadSection_eq_of_sameSection (document : DocumentAt fs path first)
    (document' : DocumentAt fs' path second) {name : String}
    (same : SameSection name first second) (marked : first.WellMarked ↔ second.WellMarked)
    {ofValue? : Value → Option α}
    (decodes : ∀ {value other : Value}, value.Alike other → ofValue? value = ofValue? other)
    (default : α) :
    loadSection fs path name ofValue? default = loadSection fs' path name ofValue? default := by
  by_cases well : first.WellMarked
  · obtain ⟨table, resolved⟩ := Option.isSome_iff_exists.mp well
    obtain ⟨table', resolved'⟩ := Option.isSome_iff_exists.mp (marked.mp well)
    rw [SameSection, ← lookup_resolveEntries resolved, ← lookup_resolveEntries resolved'] at same
    rw [loadSection_eq, loadSection_eq, document.readTable_eq, document'.readTable_eq, resolved,
      resolved']
    simp only [Option.bind_some]
    revert same
    generalize table.lookup name = value
    generalize table'.lookup name = other
    rintro (alike | _)
    · simp only [decodes alike]
    · rfl
  · rw [document.loadSection_of_misMarked well,
      document'.loadSection_of_misMarked fun well' => well (marked.mpr well')]

/-- The converter's settings are loaded alike from documents that have its section in common. -/
theorem loadBinary_eq_of_sameSection (document : DocumentAt fs path first)
    (document' : DocumentAt fs' path second) (same : SameSection "binary" first second)
    (marked : first.WellMarked ↔ second.WellMarked)
    (agree : environment overflowVariable = environment' overflowVariable) :
    loadBinary fs environment path = loadBinary fs' environment' path := by
  rw [loadBinary, loadBinary, loadSection_eq_of_sameSection document document' same marked
    Binary.ofValue?_eq_of_alike]
  simp only [Binary.override_congr agree]

theorem loadVm_eq_of_sameSection (document : DocumentAt fs path first)
    (document' : DocumentAt fs' path second) (same : SameSection "vm" first second)
    (marked : first.WellMarked ↔ second.WellMarked)
    (agree : environment maxStepsVariable = environment' maxStepsVariable) :
    loadVm fs environment path = loadVm fs' environment' path := by
  rw [loadVm, loadVm, loadSection_eq_of_sameSection document document' same marked
    Vm.ofValue?_eq_of_alike]
  simp only [Vm.override_congr agree]

/-- From a document that is not well marked the converter's settings cannot be loaded. -/
theorem DocumentAt.result_loadBinary_of_misMarked (document : DocumentAt fs path table)
    (broken : ¬ table.WellMarked) (environment : Environment) :
    (loadBinary fs environment path).result = .error .malformed := by
  rw [loadBinary, document.loadSection_of_misMarked broken]
  rfl

theorem DocumentAt.result_loadVm_of_misMarked (document : DocumentAt fs path table)
    (broken : ¬ table.WellMarked) (environment : Environment) :
    (loadVm fs environment path).result = .error .malformed := by
  rw [loadVm, document.loadSection_of_misMarked broken]
  rfl

end PocketTools.Settings
