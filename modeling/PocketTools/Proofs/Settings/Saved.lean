import PocketTools.Proofs.Settings.ForeignBudget
import PocketTools.Proofs.Settings.Validated
import PocketTools.Proofs.Toml.Ranged

/-!
# Saved settings load back

Settings are saved as a document with one section for each tool. Every loader gets back from it
what was saved, as long as the budget is one that a document can hold. Budgets that were loaded
from a document are such ones (`maxSteps_lt_of_loaded`), so what was loaded can be saved and
loaded again as often as one likes (`saved_settings_load_back`).
-/

namespace PocketTools.Settings

open Command Files Journal Toml

/-- A file that holds a text. -/
structure Holds (fs : FileSystem) (path : Path) (text : String) : Prop where
  there : fs.exists? path = true
  bytes : fs.readBytes path = .ok (Text.encode text)

variable {fs : FileSystem} {path : Path} {tools : Tools} {text : String}

/-- A file reads as the text that it holds. -/
theorem Holds.readText_eq (holds : Holds fs path text) : fs.readText path = .ok text :=
  readText_of_readBytes holds.bytes

/-- The settings file holds the text that it was made with. -/
theorem holds_filesWith (text : String) : Holds (filesWith text) file text :=
  ⟨exists_filesWith text, readBytes_of_openFile rfl⟩

/-! ## The document -/

/-- The document that settings are saved as. -/
def Tools.document (tools : Tools) : Table :=
  [("binary", .table [("overflow", .string tools.binary.overflow.word)]),
    ("vm", .table [("max_steps", .integer tools.vm.maxSteps.toNat)])]

/-- The text that settings are saved as, character by character. -/
theorem toList_render (tools : Tools) :
    tools.render.toList =
      '[' :: ("binary".toList ++ ']' :: '\n' ::
        ("overflow".toList ++ ' ' :: '=' :: ' ' ::
          (('"' :: (tools.binary.overflow.word.toList ++ ['"'])) ++ '\n' :: '\n' ::
            '[' :: ("vm".toList ++ ']' :: '\n' ::
              ("max_steps".toList ++ ' ' :: '=' :: ' ' ::
                (Nat.toDigits 10 tools.vm.maxSteps.toNat ++ ['\n'])))))) := by
  have budget : toString tools.vm.maxSteps = tools.vm.maxSteps.toNat.repr := rfl
  unfold Tools.render
  simp only [String.toList_append, budget, Nat.toList_repr, List.append_assoc]
  simp

/-- A number below half of the words is in range. -/
theorem inRange_of_lt {n : Nat} (small : n < 2 ^ 63) : inRange n := by
  rw [inRange_iff]
  omega

/-- Saved settings are read as their document. -/
theorem parse_render (small : tools.vm.maxSteps.toNat < 2 ^ 63) :
    parse tools.render = some tools.document := by
  have chars := toList_render tools
  have unmarked : dropMark tools.render.toList = tools.render.toList := by
    rw [chars]
    rfl
  have budget : ReadAs (Nat.toDigits 10 tools.vm.maxSteps.toNat)
      (some (.integer tools.vm.maxSteps.toNat)) := by
    have read := (Literal.toDigits tools.vm.maxSteps.toNat).readAs
    rwa [if_pos (inRange_of_lt small)] at read
  -- five lines, and one more round for the end of the document
  obtain ⟨bound, length⟩ : ∃ bound, tools.render.toList.length = bound + 5 := by
    apply Nat.exists_eq_add_of_le'
    simp only [chars, List.length_cons, List.length_append]
    omega
  have statements : statements? (bound + 6) tools.render.toList =
      some [.header ["binary"], .assignment ["overflow"] (.string tools.binary.overflow.word),
        .header ["vm"], .assignment ["max_steps"] (.integer tools.vm.maxSteps.toNat)] := by
    rw [chars, statements?_header _ (by decide) (.newline _),
      statements?_assignment _ (by decide) (readAs_word tools.binary.overflow) (.newline _),
      statements?_newline, statements?_header _ (by decide) (.newline _),
      statements?_assignment _ (by decide) budget (.newline _)]
    rfl
  simp only [parse, unmarked, length]
  rw [statements]
  rfl

/-- Nothing in saved settings is marked, so the resolved document is the same. -/
theorem parseResolved_render (small : tools.vm.maxSteps.toNat < 2 ^ 63) :
    parseResolved tools.render = some tools.document := by
  rw [parseResolved, parse_render small]
  rfl

/-! ## Loading what was saved -/

/-- The word of a mode is decoded as that mode. -/
theorem modeOfValue?_word (mode : OverflowMode) : modeOfValue? (.string mode.word) = some mode :=
  OverflowMode.ofWord?_eq_some_iff.mpr rfl

theorem stepsOfValue?_toNat (steps : UInt64) :
    stepsOfValue? (.integer steps.toNat) = some steps := by
  rw [stepsOfValue?, if_pos (Int.natCast_nonneg _), Int.toNat_natCast, UInt64.ofNat_toNat]

/-- A section with the word of a mode is decoded as that setting, read alone or in the whole
file. -/
theorem Binary.ofValue?_word (scope : Scope) (mode : OverflowMode) :
    Binary.ofValue? scope (.table [("overflow", .string mode.word)]) = some ⟨mode⟩ := by
  have given : onlyField? scope "overflow" (.table [("overflow", .string mode.word)]) =
      some (some (.string mode.word)) := rfl
  simp only [Binary.ofValue?, given, modeOfValue?_word, Option.map_some]

theorem Vm.ofValue?_toNat (scope : Scope) (steps : UInt64) :
    Vm.ofValue? scope (.table [("max_steps", .integer steps.toNat)]) = some ⟨steps⟩ := by
  have given : onlyField? scope "max_steps" (.table [("max_steps", .integer steps.toNat)]) =
      some (some (.integer steps.toNat)) := rfl
  simp only [Vm.ofValue?, given, stepsOfValue?_toNat, Option.map_some]

/-- The document of settings is decoded as these settings. -/
theorem Tools.ofTable?_document (tools : Tools) : Tools.ofTable? tools.document = some tools := by
  have converter : tools.document.lookup "binary" =
      some (.table [("overflow", .string tools.binary.overflow.word)]) := rfl
  have computer : tools.document.lookup "vm" =
      some (.table [("max_steps", .integer tools.vm.maxSteps.toNat)]) := rfl
  rw [Tools.ofTable?_eq_some_iff, converter, computer]
  exact ⟨Binary.ofValue?_word .wholeFile _, Vm.ofValue?_toNat .wholeFile _⟩

namespace Holds

variable (holds : Holds fs path tools.render) (small : tools.vm.maxSteps.toNat < 2 ^ 63)

include holds small

/-- The whole file loads back as the settings saved. -/
theorem result_loadTools : (loadTools fs path).result = .ok tools := by
  have document : DocumentAt fs path tools.document :=
    ⟨holds.there, _, holds.readText_eq, parse_render small⟩
  rw [document.result_loadTools, settingsOf, tools.ofTable?_document]

/-- The converter's section loads back as the setting saved. -/
theorem result_loadBinary : (loadBinary fs (fun _ => none) path).result = .ok tools.binary :=
  Settings.result_loadBinary (.value holds.there holds.readText_eq (parseResolved_render small)
    rfl rfl (modeOfValue?_word tools.binary.overflow)) (.unset rfl)

theorem result_loadVm : (loadVm fs (fun _ => none) path).result = .ok tools.vm :=
  Settings.result_loadVm (.value holds.there holds.readText_eq (parseResolved_render small)
    rfl rfl (stepsOfValue?_toNat tools.vm.maxSteps)) (.unset rfl)

end Holds

/-! ## Saving what was loaded -/

section Loaded

variable {scope : Scope} {name : String} {value field : Value}

/-- The field of a value whose integers are in range has its integers in range. -/
theorem onlyField?_ranged (ranged : value.Ranged)
    (given : onlyField? scope name value = some (some field)) : field.Ranged := by
  cases ranged with
  | string | integer | float | boolean => cases given
  | dateTime =>
      cases scope with
      | alone => cases given
      | wholeFile => cases given
  | @array items all =>
      match items with
      | [] => cases given
      | item :: rest =>
          obtain ⟨-, same⟩ := Option.ite_none_left_eq_some.mp given
          cases same
          exact all field List.mem_cons_self
  | table all => exact Table.Ranged.lookup all (Option.some.inj given)

/-- A budget that is decoded from a document is below half of the words. -/
theorem stepsOfValue?_lt (ranged : field.Ranged) {steps : UInt64}
    (decoded : stepsOfValue? field = some steps) : steps.toNat < 2 ^ 63 := by
  cases ranged with
  | string | float | boolean | dateTime | array | table => cases decoded
  | @integer n within =>
      obtain ⟨nonnegative, same⟩ := Option.ite_none_right_eq_some.mp decoded
      cases same
      have bounds := (inRange_iff n).mp within
      rw [UInt64.toNat_ofNat']
      omega

/-- A section that is decoded from a document has its budget below half of the words. -/
theorem maxSteps_lt_of_ofValue? (ranged : value.Ranged) {settings : Vm}
    (decoded : Vm.ofValue? scope value = some settings) : settings.maxSteps.toNat < 2 ^ 63 := by
  rw [Vm.ofValue?] at decoded
  cases given : onlyField? scope "max_steps" value with
  | none =>
      rw [given] at decoded
      cases decoded
  | some entry =>
      rw [given] at decoded
      cases entry with
      | none =>
          cases decoded
          decide
      | some field =>
          obtain ⟨steps, found, rfl⟩ := Option.map_eq_some_iff.mp decoded
          exact stepsOfValue?_lt (onlyField?_ranged ranged given) found

/-- **A loaded budget can be saved.** -/
theorem maxSteps_lt_of_loaded (whole : (loadTools fs path).result = .ok tools) :
    tools.vm.maxSteps.toNat < 2 ^ 63 := by
  rw [result_loadTools_eq] at whole
  rcases settingsOf_eq_ok_iff.mp whole with ⟨-, rfl⟩ | ⟨table, document, decoded⟩
  · decide
  · have found : DocumentAt fs path table := found_of_readTable document
    obtain ⟨text, -, parsed⟩ := found.reads
    have computer := (Tools.ofTable?_eq_some_iff.mp decoded).2
    cases given : table.lookup "vm" with
    | none =>
        rw [given] at computer
        rw [← Option.some.inj computer]
        decide
    | some value =>
        rw [given] at computer
        exact maxSteps_lt_of_ofValue? ((parse_ranged parsed).lookup given) computer

end Loaded

/-- The text that the settings in a file are saved as. -/
def resaved (fs : FileSystem) (path : Path) : Except Fault String :=
  (loadTools fs path).result.map Tools.render

/-- **Saved settings load back.** Settings are saved as a section for each tool, the mode by its
word and the budget in decimal. If the budget is below `2 ^ 63`, every loader gets back from a
file with that text what was saved. Whatever was loaded from a file is such settings, so saving
and loading it gives it again, and saving it once more the same text. -/
theorem saved_settings_load_back :
    (∀ tools : Tools, tools.vm.maxSteps.toNat < 2 ^ 63 →
      (∃ digits, Magnitude digits digits ∧
        Text.decimalValue digits = tools.vm.maxSteps.toNat ∧
        tools.render = "\n".intercalate ["[binary]",
          "overflow = \"" ++ tools.binary.overflow.word ++ "\"", "",
          "[vm]", "max_steps = " ++ String.ofList digits, ""]) ∧
      ∀ fs path, Holds fs path tools.render →
        (loadTools fs path).result = .ok tools ∧
        (loadBinary fs (fun _ => none) path).result = .ok tools.binary ∧
        (loadVm fs (fun _ => none) path).result = .ok tools.vm) ∧
    (∀ fs path tools, (loadTools fs path).result = .ok tools →
      ∀ fs' path', Holds fs' path' tools.render → (loadTools fs' path').result = .ok tools) ∧
    ∀ fs path text, resaved fs path = .ok text →
      ∀ fs' path', Holds fs' path' text → resaved fs' path' = .ok text := by
  have again : ∀ {fs path tools}, (loadTools fs path).result = .ok tools →
      ∀ fs' path', Holds fs' path' tools.render → (loadTools fs' path').result = .ok tools := by
    intro fs path tools whole fs' path' holds
    exact holds.result_loadTools (maxSteps_lt_of_loaded whole)
  refine ⟨?_, fun fs path tools => again, ?_⟩
  · intro tools small
    refine ⟨⟨Nat.toDigits 10 tools.vm.maxSteps.toNat, .toDigits _, Text.decimalValue_toDigits _,
      ?_⟩, ?_⟩
    · apply String.toList_inj.mp
      rw [toList_render]
      simp
    · intro fs path holds
      exact ⟨holds.result_loadTools small, holds.result_loadBinary small,
        holds.result_loadVm small⟩
  · intro fs path text saved fs' path' holds
    rw [resaved] at saved ⊢
    cases whole : (loadTools fs path).result with
    | error fault =>
        rw [whole] at saved
        cases saved
    | ok tools =>
        rw [whole] at saved
        cases saved
        rw [again whole fs' path' holds]
        rfl

/-- The greatest budget that can be saved is loaded back, and so is one that was loaded from an
array and is saved as a table. -/
theorem saved_settings_load_back_of_greatest :
    let tools : Tools := ⟨⟨.reject⟩, ⟨9223372036854775807⟩⟩
    (tools.vm.maxSteps.toNat < 2 ^ 63 ∧
      Holds (filesWith tools.render) file tools.render ∧
      (loadTools (filesWith tools.render) file).result = .ok tools ∧
      (loadBinary (filesWith tools.render) (fun _ => none) file).result = .ok tools.binary ∧
      (loadVm (filesWith tools.render) (fun _ => none) file).result = .ok tools.vm) ∧
    ∃ text, resaved (filesWith spareBudget) file = .ok text ∧
      (loadTools (filesWith text) file).result = .ok ⟨⟨.wrap⟩, ⟨5⟩⟩ ∧
      resaved (filesWith text) file = .ok text := by
  intro tools
  have small : tools.vm.maxSteps.toNat < 2 ^ 63 := by decide
  obtain ⟨table, -, -, whole⟩ := exists_documentAt_filesWith ofTable?_spareBudget
  obtain ⟨fromSaved, fromLoaded, fromResaved⟩ := saved_settings_load_back
  refine ⟨⟨small, holds_filesWith _, (fromSaved tools small).2 _ _ (holds_filesWith _)⟩, ?_⟩
  refine ⟨Tools.render ⟨⟨.wrap⟩, ⟨5⟩⟩, ?_, ?_, ?_⟩
  · rw [resaved, whole]
    rfl
  · exact fromLoaded _ _ _ whole _ _ (holds_filesWith _)
  · apply fromResaved (filesWith spareBudget) file _ _ _ _ (holds_filesWith _)
    rw [resaved, whole]
    rfl

end PocketTools.Settings
