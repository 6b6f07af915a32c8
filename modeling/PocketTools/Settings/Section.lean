import PocketTools.Settings.Basic
import PocketTools.Toml.Value

/-! # Settings from TOML values

A section gives its fields by name in a table or in order in an array. Fields
that are not given keep their defaults, and unknown ones are not looked at. A
section read on its own is held to more than the same section in a whole file:
only there may an array be too long or a date-time stand for an empty table.
-/

namespace PocketTools.Settings

open Toml

/-- What a section is read as part of. -/
inductive Scope where
  /-- The section alone. -/
  | alone
  /-- The whole file. -/
  | wholeFile
  deriving DecidableEq, Repr

/-- The value that a section gives its only field; the inner `none` if it gives
none, the outer if it is no section. -/
def onlyField? (scope : Scope) (name : String) : Value → Option (Option Value)
  | .table entries => some (entries.lookup name)
  | .array [] => some none
  | .array (value :: rest) =>
      if scope = .alone ∧ rest ≠ [] then none else some (some value)
  | .dateTime _ => if scope = .wholeFile then some none else none
  | _ => none

/-- Whether a value says nothing but that it is there. -/
def isUnit : Value → Bool
  | .table [] => true
  | .array [] => true
  | _ => false

/-- An overflow mode in a file: its word, or a table with the word as its only
key and nothing under it. -/
def modeOfValue? : Value → Option OverflowMode
  | .string word => OverflowMode.ofWord? word
  | .table [(word, value)] => if isUnit value then OverflowMode.ofWord? word else none
  | _ => none

/-- An instruction budget in a file: an integer that is not negative. -/
def stepsOfValue? : Value → Option UInt64
  | .integer n => if 0 ≤ n then some (UInt64.ofNat n.toNat) else none
  | _ => none

/-- The converter's settings that a section gives. -/
def Binary.ofValue? (scope : Scope) (value : Value) : Option Binary :=
  match onlyField? scope "overflow" value with
  | none => none
  | some none => some {}
  | some (some field) => (modeOfValue? field).map fun mode => { overflow := mode }

/-- The computer's settings that a section gives. -/
def Vm.ofValue? (scope : Scope) (value : Value) : Option Vm :=
  match onlyField? scope "max_steps" value with
  | none => none
  | some none => some {}
  | some (some field) => (stepsOfValue? field).map fun steps => { maxSteps := steps }

/-- The settings that an entry gives, or the defaults if there is none. -/
def entryOr {α : Type} (ofValue? : Value → Option α) (default : α) : Option Value → Option α
  | none => some default
  | some value => ofValue? value

/-- The settings of all tools that a whole file gives. -/
def Tools.ofTable? (table : Table) : Option Tools := do
  let binary ← entryOr (Binary.ofValue? .wholeFile) {} (table.lookup "binary")
  let vm ← entryOr (Vm.ofValue? .wholeFile) {} (table.lookup "vm")
  return ⟨binary, vm⟩

end PocketTools.Settings
