import PocketTools.Settings.Basic

/-! # Settings from the environment

A variable overrides one setting. A blank variable counts as none, and an
invalid one leaves the settings as they were.
-/

namespace PocketTools.Settings

/-- The variables of an environment. -/
abbrev Environment := String → Option String

/-- The variable that sets the overflow mode. -/
def overflowVariable : String := "ARCHTOOLS_OVERFLOW"

/-- The variable that sets the instruction budget. -/
def maxStepsVariable : String := "ARCHTOOLS_VM_MAX_STEPS"

/-- An overflow mode by its word, in letters of any case and with blanks around
it. -/
def readMode (s : String) : Except ValueFault OverflowMode :=
  let word := Text.lowerAscii (Text.trim s)
  match OverflowMode.ofWord? word with
  | some mode => .ok mode
  | none => .error (.unknownMode word)

/-- An instruction budget in decimal, with blanks around it. -/
def readSteps (s : String) : Except ValueFault UInt64 :=
  match Text.readUnsigned (Text.trim s) with
  | .ok n => .ok n
  | .error cause => .error (.badNumber cause)

/-- The setting that a variable gives: none if it is unset or blank. -/
def setting? {α : Type} (environment : Environment) (key : String)
    (read : String → Except ValueFault α) : Except Fault (Option α) :=
  match environment key with
  | none => .ok none
  | some s =>
      if Text.trim s = "" then .ok none
      else
        match read s with
        | .ok a => .ok (some a)
        | .error cause => .error (.badVariable key cause)

/-- The converter's settings with the environment's overflow mode. -/
def Binary.override (environment : Environment) (settings : Binary) : Except Fault Binary :=
  match setting? environment overflowVariable readMode with
  | .ok (some mode) => .ok { settings with overflow := mode }
  | .ok none => .ok settings
  | .error fault => .error fault

/-- The computer's settings with the environment's instruction budget. -/
def Vm.override (environment : Environment) (settings : Vm) : Except Fault Vm :=
  match setting? environment maxStepsVariable readSteps with
  | .ok (some steps) => .ok { settings with maxSteps := steps }
  | .ok none => .ok settings
  | .error fault => .error fault

/-- What overriding the settings of all tools comes to. -/
structure Overridden where
  /-- What went wrong with the converter's settings, if anything. -/
  binaryFault : Option Fault
  /-- What went wrong with the computer's settings, if anything. -/
  vmFault : Option Fault
  /-- The settings afterwards; those that something went wrong with are as before. -/
  tools : Tools

/-- The settings after an attempt to change them, and what went wrong. -/
def attempt {α : Type} (before : α) : Except Fault α → Option Fault × α
  | .ok after => (none, after)
  | .error fault => (some fault, before)

/-- The settings of all tools with the environment's. Each tool's settings are
overridden whatever becomes of the other's. -/
def Tools.override (environment : Environment) (tools : Tools) : Overridden :=
  let binary := attempt tools.binary (tools.binary.override environment)
  let vm := attempt tools.vm (tools.vm.override environment)
  ⟨binary.1, vm.1, ⟨binary.2, vm.2⟩⟩

end PocketTools.Settings
