import PocketTools.Files.Basic
import PocketTools.Numeral
import PocketTools.Text.Blank
import PocketTools.Text.Decimal

/-! # Settings

Each tool that has settings has its own: the binary converter an overflow mode,
the computer an instruction budget.
-/

namespace PocketTools.Settings

/-- The settings of the binary converter. -/
structure Binary where
  overflow : OverflowMode := .wrap
  deriving DecidableEq, Repr

/-- The settings of the computer. -/
structure Vm where
  maxSteps : UInt64 := 10000
  deriving DecidableEq, Repr

/-- The settings of all tools. -/
structure Tools where
  binary : Binary := {}
  vm : Vm := {}
  deriving DecidableEq, Repr

/-- Why the value of an environment variable is no setting. -/
inductive ValueFault where
  | unknownMode (word : String)
  | badNumber (cause : Text.NumberFault)
  deriving DecidableEq, Repr

/-- The wording of each cause. -/
def ValueFault.message : ValueFault → String
  | .unknownMode word => s!"unknown overflow mode: {word} (expected wrap|reject)"
  | .badNumber cause => cause.message

/-- Why settings cannot be loaded. -/
inductive Fault where
  | unreadable (path : Files.Path) (cause : Files.Fault)
  | malformed
  | badVariable (key : String) (cause : ValueFault)
  deriving DecidableEq, Repr

/-- The wording of each cause. -/
def Fault.message : Fault → String
  | .unreadable path _ => s!"config file unreadable: {path.display}"
  | .malformed => "config parse error"
  | .badVariable key _ => s!"env var invalid: {key}"

/-- The text of a settings file that holds given settings. -/
def Tools.render (tools : Tools) : String :=
  "[binary]\noverflow = \"" ++ tools.binary.overflow.word ++ "\"\n\n" ++
    "[vm]\nmax_steps = " ++ toString tools.vm.maxSteps ++ "\n"

end PocketTools.Settings
