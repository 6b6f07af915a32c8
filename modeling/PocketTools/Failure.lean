import PocketTools.Machine.Fault
import PocketTools.Newlines
import PocketTools.Numeral
import PocketTools.Settings.Basic

/-! # How a tool fails -/

namespace PocketTools

/-- Why a tool ended without success. -/
inductive Failure where
  | numeral (cause : Numeral.Fault)
  | newlines (cause : Newlines.Fault)
  | machine (cause : Machine.Fault)
  | settings (cause : Settings.Fault)
  | output (cause : Files.Fault)
  deriving DecidableEq, Repr

/-- The wording of a failure. -/
def Failure.message : Failure → String
  | .numeral cause => cause.message
  | .newlines cause => cause.message
  | .machine cause => cause.message
  | .settings cause => cause.message
  | .output cause => s!"io error: {cause.message}"

/-- The exit status of a failure: 255 for a file that cannot be read through,
and 1 for anything else. -/
def Failure.status : Failure → UInt8
  | .newlines _ => 255
  | _ => 1

end PocketTools
