import PocketTools.Command.Grammar
import PocketTools.Files.Basic
import PocketTools.Numeral
import PocketTools.Text.Decimal

/-! # Values on the command line -/

namespace PocketTools.Command

/-- A text: any UTF-8. -/
def readText (argument : Argument) : Except UsageFault String :=
  match Text.decode? argument with
  | some text => .ok text
  | none => .error .invalidUtf8

/-- A path: any bytes, but some. -/
def readPath (argument : Argument) : Except UsageFault Files.Path :=
  if argument = [] then .error .invalidValue else .ok ⟨argument⟩

/-- An overflow mode, by its exact word. -/
def readOverflow (argument : Argument) : Except UsageFault OverflowMode :=
  match (Text.decode? argument).bind OverflowMode.ofWord? with
  | some mode => .ok mode
  | none => .error .invalidValue

/-- A 16-bit word: a whole number with or without sign, in range. -/
def readWord (argument : Argument) : Except UsageFault UInt16 := do
  match Text.readSigned (← readText argument) with
  | .ok n => if 0 ≤ n ∧ n < 65536 then .ok (UInt16.ofNat n.toNat) else .error .valueValidation
  | .error _ => .error .valueValidation

/-- An unsigned 64-bit number. -/
def readCount (argument : Argument) : Except UsageFault UInt64 := do
  match Text.readUnsigned (← readText argument) with
  | .ok n => .ok n
  | .error _ => .error .valueValidation

/-- Gives an option a value that it does not have yet. -/
def setOnce {α : Type} (read : Argument → Except UsageFault α) (before : Option α)
    (argument : Argument) : Except UsageFault (Option α) :=
  match before with
  | some _ => .error .argumentConflict
  | none => some <$> read argument

end PocketTools.Command
