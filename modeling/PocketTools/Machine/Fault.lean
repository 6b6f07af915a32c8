import PocketTools.Files.Fault
import PocketTools.Text.Hexadecimal

/-! # What can go wrong on the toy computer -/

namespace PocketTools.Machine

/-- The number of bytes of main memory. -/
abbrev memorySize : Nat := 20

/-- A place in memory, as a program or a caller names it. -/
abbrev Address := UInt64

/-- Why the machine stopped, or why it has no memory to run on. -/
inductive Fault where
  | illegalOpcode (opcode : UInt8) (pc : UInt16)
  | invalidRegister (register : UInt8) (pc : UInt16)
  | addressOutOfBounds (address : Address)
  | stepLimitExceeded (limit : UInt64)
  | imageSize (actual : Nat)
  | unreadable (cause : Files.Fault)
  deriving DecidableEq, Repr

/-- The wording of each cause. -/
def Fault.message : Fault → String
  | .illegalOpcode opcode pc =>
      s!"illegal opcode 0x{Text.hexadecimal 2 opcode.toNat} at pc={pc}"
  | .invalidRegister register pc => s!"invalid register r{register} at pc={pc}"
  | .addressOutOfBounds address =>
      s!"address out of bounds: 0x{Text.hexadecimal 2 address.toNat} (memory is {memorySize} bytes)"
  | .stepLimitExceeded limit => s!"step limit exceeded: {limit} instructions without halt"
  | .imageSize actual => s!"memory image must be exactly {memorySize} bytes, got {actual}"
  | .unreadable _ => "failed to read memory image"

end PocketTools.Machine
