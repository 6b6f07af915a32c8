/-! # Operation codes -/

namespace PocketTools.Machine

/-- The operations of the toy computer. -/
inductive Opcode where
  | loadWord
  | storeWord
  | add
  | sub
  | beq
  | halt
  deriving DecidableEq, Repr, Inhabited

namespace Opcode

/-- The byte that codes an operation. -/
def byte : Opcode → UInt8
  | .loadWord => 0x01
  | .storeWord => 0x02
  | .add => 0x03
  | .sub => 0x04
  | .beq => 0x05
  | .halt => 0xFF

/-- The operation that a byte codes. -/
def ofByte? (b : UInt8) : Option Opcode :=
  if b = 0x01 then some .loadWord
  else if b = 0x02 then some .storeWord
  else if b = 0x03 then some .add
  else if b = 0x04 then some .sub
  else if b = 0x05 then some .beq
  else if b = 0xFF then some .halt
  else none

/-- The name of an operation in the log. -/
def mnemonic : Opcode → String
  | .loadWord => "load_word"
  | .storeWord => "store_word"
  | .add => "add"
  | .sub => "sub"
  | .beq => "beq"
  | .halt => "halt"

/-- A byte codes an operation exactly when it is that operation's byte. -/
theorem ofByte?_eq_some_iff {b : UInt8} {op : Opcode} : ofByte? b = some op ↔ b = op.byte := by
  constructor
  · intro h
    unfold ofByte? at h
    split at h
    · cases h; assumption
    split at h
    · cases h; assumption
    split at h
    · cases h; assumption
    split at h
    · cases h; assumption
    split at h
    · cases h; assumption
    split at h
    · cases h; assumption
    cases h
  · rintro rfl
    cases op <;> rfl

end Opcode

end PocketTools.Machine
