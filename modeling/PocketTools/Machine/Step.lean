import PocketTools.Machine.Memory
import PocketTools.Machine.Opcode

/-! # One instruction

An instruction is executed as it is fetched: the program counter, register 0,
moves on by one before each operand is read. Register values are taken once all
operands are read, so register 0 then stands on the instruction's last byte. A
failure keeps the state that it found.
-/

namespace PocketTools.Machine

/-- The three registers. Register 0 is the program counter. -/
structure Registers where
  pc : UInt16
  r1 : UInt16
  r2 : UInt16
  deriving DecidableEq, Repr

/-- The registers at the start of every run. -/
def Registers.zero : Registers := ⟨0, 0, 0⟩

/-- The name of a register. -/
inductive Register where
  | pc
  | r1
  | r2
  deriving DecidableEq, Repr

/-- The register that an operand byte names. -/
def Register.ofByte? (b : UInt8) : Option Register :=
  if b = 0 then some .pc
  else if b = 1 then some .r1
  else if b = 2 then some .r2
  else none

/-- The value of a register. -/
def Registers.get (registers : Registers) : Register → UInt16
  | .pc => registers.pc
  | .r1 => registers.r1
  | .r2 => registers.r2

/-- The registers with another value in one of them. -/
def Registers.set (registers : Registers) (register : Register) (value : UInt16) : Registers :=
  match register with
  | .pc => { registers with pc := value }
  | .r1 => { registers with r1 := value }
  | .r2 => { registers with r2 := value }

/-- Registers and memory. -/
structure State where
  registers : Registers
  memory : Memory
  deriving DecidableEq, Repr

/-- A state with the program counter moved on by one. -/
def State.advance (s : State) : State :=
  { s with registers := { s.registers with pc := s.registers.pc + 1 } }

/-- The byte under the program counter. -/
def State.current (s : State) : Except Fault UInt8 :=
  s.memory.byte s.registers.pc.toUInt64

/-- The operation under the program counter. -/
def State.opcode (s : State) : Except Fault Opcode :=
  match s.current with
  | .error fault => .error fault
  | .ok b =>
      match Opcode.ofByte? b with
      | some op => .ok op
      | none => .error (.illegalOpcode b s.registers.pc)

/-- A piece of an instruction: it changes the state, and keeps it on failure. -/
abbrev Exec := EStateM Fault State

/-- Carries a failure of memory or decoding into an instruction. -/
def Exec.ofExcept {α : Type} : Except Fault α → Exec α
  | .ok a => pure a
  | .error fault => throw fault

/-- Moves on to the next byte and reads it. -/
def nextOperand : Exec UInt8 := do
  modify State.advance
  Exec.ofExcept (← get).current

/-- Moves on to the next byte and reads it as the name of a register. -/
def nextRegister : Exec Register := do
  let b ← nextOperand
  match Register.ofByte? b with
  | some register => return register
  | none => throw (.invalidRegister b (← get).registers.pc)

/-- The value of a register. -/
def readRegister (register : Register) : Exec UInt16 := do
  return (← get).registers.get register

/-- Puts a value into a register. -/
def writeRegister (register : Register) (value : UInt16) : Exec Unit :=
  modify fun s => { s with registers := s.registers.set register value }

/-- How a run goes on after an instruction. -/
inductive Flow where
  /-- With the byte after the last one read. -/
  | onward
  /-- Where the program counter now stands. -/
  | jumped
  /-- Not at all. -/
  | stopped
  deriving DecidableEq, Repr

/-- Executes an operation whose code stands under the program counter. -/
def execute : Opcode → Exec Flow
  | .loadWord => do
      let register ← nextRegister
      let address ← nextOperand
      let w ← Exec.ofExcept ((← get).memory.readWord address.toUInt64)
      writeRegister register w
      return .onward
  | .storeWord => do
      let register ← nextRegister
      let address ← nextOperand
      let w ← readRegister register
      let memory ← Exec.ofExcept ((← get).memory.writeWord address.toUInt64 w)
      modify fun s => { s with memory := memory }
      return .onward
  | .add => do
      let target ← nextRegister
      let source ← nextRegister
      writeRegister target ((← readRegister target) + (← readRegister source))
      return .onward
  | .sub => do
      let target ← nextRegister
      let source ← nextRegister
      writeRegister target ((← readRegister target) - (← readRegister source))
      return .onward
  | .beq => do
      let first ← nextRegister
      let second ← nextRegister
      let target ← nextOperand
      if (← readRegister first) = (← readRegister second) then
        writeRegister .pc target.toUInt16
        return .jumped
      else
        return .onward
  | .halt => return .stopped

/-- What an instruction comes to. -/
inductive Outcome where
  | next (s : State)
  | halted (s : State)
  | failed (fault : Fault) (s : State)

/-- Executes an operation and moves on past it, unless it jumped or stopped. -/
def State.step (s : State) (op : Opcode) : Outcome :=
  match execute op s with
  | .ok .onward t => .next t.advance
  | .ok .jumped t => .next t
  | .ok .stopped t => .halted t
  | .error fault t => .failed fault t

end PocketTools.Machine
