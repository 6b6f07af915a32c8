import PocketTools.Machine.Step

/-! # Running a memory image

A run starts with zero registers at address 0 and goes on until the machine
halts or fails, or until its budget of instructions is used up. The operations
begun are kept in order.
-/

namespace PocketTools.Machine

/-- An operation that was begun, with its address. -/
structure Executed where
  pc : UInt16
  opcode : Opcode
  deriving DecidableEq, Repr

/-- What a run that halted reports: the instructions executed, the halt among
them, and the registers, with the program counter on the halt. -/
structure Summary where
  steps : Nat
  registers : Registers
  deriving DecidableEq, Repr

/-- A run that is over: how it ended, the state it left, and the operations
begun. -/
structure Run where
  result : Except Fault Summary
  final : State
  executed : List Executed

/-- Goes on from a state for at most `budget` instructions. `steps` instructions
have been executed so far, and `done` holds the operations begun, last first. -/
def runFrom (limit : UInt64) : (budget : Nat) → (steps : Nat) → State → List Executed → Run
  | 0, _, s, done => ⟨.error (.stepLimitExceeded limit), s, done.reverse⟩
  | budget + 1, steps, s, done =>
      match s.opcode with
      | .error fault => ⟨.error fault, s, done.reverse⟩
      | .ok op =>
          match s.step op with
          | .next t => runFrom limit budget (steps + 1) t (⟨s.registers.pc, op⟩ :: done)
          | .halted t =>
              ⟨.ok ⟨steps + 1, t.registers⟩, t, (⟨s.registers.pc, op⟩ :: done).reverse⟩
          | .failed fault t => ⟨.error fault, t, (⟨s.registers.pc, op⟩ :: done).reverse⟩

/-- A computer between runs: its budget and the registers the last run left. -/
structure Computer where
  limit : UInt64
  registers : Registers
  deriving DecidableEq, Repr

/-- A computer that has not run yet. -/
def Computer.new (limit : UInt64) : Computer :=
  ⟨limit, Registers.zero⟩

/-- Runs the program in memory from address 0 with zero registers. -/
def Computer.run (computer : Computer) (memory : Memory) : Run :=
  runFrom computer.limit computer.limit.toNat 0 ⟨Registers.zero, memory⟩ []

/-- The computer after a run. -/
def Computer.after (computer : Computer) (run : Run) : Computer :=
  { computer with registers := run.final.registers }

end PocketTools.Machine
