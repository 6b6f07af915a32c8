import Mathlib.Order.Bounds.Defs
import PocketTools.Proofs.Machine.Begun
import PocketTools.Proofs.Machine.LastStore

/-!
# The address that a failed word access names

A read and a write of words fail at the same addresses, but they do not name the same place. A
read names the first place of its word that is outside memory
(`Memory.isLeast_firstOutside`). A write names the second place of its word, also where the
first one is outside already. So the two agree on the last byte of memory and on the last
address of all, and on no address between (`Memory.firstOutside_eq_secondAddress_iff`). A run
that comes to a load or a store there ends with the fault of the read or of the write
(`outsideFaults`).
-/

namespace PocketTools.Machine

namespace Memory

variable {a : Address}

/-- The places of the word at an address that are outside memory. -/
def placesOutside (a : Address) : Set Nat :=
  {place | 20 ≤ place ∧ (place = a.toNat ∨ place = a.toNat + 1)}

/-- The place that a read names is the least of the word's places outside of memory. -/
theorem isLeast_firstOutside (outside : memorySize ≤ a.toNat + 1) :
    IsLeast (placesOutside a) (firstOutside a).toNat := by
  have size : memorySize = 20 := rfl
  rw [toNat_firstOutside outside]
  constructor
  · refine ⟨Nat.le_max_left _ _, ?_⟩
    omega
  · rintro place ⟨past, either⟩
    omega

/-- A read and a write name the same place in two cases only: the word begins with the last
byte of memory, or has the highest address. -/
theorem firstOutside_eq_secondAddress_iff (outside : memorySize ≤ a.toNat + 1) :
    firstOutside a = secondAddress a ↔ a = 19 ∨ a = 0xFFFFFFFFFFFFFFFF := by
  have size : memorySize = 20 := rfl
  have addresses : UInt64.size = 0xFFFFFFFFFFFFFFFF + 1 := rfl
  have fits : a.toNat < UInt64.size := a.toNat_lt
  rw [← UInt64.toNat_inj, ← UInt64.toNat_inj, ← UInt64.toNat_inj, toNat_firstOutside outside,
    toNat_secondAddress]
  change _ ↔ a.toNat = 19 ∨ a.toNat = 0xFFFFFFFFFFFFFFFF
  omega

/-- A run comes to an instruction within a budget. -/
def ComesTo (memory : Memory) (budget : Nat) (instruction : Instruction) : Prop :=
  ∃ n < budget, ∃ s, memory.start.after n = some s ∧ s.instruction? = some instruction

end Memory

namespace State

variable {s : State} {target source : Register} {operand : UInt8}

/-- A load from outside of memory fails with the first place outside. -/
theorem cycle_of_load_outside (found : s.instruction? = some (.loadWord target operand))
    (outside : memorySize ≤ operand.toUInt64.toNat + 1) :
    s.cycle =
      .failed (.addressOutOfBounds (Memory.firstOutside operand.toUInt64))
        (s.seek (s.place + 2)) := by
  rw [cycle_of_instruction? found]
  simp only [Instruction.perform, memory_seek, Memory.readWord_eq, dif_neg (Nat.not_lt.mpr outside)]
  rfl

/-- A store outside of memory fails with the place of the second byte. -/
theorem cycle_of_store_outside (found : s.instruction? = some (.storeWord source operand))
    (outside : memorySize ≤ operand.toUInt64.toNat + 1) :
    s.cycle =
      .failed (.addressOutOfBounds (Memory.secondAddress operand.toUInt64))
        (s.seek (s.place + 2)) := by
  rw [cycle_of_instruction? found]
  simp only [Instruction.perform, memory_seek, Memory.writeWord_eq,
    dif_neg (Nat.not_lt.mpr outside)]
  rfl

end State

/-- A run that comes to an instruction that fails ends with its fault. -/
theorem Computer.result_of_failed {computer : Computer} {memory : Memory} {n : Nat}
    {s t : State} {fault : Fault} (within : n < computer.limit.toNat)
    (reached : memory.start.after n = some s) (fails : s.cycle = .failed fault t) :
    (computer.run memory).result = .error fault := by
  rw [Computer.run_of_stopsAt (.failed reached fails) within]

/-- **The faults of word accesses** at an address that has no room for a word. -/
structure OutsideFaults (a : Address) : Prop where
  read : ∀ memory : Memory,
    memory.readWord a = .error (.addressOutOfBounds (Memory.firstOutside a))
  write : ∀ (memory : Memory) (v : UInt16),
    memory.writeWord a v = .error (.addressOutOfBounds (Memory.secondAddress a))
  first : IsLeast (Memory.placesOutside a) (Memory.firstOutside a).toNat
  second : (Memory.secondAddress a).toNat = min (a.toNat + 1) (UInt64.size - 1)
  same_iff : Memory.firstOutside a = Memory.secondAddress a ↔ a = 19 ∨ a = 0xFFFFFFFFFFFFFFFF
  load : ∀ (computer : Computer) (memory : Memory) (target : Register) (operand : UInt8),
    operand.toUInt64 = a → memory.ComesTo computer.limit.toNat (.loadWord target operand) →
      (computer.run memory).result = .error (.addressOutOfBounds (Memory.firstOutside a))
  store : ∀ (computer : Computer) (memory : Memory) (source : Register) (operand : UInt8),
    operand.toUInt64 = a → memory.ComesTo computer.limit.toNat (.storeWord source operand) →
      (computer.run memory).result = .error (.addressOutOfBounds (Memory.secondAddress a))

/-- **A read names the first place outside memory and a write the second place of its word.** -/
theorem outsideFaults (a : Address) (outside : 19 ≤ a) : OutsideFaults a := by
  have past : memorySize ≤ a.toNat + 1 := Nat.succ_le_succ (UInt64.le_iff_toNat_le.mp outside)
  constructor
  case read =>
    intro memory
    rw [memory.readWord_eq, dif_neg (Nat.not_lt.mpr past)]
  case write =>
    intro memory v
    rw [memory.writeWord_eq, dif_neg (Nat.not_lt.mpr past)]
  case first => exact Memory.isLeast_firstOutside past
  case second => exact Memory.toNat_secondAddress a
  case same_iff => exact Memory.firstOutside_eq_secondAddress_iff past
  case load =>
    rintro computer memory target operand rfl ⟨n, within, s, reached, found⟩
    exact Computer.result_of_failed within reached (State.cycle_of_load_outside found past)
  case store =>
    rintro computer memory source operand rfl ⟨n, within, s, reached, found⟩
    exact Computer.result_of_failed within reached (State.cycle_of_store_outside found past)

/-- Two programs that differ only in whether they load or store at address 30. -/
theorem outsideFaults_at_thirty :
    let program : UInt8 → Memory := fun operation =>
      ⟨#v[3, 1, 2, operation, 1, 30, 0, 0, 0, 0, 0, 0, 0, 0, 0, 0, 0, 0, 0, 0]⟩
    (19 : Address) ≤ 30 ∧ (program 1).ComesTo 10 (.loadWord .r1 30) ∧
      (program 2).ComesTo 10 (.storeWord .r1 30) ∧
      ((Computer.new 10).run (program 1)).result = .error (.addressOutOfBounds 30) ∧
      ((Computer.new 10).run (program 2)).result = .error (.addressOutOfBounds 31) := by
  intro program
  have outside : (19 : Address) ≤ 30 := by decide
  have load : (program 1).ComesTo 10 (.loadWord .r1 30) :=
    ⟨1, by decide, ⟨⟨3, 0, 0⟩, program 1⟩, rfl, rfl⟩
  have store : (program 2).ComesTo 10 (.storeWord .r1 30) :=
    ⟨1, by decide, ⟨⟨3, 0, 0⟩, program 2⟩, rfl, rfl⟩
  have faults := outsideFaults 30 outside
  exact ⟨outside, load, store, faults.load (Computer.new 10) _ _ 30 rfl load,
    faults.store (Computer.new 10) _ _ 30 rfl store⟩

/-- **A write names the byte behind the one that a read names.** At address 20 both bytes of a
word are outside memory. -/
theorem write_fault_behind_read_fault :
    Memory.zero.readWord 20 = .error (.addressOutOfBounds 20) ∧
      Memory.zero.writeWord 20 7 = .error (.addressOutOfBounds 21) ∧
      Memory.zero.writeWord 20 7 ≠ .error (.addressOutOfBounds 20) := by
  refine ⟨rfl, rfl, ?_⟩
  intro same
  cases same

end PocketTools.Machine
