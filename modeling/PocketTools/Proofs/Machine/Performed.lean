import PocketTools.Proofs.Machine.Noninterference

/-!
# The instructions of a run

A run that halts has performed as many instructions as it has begun operations, and they
are those operations with their operands (`Computer.report_of_halted`). What it has written
is what its stores write (`State.mem_written_iff`), so a word that no store touches is in the
end as it was at the start (`Computer.wordAt_of_halted`).
-/

namespace PocketTools.Machine

/-- The address operand of a store. -/
def Instruction.storeAddress? : Instruction → Option UInt8
  | .storeWord _ address => some address
  | .loadWord .. | .add .. | .sub .. | .beq .. | .halt => none

/-- None of the instructions is a store at one of the addresses. -/
def NoStoreAt (addresses : List UInt8) (instructions : List Instruction) : Prop :=
  ∀ instruction ∈ instructions, ∀ address ∈ instruction.storeAddress?, address ∉ addresses

instance (addresses : List UInt8) (instructions : List Instruction) :
    Decidable (NoStoreAt addresses instructions) :=
  inferInstanceAs (Decidable (∀ instruction ∈ instructions, ∀ address ∈ _, address ∉ addresses))

namespace State

/-- The instruction at a state, if there is one. -/
def instruction? (s : State) : Option Instruction :=
  (s.memory.instructionAt s.place).toOption

/-- **The instructions performed** in the first `n`, with their operands. -/
def performed (s : State) : Nat → List Instruction
  | 0 => []
  | n + 1 => s.performed n ++ ((s.after n).bind instruction?).toList

variable {s t u : State} {n q : Nat} {instruction : Instruction}

/-- The instruction of a state is the one decoded at its place. -/
theorem instruction?_eq_some_iff :
    s.instruction? = some instruction ↔ s.memory.instructionAt s.place = .ok instruction := by
  rw [instruction?]
  cases s.memory.instructionAt s.place <;> simp [Except.toOption]

/-- A state writes where its instruction stores. -/
theorem writes_eq (s : State) : s.writes = s.instruction?.toList.flatMap Instruction.stores := by
  rw [writes, instruction?]
  cases s.memory.instructionAt s.place <;> simp [Except.toOption]

/-- What is written is what the instructions store. -/
theorem written_eq_flatMap_performed (s : State) (n : Nat) :
    s.written n = (s.performed n).flatMap Instruction.stores := by
  induction n with
  | zero => rfl
  | succ n ih =>
      rw [written, performed, List.flatMap_append, ih]
      cases s.after n with
      | none => rfl
      | some t => rw [Option.elim_some, Option.bind_some, writes_eq]

/-- **A byte is written by a store whose word it is in.** -/
theorem mem_written_iff :
    q ∈ s.written n ↔ ∃ source address, .storeWord source address ∈ s.performed n ∧
      address.toNat + 1 < memorySize ∧ (q = address.toNat ∨ q = address.toNat + 1) := by
  rw [written_eq_flatMap_performed, List.mem_flatMap]
  constructor
  · rintro ⟨instruction, performed, stored⟩
    cases instruction with
    | storeWord source address =>
        rw [Instruction.stores] at stored
        split at stored
        · rename_i inside
          exact ⟨source, address, performed, inside, by simpa using stored⟩
        · cases stored
    | loadWord | add | sub | beq | halt => cases stored
  · rintro ⟨source, address, performed, inside, within⟩
    refine ⟨_, performed, ?_⟩
    rw [Instruction.stores, if_pos inside]
    simpa using within

/-- An instruction that does not fail for its code begins the operation it is of. -/
theorem begun_of_instruction? (found : s.instruction? = some instruction) :
    s.begun = some ⟨s.registers.pc, instruction.opcode⟩ := by
  obtain ⟨known, -⟩ := Memory.fetch_of_instructionAt (instruction?_eq_some_iff.mp found)
  have coded : Opcode.ofByte? instruction.opcode.byte = some instruction.opcode :=
    Opcode.ofByte?_eq_some_iff.mpr rfl
  rw [begun, opcode, current_eq_fetch, known]
  simp only [coded]

/-- An instruction that is decoded is performed with the program counter on its last byte. -/
theorem cycle_of_instruction? (found : s.instruction? = some instruction) :
    s.cycle = instruction.perform (s.seek (s.place + instruction.opcode.operandCount)) := by
  rw [cycle_eq_referenceStep, referenceStep, instruction?_eq_some_iff.mp found]

/-- What cannot be decoded fails with the program counter on the place of the fault. -/
theorem cycle_of_undecoded (undecoded : s.instruction? = none) :
    ∃ fault, s.cycle = .failed fault (s.seek fault.place) := by
  rw [cycle_eq_referenceStep, referenceStep]
  cases decoded : s.memory.instructionAt s.place with
  | error fault => exact ⟨fault, rfl⟩
  | ok instruction =>
      rw [instruction?_eq_some_iff.mpr decoded] at undecoded
      cases undecoded

/-- Where the machine does not fail there is a whole instruction. -/
theorem isSome_instruction? (sound : ∀ fault t, s.cycle ≠ .failed fault t) :
    s.instruction?.isSome := by
  cases found : s.instruction? with
  | some instruction => rfl
  | none =>
      obtain ⟨fault, fails⟩ := cycle_of_undecoded found
      exact (sound fault _ fails).elim

/-- As long as nothing fails, the instructions performed are the operations begun. -/
theorem opcodes_trace (sound : ∀ m < n, ∀ t, s.after m = some t → ∀ fault u,
      t.cycle ≠ .failed fault u) :
    (s.trace n).map Executed.opcode = (s.performed n).map Instruction.opcode := by
  induction n with
  | zero => rfl
  | succ n ih =>
      rw [trace, performed, List.map_append, List.map_append,
        ih fun m before => sound m (Nat.lt_succ_of_lt before)]
      cases reached : s.after n with
      | none => rfl
      | some t =>
          have decoded := isSome_instruction? (sound n (Nat.lt_succ_self n) t reached)
          obtain ⟨instruction, found⟩ := Option.isSome_iff_exists.mp decoded
          rw [Option.bind_some, Option.bind_some, found, begun_of_instruction? found]
          rfl

/-- A machine that halts has not failed on the way. -/
theorem StopsAt.sound {summary : Summary} (stops : s.StopsAt n (.ok summary) u) {m : Nat}
    (before : m < n) (reached : s.after m = some t) (fault : Fault) (v : State) :
    t.cycle ≠ .failed fault v := by
  intro fails
  have next := after_succ_of_after reached
  rw [next?, fails] at next
  cases stops with
  | @halted last t' _ halting halts =>
      rcases Nat.lt_or_eq_of_le (Nat.le_of_lt_succ before) with earlier | rfl
      · -- the machine gets to the halt, which is beyond the failure
        have onward : (s.after (m + 1)).isSome :=
          isSome_after_of_le (Option.isSome_iff_exists.mpr ⟨t', halting⟩) earlier
        rw [next] at onward
        cases onward
      · rw [reached] at halting
        cases halting
        rw [fails] at halts
        cases halts

/-- A machine that halts has begun as many operations as it has taken instructions. -/
theorem StopsAt.length_trace {summary : Summary} (stops : s.StopsAt n (.ok summary) u) :
    (s.trace n).length = n := by
  cases stops with
  | @halted last t _ reached halts =>
      have decoded : t.instruction?.isSome := by
        apply isSome_instruction?
        intro fault v fails
        rw [halts] at fails
        cases fails
      obtain ⟨instruction, found⟩ := Option.isSome_iff_exists.mp decoded
      rw [trace, List.length_append, State.length_trace (Option.isSome_iff_exists.mpr ⟨t, reached⟩),
        reached, Option.bind_some, begun_of_instruction? found]
      rfl

end State

/-! ## Runs that halt -/

section Halted

variable {computer : Computer} {memory : Memory} {summary : Summary}

/-- A run that halts stops with its summary, after as many instructions as the summary says,
and executed their trace. -/
theorem Computer.stopsAt_of_halted (halted : (computer.run memory).result = .ok summary) :
    summary.steps ≤ computer.limit.toNat ∧
      summary.registers = (computer.run memory).final.registers ∧
      memory.start.StopsAt summary.steps (.ok summary) (computer.run memory).final ∧
      (computer.run memory).executed = memory.start.trace summary.steps := by
  rw [computer.run_eq_runWithin] at halted ⊢
  rcases memory.runWithin_cases computer.limit.toNat with
    ⟨t, -, run⟩ | ⟨k, result, u, enough, stops, run⟩
  · rw [run] at halted
    cases halted
  · rw [run] at halted ⊢
    obtain rfl : result = .ok summary := halted
    obtain ⟨steps, registers⟩ : summary.steps = k ∧ summary.registers = u.registers := by
      cases stops
      exact ⟨rfl, rfl⟩
    rw [steps]
    exact ⟨enough, registers, stops, rfl⟩

/-- **What a run that halts reports.** It reports the registers that it leaves and as many
steps as it has begun operations. These are what it has performed. -/
theorem Computer.report_of_halted (halted : (computer.run memory).result = .ok summary) :
    summary.registers = (computer.run memory).final.registers ∧
      summary.steps = (computer.run memory).executed.length ∧
      (computer.run memory).executed.map Executed.opcode =
        (memory.start.performed summary.steps).map Instruction.opcode := by
  obtain ⟨-, registers, stops, executed⟩ := Computer.stopsAt_of_halted halted
  rw [executed, stops.length_trace]
  exact ⟨registers, rfl, State.opcodes_trace fun m before t reached => stops.sound before reached⟩

/-- **The frame of a run that halts.** A word into which nothing is written is as it was. -/
theorem Computer.wordAt_of_halted (halted : (computer.run memory).result = .ok summary)
    {place : Nat} (inside : place + 1 < memorySize)
    (low : place ∉ memory.start.written summary.steps)
    (high : place + 1 ∉ memory.start.written summary.steps) :
    (computer.run memory).final.memory.wordAt place inside = memory.wordAt place inside := by
  obtain ⟨enough, -, stops, -⟩ := Computer.stopsAt_of_halted halted
  rw [← stops.written_eq enough] at low high
  rw [computer.run_eq_runWithin]
  exact Memory.wordAt_congr inside (Memory.getElem?_runWithin low) (Memory.getElem?_runWithin high)

/-- A word is as it was if all addresses are left out at which a store would touch it. -/
theorem Computer.wordAt_of_clear (halted : (computer.run memory).result = .ok summary)
    {addresses : List UInt8} (clear : NoStoreAt addresses (memory.start.performed summary.steps))
    {place : Nat} (inside : place + 1 < memorySize)
    (covered : ∀ address : UInt8, address.toNat + 1 < memorySize → place ≤ address.toNat + 1 →
      address.toNat ≤ place + 1 → address ∈ addresses) :
    (computer.run memory).final.memory.wordAt place inside = memory.wordAt place inside := by
  have kept : ∀ q, q = place ∨ q = place + 1 → q ∉ memory.start.written summary.steps := by
    intro q touched mem
    obtain ⟨source, address, stored, room, within⟩ := State.mem_written_iff.mp mem
    exact clear _ stored address rfl (covered address room (by omega) (by omega))
  exact Computer.wordAt_of_halted halted inside (kept _ (.inl rfl)) (kept _ (.inr rfl))

theorem Computer.input1_of_clear (halted : (computer.run memory).result = .ok summary)
    (clear : NoStoreAt [0x0F, 0x10, 0x11] (memory.start.performed summary.steps)) :
    (computer.run memory).final.memory.input1 = memory.input1 := by
  apply Computer.wordAt_of_clear halted clear
  intro address _ low high
  have place : address.toNat = 0x0F ∨ address.toNat = 0x10 ∨ address.toNat = 0x11 := by omega
  simpa [← UInt8.toNat_inj] using place

/-- A store at the last byte would touch the second input too, but it fails. -/
theorem Computer.input2_of_clear (halted : (computer.run memory).result = .ok summary)
    (clear : NoStoreAt [0x11, 0x12] (memory.start.performed summary.steps)) :
    (computer.run memory).final.memory.input2 = memory.input2 := by
  apply Computer.wordAt_of_clear halted clear
  intro address room low _
  have room : address.toNat + 1 < 20 := room
  have place : address.toNat = 0x11 ∨ address.toNat = 0x12 := by omega
  simpa [← UInt8.toNat_inj] using place

end Halted

end PocketTools.Machine
