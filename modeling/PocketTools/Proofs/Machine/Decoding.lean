import PocketTools.Machine.Run

/-!
# Decoding before executing

The machine reads the bytes of an instruction while it executes it. The
reference step instead decodes the instruction as a whole
(`Memory.instructionAt`) and then performs it, with the program counter on its
last byte (`Instruction.perform`). The two agree on every state, the failures
and the states they leave included (`State.cycle_eq_referenceStep`), so facts
about one instruction are proved about the reference step.
-/

namespace PocketTools.Machine

/-- An operation with its operands. -/
inductive Instruction where
  | loadWord (target : Register) (address : UInt8)
  | storeWord (source : Register) (address : UInt8)
  | add (target source : Register)
  | sub (target source : Register)
  | beq (first second : Register) (target : UInt8)
  | halt
  deriving DecidableEq, Repr

/-- The operation of an instruction. -/
def Instruction.opcode : Instruction → Opcode
  | .loadWord .. => .loadWord
  | .storeWord .. => .storeWord
  | .add .. => .add
  | .sub .. => .sub
  | .beq .. => .beq
  | .halt => .halt

/-- The number of operand bytes of an operation. -/
def Opcode.operandCount : Opcode → Nat
  | .loadWord | .storeWord | .add | .sub => 2
  | .beq => 3
  | .halt => 0

namespace Memory

/-- The byte at a place that need not be inside memory. -/
def fetch (memory : Memory) (place : Nat) : Except Fault UInt8 :=
  if h : place < memorySize then .ok memory.bytes[place]
  else .error (.addressOutOfBounds (UInt64.ofNat place))

/-- The register that the byte at a place names. -/
def fetchRegister (memory : Memory) (place : Nat) : Except Fault Register := do
  let b ← memory.fetch place
  match Register.ofByte? b with
  | some register => return register
  | none => throw (.invalidRegister b (UInt16.ofNat place))

/-- The instruction that an operation makes with the operands after a place. The
operands are taken in order, and the first bad one is the fault. -/
def operandsAt (memory : Memory) (place : Nat) : Opcode → Except Fault Instruction
  | .loadWord =>
      return .loadWord (← memory.fetchRegister (place + 1)) (← memory.fetch (place + 2))
  | .storeWord =>
      return .storeWord (← memory.fetchRegister (place + 1)) (← memory.fetch (place + 2))
  | .add =>
      return .add (← memory.fetchRegister (place + 1)) (← memory.fetchRegister (place + 2))
  | .sub =>
      return .sub (← memory.fetchRegister (place + 1)) (← memory.fetchRegister (place + 2))
  | .beq =>
      return .beq (← memory.fetchRegister (place + 1)) (← memory.fetchRegister (place + 2))
        (← memory.fetch (place + 3))
  | .halt => return .halt

/-- **Decoding.** The instruction at a place. -/
def instructionAt (memory : Memory) (place : Nat) : Except Fault Instruction := do
  match ← memory.fetch place with
  | 0x01 => memory.operandsAt place .loadWord
  | 0x02 => memory.operandsAt place .storeWord
  | 0x03 => memory.operandsAt place .add
  | 0x04 => memory.operandsAt place .sub
  | 0x05 => memory.operandsAt place .beq
  | 0xFF => memory.operandsAt place .halt
  | b => throw (.illegalOpcode b (UInt16.ofNat place))

end Memory

/-- The place that a fault of decoding names. -/
def Fault.place : Fault → Nat
  | .illegalOpcode _ pc => pc.toNat
  | .invalidRegister _ pc => pc.toNat
  | .addressOutOfBounds address => address.toNat
  | .stepLimitExceeded _ | .imageSize _ | .unreadable _ => 0

namespace State

/-- The state with the program counter on a place. -/
def seek (s : State) (place : Nat) : State :=
  { s with registers := { s.registers with pc := UInt16.ofNat place } }

/-- The state with another value in one register. -/
def put (s : State) (register : Register) (value : UInt16) : State :=
  { s with registers := s.registers.set register value }

/-- The place of the program counter. -/
def place (s : State) : Nat :=
  s.registers.pc.toNat

end State

/-- **Performing.** What an instruction does to a state whose program counter
stands on the instruction's last byte. -/
def Instruction.perform (s : State) : Instruction → Outcome
  | .loadWord target address =>
      match s.memory.readWord address.toUInt64 with
      | .ok w => .next (s.put target w).advance
      | .error fault => .failed fault s
  | .storeWord source address =>
      match s.memory.writeWord address.toUInt64 (s.registers.get source) with
      | .ok memory => .next (State.advance { s with memory := memory })
      | .error fault => .failed fault s
  | .add target source =>
      .next (s.put target (s.registers.get target + s.registers.get source)).advance
  | .sub target source =>
      .next (s.put target (s.registers.get target - s.registers.get source)).advance
  | .beq first second target =>
      if s.registers.get first = s.registers.get second then .next (s.put .pc target.toUInt16)
      else .next s.advance
  | .halt => .halted s

namespace State

/-- **The reference step.** Decodes, then performs. A fault of decoding leaves
the program counter on the place it names. -/
def referenceStep (s : State) : Outcome :=
  match s.memory.instructionAt s.place with
  | .ok instruction => instruction.perform (s.seek (s.place + instruction.opcode.operandCount))
  | .error fault => .failed fault (s.seek fault.place)

/-- One whole instruction of the machine, the reading of its first byte included. -/
def cycle (s : State) : Outcome :=
  match s.opcode with
  | .ok op => s.step op
  | .error fault => .failed fault s

end State

/-! ## Places and the program counter -/

@[simp] theorem State.memory_seek (s : State) (place : Nat) : (s.seek place).memory = s.memory :=
  rfl

@[simp] theorem State.seek_place (s : State) : s.seek s.place = s := by
  simp only [State.seek, State.place, UInt16.ofNat_toNat]

/-- A program counter that is put to a word stands there. -/
theorem State.place_seek (s : State) {n : Nat} (fits : n < UInt16.size) :
    (s.seek n).place = n :=
  UInt16.toNat_ofNat_of_lt' fits

theorem State.advance_seek (s : State) (n : Nat) : (s.seek n).advance = s.seek (n + 1) := by
  simp only [State.seek, State.advance, UInt16.ofNat_add]
  rfl

/-- The operands of an instruction have places that the program counter can hold. -/
theorem add_lt_size {p k : Nat} (inside : p < memorySize) (third : k ≤ 3) :
    p + k < UInt16.size :=
  Nat.lt_of_lt_of_le (Nat.add_lt_add_of_lt_of_le inside third) (by decide)

/-- What the program counter can hold is the place of an address. -/
theorem toNat_address {n : Nat} (fits : n < UInt16.size) : (UInt64.ofNat n).toNat = n :=
  UInt64.toNat_ofNat_of_lt' (Nat.lt_trans fits (by decide))

/-- A byte is read alike by address and by place. -/
theorem Memory.byte_eq_fetch (memory : Memory) (address : Address) :
    memory.byte address = memory.fetch address.toNat := by
  unfold Memory.byte Memory.fetch
  rw [UInt64.ofNat_toNat]

/-- The byte under the program counter is the one at its place. -/
theorem State.current_eq_fetch (s : State) : s.current = s.memory.fetch s.place := by
  rw [State.current, Memory.byte_eq_fetch, UInt16.toNat_toUInt64, State.place]

/-- A failed read names the place read. -/
theorem Memory.place_of_fetch_error {memory : Memory} {n : Nat} {fault : Fault}
    (fits : n < UInt16.size) (failed : memory.fetch n = .error fault) : fault.place = n := by
  unfold Memory.fetch at failed
  split at failed
  · cases failed
  · cases failed
    exact toNat_address fits

/-! ## Reading the operands is decoding them -/

/-- From one place to another, a piece of the machine reads what decoding finds
there. A fault leaves the program counter on the place it names. -/
def Reads {α : Type} (s : State) (piece : Exec α) (p : Nat) (decoded : Except Fault α)
    (q : Nat) : Prop :=
  piece.run (s.seek p) =
    match decoded with
    | .ok a => .ok a (s.seek q)
    | .error fault => .error fault (s.seek fault.place)

namespace Reads

variable {α β : Type} {s : State}

theorem pure (a : α) (p : Nat) : Reads s (Pure.pure a) p (.ok a) p :=
  rfl

/-- Two pieces in turn read one after the other. -/
theorem bind {piece : Exec α} {rest : α → Exec β} {decoded : Except Fault α}
    {decodedRest : α → Except Fault β} {p q r : Nat} (first : Reads s piece p decoded q)
    (second : ∀ a, Reads s (rest a) q (decodedRest a) r) :
    Reads s (piece >>= rest) p (decoded >>= decodedRest) r := by
  unfold Reads at first ⊢
  rw [EStateM.run_bind, first]
  cases decoded with
  | error fault => rfl
  | ok a => exact second a

/-- The next operand is the byte one place further. -/
theorem nextOperand {p : Nat} (fits : p + 1 < UInt16.size) :
    Reads s nextOperand p (s.memory.fetch (p + 1)) (p + 1) := by
  unfold Reads
  have read : (s.seek p).advance.current = s.memory.fetch (p + 1) := by
    rw [State.advance_seek, State.current_eq_fetch, State.place_seek s fits, State.memory_seek]
  rw [Machine.nextOperand, EStateM.run_bind, EStateM.run_modify]
  change (Exec.ofExcept (s.seek p).advance.current).run (s.seek p).advance = _
  rw [read, State.advance_seek]
  cases found : s.memory.fetch (p + 1) with
  | ok b => rfl
  | error fault =>
      change _ = EStateM.Result.error fault (s.seek fault.place)
      rw [Memory.place_of_fetch_error fits found]
      rfl

/-- The next register is named by the byte one place further. -/
theorem nextRegister {p : Nat} (fits : p + 1 < UInt16.size) :
    Reads s nextRegister p (s.memory.fetchRegister (p + 1)) (p + 1) := by
  refine bind (nextOperand fits) ?_
  intro b
  cases named : Register.ofByte? b with
  | some register => exact pure register (p + 1)
  | none =>
      have named : (Fault.invalidRegister b (UInt16.ofNat (p + 1))).place = p + 1 :=
        UInt16.toNat_ofNat_of_lt' fits
      change _ = EStateM.Result.error _ (s.seek (Fault.place _))
      rw [named]
      rfl

end Reads

/-- Reads the operands of an operation. -/
def readOperands : Opcode → Exec Instruction
  | .loadWord => return .loadWord (← nextRegister) (← nextOperand)
  | .storeWord => return .storeWord (← nextRegister) (← nextOperand)
  | .add => return .add (← nextRegister) (← nextRegister)
  | .sub => return .sub (← nextRegister) (← nextRegister)
  | .beq => return .beq (← nextRegister) (← nextRegister) (← nextOperand)
  | .halt => return .halt

/-- Executes an instruction whose operands have been read. -/
def Instruction.effect : Instruction → Exec Flow
  | .loadWord target address => do
      let w ← Exec.ofExcept ((← get).memory.readWord address.toUInt64)
      writeRegister target w
      return .onward
  | .storeWord source address => do
      let w ← readRegister source
      let memory ← Exec.ofExcept ((← get).memory.writeWord address.toUInt64 w)
      modify fun s => { s with memory := memory }
      return .onward
  | .add target source => do
      writeRegister target ((← readRegister target) + (← readRegister source))
      return .onward
  | .sub target source => do
      writeRegister target ((← readRegister target) - (← readRegister source))
      return .onward
  | .beq first second target => do
      if (← readRegister first) = (← readRegister second) then
        writeRegister .pc target.toUInt16
        return .jumped
      else
        return .onward
  | .halt => return .stopped

/-- An operation reads all its operands before it has any other effect. -/
theorem execute_eq_bind (op : Opcode) : execute op = readOperands op >>= Instruction.effect := by
  cases op <;> simp only [execute, readOperands, Instruction.effect, bind_assoc, pure_bind]

/-- The operands of an operation are decoded from the bytes behind it. -/
theorem readOperands_reads (s : State) (op : Opcode) {p : Nat} (inside : p < memorySize) :
    Reads s (readOperands op) p (s.memory.operandsAt p op) (p + op.operandCount) := by
  have first : p + 1 < UInt16.size := add_lt_size inside (Nat.le_add_left 1 2)
  have second : p + 2 < UInt16.size := add_lt_size inside (Nat.le_succ 2)
  have third : p + 3 < UInt16.size := add_lt_size inside (Nat.le_refl 3)
  cases op with
  | loadWord =>
      refine (Reads.nextRegister first).bind fun target => ?_
      exact (Reads.nextOperand second).bind fun address => .pure _ _
  | storeWord =>
      refine (Reads.nextRegister first).bind fun source => ?_
      exact (Reads.nextOperand second).bind fun address => .pure _ _
  | add | sub =>
      refine (Reads.nextRegister first).bind fun target => ?_
      exact (Reads.nextRegister second).bind fun source => .pure _ _
  | beq =>
      refine (Reads.nextRegister first).bind fun left => ?_
      refine (Reads.nextRegister second).bind fun right => ?_
      exact (Reads.nextOperand third).bind fun target => .pure _ _
  | halt => exact .pure _ _

/-- What a run of `execute` comes to. -/
def Outcome.ofResult : EStateM.Result Fault State Flow → Outcome
  | .ok .onward t => .next t.advance
  | .ok .jumped t => .next t
  | .ok .stopped t => .halted t
  | .error fault t => .failed fault t

/-- A step is what the execution of the operation comes to. -/
theorem State.step_eq_ofResult (s : State) (op : Opcode) :
    s.step op = Outcome.ofResult ((execute op).run s) := by
  unfold State.step EStateM.run
  cases execute op s with
  | ok flow t => cases flow <;> rfl
  | error fault t => rfl

/-- The effect of an instruction is what the reference performs. -/
theorem Instruction.ofResult_effect (s : State) (instruction : Instruction) :
    Outcome.ofResult (instruction.effect.run s) = instruction.perform s := by
  cases instruction with
  | loadWord target address =>
      simp only [effect, perform, EStateM.run_bind, EStateM.run_get]
      cases s.memory.readWord address.toUInt64 <;> rfl
  | storeWord source address =>
      simp only [effect, perform, readRegister, EStateM.run_bind, EStateM.run_get, bind_assoc,
        pure_bind]
      cases s.memory.writeWord address.toUInt64 (s.registers.get source) <;> rfl
  | beq first second target =>
      simp only [effect, perform, readRegister, EStateM.run_bind, EStateM.run_get, bind_assoc,
        pure_bind]
      split <;> rfl
  | add | sub | halt => rfl

/-! ## The two steps agree -/

namespace Memory

variable {memory : Memory} {p : Nat}

theorem lt_of_fetch_ok {b : UInt8} (found : memory.fetch p = .ok b) : p < memorySize := by
  unfold fetch at found
  split at found
  · assumption
  · cases found

theorem instructionAt_of_fetch_error {fault : Fault} (failed : memory.fetch p = .error fault) :
    memory.instructionAt p = .error fault := by
  unfold instructionAt
  rw [failed]
  rfl

/-- Behind the byte of an operation stand its operands. -/
theorem instructionAt_of_opcode {op : Opcode} (found : memory.fetch p = .ok op.byte) :
    memory.instructionAt p = memory.operandsAt p op := by
  unfold instructionAt
  rw [found]
  cases op <;> rfl

/-- A byte that codes no operation is reported with its place. -/
theorem instructionAt_of_unknown {b : UInt8} (found : memory.fetch p = .ok b)
    (unknown : Opcode.ofByte? b = none) :
    memory.instructionAt p = .error (.illegalOpcode b (UInt16.ofNat p)) := by
  have differs : ∀ op : Opcode, b ≠ op.byte := by
    intro op same
    rw [Opcode.ofByte?_eq_some_iff.mpr same] at unknown
    cases unknown
  unfold instructionAt
  rw [found]
  simp only [bind, Except.bind]
  -- one case for each byte that decoding looks for, in its order
  split
  · exact (differs .loadWord rfl).elim
  · exact (differs .storeWord rfl).elim
  · exact (differs .add rfl).elim
  · exact (differs .sub rfl).elim
  · exact (differs .beq rfl).elim
  · exact (differs .halt rfl).elim
  · rfl

end Memory

theorem bind_eq_ok {ε α β : Type} {first : Except ε α} {rest : α → Except ε β} {b : β}
    (chain : first >>= rest = .ok b) : ∃ a, first = .ok a ∧ rest a = .ok b := by
  cases first with
  | error fault => cases chain
  | ok a => exact ⟨a, rfl, chain⟩

/-- **The operands of an instruction**, each read at its place. -/
inductive Memory.Operands (memory : Memory) (p : Nat) : Opcode → Instruction → Prop where
  | loadWord {target : Register} {address : UInt8}
      (first : memory.fetchRegister (p + 1) = .ok target)
      (second : memory.fetch (p + 2) = .ok address) :
      Operands memory p .loadWord (.loadWord target address)
  | storeWord {source : Register} {address : UInt8}
      (first : memory.fetchRegister (p + 1) = .ok source)
      (second : memory.fetch (p + 2) = .ok address) :
      Operands memory p .storeWord (.storeWord source address)
  | add {target source : Register} (first : memory.fetchRegister (p + 1) = .ok target)
      (second : memory.fetchRegister (p + 2) = .ok source) :
      Operands memory p .add (.add target source)
  | sub {target source : Register} (first : memory.fetchRegister (p + 1) = .ok target)
      (second : memory.fetchRegister (p + 2) = .ok source) :
      Operands memory p .sub (.sub target source)
  | beq {left right : Register} {target : UInt8}
      (first : memory.fetchRegister (p + 1) = .ok left)
      (second : memory.fetchRegister (p + 2) = .ok right)
      (third : memory.fetch (p + 3) = .ok target) :
      Operands memory p .beq (.beq left right target)
  | halt : Operands memory p .halt .halt

/-- Operands that can be decoded stand in memory byte by byte. This is all that later proofs
need to know about decoding. -/
theorem Memory.operands_of_operandsAt {memory : Memory} {p : Nat} {op : Opcode}
    {instruction : Instruction} (decoded : memory.operandsAt p op = .ok instruction) :
    memory.Operands p op instruction := by
  cases op with
  | loadWord =>
      obtain ⟨_, first, decoded⟩ := bind_eq_ok decoded
      obtain ⟨_, second, ⟨⟩⟩ := bind_eq_ok decoded
      exact .loadWord first second
  | storeWord =>
      obtain ⟨_, first, decoded⟩ := bind_eq_ok decoded
      obtain ⟨_, second, ⟨⟩⟩ := bind_eq_ok decoded
      exact .storeWord first second
  | add =>
      obtain ⟨_, first, decoded⟩ := bind_eq_ok decoded
      obtain ⟨_, second, ⟨⟩⟩ := bind_eq_ok decoded
      exact .add first second
  | sub =>
      obtain ⟨_, first, decoded⟩ := bind_eq_ok decoded
      obtain ⟨_, second, ⟨⟩⟩ := bind_eq_ok decoded
      exact .sub first second
  | beq =>
      obtain ⟨_, first, decoded⟩ := bind_eq_ok decoded
      obtain ⟨_, second, decoded⟩ := bind_eq_ok decoded
      obtain ⟨_, third, ⟨⟩⟩ := bind_eq_ok decoded
      exact .beq first second third
  | halt =>
      cases decoded
      exact .halt

/-- What is decoded for an operation is an instruction of that operation. -/
theorem Memory.opcode_of_operandsAt {memory : Memory} {p : Nat} {op : Opcode}
    {instruction : Instruction} (decoded : memory.operandsAt p op = .ok instruction) :
    instruction.opcode = op := by
  cases operands_of_operandsAt decoded <;> rfl

/-- An operation whose byte is under the program counter reads its operands, and then it has
its effect with the program counter on the last of them. -/
theorem State.run_execute {s : State} {op : Opcode}
    (found : s.memory.fetch s.place = .ok op.byte) :
    (execute op).run s =
      match s.memory.operandsAt s.place op with
      | .ok instruction => instruction.effect.run (s.seek (s.place + op.operandCount))
      | .error fault => .error fault (s.seek fault.place) := by
  have reads := readOperands_reads s op (Memory.lt_of_fetch_ok found)
  unfold Reads at reads
  rw [State.seek_place] at reads
  rw [execute_eq_bind, EStateM.run_bind, reads]
  cases s.memory.operandsAt s.place op <;> rfl

/-- An operation whose byte is under the program counter executes as the
reference decodes and performs it. -/
theorem State.step_eq_referenceStep {s : State} {op : Opcode}
    (found : s.memory.fetch s.place = .ok op.byte) : s.step op = s.referenceStep := by
  rw [State.step_eq_ofResult, State.run_execute found, State.referenceStep,
    Memory.instructionAt_of_opcode found]
  cases decoded : s.memory.operandsAt s.place op with
  | error fault => rfl
  | ok instruction =>
      -- both program counters stand on the last byte of the instruction
      change Outcome.ofResult (instruction.effect.run _) = instruction.perform _
      rw [Instruction.ofResult_effect, Memory.opcode_of_operandsAt decoded]

/-- **Executing while reading is decoding before performing.** -/
theorem State.cycle_eq_referenceStep (s : State) : s.cycle = s.referenceStep := by
  have fits : s.place < UInt16.size := UInt16.toNat_lt_size s.registers.pc
  unfold State.cycle State.opcode
  rw [State.current_eq_fetch]
  cases found : s.memory.fetch s.place with
  | error fault =>
      rw [State.referenceStep, Memory.instructionAt_of_fetch_error found]
      change _ = Outcome.failed fault (s.seek fault.place)
      rw [Memory.place_of_fetch_error fits found, State.seek_place]
  | ok b =>
      cases known : Opcode.ofByte? b with
      | none =>
          rw [State.referenceStep, Memory.instructionAt_of_unknown found known, State.place,
            UInt16.ofNat_toNat]
          change _ = Outcome.failed _ (s.seek s.place)
          rw [State.seek_place]
          simp only [known]
      | some op =>
          obtain rfl := Opcode.ofByte?_eq_some_iff.mp known
          simp only [known]
          exact State.step_eq_referenceStep found

end PocketTools.Machine
