import PocketTools.Proofs.Machine.Begun

/-!
# The moves of the program counter

The machine moves the program counter on by one before it reads an operand, and again after an
instruction that neither jumps nor halts. `watchedExecute` executes an operation and notes the
moves to its operands. They are the steps of a climb from the operation to the last byte that
the instruction fetches (`watchedExecute_run`), which is the end of memory at the most
(`Memory.lastFetched_le`). So only the move after an instruction can wrap, and only if the
instruction has left the highest value in the program counter itself
(`Instruction.pc_of_effect`).
-/

namespace PocketTools.Machine

/-- A move of the program counter. -/
structure Move where
  before : UInt16
  after : UInt16
  deriving DecidableEq, Repr

/-- A move wraps unless it leads to the next place. -/
def Move.Wraps (move : Move) : Prop :=
  move.after.toNat ≠ move.before.toNat + 1

/-- The moves from one place up to another. -/
def climb (p q : Nat) : List Move :=
  (List.range' p (q - p)).map fun n => ⟨UInt16.ofNat n, UInt16.ofNat (n + 1)⟩

/-- There is no move from a place to itself. -/
theorem climb_self (p : Nat) : climb p p = [] := by
  rw [climb, Nat.sub_self]
  rfl

theorem climb_succ (p : Nat) : climb p (p + 1) = [⟨UInt16.ofNat p, UInt16.ofNat (p + 1)⟩] := by
  rw [climb, Nat.add_sub_cancel_left]
  rfl

/-- Two climbs of which one goes on where the other ends are one climb. -/
theorem climb_append {p q r : Nat} (first : p ≤ q) (second : q ≤ r) :
    climb p q ++ climb q r = climb p r := by
  obtain ⟨m, rfl⟩ := Nat.exists_eq_add_of_le first
  obtain ⟨n, rfl⟩ := Nat.exists_eq_add_of_le second
  rw [climb, climb, climb, ← List.map_append, Nat.add_sub_cancel_left, Nat.add_sub_cancel_left,
    Nat.add_assoc, Nat.add_sub_cancel_left, ← List.range'_append, Nat.one_mul]

/-- No move of a climb that stays among the words wraps. -/
theorem not_wraps_of_mem_climb {p q : Nat} {move : Move} (fits : q < UInt16.size)
    (mem : move ∈ climb p q) : ¬ move.Wraps := by
  obtain ⟨n, within, rfl⟩ := List.mem_map.mp mem
  obtain ⟨low, high⟩ := List.mem_range'_1.mp within
  have next : n + 1 < UInt16.size := by omega
  rw [Move.Wraps, not_not, UInt16.toNat_ofNat_of_lt' next,
    UInt16.toNat_ofNat_of_lt' (Nat.lt_of_succ_lt next)]

/-! ## Watching an instruction -/

/-- A state, with the moves that were noted on the way to it. -/
structure Watched where
  state : State
  moves : List Move
  deriving DecidableEq, Repr

/-- A piece of an instruction that is watched. What was noted is kept on failure. -/
abbrev Watch := EStateM Fault Watched

namespace Watch

variable {α : Type}

/-- What a piece comes to, together with moves. -/
def withMoves (moves : List Move) : EStateM.Result Fault State α → EStateM.Result Fault Watched α
  | .ok a t => .ok a ⟨t, moves⟩
  | .error fault t => .error fault ⟨t, moves⟩

/-- Executes a piece and notes nothing. -/
def silent (piece : Exec α) : Watch α := fun w =>
  withMoves w.moves (piece.run w.state)

/-- Executes a piece and notes it as one move of the program counter. -/
def moving (piece : Exec α) : Watch α := fun w =>
  match piece.run w.state with
  | .ok a t => .ok a ⟨t, w.moves ++ [⟨w.state.registers.pc, t.registers.pc⟩]⟩
  | .error fault t => .error fault ⟨t, w.moves ++ [⟨w.state.registers.pc, t.registers.pc⟩]⟩

end Watch

/-- Reads the operands of an operation, by any way to read a register and a byte. -/
def operandsBy {m : Type → Type} [Monad m] (register : m Register) (byte : m UInt8) :
    Opcode → m Instruction
  | .loadWord => return .loadWord (← register) (← byte)
  | .storeWord => return .storeWord (← register) (← byte)
  | .add => return .add (← register) (← register)
  | .sub => return .sub (← register) (← register)
  | .beq => return .beq (← register) (← register) (← byte)
  | .halt => return .halt

/-- An operation reads its operands by `nextRegister` and `nextOperand`, and by nothing else. -/
theorem execute_eq_operandsBy (op : Opcode) :
    execute op = operandsBy nextRegister nextOperand op >>= Instruction.effect := by
  rw [execute_eq_bind]
  cases op <;> rfl

/-- Moves on to the next byte and reads it, and notes the move. -/
def watchedOperand : Watch UInt8 :=
  Watch.moving nextOperand

/-- Moves on to the next byte and reads it as the name of a register, and notes the move. -/
def watchedRegister : Watch Register := do
  let b ← watchedOperand
  match Register.ofByte? b with
  | some register => return register
  | none => throw (.invalidRegister b (← get).state.registers.pc)

/-- **Executes an operation** and notes each move to an operand. -/
def watchedExecute (op : Opcode) : Watch Flow := do
  let instruction ← operandsBy watchedRegister watchedOperand op
  Watch.silent instruction.effect

/-- What reading from place `p` on comes to if decoding comes to `decoded` and ends at place `q`.
A fault leaves the program counter on the place it names. -/
def climbed {α : Type} (s : State) (p q : Nat) (moves : List Move) :
    Except Fault α → EStateM.Result Fault Watched α
  | .ok a => .ok a ⟨s.seek q, moves ++ climb p q⟩
  | .error fault => .error fault ⟨s.seek fault.place, moves ++ climb p fault.place⟩

/-- From one place to another, a watched piece reads what decoding finds there, and it notes the
climb as far as it gets. -/
structure Climbs {α : Type} (s : State) (piece : Watch α) (p : Nat) (decoded : Except Fault α)
    (q : Nat) : Prop where
  le : p ≤ q
  le_place : ∀ fault, decoded = .error fault → p ≤ fault.place
  run : ∀ moves, piece.run ⟨s.seek p, moves⟩ = climbed s p q moves decoded

namespace Climbs

variable {α β : Type} {s : State} {p q r : Nat}

theorem pure (a : α) : Climbs s (Pure.pure a) p (.ok a) p where
  le := Nat.le_refl p
  le_place _ failed := by cases failed
  run moves := by
    rw [climbed, climb_self, List.append_nil]
    rfl

/-- A piece that fails with a fault at its own place does not climb. -/
theorem throw {piece : Watch α} {fault : Fault} (place : fault.place = p)
    (run : ∀ moves, piece.run ⟨s.seek p, moves⟩ = .error fault ⟨s.seek p, moves⟩) :
    Climbs s piece p (.error fault) p where
  le := Nat.le_refl p
  le_place _ failed := by
    cases failed
    exact Nat.le_of_eq place.symm
  run moves := by rw [run, climbed, place, climb_self, List.append_nil]

/-- Two pieces in turn climb to where the second gets, or to the fault of the first that fails. -/
theorem bind {piece : Watch α} {rest : α → Watch β} {decoded : Except Fault α}
    {decodedRest : α → Except Fault β} (first : Climbs s piece p decoded q)
    (second : ∀ a, Climbs s (rest a) q (decodedRest a) r) (le : q ≤ r) :
    Climbs s (piece >>= rest) p (decoded >>= decodedRest) r where
  le := Nat.le_trans first.le le
  le_place fault failed := by
    rcases bind_eq_error failed with failed | ⟨a, -, failed⟩
    · exact first.le_place fault failed
    · exact Nat.le_trans first.le ((second a).le_place fault failed)
  run moves := by
    rw [EStateM.run_bind, first.run]
    cases decoded with
    | error fault => rfl
    | ok a =>
        -- the climb goes on from where the first piece got to
        change (rest a).run _ = climbed s p r moves (decodedRest a)
        rw [(second a).run]
        cases decoded' : decodedRest a with
        | ok b => rw [climbed, climbed, List.append_assoc, climb_append first.le le]
        | error fault =>
            rw [climbed, climbed, List.append_assoc,
              climb_append first.le ((second a).le_place fault decoded')]

/-- A byte is read one place further up. -/
theorem operand (fits : p + 1 < UInt16.size) :
    Climbs s watchedOperand p (s.memory.fetch (p + 1)) (p + 1) where
  le := Nat.le_succ p
  le_place fault failed := by
    rw [Memory.place_of_fetch_error fits failed]
    exact Nat.le_succ p
  run moves := by
    have reads := Reads.nextOperand (s := s) fits
    unfold Reads at reads
    change Watch.moving nextOperand _ = _
    simp only [Watch.moving, reads]
    cases found : s.memory.fetch (p + 1) with
    | ok b =>
        rw [climbed, climb_succ]
        rfl
    | error fault =>
        simp only [climbed, Memory.place_of_fetch_error fits found, climb_succ]
        rfl

/-- The name of a register is read one place further up, and a byte that names none is a
fault at that place. -/
theorem register (fits : p + 1 < UInt16.size) :
    Climbs s watchedRegister p (s.memory.fetchRegister (p + 1)) (p + 1) := by
  refine bind (operand fits) (fun b => ?_) (Nat.le_refl _)
  cases named : Register.ofByte? b with
  | some register => exact pure register
  | none => exact throw (UInt16.toNat_ofNat_of_lt' fits) fun moves => rfl

end Climbs

/-- The operands are read as they are decoded, with a move for each. -/
theorem operandsBy_climbs (s : State) (op : Opcode) {p : Nat} (inside : p < memorySize) :
    Climbs s (operandsBy watchedRegister watchedOperand op) p (s.memory.operandsAt p op)
      (p + op.operandCount) := by
  have first : p + 1 < UInt16.size := add_lt_size inside (Nat.le_add_left 1 2)
  have second : p + 2 < UInt16.size := add_lt_size inside (Nat.le_succ 2)
  have third : p + 3 < UInt16.size := add_lt_size inside (Nat.le_refl 3)
  cases op with
  | loadWord | storeWord =>
      refine (Climbs.register first).bind (fun target => ?_) (Nat.le_succ _)
      exact (Climbs.operand second).bind (fun address => .pure _) (Nat.le_refl _)
  | add | sub =>
      refine (Climbs.register first).bind (fun target => ?_) (Nat.le_succ _)
      exact (Climbs.register second).bind (fun source => .pure _) (Nat.le_refl _)
  | beq =>
      refine (Climbs.register first).bind (fun left => ?_) (Nat.le_add_right _ 2)
      refine (Climbs.register second).bind (fun right => ?_) (Nat.le_succ _)
      exact (Climbs.operand third).bind (fun target => .pure _) (Nat.le_refl _)
  | halt => exact .pure _

/-- **A watched operation does what the operation does**, and the moves that are noted are the
climb to the last byte that the instruction fetches. -/
theorem watchedExecute_run {s : State} {op : Opcode} (known : s.opcode = .ok op) :
    (watchedExecute op).run ⟨s, []⟩ =
      Watch.withMoves (climb s.place (s.memory.lastFetched s.place)) ((execute op).run s) := by
  have found : s.memory.fetch s.place = .ok op.byte := State.fetch_of_opcode known
  have climbs := (operandsBy_climbs s op (Memory.lt_of_fetch_ok found)).run []
  rw [State.seek_place] at climbs
  rw [watchedExecute, EStateM.run_bind, climbs, State.run_execute found,
    Memory.lastFetched_of_opcode found]
  cases s.memory.operandsAt s.place op <;> rfl

namespace Memory

variable {memory : Memory} {p : Nat}

/-- **An instruction fetches no byte beyond the end of memory.** If it gets so far, it fails
there. -/
theorem lastFetched_le {op : Opcode} (found : memory.fetch p = .ok op.byte) :
    p ≤ memory.lastFetched p ∧ memory.lastFetched p ≤ p + 3 ∧ memory.lastFetched p ≤ 20 ∧
      (memory.lastFetched p = 20 → memory.instructionAt p = .error (.addressOutOfBounds 20)) := by
  have inside : p < 20 := lt_of_fetch_ok found
  have operands : op.operandCount ≤ 3 := by cases op <;> decide
  rw [lastFetched_of_opcode found, instructionAt_of_opcode found]
  cases decoded : memory.operandsAt p op with
  | ok instruction =>
      have within : p + op.operandCount < 20 := lt_of_operandsAt inside decoded
      change p ≤ p + op.operandCount ∧ p + op.operandCount ≤ p + 3 ∧ p + op.operandCount ≤ 20 ∧ _
      refine ⟨by omega, by omega, by omega, ?_⟩
      intro last
      exact absurd last (Nat.ne_of_lt within)
  | error fault =>
      obtain ⟨k, first, bound, before, bad⟩ := memory.firstBad_operandsAt p op fault decoded
      have place : fault.place = p + k :=
        bad.place_eq (add_lt_size inside (Nat.le_trans bound operands))
      -- the byte before the bad operand is inside memory
      have previous : p + (k - 1) < 20 := by
        rcases Nat.eq_or_lt_of_le first with only | more
        · subst only
          exact inside
        · exact before (k - 1) (by omega) (by omega)
      change p ≤ fault.place ∧ fault.place ≤ p + 3 ∧ fault.place ≤ 20 ∧ (fault.place = 20 → _)
      rw [place]
      refine ⟨by omega, by omega, by omega, ?_⟩
      intro last
      cases bad with
      | outside past =>
          rw [last]
          rfl
      | unnamed second named large =>
          have within : p + k < 20 := lt_of_fetch_ok (fetch_eq_ok_iff.mpr named)
          exact absurd last (Nat.ne_of_lt within)

end Memory

/-- An instruction that goes on to the next byte leaves the program counter where it found it,
unless it puts a value into it. -/
theorem Instruction.pc_of_effect {instruction : Instruction} {s t : State}
    (onward : instruction.effect.run s = .ok .onward t) :
    instruction.destination? = some .pc ∨ t.registers.pc = s.registers.pc := by
  cases instruction with
  | loadWord target address =>
      simp only [effect, EStateM.run_bind, EStateM.run_get] at onward
      cases read : s.memory.readWord address.toUInt64 with
      | error fault =>
          rw [read] at onward
          cases onward
      | ok w =>
          rw [read] at onward
          cases onward
          cases target with
          | pc => exact Or.inl rfl
          | r1 | r2 => exact Or.inr rfl
  | storeWord source address =>
      simp only [effect, readRegister, EStateM.run_bind, EStateM.run_get, bind_assoc,
        pure_bind] at onward
      cases written : s.memory.writeWord address.toUInt64 (s.registers.get source) with
      | error fault =>
          rw [written] at onward
          cases onward
      | ok memory =>
          rw [written] at onward
          cases onward
          exact Or.inr rfl
  | add target source | sub target source =>
      cases onward
      cases target with
      | pc => exact Or.inl rfl
      | r1 | r2 => exact Or.inr rfl
  | beq first second target =>
      simp only [effect, readRegister, EStateM.run_bind, EStateM.run_get, bind_assoc,
        pure_bind] at onward
      split at onward
      · cases onward
      · cases onward
        exact Or.inr rfl
  | halt => cases onward

/-- Only the highest value in the program counter wraps as it moves on. -/
theorem State.pc_of_wraps {s : State}
    (wraps : (Move.mk s.registers.pc s.advance.registers.pc).Wraps) :
    s.registers.pc = 0xFFFF := by
  have fits := s.registers.pc.toNat_lt
  have next : s.advance.registers.pc.toNat = (s.registers.pc.toNat + 1) % 65536 :=
    UInt16.toNat_add _ _
  change s.advance.registers.pc.toNat ≠ s.registers.pc.toNat + 1 at wraps
  rw [next] at wraps
  apply UInt16.toNat_inj.mp
  change s.registers.pc.toNat = 65535
  omega

/-- The registers that an instruction uses. -/
def Instruction.registers : Instruction → List Register
  | .loadWord target _ => [target]
  | .storeWord source _ => [source]
  | .add target source | .sub target source => [target, source]
  | .beq first second _ => [first, second]
  | .halt => []

/-- The number of a register. -/
def Register.index : Register → Nat
  | .pc => 0
  | .r1 => 1
  | .r2 => 2

/-- The byte that names a register is its index, and there are three. -/
theorem Register.index_of_ofByte? {b : UInt8} {register : Register}
    (named : ofByte? b = some register) : b.toNat = register.index ∧ b < 3 := by
  unfold ofByte? at named
  split at named
  · rename_i zero
    cases named
    exact ⟨zero ▸ rfl, zero ▸ by decide⟩
  split at named
  · rename_i one
    cases named
    exact ⟨one ▸ rfl, one ▸ by decide⟩
  split at named
  · rename_i two
    cases named
    exact ⟨two ▸ rfl, two ▸ by decide⟩
  · cases named

/-- A register that is read from memory was named by a byte below three. -/
theorem Memory.byte_of_fetchRegister {memory : Memory} {p : Nat} {register : Register}
    (found : memory.fetchRegister p = .ok register) :
    ∃ b, memory.bytes[p]? = some b ∧ b.toNat = register.index ∧ b < 3 := by
  obtain ⟨b, read, named⟩ := bind_eq_ok found
  cases known : Register.ofByte? b with
  | none =>
      rw [known] at named
      cases named
  | some other =>
      rw [known] at named
      cases named
      exact ⟨b, fetch_eq_ok_iff.mp read, Register.index_of_ofByte? known⟩

/-- **Registers are named by operands.** -/
theorem Memory.byte_of_mem_registers {memory : Memory} {p : Nat} {op : Opcode}
    {instruction : Instruction} {register : Register}
    (decoded : memory.operandsAt p op = .ok instruction)
    (mem : register ∈ instruction.registers) :
    ∃ k ∈ [1, 2], ∃ b, memory.bytes[p + k]? = some b ∧ b.toNat = register.index ∧ b < 3 := by
  cases operands_of_operandsAt decoded with
  | loadWord first second | storeWord first second =>
      obtain rfl := List.mem_singleton.mp mem
      exact ⟨1, by decide, byte_of_fetchRegister first⟩
  | add first second | sub first second | beq first second third =>
      simp only [Instruction.registers, List.mem_cons, List.not_mem_nil, or_false] at mem
      rcases mem with rfl | rfl
      · exact ⟨1, by decide, byte_of_fetchRegister first⟩
      · exact ⟨2, by decide, byte_of_fetchRegister second⟩
  | halt => cases mem

/-- **How the program counter moves** at a state that a run goes through. -/
structure Run.CountsAt (run : Run) (s : State) : Prop where
  /-- The byte of an operation is inside memory. -/
  inside : ∀ b, s.current = .ok b → s.place ≤ 19
  /-- An operation moves on to its operands as it reads them. What is watched are these moves. -/
  reads : ∀ op, execute op = operandsBy nextRegister nextOperand op >>= Instruction.effect
  /-- The moves to the operands climb from the operation, by three places at the most and to the
  end of memory at the most, where the run ends. None of them wraps. -/
  operands : ∀ op, s.opcode = .ok op → ∃ last,
    (watchedExecute op).run ⟨s, []⟩ =
        Watch.withMoves (climb s.place last) ((execute op).run s) ∧
      s.place ≤ last ∧ last ≤ s.place + 3 ∧ last ≤ 20 ∧
      (∀ move ∈ climb s.place last, ¬ move.Wraps) ∧
      (last = 20 → run.result = .error (.addressOutOfBounds 20))
  /-- The move after an instruction wraps only if the instruction has put the highest value into
  the program counter. -/
  onward : ∀ op t, s.opcode = .ok op → (execute op).run s = .ok .onward t →
    (Move.mk t.registers.pc t.advance.registers.pc).Wraps →
      t.registers.pc = 0xFFFF ∧ ∃ instruction,
        s.instruction? = some instruction ∧ instruction.destination? = some .pc
  /-- The registers used are those of numbers below 3 among the first two operands. -/
  registers : ∀ instruction, s.instruction? = some instruction →
    ∀ register ∈ instruction.registers, ∃ k ∈ [1, 2], ∃ b,
      s.memory.bytes[s.place + k]? = some b ∧ b.toNat = register.index ∧ b < 3

namespace State

variable {s t : State} {op : Opcode}

/-- An operation that is carried through was a whole instruction, and the state is what its
effect makes from the last byte that it fetched. -/
theorem instruction?_of_execute {flow : Flow} (known : s.opcode = .ok op)
    (done : (execute op).run s = .ok flow t) :
    ∃ instruction, s.instruction? = some instruction ∧
      instruction.effect.run (s.seek (s.place + instruction.opcode.operandCount)) =
        .ok flow t := by
  have found := fetch_of_opcode known
  rw [run_execute found] at done
  cases decoded : s.memory.operandsAt s.place op with
  | error fault =>
      rw [decoded] at done
      cases done
  | ok instruction =>
      rw [decoded] at done
      refine ⟨instruction, instruction?_eq_some_iff.mpr ?_, ?_⟩
      · rw [Memory.instructionAt_of_opcode found, decoded]
      · rw [Memory.opcode_of_operandsAt decoded]
        exact done

/-- The move after an instruction wraps only if the instruction has put the highest word into
the program counter. -/
theorem directed_of_wraps (known : s.opcode = .ok op)
    (onward : (execute op).run s = .ok .onward t)
    (wraps : (Move.mk t.registers.pc t.advance.registers.pc).Wraps) :
    t.registers.pc = 0xFFFF ∧ ∃ instruction,
      s.instruction? = some instruction ∧ instruction.destination? = some .pc := by
  have highest := pc_of_wraps wraps
  obtain ⟨instruction, found, effect⟩ := instruction?_of_execute known onward
  refine ⟨highest, instruction, found, ?_⟩
  rcases instruction.pc_of_effect effect with directs | stays
  · exact directs
  · -- otherwise it stands on the last byte of the instruction, inside memory
    have last := lt_of_instruction? found
    have stands := congrArg UInt16.toNat (stays.symm.trans highest)
    rw [show (s.seek _).registers.pc.toNat = _ from
      place_seek s (Nat.lt_trans last (by decide))] at stands
    exact absurd (stands ▸ last) (by decide)

end State

/-- **The program counter wraps only as it is told to.** Wherever a run comes to, the moves to the
operands stay inside memory or end the run at its end, and the move after the instruction wraps
only if the instruction has put the highest value into the program counter. -/
theorem run_countsAt (computer : Computer) (memory : Memory) (n : Nat) (s : State)
    (within : n < computer.limit.toNat) (reached : memory.start.after n = some s) :
    (computer.run memory).CountsAt s := by
  constructor
  case inside =>
    intro b read
    rw [State.current_eq_fetch] at read
    exact Nat.le_of_lt_succ (Memory.lt_of_fetch_ok read)
  case reads => exact execute_eq_operandsBy
  case operands =>
    intro op known
    obtain ⟨low, three, top, ends⟩ := Memory.lastFetched_le (State.fetch_of_opcode known)
    refine ⟨_, watchedExecute_run known, low, three, top, ?_, ?_⟩
    · intro move mem
      exact not_wraps_of_mem_climb (Nat.lt_of_le_of_lt top (by decide)) mem
    · intro last
      have fails : s.cycle = .failed (.addressOutOfBounds 20) (s.seek 20) := by
        rw [State.cycle_eq_referenceStep, State.referenceStep, ends last]
        rfl
      rw [Computer.run_of_stopsAt (.failed reached fails) within]
  case onward =>
    intro op t known onward wraps
    exact State.directed_of_wraps known onward wraps
  case registers =>
    intro instruction found register mem
    obtain ⟨-, operands⟩ := Memory.fetch_of_instructionAt (State.instruction?_eq_some_iff.mp found)
    exact Memory.byte_of_mem_registers operands mem

/-- The second instruction adds to the program counter, which is 5 by then, and so much that it
wraps to the start of memory. -/
theorem run_countsAt_of_wrapping_add :
    let memory : Memory :=
      ⟨#v[1, 1, 18, 3, 0, 1, 0, 0, 0, 0, 0, 0, 0, 0, 0, 0, 0, 0, 0xFA, 0xFF]⟩
    let s : State := ⟨⟨3, 0xFFFA, 0⟩, memory⟩
    1 < (Computer.new 10).limit.toNat ∧ memory.start.after 1 = some s ∧
      s.next? = some ⟨⟨0, 0xFFFA, 0⟩, memory⟩ ∧ ((Computer.new 10).run memory).CountsAt s := by
  intro memory s
  have within : 1 < (Computer.new 10).limit.toNat := by decide
  have reached : memory.start.after 1 = some s := by
    simp only [memory, s]
    rfl
  have wraps : s.next? = some ⟨⟨0, 0xFFFA, 0⟩, memory⟩ := by
    have found : s.instruction? = some (.add .pc .r1) := rfl
    have read : s.seek (s.place + 2) = ⟨⟨5, 0xFFFA, 0⟩, memory⟩ := rfl
    have sum : (5 : UInt16) + 0xFFFA + 1 = 0 := by decide
    rw [State.next?_eq_some_iff, State.cycle_of_instruction? found, Instruction.opcode,
      Opcode.operandCount, read, ← sum]
    rfl
  exact ⟨within, reached, wraps, run_countsAt (Computer.new 10) memory 1 s within reached⟩

end PocketTools.Machine
