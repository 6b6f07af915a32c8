import PocketTools.Proofs.Machine.Trajectory
import PocketTools.Proofs.Machine.Words

/-!
# Failed instructions

A failed instruction leaves memory and both general registers as it found them,
and its fault says where it went wrong (`Fault.Locates`): at the byte of the
operation, at an operand, or at the word that a load or store is about. A run
that ends with such a fault fails within the instruction after the last whole
one (`run_failed_within_instruction`).
-/

namespace PocketTools.Machine

/-- **What a fault says.** The instruction found the state `s` and left the
state `t`. No other fault is one of an instruction. -/
inductive Fault.Locates (s t : State) : Fault → Prop where
  /-- The byte under the program counter codes no operation. -/
  | unknown {opcode : UInt8} (stays : t.registers.pc = s.registers.pc) (inside : s.place < 20)
      (found : s.memory.bytes[s.place]? = some opcode)
      (unknown : opcode ∉ [0x01, 0x02, 0x03, 0x04, 0x05, 0xFF]) :
      Locates s t (.illegalOpcode opcode s.registers.pc)
  /-- One of the first two operands has to name a register and does not. -/
  | unnamed {register : UInt8} {pc : UInt16} (stands : t.registers.pc = pc)
      (low : s.place + 1 ≤ pc.toNat) (high : pc.toNat ≤ s.place + 2) (inside : pc.toNat < 20)
      (found : s.memory.bytes[pc.toNat]? = some register) (large : 3 ≤ register) :
      Locates s t (.invalidRegister register pc)
  /-- The first byte outside memory is one of the instruction itself. -/
  | fetch {address : Address} (past : 20 ≤ address.toNat) (stands : t.place = address.toNat)
      (low : s.place ≤ address.toNat) (high : address.toNat ≤ s.place + 3)
      (earlier : ∀ place, s.place ≤ place → place < address.toNat → place < 20)
      (part : address.toNat = s.place ∨ ∃ op : Opcode,
        s.memory.bytes[s.place]? = some op.byte ∧ address.toNat ≤ s.place + op.operandCount) :
      Locates s t (.addressOutOfBounds address)
  /-- A load or a store is about a word that is not wholly inside memory. -/
  | word {address : Address} {op : Opcode} {operand : UInt8} (past : 20 ≤ address.toNat)
      (stands : t.place = s.place + 2) (either : op = .loadWord ∨ op = .storeWord)
      (found : s.memory.bytes[s.place]? = some op.byte)
      (named : s.memory.bytes[s.place + 2]? = some operand) (large : 19 ≤ operand)
      (first : address.toNat =
        if operand = 19 then 20 else if op = .loadWord then operand.toNat else operand.toNat + 1) :
      Locates s t (.addressOutOfBounds address)

/-- Six bytes code an operation, and no other does. -/
theorem Opcode.ofByte?_eq_none_iff {b : UInt8} :
    ofByte? b = none ↔ b ∉ [0x01, 0x02, 0x03, 0x04, 0x05, 0xFF] := by
  unfold ofByte?
  grind

/-- The bytes from three on name no register. -/
theorem Register.ofByte?_eq_none_iff {b : UInt8} : ofByte? b = none ↔ 3 ≤ b := by
  unfold ofByte?
  grind

/-- Of two parts in turn the first fails, or it succeeds and the second fails. -/
theorem bind_eq_error {ε α β : Type} {first : Except ε α} {rest : α → Except ε β} {fault : ε}
    (chain : first >>= rest = .error fault) :
    first = .error fault ∨ ∃ a, first = .ok a ∧ rest a = .error fault := by
  cases first with
  | error cause =>
      cases chain
      exact Or.inl rfl
  | ok a => exact Or.inr ⟨a, rfl, chain⟩

namespace Memory

variable {memory : Memory} {p q : Nat} {fault : Fault}

/-- A byte is read where memory has it. -/
theorem fetch_eq_ok_iff {b : UInt8} : memory.fetch q = .ok b ↔ memory.bytes[q]? = some b := by
  unfold fetch
  split
  · rename_i inside
    rw [Vector.getElem?_eq_getElem inside, Option.some.injEq, Except.ok.injEq]
  · rename_i outside
    rw [Vector.getElem?_eq_none (Nat.le_of_not_lt outside)]
    simp only [reduceCtorEq]

/-- Reading fails beyond the last byte only, and the fault gives the place. -/
theorem fetch_eq_error (failed : memory.fetch q = .error fault) :
    20 ≤ q ∧ fault = .addressOutOfBounds (UInt64.ofNat q) := by
  unfold fetch at failed
  split at failed
  · cases failed
  · rename_i outside
    cases failed
    exact ⟨Nat.le_of_not_lt outside, rfl⟩

/-- The `k`-th operand behind a place is bad: it is outside memory, or it has to
name a register and does not. Only the first two operands name registers. -/
inductive BadOperand (memory : Memory) (p k : Nat) : Fault → Prop where
  | outside (past : 20 ≤ p + k) :
      BadOperand memory p k (.addressOutOfBounds (UInt64.ofNat (p + k)))
  | unnamed {b : UInt8} (second : k ≤ 2) (found : memory.bytes[p + k]? = some b) (large : 3 ≤ b) :
      BadOperand memory p k (.invalidRegister b (UInt16.ofNat (p + k)))

/-- The fault of a bad operand gives the place of that operand. -/
theorem BadOperand.place_eq {k : Nat} (fits : p + k < UInt16.size)
    (bad : memory.BadOperand p k fault) : fault.place = p + k := by
  cases bad with
  | outside past => exact toNat_address fits
  | unnamed second found large => exact UInt16.toNat_ofNat_of_lt' fits

/-- An operand that cannot be read is a bad one. -/
theorem badOperand_of_fetch {k : Nat} (failed : memory.fetch (p + k) = .error fault) :
    memory.BadOperand p k fault := by
  obtain ⟨past, rfl⟩ := fetch_eq_error failed
  exact .outside past

/-- An operand that cannot be read as a register is a bad one. Only the first two operands of
an operation are registers. -/
theorem badOperand_of_fetchRegister {k : Nat} (second : k ≤ 2)
    (failed : memory.fetchRegister (p + k) = .error fault) : memory.BadOperand p k fault := by
  rcases bind_eq_error failed with missing | ⟨b, found, unnamed⟩
  · exact badOperand_of_fetch missing
  · cases named : Register.ofByte? b with
    | some register =>
        rw [named] at unnamed
        cases unnamed
    | none =>
        rw [named] at unnamed
        cases unnamed
        exact .unnamed second (fetch_eq_ok_iff.mp found) (Register.ofByte?_eq_none_iff.mp named)

theorem lt_of_fetchRegister_ok {register : Register}
    (found : memory.fetchRegister q = .ok register) : q < memorySize := by
  obtain ⟨b, read, _⟩ := bind_eq_ok found
  exact lt_of_fetch_ok read

/-- Decoding the operands from the `k`-th to the `n`-th fails at the first bad one
of them, and those before it are inside memory. -/
def FirstBad {α : Type} (memory : Memory) (p k n : Nat) (decoded : Except Fault α) : Prop :=
  ∀ fault, decoded = .error fault → ∃ j, k ≤ j ∧ j ≤ n ∧
    (∀ i, k ≤ i → i < j → p + i < memorySize) ∧ memory.BadOperand p j fault

namespace FirstBad

variable {α β : Type} {k n : Nat}

theorem pure (a : α) : memory.FirstBad p k n (.ok a) := by
  intro fault failed
  cases failed

/-- The first bad operand is the one that fails now, or the first of the later ones. -/
theorem bind {first : Except Fault α} {rest : α → Except Fault β} (last : k ≤ n)
    (bad : ∀ fault, first = .error fault → memory.BadOperand p k fault)
    (inside : ∀ a, first = .ok a → p + k < memorySize)
    (later : ∀ a, memory.FirstBad p (k + 1) n (rest a)) :
    memory.FirstBad p k n (first >>= rest) := by
  intro fault failed
  rcases bind_eq_error failed with failed | ⟨a, found, failed⟩
  · refine ⟨k, Nat.le_refl k, last, ?_, bad fault failed⟩
    intro i low high
    exact absurd low (Nat.not_le_of_lt high)
  · obtain ⟨j, low, high, before, badOperand⟩ := later a fault failed
    refine ⟨j, Nat.le_of_succ_le low, high, ?_, badOperand⟩
    intro i notBefore notAfter
    rcases Nat.eq_or_lt_of_le notBefore with same | beyond
    · exact same ▸ inside a found
    · exact before i beyond notAfter

/-- A register as the next operand is bad, or the first bad operand comes later. -/
theorem register {rest : Register → Except Fault β} (last : k ≤ n) (second : k ≤ 2)
    (later : ∀ a, memory.FirstBad p (k + 1) n (rest a)) :
    memory.FirstBad p k n (memory.fetchRegister (p + k) >>= rest) :=
  bind last (fun _ => badOperand_of_fetchRegister second) (fun _ => lt_of_fetchRegister_ok) later

/-- A byte as the next operand is bad, or the first bad operand comes later. -/
theorem byte {rest : UInt8 → Except Fault β} (last : k ≤ n)
    (later : ∀ a, memory.FirstBad p (k + 1) n (rest a)) :
    memory.FirstBad p k n (memory.fetch (p + k) >>= rest) :=
  bind last (fun _ => badOperand_of_fetch) (fun _ => lt_of_fetch_ok) later

end FirstBad

/-- The first bad operand decides how decoding fails. -/
theorem firstBad_operandsAt (memory : Memory) (p : Nat) (op : Opcode) :
    memory.FirstBad p 1 op.operandCount (memory.operandsAt p op) := by
  cases op with
  | loadWord | storeWord =>
      refine .register (by decide) (by decide) fun _ => ?_
      exact .byte (by decide) fun _ => .pure _
  | add | sub =>
      refine .register (by decide) (by decide) fun _ => ?_
      exact .register (by decide) (by decide) fun _ => .pure _
  | beq =>
      refine .register (by decide) (by decide) fun _ => ?_
      refine .register (by decide) (by decide) fun _ => ?_
      exact .byte (by decide) fun _ => .pure _
  | halt => exact .pure _

/-- A load or a store fails at a place that has no room for a word. -/
theorem readWord_eq_error {operand : UInt8}
    (failed : memory.readWord operand.toUInt64 = .error fault) :
    19 ≤ operand ∧ ∃ address, fault = .addressOutOfBounds address ∧ 20 ≤ address.toNat ∧
      address.toNat = if operand = 19 then 20 else operand.toNat := by
  have place : operand.toUInt64.toNat = operand.toNat := UInt8.toNat_toUInt64 operand
  rw [readWord_eq] at failed
  split at failed
  · cases failed
  · rename_i outside
    cases failed
    have past : memorySize ≤ operand.toUInt64.toNat + 1 := Nat.le_of_not_lt outside
    have first := toNat_firstOutside past
    rw [place] at past first
    refine ⟨UInt8.le_iff_toNat_le.mpr (Nat.le_of_succ_le_succ past), _, rfl, ?_⟩
    rw [first]
    refine ⟨Nat.le_max_left _ _, ?_⟩
    split
    · rename_i last
      rw [last]
      rfl
    · rename_i other
      have beyond : operand.toNat ≠ 19 := fun same => other (UInt8.toNat_inj.mp same)
      exact Nat.max_eq_right (Nat.lt_of_le_of_ne (Nat.le_of_succ_le_succ past) beyond.symm)

/-- A store fails for an address from 19 on, and names the place of the second byte. -/
theorem writeWord_eq_error {operand : UInt8} {w : UInt16}
    (failed : memory.writeWord operand.toUInt64 w = .error fault) :
    19 ≤ operand ∧ ∃ address, fault = .addressOutOfBounds address ∧ 20 ≤ address.toNat ∧
      address.toNat = if operand = 19 then 20 else operand.toNat + 1 := by
  rw [writeWord_operand] at failed
  split at failed
  · cases failed
  · rename_i outside
    cases failed
    have past : memorySize ≤ operand.toNat + 1 := Nat.le_of_not_lt outside
    have second : (operand.toUInt64 + 1).toNat = operand.toNat + 1 :=
      toNat_succ (Nat.lt_trans (Nat.succ_lt_succ operand.toNat_lt) (by decide))
    refine ⟨UInt8.le_iff_toNat_le.mpr (Nat.le_of_succ_le_succ past), _, rfl, ?_⟩
    rw [second]
    refine ⟨past, ?_⟩
    split
    · rename_i last
      rw [last]
      rfl
    · rfl

end Memory

/-- The address operand of an instruction that is about a word in memory. -/
def Instruction.address? : Instruction → Option UInt8
  | .loadWord _ address | .storeWord _ address => some address
  | .add .. | .sub .. | .beq .. | .halt => none

variable {s t : State} {fault : Fault}

/-- An instruction is performed without fail, unless it is about a word that is
not wholly inside memory. -/
theorem Instruction.perform_eq_failed {instruction : Instruction}
    (fails : instruction.perform s = .failed fault t) :
    t = s ∧ ∃ operand, instruction.address? = some operand ∧ 19 ≤ operand ∧
      ∃ address, fault = .addressOutOfBounds address ∧ 20 ≤ address.toNat ∧
        address.toNat =
          if operand = 19 then 20
          else if instruction.opcode = .loadWord then operand.toNat else operand.toNat + 1 := by
  cases instruction with
  | loadWord target operand =>
      cases read : s.memory.readWord operand.toUInt64 with
      | ok w => simp only [perform, read, reduceCtorEq] at fails
      | error cause =>
          simp only [perform, read, Outcome.failed.injEq] at fails
          obtain ⟨rfl, rfl⟩ := fails
          exact ⟨rfl, operand, rfl, Memory.readWord_eq_error read⟩
  | storeWord source operand =>
      cases written : s.memory.writeWord operand.toUInt64 (s.registers.get source) with
      | ok memory => simp only [perform, written, reduceCtorEq] at fails
      | error cause =>
          simp only [perform, written, Outcome.failed.injEq] at fails
          obtain ⟨rfl, rfl⟩ := fails
          exact ⟨rfl, operand, rfl, Memory.writeWord_eq_error written⟩
  | beq first second target =>
      rw [perform] at fails
      split at fails <;> cases fails
  | add | sub | halt => cases fails

namespace Memory

variable {memory : Memory} {p : Nat} {instruction : Instruction}

/-- A decoded instruction stands in memory: its operation's byte, and its operands behind it. -/
theorem fetch_of_instructionAt (decoded : memory.instructionAt p = .ok instruction) :
    memory.fetch p = .ok instruction.opcode.byte ∧
      memory.operandsAt p instruction.opcode = .ok instruction := by
  cases found : memory.fetch p with
  | error cause =>
      rw [instructionAt_of_fetch_error found] at decoded
      cases decoded
  | ok b =>
      cases known : Opcode.ofByte? b with
      | none =>
          rw [instructionAt_of_unknown found known] at decoded
          cases decoded
      | some op =>
          obtain rfl := Opcode.ofByte?_eq_some_iff.mp known
          rw [instructionAt_of_opcode found] at decoded
          rw [opcode_of_operandsAt decoded]
          exact ⟨rfl, decoded⟩

/-- A load or a store has its address in its second operand. -/
theorem fetch_of_address {op : Opcode} {operand : UInt8}
    (decoded : memory.operandsAt p op = .ok instruction)
    (names : instruction.address? = some operand) :
    (op = .loadWord ∨ op = .storeWord) ∧ memory.fetch (p + 2) = .ok operand := by
  cases operands_of_operandsAt decoded with
  | loadWord first second | storeWord first second =>
      cases names
      exact ⟨by decide, second⟩
  | add | sub | beq | halt => cases names

end Memory

theorem State.place_lt (s : State) : s.place < UInt16.size :=
  UInt16.toNat_lt_size s.registers.pc

/-- A fetch outside memory is located by its fault. -/
theorem Fault.locates_of_outside {k : Nat} (third : k ≤ 3) (past : 20 ≤ s.place + k)
    (fits : s.place + k < UInt16.size)
    (before : ∀ place, s.place ≤ place → place < s.place + k → place < 20)
    (part : k = 0 ∨ ∃ op : Opcode,
      s.memory.bytes[s.place]? = some op.byte ∧ k ≤ op.operandCount) :
    (Fault.addressOutOfBounds (UInt64.ofNat (s.place + k))).Locates s (s.seek (s.place + k)) := by
  have address : (UInt64.ofNat (s.place + k)).toNat = s.place + k := toNat_address fits
  apply Locates.fetch <;> rw [address]
  · exact past
  · exact State.place_seek s fits
  · exact Nat.le_add_right _ _
  · exact Nat.add_le_add_left third _
  · exact before
  · rcases part with rfl | ⟨op, found, bound⟩
    · exact Or.inl rfl
    · exact Or.inr ⟨op, found, Nat.add_le_add_left bound _⟩

/-- A bad operand is located by its fault. -/
theorem Fault.locates_of_badOperand {k : Nat} {op : Opcode}
    (found : s.memory.fetch s.place = .ok op.byte) (first : 1 ≤ k) (bound : k ≤ op.operandCount)
    (before : ∀ j, 1 ≤ j → j < k → s.place + j < memorySize)
    (bad : s.memory.BadOperand s.place k fault) : fault.Locates s (s.seek fault.place) := by
  have inside : s.place < 20 := Memory.lt_of_fetch_ok found
  have third : k ≤ 3 := Nat.le_trans bound (by cases op <;> decide)
  have fits : s.place + k < UInt16.size := add_lt_size inside third
  rw [bad.place_eq fits]
  cases bad with
  | outside past =>
      refine locates_of_outside third past fits ?_
        (Or.inr ⟨op, Memory.fetch_eq_ok_iff.mp found, bound⟩)
      intro place low high
      rcases Nat.eq_or_lt_of_le low with same | later
      · exact same ▸ inside
      · have earlier := before (place - s.place) (by omega) (by omega)
        rwa [Nat.add_sub_cancel' low] at earlier
  | unnamed second named large =>
      have pc : (UInt16.ofNat (s.place + k)).toNat = s.place + k := UInt16.toNat_ofNat_of_lt' fits
      have within : s.place + k < 20 := Memory.lt_of_fetch_ok (Memory.fetch_eq_ok_iff.mpr named)
      -- the fault names the place of the operand itself
      refine .unnamed rfl ?_ ?_ ?_ ?_ large <;> rw [pc]
      · exact Nat.add_le_add_left first _
      · exact Nat.add_le_add_left second _
      · exact within
      · exact named

/-- Bytes that are no instruction are located by the fault of decoding. -/
theorem Fault.locates_of_undecoded (undecoded : s.memory.instructionAt s.place = .error fault) :
    fault.Locates s (s.seek fault.place) := by
  cases found : s.memory.fetch s.place with
  | error cause =>
      have place := Memory.place_of_fetch_error s.place_lt found
      obtain ⟨past, rfl⟩ := Memory.fetch_eq_error found
      rw [Memory.instructionAt_of_fetch_error found] at undecoded
      cases undecoded
      rw [place]
      exact locates_of_outside (Nat.zero_le 3) past s.place_lt (by omega) (Or.inl rfl)
  | ok b =>
      cases known : Opcode.ofByte? b with
      | none =>
          rw [Memory.instructionAt_of_unknown found known] at undecoded
          cases undecoded
          rw [State.place, UInt16.ofNat_toNat]
          exact .unknown (congrArg (·.registers.pc) s.seek_place) (Memory.lt_of_fetch_ok found)
            (Memory.fetch_eq_ok_iff.mp found) (Opcode.ofByte?_eq_none_iff.mp known)
      | some op =>
          obtain rfl := Opcode.ofByte?_eq_some_iff.mp known
          rw [Memory.instructionAt_of_opcode found] at undecoded
          obtain ⟨k, first, bound, before, bad⟩ :=
            s.memory.firstBad_operandsAt s.place op fault undecoded
          exact locates_of_badOperand found first bound before bad

/-- **A failed instruction is atomic.** It leaves memory and the general
registers as it found them, and its fault locates the failure. -/
theorem State.atomic_of_cycle (fails : s.cycle = .failed fault t) :
    t.memory = s.memory ∧ t.registers.r1 = s.registers.r1 ∧ t.registers.r2 = s.registers.r2 ∧
      fault.Locates s t := by
  rw [State.cycle_eq_referenceStep, State.referenceStep] at fails
  cases decoded : s.memory.instructionAt s.place with
  | error cause =>
      rw [decoded] at fails
      cases fails
      exact ⟨rfl, rfl, rfl, Fault.locates_of_undecoded decoded⟩
  | ok instruction =>
      rw [decoded] at fails
      obtain ⟨rfl, operand, names, large, address, rfl, past, first⟩ :=
        Instruction.perform_eq_failed fails
      obtain ⟨found, operands⟩ := Memory.fetch_of_instructionAt decoded
      obtain ⟨either, named⟩ := Memory.fetch_of_address operands names
      have inside := Memory.lt_of_fetch_ok found
      have count : instruction.opcode.operandCount = 2 := by
        rcases either with load | store
        · rw [load, Opcode.operandCount]
        · rw [store, Opcode.operandCount]
      have stands : (s.seek (s.place + 2)).place = s.place + 2 :=
        State.place_seek s (add_lt_size inside (Nat.le_succ 2))
      rw [count]
      exact ⟨rfl, rfl, rfl, .word past stands either (Memory.fetch_eq_ok_iff.mp found)
        (Memory.fetch_eq_ok_iff.mp named) large first⟩

/-- No single instruction fails for want of budget. -/
theorem State.ne_stepLimitExceeded_of_cycle (fails : s.cycle = .failed fault t)
    (limit : UInt64) : fault ≠ .stepLimitExceeded limit := by
  rintro rfl
  obtain ⟨_, _, _, located⟩ := s.atomic_of_cycle fails
  cases located

/-! ## Runs that fail -/

/-- **A run failed within an instruction.** The machine found the state `s` after
`n` whole instructions and completed no more. The fault is that of the next
instruction, which changed neither memory nor a general register. -/
structure Run.FailsAfter (run : Run) (memory : Memory) (fault : Fault) (n : Nat) (s : State) :
    Prop where
  found : memory.start.after n = some s
  last : memory.start.after (n + 1) = none
  memory_kept : run.final.memory = s.memory
  r1_kept : run.final.registers.r1 = s.registers.r1
  r2_kept : run.final.registers.r2 = s.registers.r2
  located : fault.Locates s run.final
  size : ∀ address, fault = .addressOutOfBounds address → fault.message =
    s!"address out of bounds: 0x{Text.hexadecimal 2 address.toNat} (memory is {20} bytes)"

/-- **Failed instructions are atomic and located.** A run that ends with a fault
other than its used-up budget failed within an instruction, for which it had
budget. -/
theorem run_failed_within_instruction (computer : Computer) (memory : Memory) (fault : Fault)
    (failed : (computer.run memory).result = .error fault)
    (other : ∀ limit, fault ≠ .stepLimitExceeded limit) :
    ∃ n s, n < computer.limit.toNat ∧ (computer.run memory).FailsAfter memory fault n s := by
  rw [computer.run_eq_runWithin] at failed ⊢
  rcases memory.runWithin_cases computer.limit.toNat with
    ⟨t, _, run⟩ | ⟨k, result, u, enough, stops, run⟩
  · rw [run] at failed
    cases failed
    exact (other _ rfl).elim
  · rw [run] at failed ⊢
    cases stops with
    | halted reached halts => cases failed
    | @failed n s u fault reached fails =>
        cases failed
        obtain ⟨memory_kept, r1_kept, r2_kept, located⟩ := s.atomic_of_cycle fails
        have last : memory.start.after (n + 1) = none := by
          rw [State.after_succ_of_after reached, State.next?, fails]
        refine ⟨n, s, enough, reached, last, memory_kept, r1_kept, r2_kept, located, ?_⟩
        rintro address rfl
        rfl

/-- The program first stores over an operand of its second instruction, which
names no register until then. Its third instruction names none either. -/
theorem run_failed_within_third_instruction :
    let memory : Memory := ⟨#v[2, 0, 4, 3, 9, 9, 1, 3, 0, 0, 0, 0, 0, 0, 0, 0, 0, 0, 0, 0]⟩
    let computer := Computer.new 10
    (computer.run memory).result = .error (.invalidRegister 3 7) ∧
      ∃ n s, n < 10 ∧ (computer.run memory).FailsAfter memory (.invalidRegister 3 7) n s := by
  intro memory computer
  have failed : (computer.run memory).result = .error (.invalidRegister 3 7) := by
    simp only [memory, computer]
    rfl
  refine ⟨failed, run_failed_within_instruction computer memory _ failed ?_⟩
  intro limit same
  cases same

end PocketTools.Machine
