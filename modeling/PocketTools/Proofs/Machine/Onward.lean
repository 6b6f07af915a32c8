import PocketTools.Proofs.Machine.Budget
import PocketTools.Proofs.Machine.Performed

/-!
# Where an instruction leads

A whole instruction has all its bytes inside memory. It leads on to the byte after them, unless
it takes a branch or puts a value into the program counter (`State.leads_of_cycle`). A program
that does neither backwards is soon over, since every instruction then stands behind the one
before it (`run_stops_unless_back`).
-/

namespace PocketTools.Machine

namespace Instruction

/-- The register that an instruction puts a value into. -/
def destination? : Instruction → Option Register
  | .loadWord target _ | .add target _ | .sub target _ => some target
  | .storeWord .. | .beq .. | .halt => none

/-- The target of the branch that an instruction takes, if it is a branch and takes it. Both
registers are compared with the program counter on the last byte of the instruction. -/
def branch? (s : State) : Instruction → Option UInt8
  | .beq first second target =>
      if (s.seek (s.place + 3)).registers.get first = (s.seek (s.place + 3)).registers.get second
      then some target else none
  | .loadWord .. | .storeWord .. | .add .. | .sub .. | .halt => none

end Instruction

/-- **Where an instruction leads** from the state `s`, so that the next one begins in the
state `t`. -/
inductive State.Leads (s t : State) (instruction : Instruction) : Prop where
  /-- To the byte after its last one. -/
  | onward (keeps : instruction.destination? ≠ some .pc) (stays : instruction.branch? s = none)
      (next : t.place = s.place + instruction.opcode.operandCount + 1)
  /-- To the target of a branch. -/
  | branched {target : UInt8} (taken : instruction.branch? s = some target)
      (next : t.place = target.toNat)
  /-- To the byte after the place that it put into the program counter. -/
  | directed (writes : instruction.destination? = some .pc)

/-- Operands that can be decoded lie within memory. -/
theorem Memory.lt_of_operandsAt {memory : Memory} {p : Nat} {op : Opcode}
    {instruction : Instruction} (inside : p < memorySize)
    (decoded : memory.operandsAt p op = .ok instruction) : p + op.operandCount < memorySize := by
  cases operands_of_operandsAt decoded with
  | loadWord first second | storeWord first second => exact lt_of_fetch_ok second
  | add first second | sub first second => exact lt_of_fetchRegister_ok second
  | beq first second third => exact lt_of_fetch_ok third
  | halt => exact inside

namespace State

variable {s t : State} {instruction : Instruction} {register : Register} {n : Nat}

/-- An instruction lies within memory with its last byte. -/
theorem lt_of_instruction? (found : s.instruction? = some instruction) :
    s.place + instruction.opcode.operandCount < memorySize := by
  obtain ⟨here, operands⟩ := Memory.fetch_of_instructionAt (instruction?_eq_some_iff.mp found)
  exact Memory.lt_of_operandsAt (Memory.lt_of_fetch_ok here) operands

/-- Moving on from a word that is not the highest leads to the next place. -/
theorem place_advance_seek (fits : n + 1 < UInt16.size) (s : State) :
    (s.seek n).advance.place = n + 1 := by
  rw [advance_seek, place_seek s fits]

/-- A value in another register leaves the program counter. -/
theorem place_advance_put (other : register ≠ .pc) (s : State) (value : UInt16) :
    (s.put register value).advance.place = s.advance.place := by
  cases register with
  | pc => exact (other rfl).elim
  | r1 | r2 => rfl

/-- An instruction that puts a value into a register leads on, unless that is the program
counter. -/
theorem leads_put (fits : s.place + instruction.opcode.operandCount + 1 < UInt16.size)
    (writes : instruction.destination? = some register) (stays : instruction.branch? s = none)
    (value : UInt16) :
    s.Leads ((s.seek (s.place + instruction.opcode.operandCount)).put register value).advance
      instruction := by
  by_cases directs : register = .pc
  · exact .directed (directs ▸ writes)
  · refine .onward ?_ stays ?_
    · rw [writes, ne_eq, Option.some.injEq]
      exact directs
    · rw [place_advance_put directs, place_advance_seek fits]

/-- An instruction that goes on leads behind itself, or where it jumps, or where it directs
the program counter. -/
theorem leads_of_perform (fits : s.place + instruction.opcode.operandCount + 1 < UInt16.size)
    (whole : instruction.perform (s.seek (s.place + instruction.opcode.operandCount)) = .next t) :
    s.Leads t instruction := by
  cases instruction with
  | loadWord target address =>
      cases read : s.memory.readWord address.toUInt64 with
      | error fault => simp only [Instruction.perform, memory_seek, read, reduceCtorEq] at whole
      | ok w =>
          simp only [Instruction.perform, memory_seek, read, Outcome.next.injEq] at whole
          subst whole
          exact leads_put fits rfl rfl w
  | storeWord source address =>
      simp only [Instruction.perform, Memory.writeWord_operand] at whole
      by_cases inside : address.toNat + 1 < memorySize
      · simp only [dif_pos inside, Outcome.next.injEq] at whole
        subst whole
        exact .onward (Option.some_ne_none _).symm rfl (place_advance_seek fits s)
      · simp only [dif_neg inside, reduceCtorEq] at whole
  | add target source | sub target source =>
      cases whole
      exact leads_put fits rfl rfl _
  | beq first second target =>
      rw [Instruction.perform] at whole
      split at whole
      · rename_i same
        cases whole
        exact .branched (if_pos same) (UInt8.toNat_toUInt16 target)
      · rename_i differ
        cases whole
        exact .onward (Option.some_ne_none _).symm (if_neg differ) (place_advance_seek fits s)
  | halt => cases whole

/-- **A whole instruction leads somewhere.** It is decoded and is no halt. -/
theorem leads_of_cycle (whole : s.cycle = .next t) :
    ∃ instruction, s.instruction? = some instruction ∧ instruction ≠ .halt ∧
      s.Leads t instruction := by
  cases found : s.instruction? with
  | none =>
      obtain ⟨fault, fails⟩ := cycle_of_undecoded found
      rw [fails] at whole
      cases whole
  | some instruction =>
      rw [cycle_of_instruction? found] at whole
      have fits : s.place + instruction.opcode.operandCount + 1 < UInt16.size :=
        Nat.lt_of_le_of_lt (lt_of_instruction? found) (by decide)
      refine ⟨instruction, rfl, ?_, leads_of_perform fits whole⟩
      rintro rfl
      cases whole

end State

/-! ## Programs that only go forward -/

/-- An instruction goes back if it takes a branch to its own place or one before it. So it does
if it puts a value into the program counter, whatever the value. -/
def Instruction.GoesBack (s : State) (instruction : Instruction) : Prop :=
  (∃ target, instruction.branch? s = some target ∧ target.toNat ≤ s.place) ∨
    instruction.destination? = some .pc

/-- The instruction at a state is executed as a whole and goes back. -/
def State.GoesBack (s : State) : Prop :=
  s.next?.isSome ∧ ∃ instruction, s.instruction? = some instruction ∧ instruction.GoesBack s

/-- One of the first `budget` instructions of a run goes back. -/
def Memory.GoesBack (memory : Memory) (budget : Nat) : Prop :=
  ∃ n < budget, ∃ s, memory.start.after n = some s ∧ s.GoesBack

namespace State

variable {s t : State} {instruction : Instruction} {n : Nat}

/-- An instruction that does not go back leads to a higher place. -/
theorem Leads.place_lt (leads : s.Leads t instruction) (forward : ¬ instruction.GoesBack s) :
    s.place < t.place := by
  cases leads with
  | onward keeps stays next => omega
  | @branched target taken next =>
      rw [next]
      exact Nat.lt_of_not_le fun back => forward (Or.inl ⟨target, taken, back⟩)
  | directed writes => exact (forward (Or.inr writes)).elim

/-- A whole instruction that does not go back raises the program counter. -/
theorem place_lt_of_next? (whole : s.next? = some t) (forward : ¬ s.GoesBack) :
    s.place < t.place := by
  obtain ⟨instruction, found, -, leads⟩ := leads_of_cycle (next?_eq_some_iff.mp whole)
  exact leads.place_lt fun back => forward ⟨whole ▸ rfl, instruction, found, back⟩

/-- Every instruction but the halt has at least two operands, so none that is executed as a
whole starts on the last two places of memory. -/
theorem place_le_of_next? (whole : s.next? = some t) : s.place ≤ 17 := by
  obtain ⟨instruction, found, other, -⟩ := leads_of_cycle (next?_eq_some_iff.mp whole)
  have inside : s.place + instruction.opcode.operandCount < 20 := lt_of_instruction? found
  have operands : 2 ≤ instruction.opcode.operandCount := by
    cases instruction with
    | halt => exact (other rfl).elim
    | loadWord | storeWord | add | sub => exact Nat.le_refl 2
    | beq => exact Nat.le_succ 2
  omega

/-- **Going forward takes at least one place an instruction.** -/
theorem le_place_of_forward (forward : ∀ m < n, ∀ u, s.after m = some u → ¬ u.GoesBack)
    (reached : s.after n = some t) : n ≤ t.place := by
  induction n generalizing t with
  | zero => exact Nat.zero_le t.place
  | succ n ih =>
      obtain ⟨u, before, whole⟩ := Option.bind_eq_some_iff.mp reached
      have far := ih (fun m earlier => forward m (Nat.lt_succ_of_lt earlier)) before
      have onward := place_lt_of_next? whole (forward n (Nat.lt_succ_self n) u before)
      exact Nat.lt_of_le_of_lt far onward

/-- Going forward ends within 19 instructions. -/
theorem stopsAt_of_forward (forward : ∀ m < 19, ∀ u, s.after m = some u → ¬ u.GoesBack) :
    ∃ n ≤ 18, ∃ result u, s.StopsAt (n + 1) result u := by
  have ended : s.after 19 = none := by
    refine Option.eq_none_iff_forall_ne_some.mpr fun t goes => ?_
    obtain ⟨u, before, whole⟩ := Option.bind_eq_some_iff.mp goes
    have far : 18 ≤ u.place :=
      le_place_of_forward (fun m earlier => forward m (Nat.lt_succ_of_lt earlier)) before
    exact Nat.not_succ_le_self 17 (Nat.le_trans far (place_le_of_next? whole))
  obtain ⟨k, result, u, within, stops⟩ := exists_stopsAt ended
  obtain ⟨n, rfl⟩ := Nat.exists_eq_succ_of_ne_zero (Nat.pos_iff_ne_zero.mp stops.pos)
  exact ⟨n, Nat.le_of_succ_le_succ within, result, u, stops⟩

end State

/-- **Without going back a run ends quickly.** If a run exceeds a budget of 19 instructions or
more, one of the instructions that it executed goes back. If none goes back, the machine
completes at most 18 instructions, and the run ends as the machine halts or fails within the
next one. -/
theorem run_stops_unless_back (computer : Computer) (memory : Memory)
    (enough : 19 ≤ computer.limit) :
    ((∃ limit, (computer.run memory).result = .error (.stepLimitExceeded limit)) →
      memory.GoesBack computer.limit.toNat) ∧
    (¬ memory.GoesBack computer.limit.toNat →
      ∃ n ≤ 18, ∃ result u, memory.start.StopsAt (n + 1) result u ∧
        computer.run memory = ⟨result, u, memory.start.trace (n + 1)⟩) := by
  have budget : 19 ≤ computer.limit.toNat := UInt64.le_iff_toNat_le.mp enough
  have ends : ¬ memory.GoesBack computer.limit.toNat →
      ∃ n ≤ 18, ∃ result u, memory.start.StopsAt (n + 1) result u ∧
        computer.run memory = ⟨result, u, memory.start.trace (n + 1)⟩ := by
    intro forward
    obtain ⟨n, few, result, u, stops⟩ := memory.start.stopsAt_of_forward fun m before s reached
      back => forward ⟨m, Nat.lt_of_lt_of_le before budget, s, reached, back⟩
    refine ⟨n, few, result, u, stops, ?_⟩
    rw [computer.run_eq_runWithin]
    exact Memory.runWithin_of_stopsAt stops (Nat.le_trans (Nat.succ_le_succ few) budget)
  refine ⟨?_, ends⟩
  rintro ⟨limit, exceeded⟩
  by_cases back : memory.GoesBack computer.limit.toNat
  · exact back
  · obtain ⟨n, -, result, u, stops, run⟩ := ends back
    rw [run] at exceeded
    exact (stops.ne_stepLimitExceeded limit exceeded).elim

/-- The program stores over the operands of its branch, which leads forward until then and back
to the start from then on. -/
theorem run_stops_unless_back_of_patched_branch :
    let memory : Memory := ⟨#v[2, 0, 5, 5, 2, 1, 20, 0, 0, 0, 0, 0, 0, 0, 0, 0, 0, 0, 0, 0]⟩
    (19 : UInt64) ≤ 50 ∧
      ((Computer.new 50).run memory).result = .error (.stepLimitExceeded 50) ∧
      memory.GoesBack 50 := by
  intro memory
  have enough : (19 : UInt64) ≤ 50 := by decide
  have exceeded : ((Computer.new 50).run memory).result = .error (.stepLimitExceeded 50) := by
    simp only [memory]
    rfl
  refine ⟨enough, exceeded, ?_⟩
  exact (run_stops_unless_back (Computer.new 50) memory enough).1 ⟨50, exceeded⟩

end PocketTools.Machine
