import PocketTools.Proofs.Journal.Parts
import PocketTools.Proofs.Machine.Onward

/-!
# The operations begun in a run

The operations that a run notes are those of the states it goes through, in order
(`State.getElem?_trace`). They start at address 0, stay inside memory, and follow one another
as the instructions lead (`Run.Follows`). How many there are, and whether the last one is a halt,
goes with the result of the run (`Run.Closes`). Both hold of every run (`run_follows_and_closes`).
-/

namespace PocketTools.Machine

namespace State

variable {s t u : State} {e : Executed} {op : Opcode} {fault : Fault} {m n i : Nat}

/-! ## The operation of one instruction -/

/-- An operation is known from the byte that codes it. -/
theorem fetch_of_opcode (known : s.opcode = .ok op) : s.memory.fetch s.place = .ok op.byte := by
  rw [opcode, current_eq_fetch] at known
  cases found : s.memory.fetch s.place with
  | error fault =>
      rw [found] at known
      cases known
  | ok b =>
      cases coded : Opcode.ofByte? b with
      | none => simp only [found, coded, reduceCtorEq] at known
      | some other =>
          simp only [found, coded, Except.ok.injEq] at known
          subst known
          rw [Opcode.ofByte?_eq_some_iff.mp coded]

/-- What is begun is the operation that is known, at the place of the program counter. -/
theorem begun_eq_some_iff : s.begun = some e ↔ e.pc = s.registers.pc ∧ s.opcode = .ok e.opcode := by
  rw [begun]
  cases s.opcode with
  | error fault => simp only [reduceCtorEq, and_false]
  | ok op =>
      obtain ⟨pc, op'⟩ := e
      simp only [Option.some.injEq, Executed.mk.injEq, Except.ok.injEq, eq_comm]

/-- An operation that is known is begun where the program counter stands. -/
theorem begun_of_opcode (known : s.opcode = .ok op) : s.begun = some ⟨s.registers.pc, op⟩ := by
  rw [begun, known]

theorem begun_of_unread (unread : s.opcode = .error fault) : s.begun = none := by
  rw [begun, unread]

/-- The byte of an operation that is begun is inside memory. -/
theorem lt_of_begun (begun : s.begun = some e) : e.pc.toNat < memorySize := by
  obtain ⟨here, known⟩ := begun_eq_some_iff.mp begun
  rw [here]
  exact Memory.lt_of_fetch_ok (fetch_of_opcode known)

/-- The machine halts exactly when a halt is begun, and it stays where it is. -/
theorem cycle_eq_halted_iff : s.cycle = .halted u ↔ s.opcode = .ok .halt ∧ u = s := by
  constructor
  · intro halts
    cases found : s.instruction? with
    | none =>
        obtain ⟨fault, fails⟩ := cycle_of_undecoded found
        rw [fails] at halts
        cases halts
    | some instruction =>
        have begun := begun_of_instruction? found
        rw [cycle_of_instruction? found] at halts
        cases instruction with
        | halt =>
            cases halts
            exact ⟨(begun_eq_some_iff.mp begun).2, s.seek_place⟩
        | loadWord | storeWord | beq =>
            simp only [Instruction.perform] at halts
            split at halts <;> cases halts
        | add | sub => cases halts
  · rintro ⟨known, rfl⟩
    rw [cycle, known]
    rfl

/-- An instruction that does not halt the machine is no halt. -/
theorem ne_halt_of_begun (begun : s.begun = some e) (onward : ∀ u, s.cycle ≠ .halted u) :
    e.opcode ≠ .halt := by
  intro halt
  have known := (begun_eq_some_iff.mp begun).2
  exact onward s (cycle_eq_halted_iff.mpr ⟨halt ▸ known, rfl⟩)

/-! ## The operations of many instructions -/

/-- **The operations begun are those of the states passed**, one for each state in order. -/
theorem getElem?_trace (found : (s.trace n)[i]? = some e) :
    i < n ∧ ∃ t, s.after i = some t ∧ t.begun = some e := by
  induction n with
  | zero => cases found
  | succ n ih =>
      rw [trace, List.getElem?_append] at found
      split at found
      · obtain ⟨before, t, reached, begun⟩ := ih found
        exact ⟨Nat.lt_succ_of_lt before, t, reached, begun⟩
      · rename_i beyond
        cases reached : s.after n with
        | none =>
            rw [reached] at found
            cases found
        | some t =>
            have count : (s.trace n).length = n := length_trace (reached ▸ rfl)
            rw [reached, Option.bind_some, count] at found
            cases begun : t.begun with
            | none =>
                rw [begun] at found
                cases found
            | some last =>
                rw [begun, Option.toList_some, List.getElem?_singleton] at found
                split at found
                · rename_i here
                  have same : i = n := by omega
                  subst same
                  cases found
                  exact ⟨Nat.lt_succ_self i, t, reached, begun⟩
                · cases found

/-- Every operation of a trace is begun after some number of whole instructions. -/
theorem exists_of_mem_trace (mem : e ∈ s.trace n) :
    ∃ i < n, ∃ t, s.after i = some t ∧ t.begun = some e := by
  obtain ⟨i, found⟩ := List.mem_iff_getElem?.mp mem
  obtain ⟨before, t, reached, begun⟩ := getElem?_trace found
  exact ⟨i, before, t, reached, begun⟩

/-- As long as the machine goes on, no halt is begun. -/
theorem ne_halt_of_mem_trace (reached : (s.after n).isSome) (mem : e ∈ s.trace n) :
    e.opcode ≠ .halt := by
  obtain ⟨i, before, t, here, begun⟩ := exists_of_mem_trace mem
  refine ne_halt_of_begun begun fun u halts => ?_
  have onward := isSome_after_of_le reached before
  rw [after_succ_of_after here, next?, halts] at onward
  cases onward

/-- One more instruction adds to the trace what it begins, if it begins anything. -/
theorem trace_succ_of_after (reached : s.after n = some t) :
    s.trace (n + 1) = s.trace n ++ t.begun.toList := by
  rw [trace, reached, Option.bind_some]

/-- No halt is begun either where an instruction fails. -/
theorem ne_halt_of_failed (reached : s.after n = some t) (fails : t.cycle = .failed fault u)
    (mem : e ∈ s.trace (n + 1)) : e.opcode ≠ .halt := by
  rw [trace_succ_of_after reached, List.mem_append] at mem
  rcases mem with earlier | last
  · exact ne_halt_of_mem_trace (reached ▸ rfl) earlier
  · refine ne_halt_of_begun (Option.mem_toList.mp last) fun v halts => ?_
    rw [fails] at halts
    cases halts

end State

/-! ## The operations of a run -/

/-- **The operations begun follow one another.** The first is at address 0, all are inside
memory, and each is that of the instruction at its state. The next operation is behind the
instruction, unless this one took a branch or put a value into the program counter. -/
structure Run.Follows (run : Run) (memory : Memory) : Prop where
  first : ∀ e, run.executed[0]? = some e → e.pc = 0
  inside : ∀ e ∈ run.executed, e.pc.toNat < 20
  onward : ∀ i e next, run.executed[i]? = some e → run.executed[i + 1]? = some next →
    ∃ s instruction, memory.start.after i = some s ∧ s.instruction? = some instruction ∧
      e = ⟨s.registers.pc, instruction.opcode⟩ ∧
      (instruction.branch? s = none → instruction.destination? ≠ some .pc →
        next.pc.toNat = e.pc.toNat + if e.opcode = .beq then 4 else 3)

/-- **How a run closes**, with the operations that it has begun and the events that it notes. -/
inductive Run.Closes (computer : Computer) (memory : Memory) (run : Run) : Prop where
  /-- The last operation and no other is a halt, and the summary tells of it. -/
  | halted {summary : Summary} {earlier : List Executed} (result : run.result = .ok summary)
      (begun : run.executed = earlier ++ [⟨summary.registers.pc, .halt⟩])
      (goesOn : ∀ e ∈ earlier, e.opcode ≠ .halt) (positive : 1 ≤ summary.steps)
      (count : summary.steps = run.executed.length)
      (within : summary.steps ≤ computer.limit.toNat)
      (code : run.final.memory.bytes[summary.registers.pc.toNat]? = some 0xFF)
      (registers : (computer.after run).registers = summary.registers)
      (notes : Journal.noted (Journal.runProgram computer memory).acts =
        run.executed.map .executing ++ [.halted summary])
  /-- As many operations as the budget are begun, and none of them is a halt. -/
  | exceeded (result : run.result = .error (.stepLimitExceeded computer.limit))
      (count : run.executed.length = computer.limit.toNat)
      (goesOn : ∀ e ∈ run.executed, e.opcode ≠ .halt)
      (notes : Journal.noted (Journal.runProgram computer memory).acts =
        run.executed.map .executing)
  /-- There is an instruction within the budget whose operation cannot be read or is unknown, and
  only those before it are begun. -/
  | undecoded {fault : Fault} {s : State} (result : run.result = .error fault)
      (other : ∀ limit, fault ≠ .stepLimitExceeded limit)
      (reached : memory.start.after run.executed.length = some s)
      (unread : s.opcode = .error fault)
      (within : run.executed.length < computer.limit.toNat)
      (goesOn : ∀ e ∈ run.executed, e.opcode ≠ .halt)
      (notes : Journal.noted (Journal.runProgram computer memory).acts =
        run.executed.map .executing)
  /-- The last operation is begun, but its instruction fails. -/
  | failed {fault : Fault} {s : State} {op : Opcode} {n : Nat} (result : run.result = .error fault)
      (other : ∀ limit, fault ≠ .stepLimitExceeded limit)
      (reached : memory.start.after n = some s) (known : s.opcode = .ok op)
      (fails : s.cycle = .failed fault run.final) (count : run.executed.length = n + 1)
      (within : run.executed.length ≤ computer.limit.toNat)
      (goesOn : ∀ e ∈ run.executed, e.opcode ≠ .halt)
      (notes : Journal.noted (Journal.runProgram computer memory).acts =
        run.executed.map .executing)

/-- Events that are noted one by one are the events noted. -/
theorem Journal.noted_notes (events : List Journal.Event) :
    Journal.noted (events.map .note) = events := by
  induction events with
  | nil => rfl
  | cons event events ih => exact congrArg (event :: ·) ih

/-- A run notes its operations and, if it halts, its summary. -/
theorem Journal.noted_runProgram (computer : Computer) (memory : Memory) :
    Journal.noted (Journal.runProgram computer memory).acts =
      Journal.runEvents (computer.run memory) := by
  have silent : ∀ (result : Except Fault Summary) (left : Memory),
      (Journal.Transcript.ofExcept result >>= fun summary => pure (summary, left)).acts = [] := by
    intro result left
    cases result <;> rfl
  unfold Journal.runProgram
  rw [Journal.Transcript.bind_of_ok rfl, Journal.noted_append, silent]
  exact (List.append_nil _).trans (Journal.noted_notes _)

section

variable {computer : Computer} {memory : Memory} {n : Nat} {e next : Executed}

/-- What a run executed is the trace of some number of instructions. -/
theorem Memory.exists_trace_eq (memory : Memory) (computer : Computer) :
    ∃ n, (computer.run memory).executed = memory.start.trace n := by
  rw [computer.run_eq_runWithin]
  rcases memory.runWithin_cases computer.limit.toNat with
    ⟨t, reached, run⟩ | ⟨k, result, u, enough, stops, run⟩
  · exact ⟨_, by rw [run]⟩
  · exact ⟨_, by rw [run]⟩

/-- Two operations that follow one another. -/
theorem State.onward_of_trace {s : State} {i : Nat} (found : (s.trace n)[i]? = some e)
    (after : (s.trace n)[i + 1]? = some next) :
    ∃ t instruction, s.after i = some t ∧ t.instruction? = some instruction ∧
      e = ⟨t.registers.pc, instruction.opcode⟩ ∧
      (instruction.branch? t = none → instruction.destination? ≠ some .pc →
        next.pc.toNat = e.pc.toNat + if e.opcode = .beq then 4 else 3) := by
  obtain ⟨-, t, reached, begun⟩ := getElem?_trace found
  obtain ⟨-, u, reached', begun'⟩ := getElem?_trace after
  rw [after_succ_of_after reached, next?_eq_some_iff] at reached'
  obtain ⟨instruction, decoded, other, leads⟩ := leads_of_cycle reached'
  rw [begun_of_instruction? decoded, Option.some.injEq] at begun
  subst begun
  refine ⟨t, instruction, reached, decoded, rfl, fun stays keeps => ?_⟩
  rw [(begun_eq_some_iff.mp begun').1]
  cases leads with
  | onward _ _ onward =>
      change u.place = t.place + _
      rw [onward, Nat.add_assoc]
      cases instruction with
      | halt => exact (other rfl).elim
      | loadWord | storeWord | add | sub | beq => rfl
  | branched taken _ =>
      rw [stays] at taken
      cases taken
  | directed writes => exact (keeps writes).elim

/-- Every operation of a run stands where the one before it leads. -/
theorem Computer.run_follows (computer : Computer) (memory : Memory) :
    (computer.run memory).Follows memory := by
  obtain ⟨n, executed⟩ := memory.exists_trace_eq computer
  constructor
  · intro e found
    rw [executed] at found
    obtain ⟨-, t, reached, begun⟩ := State.getElem?_trace found
    cases reached
    exact (State.begun_eq_some_iff.mp begun).1
  · intro e mem
    rw [executed] at mem
    obtain ⟨i, -, t, -, begun⟩ := State.exists_of_mem_trace mem
    exact State.lt_of_begun begun
  · intro i e next found after
    rw [executed] at found after
    exact State.onward_of_trace found after

/-- With enough budget a run comes to what the machine stops with, and it executed the trace
up to there. -/
theorem Computer.run_of_stopsAt {result : Except Fault Summary} {u : State}
    (stops : memory.start.StopsAt n result u) (enough : n ≤ computer.limit.toNat) :
    computer.run memory = ⟨result, u, memory.start.trace n⟩ := by
  rw [computer.run_eq_runWithin, Memory.runWithin_of_stopsAt stops enough]

/-- A run that exceeds its budget has begun as many operations. -/
theorem Computer.closes_of_after {t : State}
    (reached : memory.start.after computer.limit.toNat = some t) :
    (computer.run memory).Closes computer memory := by
  have goes : (memory.start.after computer.limit.toNat).isSome := reached ▸ rfl
  have notes := Journal.noted_runProgram computer memory
  rw [Computer.run_of_after reached] at notes ⊢
  exact .exceeded rfl (State.length_trace goes) (fun e => State.ne_halt_of_mem_trace goes)
    (notes.trans (List.append_nil _))

/-- A run within whose budget the machine halts closes with that halt. -/
theorem Computer.closes_of_halted {t u : State} (reached : memory.start.after n = some t)
    (halts : t.cycle = .halted u) (enough : n + 1 ≤ computer.limit.toNat) :
    (computer.run memory).Closes computer memory := by
  have notes := Journal.noted_runProgram computer memory
  rw [Computer.run_of_stopsAt (.halted reached halts) enough] at notes ⊢
  obtain ⟨known, rfl⟩ := State.cycle_eq_halted_iff.mp halts
  have goes : (memory.start.after n).isSome := reached ▸ rfl
  have code : u.memory.bytes[u.place]? = some 0xFF :=
    Memory.fetch_eq_ok_iff.mp (State.fetch_of_opcode known)
  have trace := State.trace_succ_of_after reached
  rw [State.begun_of_opcode known] at trace
  have count : (memory.start.trace (n + 1)).length = n + 1 := by
    rw [trace, List.length_append, State.length_trace goes]
    rfl
  exact .halted rfl trace (fun e => State.ne_halt_of_mem_trace goes) (Nat.le_add_left 1 n)
    count.symm enough code rfl notes

/-- Whether the operation of the instruction that fails is begun depends on its first byte. -/
theorem Computer.closes_of_failed {t u : State} {fault : Fault}
    (reached : memory.start.after n = some t) (fails : t.cycle = .failed fault u)
    (enough : n + 1 ≤ computer.limit.toNat) : (computer.run memory).Closes computer memory := by
  have notes := Journal.noted_runProgram computer memory
  rw [Computer.run_of_stopsAt (.failed reached fails) enough] at notes ⊢
  have notes := notes.trans (List.append_nil _)
  have other := State.ne_stepLimitExceeded_of_cycle fails
  have goesOn : ∀ e ∈ memory.start.trace (n + 1), e.opcode ≠ .halt :=
    fun e => State.ne_halt_of_failed reached fails
  have goes : (memory.start.after n).isSome := reached ▸ rfl
  have count := State.length_trace goes
  have trace := State.trace_succ_of_after reached
  cases known : t.opcode with
  | error cause =>
      obtain rfl : cause = fault := by
        rw [State.cycle, known] at fails
        cases fails
        rfl
      rw [State.begun_of_unread known, Option.toList_none, List.append_nil] at trace
      rw [trace] at goesOn notes ⊢
      exact .undecoded rfl other (count.symm ▸ reached) known (count.symm ▸ enough) goesOn notes
  | ok op =>
      have last : (memory.start.trace (n + 1)).length = n + 1 := by
        rw [trace, State.begun_of_opcode known, List.length_append, count]
        rfl
      exact .failed rfl other reached known fails last (last.symm ▸ enough) goesOn notes

end

/-- **The operations begun match the result.** In every run they follow one another from address
0 on, inside memory, and their number and the last of them go with the result of the run. -/
theorem run_follows_and_closes (computer : Computer) (memory : Memory) :
    (computer.run memory).Follows memory ∧ (computer.run memory).Closes computer memory := by
  refine ⟨computer.run_follows memory, ?_⟩
  cases reached : memory.start.after computer.limit.toNat with
  | some t => exact Computer.closes_of_after reached
  | none =>
      obtain ⟨k, result, u, enough, stops⟩ := State.exists_stopsAt reached
      cases stops with
      | halted reached halts => exact Computer.closes_of_halted reached halts enough
      | failed reached fails => exact Computer.closes_of_failed reached fails enough

end PocketTools.Machine
