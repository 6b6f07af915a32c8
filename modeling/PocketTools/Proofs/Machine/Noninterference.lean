import PocketTools.Proofs.Machine.Footprint

/-!
# Bytes that are never read

What an instruction does depends on no byte that it does not read, and so two runs
from memories that differ only where the first reads nothing, or nothing before it
has written there, cannot be told apart but by those bytes themselves
(`Memory.runWithin_agreesOff`). The two runs are carried along side by side: their registers
are the same, and so are their bytes, but for the hidden ones not written so far.
-/

namespace PocketTools.Machine

/-- Memories that are the same but for the bytes at hidden places. -/
def Memory.AgreesOff (hidden : Nat → Prop) (memory other : Memory) : Prop :=
  ∀ q, ¬ hidden q → memory.bytes[q]? = other.bytes[q]?

/-- States with the same registers whose memories are the same but for the bytes at
hidden places. -/
structure State.AgreesOff (hidden : Nat → Prop) (s t : State) : Prop where
  registers : s.registers = t.registers
  memory : s.memory.AgreesOff hidden t.memory

/-- Outcomes that are the same but for the bytes at hidden places. -/
inductive Outcome.AgreesOff (hidden : Nat → Prop) : Outcome → Outcome → Prop where
  | next {s t : State} (same : s.AgreesOff hidden t) : AgreesOff hidden (.next s) (.next t)
  | halted {s t : State} (same : s.AgreesOff hidden t) : AgreesOff hidden (.halted s) (.halted t)
  | failed {s t : State} {fault : Fault} (same : s.AgreesOff hidden t) :
      AgreesOff hidden (.failed fault s) (.failed fault t)

/-- Runs that are the same but for the bytes at hidden places of the memory they leave. -/
structure Run.AgreesOff (hidden : Nat → Prop) (run other : Run) : Prop where
  result : run.result = other.result
  executed : run.executed = other.executed
  final : run.final.AgreesOff hidden other.final

variable {hidden : Nat → Prop} {memory other : Memory} {s t u v : State} {q n : Nat}

namespace Memory.AgreesOff

/-- Bytes that nobody wrote stay hidden. -/
theorem unwritten (same : memory.AgreesOff hidden other) :
    memory.AgreesOff (fun q => hidden q ∧ q ∉ ([] : List Nat)) other := by
  intro q shown
  exact same q fun hides => shown ⟨hides, List.not_mem_nil⟩

/-- A byte that is written is the same from then on. -/
theorem setWordAt (same : memory.AgreesOff hidden other) {place : Nat} (w : UInt16)
    (inside : place + 1 < memorySize) :
    (memory.setWordAt place w inside).AgreesOff (fun q => hidden q ∧ q ∉ [place, place + 1])
      (other.setWordAt place w inside) := by
  intro q shown
  rw [getElem?_setWordAt, getElem?_setWordAt]
  split
  · rfl
  · rename_i notHigh
    split
    · rfl
    · rename_i notLow
      refine same q fun hides => shown ⟨hides, ?_⟩
      rw [List.mem_cons, List.mem_singleton, not_or]
      exact ⟨Ne.symm notLow, Ne.symm notHigh⟩

/-- A word can be read alike where none of its bytes is hidden. -/
theorem readWord (same : memory.AgreesOff hidden other) {operand : UInt8}
    (low : ¬ hidden operand.toNat) (high : ¬ hidden (operand.toNat + 1)) :
    memory.readWord operand.toUInt64 = other.readWord operand.toUInt64 := by
  have place : operand.toUInt64.toNat = operand.toNat := UInt8.toNat_toUInt64 operand
  have room : operand.toUInt64.toNat + 1 < UInt64.size := by
    rw [place]
    exact Nat.lt_trans (Nat.succ_lt_succ operand.toNat_lt) (by decide)
  have first : memory.byte operand.toUInt64 = other.byte operand.toUInt64 := by
    rw [byte_eq_fetch, byte_eq_fetch, place]
    exact fetch_congr (same _ low)
  have second : memory.byte (operand.toUInt64 + 1) = other.byte (operand.toUInt64 + 1) := by
    rw [byte_eq_fetch, byte_eq_fetch, toNat_succ room, place]
    exact fetch_congr (same _ high)
  rw [Memory.readWord, Memory.readWord, first, highAddress_of_lt room]
  change (do let low ← _; let high ← memory.byte (operand.toUInt64 + 1); return word low high) =
    do let low ← _; let high ← other.byte (operand.toUInt64 + 1); return word low high
  rw [second]

end Memory.AgreesOff

/-- An instruction does the same where nothing that it loads is hidden. -/
theorem Instruction.perform_agreesOff (instruction : Instruction) (same : s.AgreesOff hidden t)
    (shown : ∀ q ∈ instruction.loads, ¬ hidden q) :
    (instruction.perform s).AgreesOff (fun q => hidden q ∧ q ∉ instruction.stores)
      (instruction.perform t) := by
  obtain ⟨registers, memory⟩ := s
  obtain ⟨_, other⟩ := t
  obtain ⟨rfl, same⟩ := same
  cases instruction with
  | loadWord target address =>
      have read : memory.readWord address.toUInt64 = other.readWord address.toUInt64 :=
        same.readWord (shown _ (List.mem_cons_self ..)) (shown _ (by simp [loads]))
      simp only [perform, read]
      cases other.readWord address.toUInt64 with
      | ok w => exact .next ⟨rfl, same.unwritten⟩
      | error fault => exact .failed ⟨rfl, same.unwritten⟩
  | storeWord source address =>
      simp only [perform, Memory.writeWord_operand, stores]
      split
      · rename_i inside
        exact .next ⟨rfl, same.setWordAt _ inside⟩
      · exact .failed ⟨rfl, same.unwritten⟩
  | beq first second target =>
      simp only [perform]
      split <;> exact .next ⟨rfl, same.unwritten⟩
  | add | sub => exact .next ⟨rfl, same.unwritten⟩
  | halt => exact .halted ⟨rfl, same.unwritten⟩

namespace State

/-- States in which the same instruction is next, with the same footprint. -/
theorem AgreesOff.decoded (same : s.AgreesOff hidden t) (shown : ∀ q ∈ s.reads, ¬ hidden q) :
    t.place = s.place ∧ s.memory.instructionAt s.place = t.memory.instructionAt s.place := by
  refine ⟨congrArg (·.pc.toNat) same.registers.symm, ?_⟩
  refine Memory.instructionAt_congr s.place_lt fun q fetched => ?_
  exact same.memory q (shown q (List.mem_append_left _ fetched))

/-- States that agree on what is read write to the same places. -/
theorem AgreesOff.writes_eq (same : s.AgreesOff hidden t) (shown : ∀ q ∈ s.reads, ¬ hidden q) :
    t.writes = s.writes := by
  obtain ⟨place, decoded⟩ := same.decoded shown
  rw [writes, writes, place, decoded]

/-- States that agree on what is read begin the same operation. -/
theorem AgreesOff.begun_eq (same : s.AgreesOff hidden t) (shown : ∀ q ∈ s.reads, ¬ hidden q) :
    t.begun = s.begun := by
  obtain ⟨place, _⟩ := same.decoded shown
  have here : t.current = s.current := by
    rw [current_eq_fetch, current_eq_fetch, place]
    refine Memory.fetch_congr (same.memory s.place (shown s.place ?_)).symm
    exact List.mem_append_left _ (Memory.mem_fetched_self s.place_lt)
  rw [begun, begun, opcode, opcode, here, same.registers]

/-- **Two states, one instruction.** If it reads no hidden byte, it does the same in both. -/
theorem AgreesOff.cycle (same : s.AgreesOff hidden t) (shown : ∀ q ∈ s.reads, ¬ hidden q) :
    s.cycle.AgreesOff (fun q => hidden q ∧ q ∉ s.writes) t.cycle := by
  obtain ⟨place, decoded⟩ := same.decoded shown
  rw [cycle_eq_referenceStep, cycle_eq_referenceStep, referenceStep, referenceStep, place,
    ← decoded, writes]
  have seek : ∀ n, (s.seek n).AgreesOff hidden (t.seek n) := fun n =>
    ⟨congrArg (fun registers : Registers => { registers with pc := UInt16.ofNat n })
      same.registers, same.memory⟩
  cases found : s.memory.instructionAt s.place with
  | error fault => exact .failed ⟨(seek _).registers, same.memory.unwritten⟩
  | ok instruction =>
      refine instruction.perform_agreesOff (seek _) fun q loaded => shown q ?_
      rw [reads, found]
      exact List.mem_append_right _ loaded

end State

/-! ## Two runs side by side -/

/-- A byte that is hidden from every instruction until one writes it: of the first
`budget` instructions none reads it before an earlier one has written it. -/
def State.UnreadUntilWritten (s : State) (budget place : Nat) : Prop :=
  ∀ n < budget, ∀ t ∈ s.after n, place ∈ t.reads → place ∈ s.written n

/-- What is not read within a budget is not read within a smaller one. -/
theorem State.UnreadUntilWritten.of_le {budget shorter : Nat}
    (unread : s.UnreadUntilWritten budget q) (le : shorter ≤ budget) :
    s.UnreadUntilWritten shorter q :=
  fun n before => unread n (Nat.lt_of_lt_of_le before le)

/-- What is hidden after one more instruction. -/
theorem hidden_append (hidden : Nat → Prop) (first second : List Nat) :
    (fun q => (hidden q ∧ q ∉ first) ∧ q ∉ second) = fun q => hidden q ∧ q ∉ first ++ second := by
  funext q
  rw [List.mem_append, not_or, and_assoc]

namespace Outcome.AgreesOff

variable {first second : Outcome}

/-- If one instruction goes on, so does the other, and the states agree again. -/
theorem of_next (same : first.AgreesOff hidden second) (goes : first = .next u) :
    ∃ v, second = .next v ∧ u.AgreesOff hidden v := by
  cases same with
  | next same =>
      cases goes
      exact ⟨_, rfl, same⟩
  | halted _ | failed _ => cases goes

/-- If one instruction halts, so does the other, in states that agree. -/
theorem of_halted (same : first.AgreesOff hidden second) (halts : first = .halted u) :
    ∃ v, second = .halted v ∧ u.AgreesOff hidden v := by
  cases same with
  | halted same =>
      cases halts
      exact ⟨_, rfl, same⟩
  | next _ | failed _ => cases halts

/-- If one instruction fails, so does the other, with the same fault. -/
theorem of_failed {fault : Fault} (same : first.AgreesOff hidden second)
    (fails : first = .failed fault u) :
    ∃ v, second = .failed fault v ∧ u.AgreesOff hidden v := by
  cases same with
  | failed same =>
      cases fails
      exact ⟨_, rfl, same⟩
  | next _ | halted _ => cases fails

/-- If one way ends here, so does the other. -/
theorem next?_eq_none (same : s.cycle.AgreesOff hidden t.cycle) (ends : s.next? = none) :
    t.next? = none := by
  unfold State.next? at ends ⊢
  generalize s.cycle = first at same ends
  generalize t.cycle = second at same
  cases same with
  | next _ => cases ends
  | halted _ | failed _ => rfl

end Outcome.AgreesOff

namespace State

/-- **Two machines in step.** After `n` instructions both have got equally far, begun
the same operations and written the same places, and their states differ at most in
hidden bytes that have not been written. -/
structure InStep (hidden : Nat → Prop) (s t : State) (n : Nat) : Prop where
  both : ∀ u, s.after n = some u →
    ∃ v, t.after n = some v ∧ u.AgreesOff (fun q => hidden q ∧ q ∉ s.written n) v
  neither : s.after n = none → t.after n = none
  written : t.written n = s.written n
  trace : t.trace n = s.trace n

namespace InStep

/-- The next instruction comes to the same. -/
theorem cycle (inStep : s.InStep hidden t n)
    (unread : ∀ q, hidden q → s.UnreadUntilWritten (n + 1) q) (here : s.after n = some u) :
    ∃ v, t.after n = some v ∧ v.writes = u.writes ∧ v.begun = u.begun ∧
      u.cycle.AgreesOff (fun q => hidden q ∧ q ∉ s.written (n + 1)) v.cycle := by
  obtain ⟨v, there, alike⟩ := inStep.both u here
  have shown : ∀ q ∈ u.reads, ¬ (hidden q ∧ q ∉ s.written n) := by
    rintro q read ⟨hides, notYet⟩
    exact notYet (unread q hides n (Nat.lt_succ_self n) u here read)
  refine ⟨v, there, alike.writes_eq shown, alike.begun_eq shown, ?_⟩
  rw [written_of_after here, ← hidden_append]
  exact alike.cycle shown

/-- Two ways that are in step stay in step for one instruction more. What is hidden before it
and read after it was written by it. -/
theorem succ (inStep : s.InStep hidden t n)
    (unread : ∀ q, hidden q → s.UnreadUntilWritten (n + 1) q) : s.InStep hidden t (n + 1) := by
  cases here : s.after n with
  | none =>
      -- neither machine gets so far, and nothing is added to what they did
      have there := inStep.neither here
      have ended : s.after (n + 1) = none := by rw [after, here, Option.bind_none]
      refine ⟨fun u goes => ?_, fun _ => by rw [after, there, Option.bind_none], ?_, ?_⟩
      · rw [ended] at goes
        cases goes
      · rw [State.written, State.written, here, there, inStep.written]
      · rw [State.trace, State.trace, here, there, inStep.trace]
  | some u =>
      obtain ⟨v, there, writes, begun, alike⟩ := inStep.cycle unread here
      refine ⟨fun w goes => ?_, fun ends => ?_, ?_, ?_⟩
      · rw [after_succ_of_after here, next?_eq_some_iff] at goes
        obtain ⟨x, goes', same⟩ := alike.of_next goes
        exact ⟨x, by rw [after_succ_of_after there, next?_eq_some_iff.mpr goes'], same⟩
      · rw [after_succ_of_after here] at ends
        rw [after_succ_of_after there]
        exact alike.next?_eq_none ends
      · rw [written_of_after here, written_of_after there, inStep.written, writes]
      · rw [State.trace, State.trace, here, there, Option.bind_some, Option.bind_some,
          inStep.trace, begun]

end InStep

/-- Two machines stay in step as long as no hidden byte is read before it is written. -/
theorem AgreesOff.inStep (same : s.AgreesOff hidden t)
    (unread : ∀ q, hidden q → s.UnreadUntilWritten n q) : s.InStep hidden t n := by
  induction n with
  | zero =>
      refine ⟨?_, nofun, rfl, rfl⟩
      rintro u ⟨⟩
      exact ⟨t, rfl, same.registers, same.memory.unwritten⟩
  | succ n ih => exact (ih fun q hides => (unread q hides).of_le (Nat.le_succ n)).succ unread

/-- If the first machine stops, the second stops alike. -/
theorem AgreesOff.stopsAt {k : Nat} {result : Except Fault Summary} (same : s.AgreesOff hidden t)
    (unread : ∀ q, hidden q → s.UnreadUntilWritten k q) (stops : s.StopsAt k result u) :
    ∃ v, t.StopsAt k result v ∧ u.AgreesOff (fun q => hidden q ∧ q ∉ s.written k) v := by
  cases stops with
  | @halted n w u reached halts =>
      have inStep := same.inStep fun q hides => (unread q hides).of_le (Nat.le_succ n)
      obtain ⟨x, there, _, _, alike⟩ := inStep.cycle unread reached
      obtain ⟨v, halts', left⟩ := alike.of_halted halts
      refine ⟨v, ?_, left⟩
      rw [left.registers]
      exact .halted there halts'
  | @failed n w u fault reached fails =>
      have inStep := same.inStep fun q hides => (unread q hides).of_le (Nat.le_succ n)
      obtain ⟨x, there, _, _, alike⟩ := inStep.cycle unread reached
      obtain ⟨v, fails', left⟩ := alike.of_failed fails
      exact ⟨v, .failed there fails', left⟩

end State

namespace Memory

/-- **Runs that cannot be told apart.** If no hidden byte is read before it is written,
the runs are the same but for the hidden bytes that are never written. -/
theorem runWithin_agreesOff {budget : Nat} (same : memory.AgreesOff hidden other)
    (unread : ∀ q, hidden q → memory.start.UnreadUntilWritten budget q) :
    (memory.runWithin budget).AgreesOff (fun q => hidden q ∧ q ∉ memory.start.written budget)
      (other.runWithin budget) := by
  have start : memory.start.AgreesOff hidden other.start := ⟨rfl, same⟩
  have inStep := start.inStep unread
  rcases memory.runWithin_cases budget with ⟨t, reached, run⟩ | ⟨k, result, u, enough, stops, run⟩
  · -- the budget is used up before the machine stops
    obtain ⟨v, there, alike⟩ := inStep.both t reached
    rw [run, runWithin_of_after there, inStep.trace]
    exact ⟨rfl, rfl, alike⟩
  · -- the machine stops, and what is not begun within the budget does not count
    have sooner : ∀ q, hidden q → memory.start.UnreadUntilWritten k q := fun q hides =>
      (unread q hides).of_le enough
    obtain ⟨v, stops', alike⟩ := start.stopsAt sooner stops
    rw [run, runWithin_of_stopsAt stops' enough, (start.inStep sooner).trace,
      stops.written_eq enough]
    exact ⟨rfl, rfl, alike⟩

/-- A byte that a run does not write is as it was. -/
theorem getElem?_runWithin {budget : Nat} (kept : q ∉ memory.start.written budget) :
    (memory.runWithin budget).final.memory.bytes[q]? = memory.bytes[q]? := by
  rcases memory.runWithin_cases budget with ⟨t, reached, run⟩ | ⟨k, result, u, enough, stops, run⟩
  · rw [run]
    exact State.getElem?_after reached kept
  · rw [run]
    rw [stops.written_eq enough] at kept
    cases stops with
    | @halted n t u reached ends | @failed n t u fault reached ends =>
        rw [State.written_of_after reached, List.mem_append, not_or] at kept
        have last := State.getElem?_cycle kept.2
        rw [ends] at last
        exact last.trans (State.getElem?_after reached kept.1)

theorem getElem?_eq_iff (q : Fin memorySize) :
    memory.bytes[q.val]? = other.bytes[q.val]? ↔ memory.bytes.get q = other.bytes.get q := by
  rw [Vector.getElem?_eq_getElem q.isLt, Vector.getElem?_eq_getElem q.isLt, Option.some.injEq]
  rfl

/-- A word that is put changes its two bytes only. -/
theorem agreesOff_setWordAt {place : Nat} (w : UInt16) (inside : place + 1 < memorySize) :
    memory.AgreesOff (fun q => q = place ∨ q = place + 1) (memory.setWordAt place w inside) := by
  intro q shown
  rw [not_or] at shown
  rw [getElem?_setWordAt, if_neg (Ne.symm shown.2), if_neg (Ne.symm shown.1)]

/-- The output is the same where both of its bytes are shown. -/
theorem AgreesOff.output_eq (same : memory.AgreesOff hidden other) (low : ¬ hidden 0x0E)
    (high : ¬ hidden 0x0F) : memory.output = other.output := by
  have first : memory.bytes[0x0E] = other.bytes[0x0E] := (getElem?_eq_iff 0x0E).mp (same _ low)
  have second : memory.bytes[0x0F] = other.bytes[0x0F] := (getElem?_eq_iff 0x0F).mp (same _ high)
  rw [output, output, wordAt, wordAt, first, second]

/-- A run that does not read an input word gives the same output for every value of it. -/
theorem runWithin_setWordAt {budget place : Nat} (w : UInt16) (inside : place + 1 < memorySize)
    (beyond : 0x0F < place) (low : memory.start.UnreadUntilWritten budget place)
    (high : memory.start.UnreadUntilWritten budget (place + 1)) :
    (memory.runWithin budget).result =
        ((memory.setWordAt place w inside).runWithin budget).result ∧
      (memory.runWithin budget).final.memory.output =
        ((memory.setWordAt place w inside).runWithin budget).final.memory.output := by
  have unread : ∀ q, q = place ∨ q = place + 1 → memory.start.UnreadUntilWritten budget q := by
    rintro q (rfl | rfl)
    · exact low
    · exact high
  have alike := runWithin_agreesOff (agreesOff_setWordAt w inside) unread
  refine ⟨alike.result, alike.final.memory.output_eq ?_ ?_⟩
  · rintro ⟨rfl | same, _⟩ <;> omega
  · rintro ⟨rfl | same, _⟩ <;> omega

end Memory

/-- **Bytes that are never read cannot influence a run.** Take two memories that differ
at most at one place, and let no instruction of the first run read that place before
an earlier one has written it. Then the runs have the same result, registers and begun
operations, and leave the same bytes, that place apart: it too is the same if it was
written, and otherwise each run leaves there what its memory held. So a program that
reads no byte of an input gives the same output for every value of it. -/
theorem run_same_of_unread (computer : Computer) (memory : Memory) :
    (∀ (place : Fin memorySize) (other : Memory),
      (∀ q : Fin memorySize, q ≠ place → memory.bytes.get q = other.bytes.get q) →
      memory.start.UnreadUntilWritten computer.limit.toNat place →
        (computer.run memory).result = (computer.run other).result ∧
        (computer.run memory).final.registers = (computer.run other).final.registers ∧
        (computer.run memory).executed = (computer.run other).executed ∧
        (∀ q : Fin memorySize, q ≠ place →
          (computer.run memory).final.memory.bytes.get q =
            (computer.run other).final.memory.bytes.get q) ∧
        if place.val ∈ memory.start.written computer.limit.toNat then
          (computer.run memory).final.memory.bytes.get place =
            (computer.run other).final.memory.bytes.get place
        else
          (computer.run memory).final.memory.bytes.get place = memory.bytes.get place ∧
            (computer.run other).final.memory.bytes.get place = other.bytes.get place) ∧
    (∀ w : UInt16, memory.start.UnreadUntilWritten computer.limit.toNat 0x10 →
      memory.start.UnreadUntilWritten computer.limit.toNat 0x11 →
        (computer.run memory).result = (computer.run (memory.setInput1 w)).result ∧
        (computer.run memory).final.memory.output =
          (computer.run (memory.setInput1 w)).final.memory.output) ∧
    ∀ w : UInt16, memory.start.UnreadUntilWritten computer.limit.toNat 0x12 →
      memory.start.UnreadUntilWritten computer.limit.toNat 0x13 →
        (computer.run memory).result = (computer.run (memory.setInput2 w)).result ∧
        (computer.run memory).final.memory.output =
          (computer.run (memory.setInput2 w)).final.memory.output := by
  simp only [Computer.run_eq_runWithin]
  refine ⟨fun place other same unread => ?_, fun w low high => ?_, fun w low high => ?_⟩
  · have start : memory.AgreesOff (fun q => q = place.val) other := by
      intro q shown
      rcases Nat.lt_or_ge q memorySize with inside | outside
      · exact (Memory.getElem?_eq_iff ⟨q, inside⟩).mpr
          (same ⟨q, inside⟩ fun here => shown (congrArg Fin.val here))
      · rw [Vector.getElem?_eq_none outside, Vector.getElem?_eq_none outside]
    have sees : ∀ q, q = place.val →
        memory.start.UnreadUntilWritten computer.limit.toNat q := by
      rintro q rfl
      exact unread
    have alike := Memory.runWithin_agreesOff start sees
    have together : State.AgreesOff _ memory.start other.start := ⟨rfl, start⟩
    refine ⟨alike.result, alike.final.registers, alike.executed, fun q apart => ?_, ?_⟩
    · exact (Memory.getElem?_eq_iff q).mp
        (alike.final.memory q fun hides => apart (Fin.ext hides.1))
    · have written : other.start.written computer.limit.toNat =
          memory.start.written computer.limit.toNat :=
        (together.inStep sees).written
      split
      · rename_i reached
        exact (Memory.getElem?_eq_iff place).mp
          (alike.final.memory place fun hides => hides.2 reached)
      · rename_i kept
        exact ⟨(Memory.getElem?_eq_iff place).mp (Memory.getElem?_runWithin kept),
          (Memory.getElem?_eq_iff place).mp (Memory.getElem?_runWithin (written ▸ kept))⟩
  · exact Memory.runWithin_setWordAt w (by decide) (by decide) low high
  · exact Memory.runWithin_setWordAt w (by decide) (by decide) low high

/-- The program stores its second register word over the second input and loads it back.
Until then nothing reads the input, so its first value does not matter. -/
theorem run_same_of_overwritten_input :
    let memory : Memory := ⟨#v[2, 0, 18, 1, 1, 18, 255, 0, 0, 0, 0, 0, 0, 0, 0, 0, 0, 0, 7, 9]⟩
    let other : Memory := ⟨#v[2, 0, 18, 1, 1, 18, 255, 0, 0, 0, 0, 0, 0, 0, 0, 0, 0, 0, 77, 9]⟩
    let computer := Computer.new 10
    (∀ q : Fin memorySize, q ≠ 18 → memory.bytes.get q = other.bytes.get q) ∧
      memory.start.UnreadUntilWritten 10 18 ∧
      (computer.run memory).result = (computer.run other).result := by
  intro memory other computer
  have same : ∀ q : Fin memorySize, q ≠ 18 → memory.bytes.get q = other.bytes.get q := by decide
  have unread : memory.start.UnreadUntilWritten 10 18 := by
    unfold State.UnreadUntilWritten
    decide +kernel
  exact ⟨same, unread, ((run_same_of_unread computer memory).1 18 other same unread).1⟩

end PocketTools.Machine
