import PocketTools.Proofs.Machine.Decoding

/-!
# The states a run goes through

`State.after` is the state after a number of whole instructions, and
`State.StopsAt` says that the machine stops within the instruction of a given
number. A run under a budget is read off from them: it is cut off at the state
after as many instructions as its budget (`Memory.runWithin_of_after`), or it
ends where the machine stops (`Memory.runWithin_of_stopsAt`).
-/

namespace PocketTools.Machine

namespace State

/-- The state after one whole instruction that neither halts nor fails. -/
def next? (s : State) : Option State :=
  match s.cycle with
  | .next t => some t
  | .halted _ | .failed _ _ => none

/-- The state after `n` whole instructions, if the machine gets so far. -/
def after (s : State) : Nat → Option State
  | 0 => some s
  | n + 1 => (s.after n).bind next?

/-- The operation begun at a state: its byte was read and is known. -/
def begun (s : State) : Option Executed :=
  match s.opcode with
  | .ok op => some ⟨s.registers.pc, op⟩
  | .error _ => none

/-- The operations begun in the first `n` instructions. -/
def trace (s : State) : Nat → List Executed
  | 0 => []
  | n + 1 => s.trace n ++ ((s.after n).bind begun).toList

/-- The machine stops within its `k`-th instruction, with a result and a final
state. -/
inductive StopsAt (s : State) : (k : Nat) → Except Fault Summary → State → Prop where
  | halted {n : Nat} {t u : State} (reached : s.after n = some t) (halts : t.cycle = .halted u) :
      StopsAt s (n + 1) (.ok ⟨n + 1, u.registers⟩) u
  | failed {n : Nat} {t u : State} {fault : Fault} (reached : s.after n = some t)
      (fails : t.cycle = .failed fault u) : StopsAt s (n + 1) (.error fault) u

variable {s t u : State} {n m k : Nat}

theorem next?_eq_some_iff : s.next? = some t ↔ s.cycle = .next t := by
  unfold next?
  cases s.cycle with
  | next r => simp only [Option.some.injEq, Outcome.next.injEq]
  | halted _ | failed _ _ => simp only [reduceCtorEq]

/-- One instruction more leads from the state reached to its next one. -/
theorem after_succ_of_after (reached : s.after n = some t) : s.after (n + 1) = t.next? := by
  rw [after, reached, Option.bind_some]

/-- A way of so many instructions, and then some more, is one way. -/
theorem after_add (s : State) (m n : Nat) :
    s.after (m + n) = (s.after m).bind fun t => t.after n := by
  induction n with
  | zero =>
      rw [Nat.add_zero]
      cases s.after m <;> rfl
  | succ n ih =>
      rw [← Nat.add_assoc, after, ih, Option.bind_assoc]
      rfl

/-- A machine that gets far has been everywhere on the way. -/
theorem isSome_after_of_le (reached : (s.after n).isSome) (le : m ≤ n) : (s.after m).isSome := by
  obtain ⟨d, rfl⟩ := Nat.exists_eq_add_of_le le
  cases here : s.after m with
  | some t => rfl
  | none =>
      rw [after_add, here] at reached
      cases reached

/-- A whole instruction begins an operation. -/
theorem isSome_begun_of_cycle (whole : s.cycle = .next t) : s.begun.isSome := by
  unfold cycle at whole
  unfold begun
  cases known : s.opcode with
  | ok op => rfl
  | error fault =>
      rw [known] at whole
      cases whole

/-- Each whole instruction is in the trace once. -/
theorem length_trace (reached : (s.after n).isSome) : (s.trace n).length = n := by
  induction n with
  | zero => rfl
  | succ n ih =>
      have before := isSome_after_of_le reached (Nat.le_succ n)
      obtain ⟨t, here⟩ := Option.isSome_iff_exists.mp before
      obtain ⟨u, there⟩ := Option.isSome_iff_exists.mp reached
      rw [after_succ_of_after here, next?_eq_some_iff] at there
      obtain ⟨operation, begun⟩ := Option.isSome_iff_exists.mp (isSome_begun_of_cycle there)
      rw [trace, List.length_append, ih before, here, Option.bind_some, begun]
      rfl

/-- Going on only adds to the trace. -/
theorem trace_extends (s : State) (le : m ≤ n) : s.trace m <+: s.trace n := by
  induction n with
  | zero =>
      obtain rfl := Nat.le_zero.mp le
      exact List.prefix_rfl
  | succ n ih =>
      rcases Nat.lt_or_ge n m with beyond | within
      · obtain rfl := Nat.le_antisymm le beyond
        exact List.prefix_rfl
      · exact (ih within).trans (List.prefix_append _ _)

/-- The trace of a longer way begins with that of a shorter one. -/
theorem take_trace (reached : (s.after m).isSome) (le : m ≤ n) :
    (s.trace n).take m = s.trace m := by
  have start := List.prefix_iff_eq_take.mp (trace_extends s le)
  rw [length_trace reached] at start
  exact start.symm

namespace StopsAt

variable {result : Except Fault Summary}

theorem pos (stops : s.StopsAt k result u) : 1 ≤ k := by
  cases stops with
  | halted _ _ | failed _ _ => exact Nat.succ_le_succ (Nat.zero_le _)

/-- The machine gets exactly to the instruction within which it stops. -/
theorem isSome_after_iff (stops : s.StopsAt k result u) : (s.after n).isSome ↔ n < k := by
  obtain ⟨last, t, rfl, reached, ended⟩ :
      ∃ last t, k = last + 1 ∧ s.after last = some t ∧ t.next? = none := by
    cases stops with
    | @halted last t u reached halts => exact ⟨last, t, rfl, reached, by rw [next?, halts]⟩
    | @failed last t u fault reached fails => exact ⟨last, t, rfl, reached, by rw [next?, fails]⟩
  constructor
  · intro beyond
    refine Nat.lt_of_not_le fun past => ?_
    have there := isSome_after_of_le beyond past
    rw [after_succ_of_after reached, ended] at there
    cases there
  · intro before
    refine isSome_after_of_le ?_ (Nat.le_of_lt_succ before)
    rw [reached]
    rfl

end StopsAt

/-- A machine that does not go on for ever stops. -/
theorem exists_stopsAt (ended : s.after n = none) :
    ∃ k result u, k ≤ n ∧ s.StopsAt k result u := by
  induction n with
  | zero => cases ended
  | succ n ih =>
      cases here : s.after n with
      | none =>
          obtain ⟨k, result, u, le, stops⟩ := ih here
          exact ⟨k, result, u, Nat.le_succ_of_le le, stops⟩
      | some t =>
          cases last : t.cycle with
          | next u =>
              rw [after_succ_of_after here, next?_eq_some_iff.mpr last] at ended
              cases ended
          | halted u => exact ⟨n + 1, _, u, Nat.le_refl _, .halted here last⟩
          | failed fault u => exact ⟨n + 1, _, u, Nat.le_refl _, .failed here last⟩

end State

/-! ## Runs under a budget -/

/-- The state in which a program starts. -/
def Memory.start (memory : Memory) : State :=
  ⟨Registers.zero, memory⟩

/-- A run under a budget that is any number, not only a 64-bit one. -/
def Memory.runWithin (memory : Memory) (budget : Nat) : Run :=
  runFrom (UInt64.ofNat budget) budget 0 memory.start []

/-- A computer's run is the one under its budget, whatever registers it has. -/
theorem Computer.run_eq_runWithin (computer : Computer) (memory : Memory) :
    computer.run memory = memory.runWithin computer.limit.toNat := by
  rw [Computer.run, Memory.runWithin, UInt64.ofNat_toNat]
  rfl

variable {limit : UInt64} {s t u : State} {n k budget steps : Nat} {done : List Executed}

/-- One round of a run is one cycle. The operation begun is noted in any case. -/
theorem runFrom_succ (limit : UInt64) (budget steps : Nat) (s : State) (done : List Executed) :
    runFrom limit (budget + 1) steps s done =
      match s.cycle with
      | .next t => runFrom limit budget (steps + 1) t (s.begun.toList ++ done)
      | .halted t => ⟨.ok ⟨steps + 1, t.registers⟩, t, done.reverse ++ s.begun.toList⟩
      | .failed fault t => ⟨.error fault, t, done.reverse ++ s.begun.toList⟩ := by
  rw [runFrom, State.cycle, State.begun]
  cases s.opcode with
  | error fault => simp only [Option.toList_none, List.append_nil]
  | ok op =>
      cases step : s.step op <;>
        simp only [step, Option.toList_some, List.cons_append, List.nil_append, List.reverse_cons]

/-- A run with budget left goes on from the state it got to. -/
theorem runFrom_of_after (reached : s.after n = some t) :
    runFrom limit (n + budget) steps s done =
      runFrom limit budget (steps + n) t ((s.trace n).reverse ++ done) := by
  -- on the number of instructions, with any budget left after them
  induction n generalizing t budget with
  | zero =>
      cases reached
      rw [Nat.zero_add]
      rfl
  | succ n ih =>
      obtain ⟨before, here, whole⟩ := Option.bind_eq_some_iff.mp reached
      have noted : (s.trace (n + 1)).reverse = before.begun.toList ++ (s.trace n).reverse := by
        rw [State.trace, here, Option.bind_some, List.reverse_append]
        cases before.begun <;> rfl
      rw [Nat.add_right_comm, Nat.add_assoc, ih here, runFrom_succ,
        State.next?_eq_some_iff.mp whole, noted, List.append_assoc]
      rfl

namespace Memory

variable {memory : Memory}

/-- A run goes on from a state that it reaches with the budget that is left. -/
theorem runWithin_add (reached : memory.start.after n = some t) (budget : Nat) :
    memory.runWithin (n + budget) =
      runFrom (UInt64.ofNat (n + budget)) budget n t (memory.start.trace n).reverse := by
  rw [runWithin, runFrom_of_after reached, Nat.zero_add, List.append_nil]

/-- A run whose budget is used up has completed as many instructions. -/
theorem runWithin_of_after (reached : memory.start.after n = some t) :
    memory.runWithin n =
      ⟨.error (.stepLimitExceeded (UInt64.ofNat n)), t, memory.start.trace n⟩ := by
  have run := runWithin_add reached 0
  rw [Nat.add_zero, runFrom, List.reverse_reverse] at run
  exact run

/-- With budget enough a run ends where the machine stops. -/
theorem runWithin_of_stopsAt {result : Except Fault Summary}
    (stops : memory.start.StopsAt k result u) (enough : k ≤ budget) :
    memory.runWithin budget = ⟨result, u, memory.start.trace k⟩ := by
  -- the last round takes one instruction of the budget and leaves the extra ones
  obtain ⟨extra, rfl⟩ := Nat.exists_eq_add_of_le enough
  cases stops with
  | @halted last t u reached halts =>
      rw [Nat.add_assoc, Nat.add_comm 1 extra, runWithin_add reached, runFrom_succ, halts,
        State.trace, reached, List.reverse_reverse]
      rfl
  | @failed last t u fault reached fails =>
      rw [Nat.add_assoc, Nat.add_comm 1 extra, runWithin_add reached, runFrom_succ, fails,
        State.trace, reached, List.reverse_reverse]
      rfl

/-- A run exceeds its budget, or it ends where the machine stops. -/
theorem runWithin_cases (memory : Memory) (budget : Nat) :
    (∃ t, memory.start.after budget = some t ∧
      memory.runWithin budget = ⟨.error (.stepLimitExceeded (UInt64.ofNat budget)), t,
        memory.start.trace budget⟩) ∨
    ∃ k result u, k ≤ budget ∧ memory.start.StopsAt k result u ∧
      memory.runWithin budget = ⟨result, u, memory.start.trace k⟩ := by
  cases reached : memory.start.after budget with
  | some t => exact Or.inl ⟨t, rfl, runWithin_of_after reached⟩
  | none =>
      obtain ⟨k, result, u, enough, stops⟩ := State.exists_stopsAt reached
      exact Or.inr ⟨k, result, u, enough, stops, runWithin_of_stopsAt stops enough⟩

end Memory

end PocketTools.Machine
