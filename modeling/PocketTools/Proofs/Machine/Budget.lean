import Mathlib.Logic.Basic
import Mathlib.Logic.ExistsUnique
import PocketTools.Proofs.Machine.Failure

/-!
# What a budget does to a run

A budget cuts a run off and does not change it. Either there is one instruction
within which the run ends under every budget that reaches it, and every smaller
budget gives a start of that run (`SettlesAt`), or every budget is exceeded
(`settlesAt_xor_exceeded`). Budgets are those that a computer can have.
-/

namespace PocketTools.Machine

/-- A run that a budget cut off is the start of a longer run: it leaves the state
after exactly as many instructions as its budget, and it began exactly the first
so many operations. -/
structure Run.CutOff (run longer : Run) (memory : Memory) (limit : UInt64) : Prop where
  exceeded : run.result = .error (.stepLimitExceeded limit)
  reached : memory.start.after limit.toNat = some run.final
  count : run.executed.length = limit.toNat
  start : run.executed = longer.executed.take limit.toNat

/-- **A run settles at its `k`-th instruction.** It ends within that instruction
and not for want of budget, and every budget of at least `k` gives the same run.
Every smaller budget cuts that run off. -/
def SettlesAt (memory : Memory) (k : UInt64) : Prop :=
  1 ≤ k ∧ ∃ run : Run,
    memory.start.StopsAt k.toNat run.result run.final ∧
    (∀ limit, run.result ≠ .error (.stepLimitExceeded limit)) ∧
    (∀ computer : Computer, k ≤ computer.limit → computer.run memory = run) ∧
    ∀ computer : Computer, computer.limit < k →
      (computer.run memory).CutOff run memory computer.limit

/-- No budget is enough. -/
def ExceedsEveryLimit (memory : Memory) : Prop :=
  ∀ computer : Computer,
    (computer.run memory).result = .error (.stepLimitExceeded computer.limit)

variable {memory : Memory} {s u : State} {k n : Nat} {result : Except Fault Summary}

/-- The machine does not stop for want of budget. -/
theorem State.StopsAt.ne_stepLimitExceeded (stops : s.StopsAt k result u) (limit : UInt64) :
    result ≠ .error (.stepLimitExceeded limit) := by
  cases stops with
  | halted reached halts => simp only [ne_eq, reduceCtorEq, not_false_eq_true]
  | failed reached fails =>
      intro same
      exact State.ne_stepLimitExceeded_of_cycle fails limit (Except.error.inj same)

/-- A computer whose budget is used up says so with its own budget. -/
theorem Computer.run_of_after {computer : Computer} {t : State}
    (reached : memory.start.after computer.limit.toNat = some t) :
    computer.run memory = ⟨.error (.stepLimitExceeded computer.limit), t,
      memory.start.trace computer.limit.toNat⟩ := by
  rw [computer.run_eq_runWithin, Memory.runWithin_of_after reached, UInt64.ofNat_toNat]

/-- A machine that stops within reach of a budget settles there. -/
theorem settlesAt_of_stopsAt {k : UInt64} (stops : memory.start.StopsAt k.toNat result u) :
    SettlesAt memory k := by
  refine ⟨UInt64.le_iff_toNat_le.mpr stops.pos, ⟨result, u, memory.start.trace k.toNat⟩, stops,
    stops.ne_stepLimitExceeded, ?_, ?_⟩
  · intro computer enough
    rw [computer.run_eq_runWithin]
    exact Memory.runWithin_of_stopsAt stops (UInt64.le_iff_toNat_le.mp enough)
  · intro computer short
    have before : computer.limit.toNat < k.toNat := UInt64.lt_iff_toNat_lt.mp short
    have isSome := stops.isSome_after_iff.mpr before
    obtain ⟨t, reached⟩ := Option.isSome_iff_exists.mp isSome
    rw [Computer.run_of_after reached]
    exact ⟨rfl, reached, State.length_trace isSome,
      (State.take_trace isSome (Nat.le_of_lt before)).symm⟩

/-- At most one instruction is that within which a run ends. -/
theorem SettlesAt.unique {k l : UInt64} (first : SettlesAt memory k)
    (second : SettlesAt memory l) : k = l := by
  obtain ⟨_, _, stops, _⟩ := first
  obtain ⟨_, _, stops', _⟩ := second
  have agree : ∀ n, n < k.toNat ↔ n < l.toNat := fun n =>
    stops.isSome_after_iff.symm.trans stops'.isSome_after_iff
  apply UInt64.toNat_inj.mp
  have := agree k.toNat
  have := agree l.toNat
  omega

/-- **A budget only cuts a run off.** Exactly one of two things holds of every
program: its run settles at one instruction, or every budget is exceeded. -/
theorem settlesAt_xor_exceeded (memory : Memory) :
    Xor (∃! k, SettlesAt memory k) (ExceedsEveryLimit memory) := by
  by_cases settles : ∃ k, SettlesAt memory k
  · obtain ⟨k, settled⟩ := settles
    refine Or.inl ⟨⟨k, settled, fun l other => other.unique settled⟩, ?_⟩
    intro exceeds
    obtain ⟨_, run, _, ends, same, _⟩ := settled
    have exceeded := exceeds (Computer.new k)
    rw [same (Computer.new k) (UInt64.le_refl k)] at exceeded
    exact ends _ exceeded
  · refine Or.inr ⟨?_, fun settled => settles settled.exists⟩
    intro computer
    cases reached : memory.start.after computer.limit.toNat with
    | some t => rw [Computer.run_of_after reached]
    | none =>
        obtain ⟨k, result, u, within, stops⟩ := State.exists_stopsAt reached
        have fits : (UInt64.ofNat k).toNat = k :=
          UInt64.toNat_ofNat_of_lt' (Nat.lt_of_le_of_lt within computer.limit.toNat_lt)
        exact (settles ⟨UInt64.ofNat k, settlesAt_of_stopsAt (fits.symm ▸ stops)⟩).elim

end PocketTools.Machine
