import Mathlib.Data.Fintype.Pi
import Mathlib.Data.Fintype.Prod
import Mathlib.Data.Fintype.BigOperators
import Mathlib.Data.Fintype.Pigeonhole
import PocketTools.Proofs.Machine.Budget

/-!
# Runs that never end

The machine has finitely many states, so a run that goes on for ever comes back to a state,
and a run that comes back to a state goes on for ever (`Memory.repeats_xor_stops`). A computer
counts its instructions in a 64-bit word, and there are more states than such words. So the
limits of all computers are exceeded by the runs that come back to a state, and besides by a
run that stops beyond the last limit (`exceedsEveryLimit_iff`).
-/

namespace PocketTools.Machine

/-- Registers and memory are the same after two different numbers of whole
instructions. -/
def Memory.Repeats (memory : Memory) : Prop :=
  ∃ i j s, i < j ∧ memory.start.after i = some s ∧ memory.start.after j = some s

namespace State

/-- Three words and twenty bytes. -/
abbrev Code : Type :=
  (Fin UInt16.size × Fin UInt16.size × Fin UInt16.size) × (Fin memorySize → Fin UInt8.size)

/-- The words of the registers and the bytes of memory as small numbers. -/
def code (s : State) : Code :=
  ((s.registers.pc.toFin, s.registers.r1.toFin, s.registers.r2.toFin),
    fun place => s.memory.bytes[place].toFin)

/-- A state is known by its code. -/
theorem code_injective : Function.Injective code := by
  intro s t same
  obtain ⟨⟨pc, r1, r2⟩, bytes⟩ := s
  obtain ⟨⟨pc', r1', r2'⟩, bytes'⟩ := t
  simp only [code, Prod.mk.injEq] at same
  obtain ⟨⟨same_pc, same_r1, same_r2⟩, same_bytes⟩ := same
  obtain rfl := UInt16.toFin_inj.mp same_pc
  obtain rfl := UInt16.toFin_inj.mp same_r1
  obtain rfl := UInt16.toFin_inj.mp same_r2
  have bytes_eq : bytes = bytes' := by
    obtain ⟨bytes⟩ := bytes
    obtain ⟨bytes'⟩ := bytes'
    refine congrArg Memory.mk (Vector.ext fun place inside => ?_)
    exact UInt8.toFin_inj.mp (congrFun same_bytes ⟨place, inside⟩)
  rw [bytes_eq]

variable {s t : State} {i j n : Nat}

/-- However often a way goes round, it comes back to the same state. -/
theorem after_add_of_repeat (first : s.after i = some t) (second : s.after (i + j) = some t)
    (rounds : Nat) : s.after (i + rounds * j) = some t := by
  induction rounds with
  | zero => rw [Nat.zero_mul, Nat.add_zero, first]
  | succ rounds ih =>
      have round : t.after j = some t := by
        rw [after_add, first] at second
        exact second
      rw [Nat.succ_mul, ← Nat.add_assoc, after_add, ih]
      exact round

/-- A way that comes back to a state never ends. -/
theorem isSome_after_of_repeat (before : i < j) (first : s.after i = some t)
    (second : s.after j = some t) (n : Nat) : (s.after n).isSome := by
  have period : i + (j - i) = j := Nat.add_sub_cancel' (Nat.le_of_lt before)
  have far : s.after (i + n * (j - i)) = some t :=
    after_add_of_repeat first (period.symm ▸ second) n
  have beyond : n ≤ i + n * (j - i) :=
    Nat.le_add_left_of_le (Nat.le_mul_of_pos_right n (Nat.sub_pos_of_lt before))
  exact isSome_after_of_le (far ▸ rfl) beyond

/-- There are as many states as words of 208 bits. -/
theorem card_code : Fintype.card Code = 2 ^ 208 := by
  simp only [Code, Fintype.card_prod, Fintype.card_fin, Fintype.card_pi, Finset.prod_const,
    Finset.card_univ]
  decide

/-- Going on for as many instructions as there are states means coming back to one. -/
theorem exists_repeat (states : Fintype.card Code ≤ n) (goes : (s.after n).isSome) :
    ∃ i j t, i < j ∧ s.after i = some t ∧ s.after j = some t := by
  -- one state more is passed than there are states
  have here : ∀ i : Fin (n + 1), (s.after i.val).isSome := fun i =>
    isSome_after_of_le goes (Nat.le_of_lt_succ i.isLt)
  have small : Fintype.card Code < Fintype.card (Fin (n + 1)) := by
    rw [Fintype.card_fin]
    exact Nat.lt_succ_of_le states
  obtain ⟨i, j, differ, same⟩ := Fintype.exists_ne_map_eq_of_card_lt
    (fun i : Fin (n + 1) => code ((s.after i.val).get (here i))) small
  have both : s.after i.val = s.after j.val := by
    rw [← Option.some_get (here i), ← Option.some_get (here j), code_injective same]
  have found : s.after i.val = some ((s.after i.val).get (here i)) := (Option.some_get _).symm
  rcases Nat.lt_or_gt_of_ne (Fin.val_ne_of_ne differ) with before | behind
  · exact ⟨i.val, j.val, _, before, found, both ▸ found⟩
  · exact ⟨j.val, i.val, _, behind, both ▸ found, found⟩

end State

variable {memory : Memory}

namespace Memory

/-- A run comes back to a state if it goes on for as many instructions as there are states. -/
theorem repeats_of_goesOn (goes : (memory.start.after (2 ^ 208)).isSome) : memory.Repeats :=
  State.exists_repeat (Nat.le_of_eq State.card_code) goes

/-- A run that comes back to a state goes on for ever. -/
theorem goesOn_of_repeats (returns : memory.Repeats) (n : Nat) :
    (memory.start.after n).isSome := by
  obtain ⟨i, j, s, before, first, second⟩ := returns
  exact State.isSome_after_of_repeat before first second n

/-- **A run comes back to a state or stops**, and never both. If it stops, it does so within
as many instructions as there are states. -/
theorem repeats_xor_stops (memory : Memory) :
    Xor memory.Repeats (∃ k result u, k ≤ 2 ^ 208 ∧ memory.start.StopsAt k result u) := by
  cases reached : memory.start.after (2 ^ 208) with
  | some t =>
      have returns : memory.Repeats := repeats_of_goesOn (reached ▸ rfl)
      refine Or.inl ⟨returns, ?_⟩
      rintro ⟨k, result, u, -, stops⟩
      exact Nat.lt_irrefl k (stops.isSome_after_iff.mp (goesOn_of_repeats returns k))
  | none =>
      refine Or.inr ⟨State.exists_stopsAt reached, fun returns => ?_⟩
      have goes := goesOn_of_repeats returns (2 ^ 208)
      rw [reached] at goes
      cases goes

end Memory

/-- Every limit is exceeded if the machine completes as many instructions as each limit allows. -/
theorem exceedsEveryLimit_iff_goesOn :
    ExceedsEveryLimit memory ↔ ∀ limit : UInt64, (memory.start.after limit.toNat).isSome := by
  constructor
  · intro exceeded limit
    have cutOff := exceeded (Computer.new limit)
    rw [Computer.run_eq_runWithin] at cutOff
    rcases memory.runWithin_cases limit.toNat with ⟨t, reached, -⟩ | ⟨k, result, u, -, stops, run⟩
    · rw [reached]
      rfl
    · rw [Computer.new, run] at cutOff
      exact (stops.ne_stepLimitExceeded limit cutOff).elim
  · intro goes computer
    obtain ⟨t, reached⟩ := Option.isSome_iff_exists.mp (goes computer.limit)
    rw [Computer.run_of_after reached]

/-- **What every limit cuts off.** The limit of every computer is exceeded by a run that comes
back to a state, and by a run that stops after more instructions than a limit can count, and
by no other. -/
theorem exceedsEveryLimit_iff (memory : Memory) :
    ExceedsEveryLimit memory ↔
      memory.Repeats ∨ ∃ k result u, UInt64.size ≤ k ∧ k ≤ 2 ^ 208 ∧
        memory.start.StopsAt k result u := by
  rw [exceedsEveryLimit_iff_goesOn]
  constructor
  · intro goes
    rcases memory.repeats_xor_stops with ⟨returns, -⟩ | ⟨⟨k, result, u, le, stops⟩, -⟩
    · exact Or.inl returns
    · -- the greatest limit is exceeded too
      have beyond := stops.isSome_after_iff.mp (goes (UInt64.ofNat (UInt64.size - 1)))
      exact Or.inr ⟨k, result, u, beyond, le, stops⟩
  · rintro (returns | ⟨k, result, u, large, -, stops⟩) limit
    · exact Memory.goesOn_of_repeats returns limit.toNat
    · exact stops.isSome_after_iff.mpr (Nat.lt_of_lt_of_le limit.toNat_lt large)

end PocketTools.Machine
