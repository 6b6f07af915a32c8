import PocketTools.Proofs.Machine.Failure

/-!
# The bytes that an instruction reads and writes

An instruction reads its own bytes, as far as they are fetched, and the word that
it loads (`State.reads`). It writes the word that it stores (`State.writes`). A byte
that it does not write stays as it was, and so does one that no instruction of a run
has written (`State.getElem?_cycle` and `State.getElem?_after`). What it decodes to
depends on no byte that it does not read (`Memory.instructionAt_congr`).
-/

namespace PocketTools.Machine

/-! ## What is read -/

namespace Memory

/-- The last place that decoding looks at: that of the last operand, or the one
that the fault names. -/
def lastFetched (memory : Memory) (place : Nat) : Nat :=
  match memory.instructionAt place with
  | .ok instruction => place + instruction.opcode.operandCount
  | .error fault => fault.place

/-- The places that decoding looks at, in order. -/
def fetched (memory : Memory) (place : Nat) : List Nat :=
  List.range' place (memory.lastFetched place + 1 - place)

end Memory

/-- The places of the word that an instruction loads, in the order of reading. -/
def Instruction.loads : Instruction → List Nat
  | .loadWord _ address => [address.toNat, address.toNat + 1]
  | .storeWord .. | .add .. | .sub .. | .beq .. | .halt => []

/-- The places of the word that an instruction stores, if there is room for it. -/
def Instruction.stores : Instruction → List Nat
  | .storeWord _ address =>
      if address.toNat + 1 < memorySize then [address.toNat, address.toNat + 1] else []
  | .loadWord .. | .add .. | .sub .. | .beq .. | .halt => []

namespace State

/-- **The places that the instruction at a state reads**: those of its operation and
operands up to the first bad one, then those of the word that it loads. Places
outside memory stand for reads that fail. -/
def reads (s : State) : List Nat :=
  s.memory.fetched s.place ++
    match s.memory.instructionAt s.place with
    | .ok instruction => instruction.loads
    | .error _ => []

/-- **The places that the instruction at a state writes.** A store that fails writes
neither of its bytes. -/
def writes (s : State) : List Nat :=
  match s.memory.instructionAt s.place with
  | .ok instruction => instruction.stores
  | .error _ => []

/-- The places written in the first `n` instructions. -/
def written (s : State) : Nat → List Nat
  | 0 => []
  | n + 1 => s.written n ++ (s.after n).elim [] writes

end State

namespace Memory

variable {memory other : Memory} {p q last : Nat}

/-- An instruction fetches all the bytes from the first to the last. -/
theorem mem_fetched : q ∈ memory.fetched p ↔ p ≤ q ∧ q ≤ memory.lastFetched p := by
  rw [fetched, List.mem_range'_1]
  omega

/-- Reading a byte looks at one place of memory and at nothing else. -/
theorem fetch_eq_match (memory : Memory) (q : Nat) :
    memory.fetch q =
      match memory.bytes[q]? with
      | some b => .ok b
      | none => .error (.addressOutOfBounds (UInt64.ofNat q)) := by
  unfold fetch
  split
  · rename_i inside
    rw [Vector.getElem?_eq_getElem inside]
  · rename_i outside
    rw [Vector.getElem?_eq_none (Nat.le_of_not_lt outside)]

theorem fetch_congr (same : memory.bytes[q]? = other.bytes[q]?) :
    memory.fetch q = other.fetch q := by
  rw [fetch_eq_match, fetch_eq_match, same]

/-- A byte that should name a register and does not is named by its place. -/
theorem place_of_fetchRegister_error {fault : Fault} (fits : p < UInt16.size)
    (failed : memory.fetchRegister p = .error fault) : fault.place = p := by
  rcases bind_eq_error failed with missing | ⟨b, found, unnamed⟩
  · exact place_of_fetch_error fits missing
  · cases named : Register.ofByte? b with
    | some register =>
        rw [named] at unnamed
        cases unnamed
    | none =>
        rw [named] at unnamed
        cases unnamed
        exact UInt16.toNat_ofNat_of_lt' fits

/-- How far decoding looks if it is to look as far as `last` and may fail before. -/
def reach {α : Type} (last : Nat) : Except Fault α → Nat
  | .ok _ => last
  | .error fault => fault.place

/-- Decoding from place `p` to place `last` comes to the same in two memories if
they agree as far as it looks in the first of them. A fault names a place on the way. -/
structure DecodesAlike {α : Type} (memory other : Memory) (p last : Nat)
    (decoded again : Except Fault α) : Prop where
  le_place : ∀ fault, decoded = .error fault → p ≤ fault.place
  same : (∀ q, p ≤ q → q ≤ reach last decoded → memory.bytes[q]? = other.bytes[q]?) →
    decoded = again

namespace DecodesAlike

variable {α β : Type}

theorem pure (a : α) : DecodesAlike memory other p last (.ok a) (.ok a) where
  le_place _ failed := by cases failed
  same _ := rfl

/-- The byte at `p` is looked at first, and only it unless it is as it should be. -/
theorem bind {first again : Except Fault α} {rest restAgain : α → Except Fault β}
    (within : p ≤ last) (place : ∀ fault, first = .error fault → fault.place = p)
    (congr : memory.bytes[p]? = other.bytes[p]? → first = again)
    (later : ∀ a, DecodesAlike memory other (p + 1) last (rest a) (restAgain a)) :
    DecodesAlike memory other p last (first >>= rest) (again >>= restAgain) := by
  cases found : first with
  | error fault =>
      have here : fault.place = p := place fault found
      refine ⟨?_, ?_⟩
      · rintro _ ⟨⟩
        exact Nat.le_of_eq here.symm
      · intro agree
        rw [← congr (agree p (Nat.le_refl p) (Nat.le_of_eq here.symm)), found]
        rfl
  | ok a =>
      -- the rest may fail, but at no place before the next
      have beyond : p ≤ reach last (rest a) := by
        cases decoded : rest a with
        | ok b => exact within
        | error fault => exact Nat.le_of_succ_le ((later a).le_place fault decoded)
      refine ⟨?_, ?_⟩
      · intro fault failed
        exact Nat.le_of_succ_le ((later a).le_place fault failed)
      · intro agree
        rw [← congr (agree p (Nat.le_refl p) beyond), found]
        refine (later a).same fun q after before => ?_
        exact agree q (Nat.le_of_succ_le after) before

/-- Decoding goes on alike behind a byte that is the same in both memories. -/
theorem byte {rest restAgain : UInt8 → Except Fault β} (within : p ≤ last)
    (fits : p < UInt16.size)
    (later : ∀ b, DecodesAlike memory other (p + 1) last (rest b) (restAgain b)) :
    DecodesAlike memory other p last (memory.fetch p >>= rest) (other.fetch p >>= restAgain) :=
  bind within (fun _ => place_of_fetch_error fits) fetch_congr later

/-- Decoding goes on alike behind a register that is the same in both memories. -/
theorem register {rest restAgain : Register → Except Fault β} (within : p ≤ last)
    (fits : p < UInt16.size)
    (later : ∀ r, DecodesAlike memory other (p + 1) last (rest r) (restAgain r)) :
    DecodesAlike memory other p last (memory.fetchRegister p >>= rest)
      (other.fetchRegister p >>= restAgain) := by
  refine bind within (fun _ => place_of_fetchRegister_error fits) ?_ later
  intro same
  rw [fetchRegister, fetchRegister, fetch_congr same]

end DecodesAlike

/-- The operands of an operation are decoded alike from memories that agree on the bytes fetched. -/
theorem operandsAt_decodesAlike (memory other : Memory) (inside : p < memorySize) (op : Opcode) :
    DecodesAlike memory other (p + 1) (p + op.operandCount) (memory.operandsAt p op)
      (other.operandsAt p op) := by
  have first : p + 1 < UInt16.size := add_lt_size inside (Nat.le_add_left 1 2)
  have second : p + 2 < UInt16.size := add_lt_size inside (Nat.le_succ 2)
  have third : p + 3 < UInt16.size := add_lt_size inside (Nat.le_refl 3)
  cases op with
  | loadWord | storeWord =>
      refine .register (Nat.le_succ _) first fun _ => ?_
      exact .byte (Nat.le_refl _) second fun _ => .pure _
  | add | sub =>
      refine .register (Nat.le_succ _) first fun _ => ?_
      exact .register (Nat.le_refl _) second fun _ => .pure _
  | beq =>
      refine .register (Nat.le_add_right _ 2) first fun _ => ?_
      refine .register (Nat.le_succ _) second fun _ => ?_
      exact .byte (Nat.le_refl _) third fun _ => .pure _
  | halt => exact .pure _

/-- Behind a known operation the operands decide how far is fetched. -/
theorem lastFetched_of_opcode {op : Opcode} (found : memory.fetch p = .ok op.byte) :
    memory.lastFetched p = reach (p + op.operandCount) (memory.operandsAt p op) := by
  rw [lastFetched, instructionAt_of_opcode found]
  cases operands : memory.operandsAt p op with
  | error fault => rfl
  | ok instruction =>
      change p + instruction.opcode.operandCount = p + op.operandCount
      rw [opcode_of_operandsAt operands]

/-- The byte of the operation is always looked at. -/
theorem mem_fetched_self (fits : p < UInt16.size) : p ∈ memory.fetched p := by
  refine mem_fetched.mpr ⟨Nat.le_refl p, ?_⟩
  cases found : memory.fetch p with
  | error fault =>
      rw [lastFetched, instructionAt_of_fetch_error found]
      exact Nat.le_of_eq (place_of_fetch_error fits found).symm
  | ok b =>
      cases known : Opcode.ofByte? b with
      | none =>
          rw [lastFetched, instructionAt_of_unknown found known]
          exact Nat.le_of_eq (UInt16.toNat_ofNat_of_lt' fits).symm
      | some op =>
          obtain rfl := Opcode.ofByte?_eq_some_iff.mp known
          rw [lastFetched_of_opcode found]
          have alike := operandsAt_decodesAlike memory memory (lt_of_fetch_ok found) op
          cases operands : memory.operandsAt p op with
          | error fault => exact Nat.le_of_succ_le (alike.le_place fault operands)
          | ok instruction => exact Nat.le_add_right _ _

/-- **Decoding depends on the fetched bytes only.** -/
theorem instructionAt_congr (fits : p < UInt16.size)
    (agree : ∀ q ∈ memory.fetched p, memory.bytes[q]? = other.bytes[q]?) :
    memory.instructionAt p = other.instructionAt p := by
  have here : memory.fetch p = other.fetch p := fetch_congr (agree p (mem_fetched_self fits))
  cases found : memory.fetch p with
  | error fault =>
      rw [instructionAt_of_fetch_error found, instructionAt_of_fetch_error (here ▸ found)]
  | ok b =>
      cases known : Opcode.ofByte? b with
      | none =>
          rw [instructionAt_of_unknown found known, instructionAt_of_unknown (here ▸ found) known]
      | some op =>
          obtain rfl := Opcode.ofByte?_eq_some_iff.mp known
          rw [instructionAt_of_opcode found, instructionAt_of_opcode (here ▸ found)]
          have alike := operandsAt_decodesAlike memory other (lt_of_fetch_ok found) op
          refine alike.same fun q after before => agree q (mem_fetched.mpr ⟨?_, ?_⟩)
          · exact Nat.le_of_succ_le after
          · rw [lastFetched_of_opcode found]
            exact before

end Memory

/-! ## What is written -/

/-- The state that an instruction leaves. -/
def Outcome.final : Outcome → State
  | .next s | .halted s | .failed _ s => s

namespace Instruction

variable {s t : State} {q : Nat}

/-- An instruction leaves the bytes that it does not store as they were. -/
theorem getElem?_perform (instruction : Instruction) (other : q ∉ instruction.stores) :
    (instruction.perform s).final.memory.bytes[q]? = s.memory.bytes[q]? := by
  cases instruction with
  | storeWord source address =>
      rw [perform, Memory.writeWord_operand]
      split
      · rename_i memory written
        split at written
        · rename_i inside
          rw [stores, if_pos inside, List.mem_cons, List.mem_singleton, not_or] at other
          cases written
          change (Memory.setWordAt _ _ _ inside).bytes[q]? = _
          rw [Memory.getElem?_setWordAt, if_neg (Ne.symm other.2), if_neg (Ne.symm other.1)]
        · cases written
      · rfl
  | loadWord target address =>
      rw [perform]
      split <;> rfl
  | beq first second target =>
      rw [perform]
      split <;> rfl
  | add | sub | halt => rfl

end Instruction

namespace State

variable {s t u : State} {q n : Nat}

/-- **The frame of an instruction.** A byte that is not written stays as it was. -/
theorem getElem?_cycle (other : q ∉ s.writes) :
    s.cycle.final.memory.bytes[q]? = s.memory.bytes[q]? := by
  rw [writes] at other
  rw [cycle_eq_referenceStep, referenceStep]
  cases decoded : s.memory.instructionAt s.place with
  | error fault => rfl
  | ok instruction =>
      rw [decoded] at other
      exact instruction.getElem?_perform other

/-- One more instruction adds what it writes to what was written. -/
theorem written_of_after (reached : s.after n = some t) :
    s.written (n + 1) = s.written n ++ t.writes := by
  rw [written, reached, Option.elim_some]

/-- **The frame of a run.** A byte that no instruction has written is as at the start. -/
theorem getElem?_after (reached : s.after n = some t) (other : q ∉ s.written n) :
    t.memory.bytes[q]? = s.memory.bytes[q]? := by
  induction n generalizing t with
  | zero =>
      cases reached
      rfl
  | succ n ih =>
      obtain ⟨before, here, whole⟩ := Option.bind_eq_some_iff.mp reached
      rw [written_of_after here, List.mem_append, not_or] at other
      have kept := getElem?_cycle other.2
      rw [next?_eq_some_iff.mp whole] at kept
      exact kept.trans (ih here other.1)

/-- Nothing is written once the machine has stopped. -/
theorem StopsAt.written_eq {result : Except Fault Summary} {m k : Nat}
    (stops : s.StopsAt k result u) (beyond : k ≤ m) : s.written m = s.written k := by
  induction beyond with
  | refl => rfl
  | @step m beyond ih =>
      have ended : ¬ (s.after m).isSome := by
        rw [stops.isSome_after_iff]
        exact Nat.not_lt.mpr beyond
      rw [written, Option.not_isSome_iff_eq_none.mp ended, Option.elim_none, List.append_nil, ih]

end State

end PocketTools.Machine
