import PocketTools.Proofs.Machine.Performed

/-!
# Memory as its stores leave it

The stores of a run are the store instructions that it executed as a whole, with the words that
they stored (`State.stored`). Every other instruction leaves memory as it found it, one that
fails included (`State.memory_of_storesNothing`). So a byte is in the end what the last store that
touches it put there, and what it was at the start if none does (`run_byte_of_last_store`).
-/

namespace PocketTools.Machine

/-- A store that went through: its address operand, and the word that it stored. -/
structure Stored where
  address : UInt8
  value : UInt16
  deriving DecidableEq, Repr

namespace Stored

/-- A store touches the byte at its address and the one after it. -/
def Touches (store : Stored) (place : Nat) : Prop :=
  place = store.address.toNat ∨ place = store.address.toNat + 1

instance (store : Stored) (place : Nat) : Decidable (store.Touches place) :=
  inferInstanceAs (Decidable (_ ∨ _))

/-- The byte that a store puts at a place that it touches. -/
def byteAt (store : Stored) (place : Nat) : UInt8 :=
  if place = store.address.toNat then lowByte store.value else highByte store.value

/-- The last of the stores that touches a place. -/
def last? (stores : List Stored) (place : Nat) : Option Stored :=
  (stores.filter (·.Touches place)).getLast?

/-- A later store is the last one at the places that it touches. -/
theorem last?_append_singleton (stores : List Stored) (store : Stored) (place : Nat) :
    last? (stores ++ [store]) place =
      if store.Touches place then some store else last? stores place := by
  rw [last?, last?, List.filter_append]
  split
  · rename_i touches
    rw [List.filter_cons_of_pos (by simpa using touches), List.filter_nil, List.getLast?_concat]
  · rename_i apart
    rw [List.filter_cons_of_neg (by simpa using apart), List.filter_nil, List.append_nil]

end Stored

/-- The byte at a place after some stores: what the last one that touches it put there, or what
was there if none does. -/
def Memory.byteAfter (memory : Memory) (stores : List Stored) (place : Nat) : Option UInt8 :=
  match Stored.last? stores place with
  | some store => some (store.byteAt place)
  | none => memory.bytes[place]?

/-- A later store decides the bytes that it touches and no other. -/
theorem Memory.byteAfter_append_singleton (memory : Memory) (stores : List Stored)
    (store : Stored) (place : Nat) :
    memory.byteAfter (stores ++ [store]) place =
      if store.Touches place then some (store.byteAt place)
      else memory.byteAfter stores place := by
  rw [byteAfter, Stored.last?_append_singleton]
  by_cases touches : store.Touches place
  · rw [if_pos touches, if_pos touches]
  · rw [if_neg touches, if_neg touches]
    rfl

/-! ## One instruction -/

/-- An instruction that is no store leaves memory as it found it. -/
theorem Instruction.memory_perform {instruction : Instruction}
    (other : ∀ source address, instruction ≠ .storeWord source address) (s : State) :
    (instruction.perform s).final.memory = s.memory := by
  cases instruction with
  | storeWord source address => exact (other source address rfl).elim
  | loadWord target address =>
      rw [perform]
      split <;> rfl
  | beq first second target =>
      rw [perform]
      split <;> rfl
  | add | sub | halt => rfl

namespace State

/-- The store that the instruction at a state makes, if it is a store and is executed as a whole.
The word stored is read with the program counter on the instruction's last byte. -/
def store? (s : State) : Option Stored :=
  match s.instruction?, s.next? with
  | some (.storeWord source address), some _ =>
      some ⟨address, (s.seek (s.place + 2)).registers.get source⟩
  | _, _ => none

/-- The instruction at a state is no store, or it halts or fails. -/
def StoresNothing (s : State) : Prop :=
  s.next? = none ∨ ∀ source address, s.instruction? ≠ some (.storeWord source address)

/-- **The stores made** in the first `n` instructions, in order. -/
def stored (s : State) : Nat → List Stored
  | 0 => []
  | n + 1 => s.stored n ++ ((s.after n).bind store?).toList

variable {s t : State} {source : Register} {address : UInt8} {m n : Nat}

/-- A store puts its word where there is room for it, and fails where there is none. -/
theorem cycle_of_store (found : s.instruction? = some (.storeWord source address)) :
    s.cycle =
      if inside : address.toNat + 1 < memorySize then
        .next (State.advance { s.seek (s.place + 2) with
          memory := s.memory.setWordAt address.toNat
            ((s.seek (s.place + 2)).registers.get source) inside })
      else .failed (.addressOutOfBounds (address.toUInt64 + 1)) (s.seek (s.place + 2)) := by
  rw [cycle_of_instruction? found]
  simp only [Instruction.perform, Instruction.opcode, Opcode.operandCount, memory_seek,
    Memory.writeWord_operand]
  by_cases inside : address.toNat + 1 < memorySize
  · simp only [dif_pos inside]
  · simp only [dif_neg inside]

/-- **Only a store that goes through changes memory.** -/
theorem memory_of_storesNothing (idle : s.StoresNothing) : s.cycle.final.memory = s.memory := by
  cases found : s.instruction? with
  | none =>
      obtain ⟨fault, fails⟩ := cycle_of_undecoded found
      rw [fails]
      rfl
  | some instruction =>
      by_cases stores : ∃ source address, instruction = .storeWord source address
      · -- then it fails, since it is not executed as a whole
        obtain ⟨source, address, rfl⟩ := stores
        have cut : s.next? = none := idle.resolve_right fun no => no source address found
        have cycle := cycle_of_store found
        split at cycle
        · rw [next?, cycle] at cut
          cases cut
        · rw [cycle]
          rfl
      · rw [cycle_of_instruction? found, instruction.memory_perform fun source address same =>
          stores ⟨source, address, same⟩]
        rfl

/-- A store instruction that is carried through stores the value its register has once the
operands are read. -/
theorem store?_of_store (found : s.instruction? = some (.storeWord source address))
    (whole : s.next? = some t) :
    s.store? = some ⟨address, (s.seek (s.place + 2)).registers.get source⟩ := by
  rw [store?, found, whole]

/-- An instruction of another kind stores nothing. -/
theorem store?_of_storesNothing (idle : s.StoresNothing) : s.store? = none := by
  unfold store?
  split
  · rename_i source address t found whole
    rcases idle with cut | no
    · rw [cut] at whole
      cases whole
    · exact (no source address found).elim
  · rfl

/-- **What one instruction does to a byte.** -/
theorem getElem?_of_next? (whole : s.next? = some t) (place : Nat) :
    t.memory.bytes[place]? =
      s.store?.elim s.memory.bytes[place]? fun store =>
        if store.Touches place then some (store.byteAt place) else s.memory.bytes[place]? := by
  have cycle : s.cycle = .next t := next?_eq_some_iff.mp whole
  by_cases stores : ∃ source address, s.instruction? = some (.storeWord source address)
  · obtain ⟨source, address, found⟩ := stores
    rw [store?_of_store found whole, Option.elim_some]
    rw [cycle_of_store found] at cycle
    split at cycle
    · rename_i inside
      cases cycle
      change (Memory.setWordAt _ _ _ inside).bytes[place]? = _
      rw [Memory.getElem?_setWordAt]
      unfold Stored.Touches Stored.byteAt
      grind
    · cases cycle
  · have idle : s.StoresNothing := Or.inr fun source address found =>
      stores ⟨source, address, found⟩
    have kept := memory_of_storesNothing idle
    rw [cycle] at kept
    rw [store?_of_storesNothing idle, Option.elim_none, ← kept]
    rfl

/-! ## Whole runs -/

/-- **What a run does to a byte**, as far as it has got. -/
theorem getElem?_of_after (reached : s.after n = some t) (place : Nat) :
    t.memory.bytes[place]? = s.memory.byteAfter (s.stored n) place := by
  induction n generalizing t with
  | zero =>
      cases reached
      rfl
  | succ n ih =>
      obtain ⟨u, before, whole⟩ := Option.bind_eq_some_iff.mp reached
      rw [getElem?_of_next? whole, ih before, stored, before, Option.bind_some]
      cases u.store? with
      | none => rw [Option.elim_none, Option.toList_none, List.append_nil]
      | some store =>
          rw [Option.elim_some, Option.toList_some, Memory.byteAfter_append_singleton]

/-- Nothing is stored from the instruction on in which the machine stops. -/
theorem stored_of_stop (reached : s.after n = some t) (stops : t.next? = none) (beyond : n ≤ m) :
    s.stored m = s.stored n := by
  induction beyond with
  | refl => rfl
  | @step m beyond ih =>
      have nothing : (s.after m).bind store? = none := by
        rcases Nat.eq_or_lt_of_le beyond with rfl | past
        · rw [reached, Option.bind_some, store?_of_storesNothing (Or.inl stops)]
        · have ended : s.after m = none := by
            rw [← Option.not_isSome_iff_eq_none]
            intro goes
            have there := isSome_after_of_le goes past
            rw [after_succ_of_after reached, stops] at there
            cases there
          rw [ended, Option.bind_none]
      rw [stored, nothing, Option.toList_none, List.append_nil, ih]

end State

/-- **Memory after a run is explained by its stores.** However a run ends, each byte is in the end
what the last of its stores that touches it put there, and what it was at the start if none does.
An instruction that is no store, or that halts or fails, changes no byte at all. -/
theorem run_byte_of_last_store (computer : Computer) (memory : Memory) :
    (∀ place, (computer.run memory).final.memory.bytes[place]? =
      match Stored.last? (memory.start.stored computer.limit.toNat) place with
      | some store => some (store.byteAt place)
      | none => memory.bytes[place]?) ∧
    ∀ s : State, s.StoresNothing → s.cycle.final.memory = s.memory := by
  refine ⟨fun place => ?_, fun s idle => State.memory_of_storesNothing idle⟩
  rw [computer.run_eq_runWithin]
  rcases memory.runWithin_cases computer.limit.toNat with
    ⟨t, reached, run⟩ | ⟨k, result, u, enough, stops, run⟩
  · rw [run]
    exact State.getElem?_of_after reached place
  · rw [run]
    cases stops with
    | @halted n t u reached ends | @failed n t u fault reached ends =>
        have stop : t.next? = none := by rw [State.next?, ends]
        have kept := State.memory_of_storesNothing (Or.inl stop)
        rw [ends] at kept
        rw [State.stored_of_stop reached stop (Nat.le_of_succ_le enough)]
        exact (congrArg (fun memory : Memory => memory.bytes[place]?) kept).trans
          (State.getElem?_of_after reached place)

end PocketTools.Machine
