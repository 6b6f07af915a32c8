import PocketTools.Proofs.Machine.Words

/-!
# Words that overlap

Memory acts as an array of words, each of which shares a byte with the one before it and one
with the one after it. A word that is put at an address is there, it gives each neighbour the
byte that they share, and every other access comes to what it came to before
(`Memory.readWord_setWordAt`). The test of a write is enough for the copying behind it: done in
place, a write never crashes, and one that fails leaves memory as it was
(`InPlace.run_writeWord`).
-/

namespace PocketTools.Machine

/-! ## Writing in place -/

/-- How work on memory is interrupted. -/
inductive Interruption where
  /-- It reports a fault. -/
  | fault (fault : Fault)
  /-- It copies over places that are not all inside memory, or that are not as many as the
  bytes copied. -/
  | crash
  deriving DecidableEq, Repr

/-- Memory with bytes over those from a place on. -/
def Memory.overwrite (memory : Memory) (place : Nat) : List UInt8 → Memory
  | [] => memory
  | b :: rest => overwrite ⟨memory.bytes.setIfInBounds place b⟩ (place + 1) rest

/-- Work on memory in place. What it has written before an interruption stays written. -/
abbrev InPlace := EStateM Interruption Memory

namespace InPlace

/-- Copies bytes over the places from the first to the last. -/
def copy (first last : Nat) (bytes : List UInt8) : InPlace Unit :=
  if last < memorySize ∧ first + bytes.length = last + 1 then
    modify fun memory => memory.overwrite first bytes
  else throw .crash

/-- Writes a word in place: the address of its high byte is tested, then both of its bytes are
copied. -/
def writeWord (address : Address) (w : UInt16) : InPlace Unit :=
  match Memory.highAddress address with
  | .error fault => throw (.fault fault)
  | .ok high =>
      if memorySize ≤ high.toNat then throw (.fault (.addressOutOfBounds high))
      else copy address.toNat high.toNat [lowByte w, highByte w]

end InPlace

/-- The two bytes of a word, copied one by one, are the word put at once. -/
theorem Memory.overwrite_word {place : Nat} (memory : Memory) (w : UInt16)
    (inside : place + 1 < memorySize) :
    memory.overwrite place [lowByte w, highByte w] = memory.setWordAt place w inside := by
  rw [setWordAt, overwrite, overwrite, overwrite]
  refine congrArg Memory.mk (Vector.toList_inj.mp ?_)
  rw [Vector.toList_setIfInBounds, Vector.toList_setIfInBounds, Vector.toList_set,
    Vector.toList_set]

/-- **A write in place does what a write does.** It never crashes, and a fault leaves memory as
it was. -/
theorem InPlace.run_writeWord (memory : Memory) (address : Address) (w : UInt16) :
    (writeWord address w).run memory =
      match memory.writeWord address w with
      | .ok after => .ok () after
      | .error fault => .error (.fault fault) memory := by
  rw [memory.writeWord_eq, writeWord]
  by_cases room : address.toNat + 1 < UInt64.size
  · rw [Memory.highAddress_of_lt room]
    simp only [Memory.toNat_succ room]
    by_cases inside : address.toNat + 1 < memorySize
    · rw [dif_pos inside, if_neg (Nat.not_le.mpr inside), copy, if_pos ⟨inside, rfl⟩]
      rw [← memory.overwrite_word w inside]
      rfl
    · rw [dif_neg inside, if_pos (Nat.le_of_not_lt inside), Memory.secondAddress, if_pos room]
      rfl
  · have outside : ¬ address.toNat + 1 < memorySize := by
      intro inside
      exact room (Nat.lt_trans inside (by decide))
    rw [Memory.highAddress, if_neg room, dif_neg outside, Memory.secondAddress, if_neg room]
    rfl

/-! ## Overlapping words -/

/-- The word at place `q` once the word `v` has been put at place `p`. A byte that the two words
share is that of `v`, and the others are those of the word that was there. -/
def overlay (p q : Nat) (v old : UInt16) : UInt16 :=
  if q = p then v
  else if q = p + 1 then word (highByte v) (highByte old)
  else if q + 1 = p then word (lowByte old) (lowByte v)
  else old

namespace Memory

variable {memory after : Memory} {p q : Nat}

/-- Every byte of memory after a word is put, by how its place lies to the word. -/
theorem getElem_setWordAt (memory : Memory) (w : UInt16) (inside : p + 1 < memorySize)
    (within : q < memorySize) :
    (memory.setWordAt p w inside).bytes[q] =
      if p + 1 = q then highByte w else if p = q then lowByte w else memory.bytes[q] := by
  simp only [setWordAt, Vector.getElem_set]

/-- A word of memory after a word is put: whole, one byte of it, or what was there. -/
theorem wordAt_setWordAt_eq_overlay (memory : Memory) (w : UInt16) (inside : p + 1 < memorySize)
    (within : q + 1 < memorySize) :
    (memory.setWordAt p w inside).wordAt q within = overlay p q w (memory.wordAt q within) := by
  rw [overlay]
  by_cases same : q = p
  · subst same
    rw [if_pos rfl, wordAt_setWordAt]
  rw [if_neg same]
  by_cases next : q = p + 1
  · subst next
    rw [if_pos rfl, wordAt, wordAt, highByte_word, getElem_setWordAt, getElem_setWordAt,
      if_pos rfl, if_neg (by omega), if_neg (by omega)]
  rw [if_neg next]
  by_cases previous : q + 1 = p
  · subst previous
    rw [if_pos rfl, wordAt, wordAt, lowByte_word, getElem_setWordAt, getElem_setWordAt,
      if_neg (by omega), if_neg (by omega), if_neg (by omega), if_pos rfl]
  · rw [if_neg previous]
    exact wordAt_setWordAt_of_apart w inside within (by omega)

/-- **A read after a write.** It comes to what it came to before, with the bytes that were
written in the place of those before. -/
theorem readWord_setWordAt {a : Address} (memory : Memory) (w : UInt16)
    (inside : a.toNat + 1 < memorySize) (b : Address) :
    (memory.setWordAt a.toNat w inside).readWord b =
      (memory.readWord b).map (overlay a.toNat b.toNat w) := by
  rw [readWord_eq, readWord_eq]
  by_cases within : b.toNat + 1 < memorySize
  · rw [dif_pos within, dif_pos within, wordAt_setWordAt_eq_overlay]
    rfl
  · rw [dif_neg within, dif_neg within]
    rfl

example : (zero.setWordAt 5 0x14A1 (by decide)).readWord 4 = .ok 0xA100 := rfl

/-- **What is read after a write**: the word that was written, the words that share a byte with
it, and every other word as before. -/
structure ReadsAfter (memory after : Memory) (a : Address) (v : UInt16) : Prop where
  here : after.readWord a = .ok v
  next : ∀ b : Address, b.toNat = a.toNat + 1 →
    after.readWord b = (memory.readWord b).map fun old => word (highByte v) (highByte old)
  previous : ∀ b : Address, b.toNat + 1 = a.toNat →
    after.readWord b = (memory.readWord b).map fun old => word (lowByte old) (lowByte v)
  elsewhere : ∀ b : Address, b.toNat ≠ a.toNat → b.toNat ≠ a.toNat + 1 → b.toNat + 1 ≠ a.toNat →
    after.readWord b = memory.readWord b

/-- A word that is put obeys the laws of a read after a write. -/
theorem readsAfter_setWordAt {a : Address} (memory : Memory) (v : UInt16)
    (inside : a.toNat + 1 < memorySize) :
    memory.ReadsAfter (memory.setWordAt a.toNat v inside) a v where
  here := by rw [readWord_of_lt inside, wordAt_setWordAt]
  next b beside := by
    have shared : overlay a.toNat b.toNat v = fun old => word (highByte v) (highByte old) := by
      funext old
      rw [overlay, if_neg (by omega), if_pos beside]
    rw [readWord_setWordAt, shared]
  previous b beside := by
    have shared : overlay a.toNat b.toNat v = fun old => word (lowByte old) (lowByte v) := by
      funext old
      rw [overlay, if_neg (by omega), if_neg (by omega), if_pos beside]
    rw [readWord_setWordAt, shared]
  elsewhere b other notNext notPrevious := by
    have apart : overlay a.toNat b.toNat v = id := by
      funext old
      rw [overlay, if_neg other, if_neg notNext, if_neg notPrevious]
      rfl
    rw [readWord_setWordAt, apart, Except.map_id]
    rfl

/-! ## Which accesses go through -/

variable {a : Address} {v : UInt16} {fault : Fault}

/-- From address 18 down there is room for a word. -/
theorem le_eighteen_iff : a ≤ 18 ↔ a.toNat + 1 < memorySize := by
  rw [UInt64.le_iff_toNat_le, Nat.le_iff_lt_add_one]
  exact (Nat.add_lt_add_iff_right (k := 1)).symm

/-- A write that goes through puts the word at its place. -/
theorem eq_setWordAt_of_writeWord (written : memory.writeWord a v = .ok after) :
    ∃ inside, after = memory.setWordAt a.toNat v inside := by
  rw [writeWord_eq] at written
  split at written
  · rename_i inside
    cases written
    exact ⟨inside, rfl⟩
  · cases written

/-- A word can be written exactly where there is room for it. -/
theorem exists_writeWord_iff : (∃ after, memory.writeWord a v = .ok after) ↔ a ≤ 18 := by
  rw [le_eighteen_iff]
  constructor
  · rintro ⟨after, written⟩
    obtain ⟨inside, -⟩ := eq_setWordAt_of_writeWord written
    exact inside
  · intro inside
    exact ⟨_, writeWord_of_lt inside⟩

/-- A word can be read exactly where there is room for it. -/
theorem exists_readWord_iff : (∃ w, memory.readWord a = .ok w) ↔ a ≤ 18 := by
  rw [le_eighteen_iff]
  constructor
  · rintro ⟨w, read⟩
    rw [readWord_eq] at read
    split at read
    · assumption
    · cases read
  · intro inside
    exact ⟨_, readWord_of_lt inside⟩

/-- A write that fails names an address outside of memory. -/
theorem outside_of_writeWord (failed : memory.writeWord a v = .error fault) :
    ∃ address, fault = .addressOutOfBounds address ∧ 20 ≤ address := by
  rw [writeWord_eq] at failed
  split at failed
  · cases failed
  · rename_i outside
    cases failed
    refine ⟨_, rfl, UInt64.le_iff_toNat_le.mpr ?_⟩
    rw [toNat_secondAddress]
    exact Nat.le_min.mpr ⟨Nat.le_of_not_lt outside, by decide⟩

/-- A read that fails names an address outside of memory. -/
theorem outside_of_readWord (failed : memory.readWord a = .error fault) :
    ∃ address, fault = .addressOutOfBounds address ∧ 20 ≤ address := by
  rw [readWord_eq] at failed
  split at failed
  · cases failed
  · rename_i outside
    cases failed
    refine ⟨_, rfl, UInt64.le_iff_toNat_le.mpr ?_⟩
    rw [toNat_firstOutside (Nat.le_of_not_lt outside)]
    exact Nat.le_max_left _ _

/-- The address of the second byte is one higher, and does not wrap. -/
theorem toNat_of_highAddress {high : Address} (found : highAddress a = .ok high) :
    high.toNat = a.toNat + 1 := by
  rw [highAddress] at found
  split at found
  · rename_i room
    cases found
    exact toNat_succ room
  · cases found

/-- **The laws of words in memory**, for an address and a word that is put there. -/
structure WordLaws (memory : Memory) (a : Address) (v : UInt16) : Prop where
  writable : (∃ after, memory.writeWord a v = .ok after) ↔ a ≤ 18
  readable : (∃ w, memory.readWord a = .ok w) ↔ a ≤ 18
  /-- Addresses are counted up without wrapping. -/
  unwrapped : ∀ high, highAddress a = .ok high → high.toNat = a.toNat + 1
  /-- Done in place, a write never crashes, and memory is as it was if it fails. -/
  in_place : (InPlace.writeWord a v).run memory =
    match memory.writeWord a v with
    | .ok after => .ok () after
    | .error fault => .error (.fault fault) memory
  write_fault : ∀ fault, memory.writeWord a v = .error fault →
    ∃ address, fault = .addressOutOfBounds address ∧ 20 ≤ address
  read_fault : ∀ fault, memory.readWord a = .error fault →
    ∃ address, fault = .addressOutOfBounds address ∧ 20 ≤ address
  reads : ∀ after, memory.writeWord a v = .ok after → memory.ReadsAfter after a v
  output : memory.readWord 0x0E = .ok memory.output
  input1 : memory.readWord 0x10 = .ok memory.input1
  input2 : memory.readWord 0x12 = .ok memory.input2
  setInput1 : memory.writeWord 0x10 v = .ok (memory.setInput1 v)
  setInput2 : memory.writeWord 0x12 v = .ok (memory.setInput2 v)

end Memory

/-- **Memory acts as an array of overlapping words.** -/
theorem memory_wordLaws (memory : Memory) (a : Address) (v : UInt16) : memory.WordLaws a v where
  writable := Memory.exists_writeWord_iff
  readable := Memory.exists_readWord_iff
  unwrapped high found := Memory.toNat_of_highAddress found
  in_place := InPlace.run_writeWord memory a v
  write_fault fault failed := Memory.outside_of_writeWord failed
  read_fault fault failed := Memory.outside_of_readWord failed
  reads after written := by
    obtain ⟨inside, rfl⟩ := Memory.eq_setWordAt_of_writeWord written
    exact memory.readsAfter_setWordAt v inside
  output := Memory.readWord_of_lt (by decide)
  input1 := Memory.readWord_of_lt (by decide)
  input2 := Memory.readWord_of_lt (by decide)
  setInput1 := Memory.writeWord_of_lt (by decide)
  setInput2 := Memory.writeWord_of_lt (by decide)

end PocketTools.Machine
