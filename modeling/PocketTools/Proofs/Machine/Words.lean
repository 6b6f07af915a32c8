import PocketTools.Machine.Memory

/-!
# Words in memory

A word access goes through exactly when both of its bytes are inside memory.
Otherwise a read reports the first of its bytes that is outside, and a write
reports the second byte, if there is an address for it (`Memory.readWord_eq` and
`Memory.writeWord_eq`). A word that was put somewhere is there, and words beside it
are as they were.
-/

namespace PocketTools.Machine

/-- A word is made of its two bytes. -/
theorem word_lowByte_highByte (w : UInt16) : word (lowByte w) (highByte w) = w := by
  apply UInt16.toNat_inj.mp
  have fits := w.toNat_lt
  simp only [word, lowByte, highByte, UInt16.toNat_add, UInt16.toNat_mul, UInt8.toNat_toUInt16,
    UInt16.toNat_toUInt8, UInt16.toNat_div, UInt16.reduceToNat]
  omega

theorem lowByte_word (low high : UInt8) : lowByte (word low high) = low := by
  apply UInt8.toNat_inj.mp
  have fits := low.toNat_lt
  simp only [word, lowByte, UInt16.toNat_add, UInt16.toNat_mul, UInt8.toNat_toUInt16,
    UInt16.toNat_toUInt8, UInt16.reduceToNat]
  omega

theorem highByte_word (low high : UInt8) : highByte (word low high) = high := by
  apply UInt8.toNat_inj.mp
  have fits := low.toNat_lt
  have fits' := high.toNat_lt
  simp only [word, highByte, UInt16.toNat_add, UInt16.toNat_mul, UInt8.toNat_toUInt16,
    UInt16.toNat_toUInt8, UInt16.toNat_div, UInt16.reduceToNat]
  omega

/-- An image with a word put at a place, the low byte first. -/
def putWord (image : List UInt8) (place : Nat) (w : UInt16) : List UInt8 :=
  (image.set place (lowByte w)).set (place + 1) (highByte w)

namespace Memory

variable {memory other : Memory} {image : List UInt8} {address : Address} {place : Nat}

theorem byte_of_lt (inside : address.toNat < memorySize) :
    memory.byte address = .ok memory.bytes[address.toNat] := by
  rw [byte, dif_pos inside]

/-- A byte outside of memory cannot be read, and the fault names it. -/
theorem byte_of_le (outside : memorySize ≤ address.toNat) :
    memory.byte address = .error (.addressOutOfBounds address) := by
  rw [byte, dif_neg (Nat.not_lt.mpr outside)]

/-- Every address but the highest has a next one. -/
theorem highAddress_of_lt (room : address.toNat + 1 < UInt64.size) :
    highAddress address = .ok (address + 1) := by
  rw [highAddress, if_pos room]

/-- The address after one that has an address after it. -/
theorem toNat_succ (room : address.toNat + 1 < UInt64.size) :
    (address + 1).toNat = address.toNat + 1 := by
  rw [UInt64.toNat_add]
  exact Nat.mod_eq_of_lt room

/-- A word that lies within memory can be read. -/
theorem readWord_of_lt (inside : address.toNat + 1 < memorySize) :
    memory.readWord address = .ok (memory.wordAt address.toNat inside) := by
  have room : address.toNat + 1 < UInt64.size := Nat.lt_trans inside (by decide)
  have high : (address + 1).toNat < memorySize := by
    rw [toNat_succ room]
    exact inside
  rw [readWord, byte_of_lt (Nat.lt_of_succ_lt inside), highAddress_of_lt room]
  change (do let high ← memory.byte (address + 1); _) = _
  rw [byte_of_lt high]
  simp only [toNat_succ room]
  rfl

/-- A read that starts on the last byte reports the place after it. -/
theorem readWord_of_eq (last : address.toNat + 1 = memorySize) :
    memory.readWord address = .error (.addressOutOfBounds (address + 1)) := by
  have room : address.toNat + 1 < UInt64.size := by
    rw [last]
    decide
  have outside : memorySize ≤ (address + 1).toNat :=
    Nat.le_of_eq ((toNat_succ room).trans last).symm
  rw [readWord, byte_of_lt (by omega), highAddress_of_lt room]
  change (do let high ← memory.byte (address + 1); _) = _
  rw [byte_of_le outside]
  rfl

/-- A word that begins outside of memory cannot be read, and the fault names its first byte. -/
theorem readWord_of_le (outside : memorySize ≤ address.toNat) :
    memory.readWord address = .error (.addressOutOfBounds address) := by
  rw [readWord, byte_of_le outside]
  rfl

theorem writeWord_of_lt {w : UInt16} (inside : address.toNat + 1 < memorySize) :
    memory.writeWord address w = .ok (memory.setWordAt address.toNat w inside) := by
  have room : address.toNat + 1 < UInt64.size := Nat.lt_trans inside (by decide)
  rw [writeWord, highAddress_of_lt room]
  change dite _ _ _ = _
  rw [dif_pos inside]

/-- A write that goes past the end reports its second byte. -/
theorem writeWord_of_le {w : UInt16} (outside : memorySize ≤ address.toNat + 1)
    (room : address.toNat + 1 < UInt64.size) :
    memory.writeWord address w = .error (.addressOutOfBounds (address + 1)) := by
  rw [writeWord, highAddress_of_lt room]
  change dite _ _ _ = _
  rw [dif_neg (Nat.not_lt.mpr outside)]

/-- A write at the last address reports that one, since there is none for its second byte. -/
theorem writeWord_of_last {w : UInt16} (last : UInt64.size ≤ address.toNat + 1) :
    memory.writeWord address w = .error (.addressOutOfBounds address) := by
  rw [writeWord, highAddress, if_neg (Nat.not_lt.mpr last)]
  rfl

/-- The first place outside memory that a word has which is not wholly inside. -/
def firstOutside (address : Address) : Address :=
  if address.toNat + 1 = memorySize then address + 1 else address

/-- The address of the second byte of a word, or the last address if there is none after it. -/
def secondAddress (address : Address) : Address :=
  if address.toNat + 1 < UInt64.size then address + 1 else address

/-- The first place outside of memory, of a word that does not fit, as a number. -/
theorem toNat_firstOutside (outside : memorySize ≤ address.toNat + 1) :
    (firstOutside address).toNat = max memorySize address.toNat := by
  rw [firstOutside]
  split
  · rename_i last
    rw [toNat_succ (last ▸ by decide), last, Nat.max_eq_left (by omega)]
  · rename_i other
    rw [Nat.max_eq_right (by omega)]

/-- The place of the second byte as a number, which stays at the highest address. -/
theorem toNat_secondAddress (address : Address) :
    (secondAddress address).toNat = min (address.toNat + 1) (UInt64.size - 1) := by
  have fits : address.toNat < UInt64.size := address.toNat_lt
  rw [secondAddress]
  split
  · rename_i room
    rw [toNat_succ room, Nat.min_eq_left (Nat.le_sub_one_of_lt room)]
  · omega

/-- **Reading a word.** A read that fails names the first place outside memory. -/
theorem readWord_eq (memory : Memory) (address : Address) :
    memory.readWord address =
      if inside : address.toNat + 1 < memorySize then .ok (memory.wordAt address.toNat inside)
      else .error (.addressOutOfBounds (firstOutside address)) := by
  split
  · rename_i inside
    exact readWord_of_lt inside
  · rename_i outside
    rw [firstOutside]
    split
    · rename_i last
      exact readWord_of_eq last
    · rename_i beyond
      exact readWord_of_le (by omega)

/-- **Writing a word.** A write that fails names the second byte, wherever the first one is. -/
theorem writeWord_eq (memory : Memory) (address : Address) (w : UInt16) :
    memory.writeWord address w =
      if inside : address.toNat + 1 < memorySize then .ok (memory.setWordAt address.toNat w inside)
      else .error (.addressOutOfBounds (secondAddress address)) := by
  split
  · rename_i inside
    exact writeWord_of_lt inside
  · rename_i outside
    rw [secondAddress]
    split
    · rename_i room
      exact writeWord_of_le (Nat.le_of_not_lt outside) room
    · rename_i last
      exact writeWord_of_last (Nat.le_of_not_lt last)

/-- A byte operand always has an address after it, so a store fails in one way only. -/
theorem writeWord_operand (memory : Memory) (operand : UInt8) (w : UInt16) :
    memory.writeWord operand.toUInt64 w =
      if inside : operand.toNat + 1 < memorySize then .ok (memory.setWordAt operand.toNat w inside)
      else .error (.addressOutOfBounds (operand.toUInt64 + 1)) := by
  have place : operand.toUInt64.toNat = operand.toNat := UInt8.toNat_toUInt64 operand
  split
  · rename_i inside
    rw [writeWord_of_lt (place.symm ▸ inside)]
    simp only [place]
  · rename_i outside
    refine writeWord_of_le (place.symm ▸ Nat.le_of_not_lt outside) ?_
    rw [place]
    exact Nat.lt_trans (Nat.succ_lt_succ operand.toNat_lt) (by decide)

/-- The bytes of memory after a word was put there. -/
theorem getElem?_setWordAt {w : UInt16} (inside : place + 1 < memorySize) (q : Nat) :
    (memory.setWordAt place w inside).bytes[q]? =
      if place + 1 = q then some (highByte w)
      else if place = q then some (lowByte w) else memory.bytes[q]? := by
  rw [setWordAt, Vector.getElem?_set, Vector.getElem?_set]

/-- A word depends on its two bytes. -/
theorem wordAt_congr (inside : place + 1 < memorySize)
    (low : memory.bytes[place]? = other.bytes[place]?)
    (high : memory.bytes[place + 1]? = other.bytes[place + 1]?) :
    memory.wordAt place inside = other.wordAt place inside := by
  have before : place < memorySize := Nat.lt_of_succ_lt inside
  rw [Vector.getElem?_eq_getElem before, Vector.getElem?_eq_getElem before,
    Option.some.injEq] at low
  rw [Vector.getElem?_eq_getElem inside, Vector.getElem?_eq_getElem inside,
    Option.some.injEq] at high
  rw [wordAt, wordAt, low, high]

/-- A word that was put can be read back. -/
theorem wordAt_setWordAt (memory : Memory) (w : UInt16) (inside : place + 1 < memorySize) :
    (memory.setWordAt place w inside).wordAt place inside = w := by
  rw [wordAt, setWordAt, Vector.getElem_set_self,
    Vector.getElem_set_ne (h := Nat.succ_ne_self place), Vector.getElem_set_self,
    word_lowByte_highByte]

/-- A word that is put beside another one leaves it. -/
theorem wordAt_setWordAt_of_apart {apart : Nat} (w : UInt16) (inside : place + 1 < memorySize)
    (within : apart + 1 < memorySize) (disjoint : apart + 1 < place ∨ place + 1 < apart) :
    (memory.setWordAt place w inside).wordAt apart within = memory.wordAt apart within := by
  apply wordAt_congr
  · rw [getElem?_setWordAt, if_neg (by omega), if_neg (by omega)]
  · rw [getElem?_setWordAt, if_neg (by omega), if_neg (by omega)]

/-- Putting a word into memory puts it into the image. -/
theorem image_setWordAt (memory : Memory) (w : UInt16) (inside : place + 1 < memorySize) :
    (memory.setWordAt place w inside).image = putWord memory.image place w := by
  rw [image, setWordAt, Vector.toList_set, Vector.toList_set]
  rfl

/-- The word at a place, from the bytes of the image. -/
theorem wordAt_of_ofImage (made : ofImage image = .ok memory) (inside : place + 1 < memorySize)
    (size : image.length = memorySize) :
    memory.wordAt place inside = word image[place] image[place + 1] := by
  obtain rfl := ofImage_eq_ok_iff.mp made
  simp only [wordAt, Memory.image, Vector.getElem_toList]

end Memory

end PocketTools.Machine
