import PocketTools.Machine.Fault

/-! # Main memory

Twenty bytes, read one at a time or as 16-bit words with the low byte first.
One output word and two input words have fixed places.
-/

namespace PocketTools.Machine

/-- The word with a given low and high byte. -/
def word (low high : UInt8) : UInt16 :=
  low.toUInt16 + 256 * high.toUInt16

/-- The low byte of a word. -/
def lowByte (w : UInt16) : UInt8 :=
  w.toUInt8

/-- The high byte of a word. -/
def highByte (w : UInt16) : UInt8 :=
  (w / 256).toUInt8

/-- Main memory. -/
structure Memory where
  bytes : Vector UInt8 memorySize
  deriving DecidableEq, Repr

namespace Memory

/-- Memory that holds zeros. -/
def zero : Memory :=
  ⟨Vector.replicate memorySize 0⟩

/-- The memory that an image gives; the image must have its size. -/
def ofImage (image : List UInt8) : Except Fault Memory :=
  if h : image.length = memorySize then .ok ⟨⟨image.toArray, by simpa using h⟩⟩
  else .error (.imageSize image.length)

/-- The bytes of memory in order. -/
def image (memory : Memory) : List UInt8 :=
  memory.bytes.toList

/-- Every memory is what its image gives. -/
theorem ofImage_image (memory : Memory) : ofImage memory.image = .ok memory := by
  rw [ofImage, dif_pos (by simp [image])]
  rfl

/-- An image gives the memory that has it. -/
theorem ofImage_eq_ok_iff {image : List UInt8} {memory : Memory} :
    ofImage image = .ok memory ↔ memory.image = image := by
  constructor
  · intro made
    rw [ofImage] at made
    split at made
    · cases made
      rfl
    · cases made
  · rintro rfl
    exact memory.ofImage_image

theorem exists_ofImage {image : List UInt8} (size : image.length = memorySize) :
    ∃ memory, ofImage image = .ok memory := by
  rw [ofImage, dif_pos size]
  exact ⟨_, rfl⟩

/-- The byte at an address. -/
def byte (memory : Memory) (address : Address) : Except Fault UInt8 :=
  if h : address.toNat < memorySize then .ok memory.bytes[address.toNat]
  else .error (.addressOutOfBounds address)

/-- The address of a word's high byte. The last address has none after it. -/
def highAddress (address : Address) : Except Fault Address :=
  if address.toNat + 1 < UInt64.size then .ok (address + 1)
  else .error (.addressOutOfBounds address)

/-- The word at an address. The low byte is read first. -/
def readWord (memory : Memory) (address : Address) : Except Fault UInt16 := do
  let low ← memory.byte address
  let high ← memory.byte (← highAddress address)
  return word low high

/-- The word at a place where there is room for one. -/
def wordAt (memory : Memory) (place : Nat) (h : place + 1 < memorySize) : UInt16 :=
  word (memory.bytes[place]) (memory.bytes[place + 1])

/-- Memory with a word put where there is room for one. -/
def setWordAt (memory : Memory) (place : Nat) (w : UInt16) (h : place + 1 < memorySize) :
    Memory :=
  ⟨(memory.bytes.set place (lowByte w)).set (place + 1) (highByte w)⟩

/-- Memory with a word put at an address. Only the address of the high byte is
tested, and nothing is written unless both bytes fit. -/
def writeWord (memory : Memory) (address : Address) (w : UInt16) : Except Fault Memory := do
  let high ← highAddress address
  if h : address.toNat + 1 < memorySize then .ok (memory.setWordAt address.toNat w h)
  else .error (.addressOutOfBounds high)

/-- The word that a program leaves as its result. -/
def output (memory : Memory) : UInt16 :=
  memory.wordAt 0x0E (by decide)

/-- The first input word. -/
def input1 (memory : Memory) : UInt16 :=
  memory.wordAt 0x10 (by decide)

/-- The second input word. -/
def input2 (memory : Memory) : UInt16 :=
  memory.wordAt 0x12 (by decide)

/-- Memory with another first input word. -/
def setInput1 (memory : Memory) (w : UInt16) : Memory :=
  memory.setWordAt 0x10 w (by decide)

/-- Memory with another second input word. -/
def setInput2 (memory : Memory) (w : UInt16) : Memory :=
  memory.setWordAt 0x12 w (by decide)

end Memory

end PocketTools.Machine
