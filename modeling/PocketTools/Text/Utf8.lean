/-! # Bytes as UTF-8 text

A byte string is cut into characters and broken stretches. A broken stretch is
the longest start of a character's encoding that the next byte does not carry
on, or a single byte that starts none.
-/

namespace PocketTools.Text

/-- The text that a byte string encodes; none if it is not UTF-8. -/
def decode? (bytes : List UInt8) : Option String :=
  String.fromUTF8? ⟨bytes.toArray⟩

/-- The UTF-8 encoding of a text. -/
def encode (s : String) : List UInt8 :=
  s.toUTF8.data.toList

/-- A text is what its encoding encodes. -/
theorem decode?_encode (s : String) : decode? (encode s) = some s := by
  have same : (⟨s.toUTF8.data.toList.toArray⟩ : ByteArray) = s.toByteArray := rfl
  rw [decode?, encode, same, String.fromUTF8?, dif_pos s.isValidUTF8]
  rfl

theorem encode_append (s t : String) : encode (s ++ t) = encode s ++ encode t := by
  simp [encode]

/-- What a lead byte announces: its share of the code point, the number of
bytes that follow, and the range of the first of them. -/
structure Lead where
  payload : Nat
  tails : Nat
  low : UInt8
  high : UInt8

/-- The reading of a byte as the first of a character's encoding. -/
def Lead.ofByte? (b : UInt8) : Option Lead :=
  let n := b.toNat
  if n < 0x80 then some ⟨n, 0, 0x80, 0xBF⟩
  else if n < 0xC2 then none
  else if n < 0xE0 then some ⟨n - 0xC0, 1, 0x80, 0xBF⟩
  else if n == 0xE0 then some ⟨0, 2, 0xA0, 0xBF⟩
  else if n == 0xED then some ⟨0xD, 2, 0x80, 0x9F⟩
  else if n < 0xF0 then some ⟨n - 0xE0, 2, 0x80, 0xBF⟩
  else if n == 0xF0 then some ⟨0, 3, 0x90, 0xBF⟩
  else if n < 0xF4 then some ⟨n - 0xF0, 3, 0x80, 0xBF⟩
  else if n == 0xF4 then some ⟨4, 3, 0x80, 0x8F⟩
  else none

/-- A stretch of a byte string: one character, or bytes that encode none. -/
inductive Stretch where
  | char (c : Char)
  | broken (bytes : List UInt8)

/-- Reads the bytes that follow a lead byte. `seen` holds the bytes of this
character so far, last first; the range applies to the next byte only. -/
def readTails : (tails : Nat) → (low high : UInt8) → (code : Nat) → (seen : List UInt8) →
    List UInt8 → Stretch × List UInt8
  | 0, _, _, code, _, rest => (.char (Char.ofNat code), rest)
  | _ + 1, _, _, _, seen, [] => (.broken seen.reverse, [])
  | tails + 1, low, high, code, seen, b :: rest =>
      if low ≤ b ∧ b ≤ high then
        readTails tails 0x80 0xBF (code * 64 + (b.toNat - 0x80)) (b :: seen) rest
      else (.broken seen.reverse, b :: rest)

theorem readTails_length_le (tails : Nat) (low high : UInt8) (code : Nat)
    (seen bytes : List UInt8) :
    (readTails tails low high code seen bytes).2.length ≤ bytes.length := by
  induction tails generalizing low high code seen bytes with
  | zero => simp [readTails]
  | succ tails ih =>
    cases bytes with
    | nil => simp [readTails]
    | cons b rest =>
      simp only [readTails]
      split
      · exact Nat.le_succ_of_le (ih _ _ _ _ rest)
      · simp

/-- A byte string cut into characters and broken stretches. -/
def stretches : List UInt8 → List Stretch
  | [] => []
  | b :: rest =>
      match Lead.ofByte? b with
      | none => .broken [b] :: stretches rest
      | some lead =>
          let read := readTails lead.tails lead.low lead.high lead.payload [b] rest
          read.1 :: stretches read.2
termination_by bytes => bytes.length
decreasing_by
  · simp
  · have := readTails_length_le lead.tails lead.low lead.high lead.payload [b] rest
    simp only [List.length_cons]
    omega

/-- A byte string as text, with U+FFFD in place of each broken stretch. -/
def decodeLossy (bytes : List UInt8) : String :=
  String.ofList <| (stretches bytes).map fun
    | .char c => c
    | .broken _ => Char.ofNat 0xFFFD

end PocketTools.Text
