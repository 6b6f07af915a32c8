import Mathlib.Data.List.TakeWhile
import Mathlib.Tactic.SplitIfs
import PocketTools.Length

/-!
# Both lengths end at the same place

A text is measured up to its first U+0000. Only that character has a zero byte in its encoding,
so a scan of the bytes for a zero stops where a scan of the characters stops
(`takeWhile_encode`), whatever comes after it (`scans_stop_together`).
-/

namespace PocketTools.Length

open Text

/-- The character that ends a text. -/
def sentinel : Char := Char.ofNat 0

/-- **The front of a text**: what stands before its first sentinel, or all of it if it has none. -/
inductive Front (s : String) : String → Prop where
  | whole (free : sentinel ∉ s.toList) : Front s s
  | cut {front : String} (free : sentinel ∉ front.toList) (rest : String)
      (here : s = front ++ "\x00" ++ rest) : Front s front

variable {s front : String} {c : Char} {cs : List Char}

/-! ## Characters -/

/-- Without the sentinel a scan goes on into what follows. -/
theorem takeWhile_of_free (free : sentinel ∉ cs) (rest : List Char) :
    (cs ++ rest).takeWhile (· ≠ sentinel) = cs ++ rest.takeWhile (· ≠ sentinel) := by
  apply List.takeWhile_append_of_pos
  intro c member
  apply decide_eq_true
  intro same
  exact free (same ▸ member)

theorem Front.free (isFront : Front s front) : sentinel ∉ front.toList := by
  cases isFront with
  | whole free => exact free
  | cut free rest here => exact free

/-- The front is what a scan passes before it meets the sentinel. -/
theorem Front.toList_eq (isFront : Front s front) :
    front.toList = s.toList.takeWhile (· ≠ sentinel) := by
  cases isFront with
  | whole free =>
      have whole := takeWhile_of_free free []
      rw [List.append_nil] at whole
      rw [whole, List.takeWhile_nil, List.append_nil]
  | cut free rest here =>
      rw [here, String.toList_append, String.toList_append, List.append_assoc,
        takeWhile_of_free free]
      exact (List.append_nil _).symm

/-- The length in characters is that of the front. -/
theorem Front.charLength_eq (isFront : Front s front) : charLength s = front.toList.length := by
  rw [isFront.toList_eq]
  rfl

/-- Every text has a front. -/
theorem exists_front (s : String) : ∃ front, Front s front := by
  by_cases present : sentinel ∈ s.toList
  · obtain ⟨front, rest, split, free⟩ := List.eq_append_cons_of_mem present
    refine ⟨String.ofList front, .cut ?_ (String.ofList rest) ?_⟩
    · rwa [String.toList_ofList]
    · apply String.toList_inj.mp
      simp only [split, String.toList_append, String.toList_ofList, List.append_assoc]
      rfl
  · exact ⟨s, .whole present⟩

/-- A text has one front. -/
theorem front_iff (isFront : Front s front) (other : String) : Front s other ↔ other = front := by
  constructor
  · intro isOther
    apply String.toList_inj.mp
    rw [isOther.toList_eq, isFront.toList_eq]
  · intro same
    exact same ▸ isFront

/-! ## Bytes -/

/-- The bytes of a text are those of its characters, one after the other. -/
theorem encode_eq (s : String) : encode s = s.toList.flatMap String.utf8EncodeChar := by
  have bytes : s.toUTF8 = s.toList.utf8Encode := String.utf8Encode_toList.symm
  rw [encode, bytes, List.utf8Encode, List.toList_data_toByteArray]

/-- Only the sentinel has a zero among its bytes. -/
theorem toNat_pos_of_mem_utf8EncodeChar (visible : c ≠ sentinel) :
    ∀ b ∈ String.utf8EncodeChar c, 0 < b.toNat := by
  have positive : c.val.toNat ≠ 0 := by
    intro zero
    apply visible
    exact Char.ext (UInt32.toNat_inj.mp zero)
  -- a byte of a longer encoding has its high bit set
  simp only [String.utf8EncodeChar]
  split_ifs
  all_goals
    simp only [List.forall_mem_cons, List.not_mem_nil, false_implies, implies_true, and_true,
      UInt8.toNat_ofNat']
    omega

/-- A scan of the bytes up to a zero and a scan of the characters up to the sentinel pass the
same characters. -/
theorem takeWhile_flatMap_utf8EncodeChar (cs : List Char) :
    (cs.flatMap String.utf8EncodeChar).takeWhile (· ≠ 0) =
      (cs.takeWhile (· ≠ sentinel)).flatMap String.utf8EncodeChar := by
  induction cs with
  | nil => rfl
  | cons c cs ih =>
      by_cases stops : c = sentinel
      · subst stops
        rfl
      · have nonzero : ∀ b ∈ String.utf8EncodeChar c, decide (b ≠ 0) = true := by
          intro b member
          apply decide_eq_true
          intro zero
          subst zero
          exact absurd (toNat_pos_of_mem_utf8EncodeChar stops 0 member) (Nat.lt_irrefl 0)
        have goesOn : (c :: cs).takeWhile (· ≠ sentinel) = c :: cs.takeWhile (· ≠ sentinel) :=
          List.takeWhile_cons_of_pos (decide_eq_true stops)
        rw [List.flatMap_cons, List.takeWhile_append_of_pos nonzero, ih, goesOn, List.flatMap_cons]

/-- **The scans stop together.** The bytes before the first zero byte encode the characters
before the first sentinel. -/
theorem Front.takeWhile_encode (isFront : Front s front) :
    (encode s).takeWhile (· ≠ 0) = encode front := by
  rw [encode_eq, encode_eq, takeWhile_flatMap_utf8EncodeChar, isFront.toList_eq]

/-- The length in bytes is that of the coded front. -/
theorem Front.byteLength_eq (isFront : Front s front) : byteLength s = (encode front).length :=
  congrArg List.length isFront.takeWhile_encode

/-- A character adds its size to the number of bytes. -/
theorem length_flatMap_utf8EncodeChar_cons (c : Char) (cs : List Char) :
    ((c :: cs).flatMap String.utf8EncodeChar).length =
      c.utf8Size + (cs.flatMap String.utf8EncodeChar).length := by
  rw [List.flatMap_cons, List.length_append, String.length_utf8EncodeChar]

/-- Every character takes a byte at least. -/
theorem length_le_flatMap_utf8EncodeChar (cs : List Char) :
    cs.length ≤ (cs.flatMap String.utf8EncodeChar).length := by
  induction cs with
  | nil => exact Nat.le_refl 0
  | cons c cs ih =>
      have some := c.utf8Size_pos
      rw [length_flatMap_utf8EncodeChar_cons, List.length_cons]
      omega

/-- No character takes more than four bytes. -/
theorem length_flatMap_utf8EncodeChar_le (cs : List Char) :
    (cs.flatMap String.utf8EncodeChar).length ≤ 4 * cs.length := by
  induction cs with
  | nil => exact Nat.le_refl 0
  | cons c cs ih =>
      have few := c.utf8Size_le_four
      rw [length_flatMap_utf8EncodeChar_cons, List.length_cons]
      omega

/-- The characters of one byte are the ASCII characters. -/
theorem utf8Size_eq_one_iff_ascii (c : Char) : c.utf8Size = 1 ↔ c.toNat < 128 := by
  rw [Char.utf8Size_eq_one_iff, UInt32.le_iff_toNat_le]
  exact Nat.lt_succ_iff.symm

/-- There are as many bytes as characters if all characters are ASCII characters, and only then. -/
theorem length_eq_flatMap_utf8EncodeChar_iff (cs : List Char) :
    cs.length = (cs.flatMap String.utf8EncodeChar).length ↔ ∀ c ∈ cs, c.toNat < 128 := by
  induction cs with
  | nil => simp
  | cons c cs ih =>
      have some := c.utf8Size_pos
      have rest := length_le_flatMap_utf8EncodeChar cs
      rw [List.forall_mem_cons, ← ih, ← utf8Size_eq_one_iff_ascii,
        length_flatMap_utf8EncodeChar_cons, List.length_cons]
      omega

/-! ## Lengths -/

/-- **Both lengths are those of the front.** One counts its characters and the other the bytes of
its encoding, so they differ by a factor of at most four, and not at all just if the front is
ASCII. What comes after the first sentinel makes no difference to either. -/
theorem scans_stop_together (s : String) :
    ∃ front, (∀ other, Front s other ↔ other = front) ∧
      charLength s = front.toList.length ∧
      (encode s).takeWhile (· ≠ 0) = encode front ∧
      byteLength s = (encode front).length ∧
      charLength s ≤ byteLength s ∧ byteLength s ≤ 4 * charLength s ∧
      (charLength s = byteLength s ↔ ∀ c ∈ front.toList, c.toNat < 128) ∧
      ∀ rest other, s = front ++ "\x00" ++ rest →
        charLength (front ++ "\x00" ++ other) = charLength s ∧
        byteLength (front ++ "\x00" ++ other) = byteLength s := by
  obtain ⟨front, isFront⟩ := exists_front s
  have chars := isFront.charLength_eq
  have bytes := isFront.byteLength_eq
  refine ⟨front, front_iff isFront, chars, isFront.takeWhile_encode, bytes, ?_, ?_, ?_, ?_⟩
  · rw [chars, bytes, encode_eq]
    exact length_le_flatMap_utf8EncodeChar front.toList
  · rw [chars, bytes, encode_eq]
    exact length_flatMap_utf8EncodeChar_le front.toList
  · rw [chars, bytes, encode_eq]
    exact length_eq_flatMap_utf8EncodeChar_iff front.toList
  · intro rest other here
    have replaced : Front (front ++ "\x00" ++ other) front := .cut isFront.free other rfl
    rw [chars, bytes]
    exact ⟨replaced.charLength_eq, replaced.byteLength_eq⟩

end PocketTools.Length
