import Mathlib.Data.List.TakeWhile
import Mathlib.Data.Nat.Digits.Lemmas
import PocketTools.Numeral

/-!
# What becomes of a text as a binary numeral

Of a text only the digits in front of its first character that is none are read, and
their value as an unbounded number decides. Reading on from a number multiplies it by a
power of two and adds the value of what follows, so a number that has become too large
for 64 bits never comes back (`convertFrom_reject`), and dropping high bits on the way is
dropping them at the end (`convertFrom_wrap`). Hence both modes come to the same unless
the value is too large (`convert_classified`).
-/

namespace PocketTools.Numeral

/-- Whether a character is a binary digit. -/
def isDigit (c : Char) : Bool :=
  c = '0' || c = '1'

/-- What a digit counts. -/
def bit (c : Char) : Nat :=
  if c = '1' then 1 else 0

/-- The value of digits, most significant first, without a bound. -/
def value (digits : List Char) : Nat :=
  Nat.ofDigits 2 (digits.map bit).reverse

/-- The number of digits in front of the first character that is none. -/
def firstBad (s : String) : Nat :=
  s.toList.findIdx fun c => !isDigit c

/-- The value of the digits in front of the first character that is none. -/
def valueOf (s : String) : Nat :=
  value (s.toList.take (firstBad s))

theorem bit_lt_two (c : Char) : bit c < 2 := by
  unfold bit
  split <;> decide

/-- A digit is read as what it is worth. -/
theorem digit?_of_isDigit {c : Char} (digit : isDigit c) :
    digit? c = some (UInt64.ofNat (bit c)) := by
  rcases Bool.or_eq_true_iff.mp digit with zero | one
  · rw [of_decide_eq_true zero]
    rfl
  · rw [of_decide_eq_true one]
    rfl

theorem digit?_of_not_isDigit {c : Char} (bad : isDigit c = false) : digit? c = none := by
  obtain ⟨zero, one⟩ := Bool.or_eq_false_iff.mp bad
  rw [digit?, if_neg (of_decide_eq_false zero), if_neg (of_decide_eq_false one)]

theorem toNat_ofNat_bit (c : Char) : (UInt64.ofNat (bit c)).toNat = bit c :=
  UInt64.toNat_ofNat_of_lt' ((bit_lt_two c).trans (by decide))

/-- Shifting a word and setting its last bit is doubling it and adding that bit. -/
theorem shiftLeft_or_eq {digit : UInt64} (value : UInt64) (small : digit.toNat < 2) :
    value <<< 1 ||| digit = 2 * value + digit := by
  apply UInt64.toNat_inj.mp
  -- the high bit is lost by the shift, and the low bit is free for the digit
  have shifted : (value <<< 1).toNat = 2 ^ 1 * (value.toNat % 2 ^ 63) := by
    rw [UInt64.toNat_shiftLeft, UInt64.toNat_one, Nat.shiftLeft_eq, Nat.mul_comm]
    exact Nat.mul_mod_mul_left 2 value.toNat (2 ^ 63)
  rw [UInt64.toNat_or, shifted, ← Nat.two_pow_add_eq_or_of_lt small, UInt64.toNat_add,
    UInt64.toNat_mul]
  change 2 * (value.toNat % 2 ^ 63) + digit.toNat =
    (2 * value.toNat % 2 ^ 64 + digit.toNat) % 2 ^ 64
  omega

/-! ## Values -/

/-- The first digit counts with the power of its place. -/
theorem value_cons (c : Char) (digits : List Char) :
    value (c :: digits) = 2 ^ digits.length * bit c + value digits := by
  rw [value, List.map_cons, List.reverse_cons, Nat.ofDigits_append, Nat.ofDigits_singleton,
    List.length_reverse, List.length_map, Nat.add_comm]
  rfl

/-- The value of digits needs no more bits than there are digits. -/
theorem value_lt (digits : List Char) : value digits < 2 ^ digits.length := by
  have bound := Nat.ofDigits_lt_base_pow_length (b := 2) (l := (digits.map bit).reverse)
    (by decide) (by
      intro d mem
      obtain ⟨c, -, rfl⟩ := List.mem_map.mp (List.mem_reverse.mp mem)
      exact bit_lt_two c)
  rwa [List.length_reverse, List.length_map] at bound

/-- Reading one digit more, and then the others. -/
theorem read_cons (start : Nat) (c : Char) (digits : List Char) :
    2 ^ (c :: digits).length * start + value (c :: digits) =
      2 ^ digits.length * (2 * start + bit c) + value digits := by
  rw [value_cons, List.length_cons, Nat.pow_succ]
  ring

/-! ## Reading digits -/

variable {digits : List Char}

/-- The mode that wraps keeps the low bits of the exact number. -/
theorem convertFrom_wrap (length position : Nat) (start : UInt64)
    (all : ∀ c ∈ digits, isDigit c) :
    convertFrom .wrap length position start digits =
      .ok (UInt64.ofNat (2 ^ digits.length * start.toNat + value digits)) := by
  induction digits generalizing position start with
  | nil => simp [convertFrom, value]
  | cons c digits ih =>
      obtain ⟨digit, rest⟩ := List.forall_mem_cons.mp all
      have small : (UInt64.ofNat (bit c)).toNat < 2 := (toNat_ofNat_bit c).trans_lt (bit_lt_two c)
      rw [convertFrom, digit?_of_isDigit digit]
      simp only [append?, shiftLeft_or_eq _ small]
      rw [ih _ _ rest, read_cons]
      congr 1
      simp only [UInt64.ofNat_add, UInt64.ofNat_mul, UInt64.ofNat_toNat]
      rfl

/-- The mode that rejects gives the exact number if it fits into 64 bits. -/
theorem convertFrom_reject (length position : Nat) (start : UInt64)
    (all : ∀ c ∈ digits, isDigit c) :
    convertFrom .reject length position start digits =
      if 2 ^ digits.length * start.toNat + value digits < UInt64.size then
        .ok (UInt64.ofNat (2 ^ digits.length * start.toNat + value digits))
      else .error (.overflow length) := by
  induction digits generalizing position start with
  | nil =>
      have same : 2 ^ 0 * start.toNat + value [] = start.toNat := by simp [value]
      rw [List.length_nil, same, if_pos start.toNat_lt, UInt64.ofNat_toNat]
      rfl
  | cons c digits ih =>
      obtain ⟨digit, rest⟩ := List.forall_mem_cons.mp all
      rw [convertFrom, digit?_of_isDigit digit, read_cons]
      simp only [append?, toNat_ofNat_bit]
      by_cases fits : 2 * start.toNat + bit c < UInt64.size
      · rw [if_pos fits]
        simp only
        rw [ih _ _ rest, UInt64.toNat_ofNat_of_lt' fits]
      · -- too large already, and what follows only makes it larger
        have stays :
            ¬ 2 ^ digits.length * (2 * start.toNat + bit c) + value digits < UInt64.size := by
          have grows := Nat.le_mul_of_pos_left (2 * start.toNat + bit c)
            (Nat.two_pow_pos digits.length)
          omega
        rw [if_neg fits, if_neg stays]

/-! ## Reading texts -/

/-- The digits in front are digits. -/
theorem isDigit_of_mem_take {s : String} {c : Char} (mem : c ∈ s.toList.take (firstBad s)) :
    isDigit c := by
  rw [firstBad, ← List.takeWhile_eq_take_findIdx_not] at mem
  exact List.mem_takeWhile_imp mem

/-- The character that stops the reading is none. -/
theorem isDigit_of_firstBad {s : String} {bad : Char}
    (found : s.toList[firstBad s]? = some bad) : isDigit bad = false := by
  obtain ⟨inside, here⟩ := List.getElem?_eq_some_iff.mp found
  have stops : (!isDigit s.toList[firstBad s]) = true :=
    List.findIdx_getElem (p := fun c => !isDigit c) (w := inside)
  rwa [here, Bool.not_eq_true'] at stops

/-- Reading a text is reading its digits in front and then, if there is one, failing at
the first character that is none. -/
theorem convert_eq (mode : OverflowMode) (s : String) :
    convert mode s =
      (convertFrom mode s.length 0 0 (s.toList.take (firstBad s))).bind fun value =>
        match s.toList[firstBad s]? with
        | some bad => .error (.invalidDigit bad (firstBad s))
        | none => .ok value := by
  have split := List.take_append_drop (firstBad s) s.toList
  have count : (s.toList.take (firstBad s)).length = firstBad s :=
    List.length_take_of_le List.findIdx_le_length
  rw [convert, String.length_toList]
  conv_lhs => rw [← split]
  rw [convertFrom_append, count, Nat.zero_add]
  congr 1
  funext next
  cases found : s.toList[firstBad s]? with
  | none =>
      rw [List.drop_eq_nil_of_le (List.getElem?_eq_none_iff.mp found)]
      rfl
  | some bad =>
      obtain ⟨inside, here⟩ := List.getElem?_eq_some_iff.mp found
      rw [List.drop_eq_getElem_cons inside, here, convertFrom,
        digit?_of_not_isDigit (isDigit_of_firstBad found)]

/-- What a text comes to if its value is no obstacle. -/
def outcome (s : String) : Except Fault UInt64 :=
  match s.toList[firstBad s]? with
  | some bad => .error (.invalidDigit bad (firstBad s))
  | none => .ok (UInt64.ofNat (valueOf s))

/-- A numeral with a character that is no digit comes to a fault with that character and its
position. -/
theorem outcome_of_bad {s : String} {bad : Char} (found : s.toList[firstBad s]? = some bad) :
    outcome s = .error (.invalidDigit bad (firstBad s)) := by
  rw [outcome, found]

/-- A numeral of digits comes to its value, cut to a word. -/
theorem outcome_of_whole {s : String} (whole : firstBad s = s.length) :
    outcome s = .ok (UInt64.ofNat (valueOf s)) := by
  have missing : s.toList[firstBad s]? = none := by
    rw [whole, ← String.length_toList, List.getElem?_length]
  rw [outcome, missing]

/-- A conversion that wraps comes to the outcome. -/
theorem convert_wrap (s : String) : convert .wrap s = outcome s := by
  rw [convert_eq, convertFrom_wrap _ _ _ fun _ => isDigit_of_mem_take]
  simp only [UInt64.toNat_zero, Nat.mul_zero, Nat.zero_add]
  rfl

/-- A conversion that rejects comes to the outcome if the value fits into a word, and to an
overflow with the length of the numeral if not. -/
theorem convert_reject (s : String) :
    convert .reject s =
      if valueOf s < UInt64.size then outcome s else .error (.overflow s.length) := by
  rw [convert_eq, convertFrom_reject _ _ _ fun _ => isDigit_of_mem_take]
  simp only [UInt64.toNat_zero, Nat.mul_zero, Nat.zero_add]
  by_cases fits : valueOf s < UInt64.size
  · rw [if_pos fits]
    exact congrArg (Except.bind · _) (if_pos fits)
  · rw [if_neg fits]
    exact congrArg (Except.bind · _) (if_neg fits)

theorem outcome_ne_overflow (s : String) (n : Nat) : outcome s ≠ .error (.overflow n) := by
  unfold outcome
  split <;> rintro ⟨⟩

/-- A value that does not fit into 64 bits has more than 64 digits. -/
theorem lt_firstBad_of_size_le {s : String} (large : UInt64.size ≤ valueOf s) :
    64 < firstBad s := by
  by_contra few
  have count : (s.toList.take (firstBad s)).length ≤ 64 :=
    (List.length_take_le _ _).trans (Nat.le_of_not_lt few)
  have small := (value_lt (s.toList.take (firstBad s))).trans_le
    (Nat.pow_le_pow_right (by decide) count)
  exact absurd small (Nat.not_lt.mpr large)

/-- **Every text, classified.** The mode that rejects reports an overflow exactly if the value
of the digits in front does not fit into 64 bits; otherwise it reports the first character
that is no digit, with its index, or gives the value if there is none. The mode that wraps
comes to the same unless there is an overflow. If there is one, at least 65 digits come
first, and the mode that wraps reports the character after them, or gives the value modulo
`2 ^ 64` if there is none. -/
theorem convert_classified (s : String) :
    (convert .reject s = .error (.overflow s.length) ↔ 2 ^ 64 ≤ valueOf s) ∧
    (valueOf s < 2 ^ 64 →
      (∀ bad, s.toList[firstBad s]? = some bad →
        convert .reject s = .error (.invalidDigit bad (firstBad s))) ∧
      (firstBad s = s.length → ∃ n, convert .reject s = .ok n ∧ n.toNat = valueOf s)) ∧
    ((∀ length, convert .reject s ≠ .error (.overflow length)) →
      convert .wrap s = convert .reject s) ∧
    (∀ length, convert .reject s = .error (.overflow length) →
      length = s.length ∧ 65 ≤ firstBad s ∧
      (∀ bad, s.toList[firstBad s]? = some bad →
        convert .wrap s = .error (.invalidDigit bad (firstBad s))) ∧
      (firstBad s = s.length → ∃ n, convert .wrap s = .ok n ∧ n.toNat = valueOf s % 2 ^ 64)) := by
  rw [convert_wrap]
  by_cases fits : valueOf s < UInt64.size
  · -- the value fits, and both modes come to the same
    have reject : convert .reject s = outcome s := by rw [convert_reject, if_pos fits]
    rw [reject]
    refine ⟨iff_of_false (outcome_ne_overflow s _) (Nat.not_le.mpr fits), fun _ => ⟨?_, ?_⟩,
      fun _ => rfl, fun length overflows => absurd overflows (outcome_ne_overflow s length)⟩
    · exact fun bad found => outcome_of_bad found
    · exact fun whole => ⟨_, outcome_of_whole whole, UInt64.toNat_ofNat_of_lt' fits⟩
  · -- it does not, so what decides is how the mode that wraps goes on
    have large : 2 ^ 64 ≤ valueOf s := Nat.le_of_not_lt fits
    have reject : convert .reject s = .error (.overflow s.length) := by
      rw [convert_reject, if_neg fits]
    rw [reject]
    refine ⟨iff_of_true rfl large, fun small => absurd small fits,
      fun never => absurd rfl (never s.length), ?_⟩
    rintro length ⟨⟩
    refine ⟨rfl, lt_firstBad_of_size_le large, ?_, ?_⟩
    · exact fun bad found => outcome_of_bad found
    · exact fun whole => ⟨_, outcome_of_whole whole, UInt64.toNat_ofNat'⟩

end PocketTools.Numeral
