import Mathlib.Data.Nat.Digits.Lemmas
import PocketTools.Text.Decimal

/-!
# Which texts are decimal numbers

Digits are read to their value as an unbounded number if that is in range, and to a fault
otherwise: a number that has left the range never comes back
(`readDigits_eq_ok_iff`). So an unsigned number is read from exactly the texts that write
one below the limit, with any number of leading zeros and perhaps a plus sign
(`readUnsigned_eq_ok_iff`).
-/

namespace PocketTools.Text

/-- What an ASCII digit counts. -/
def digit (c : Char) : Nat :=
  c.toNat - '0'.toNat

/-- The value of digits, most significant first, without a bound. -/
def decimalValue (digits : List Char) : Nat :=
  Nat.ofDigits 10 (digits.map digit).reverse

/-- **A number in decimal**: ASCII digits, at least one, perhaps with a plus sign in front. -/
inductive Decimal : List Char → Nat → Prop where
  | plain {digits : List Char} (some : digits ≠ []) (all : ∀ c ∈ digits, c.isDigit) :
      Decimal digits (decimalValue digits)
  | signed {digits : List Char} (some : digits ≠ []) (all : ∀ c ∈ digits, c.isDigit) :
      Decimal ('+' :: digits) (decimalValue digits)

variable {limit value n : Nat} {beyond : NumberFault} {c : Char} {digits : List Char}

/-- The decimal digits have a value, and no other character has. -/
theorem digitValue?_eq (c : Char) :
    digitValue? c = if c.isDigit then some (digit c) else none := by
  have same : ('0' ≤ c ∧ c ≤ '9') ↔ c.isDigit = true := by
    rw [Char.isDigit, Bool.and_eq_true, decide_eq_true_eq, decide_eq_true_eq]
    rfl
  simp only [digitValue?, same]
  rfl

/-- The first digit counts with the power of its place. -/
theorem decimalValue_cons (c : Char) (digits : List Char) :
    decimalValue (c :: digits) = 10 ^ digits.length * digit c + decimalValue digits := by
  rw [decimalValue, List.map_cons, List.reverse_cons, Nat.ofDigits_append, Nat.ofDigits_singleton,
    List.length_reverse, List.length_map, Nat.add_comm]
  rfl

/-- Reading one digit more, and then the others. -/
theorem readOn_cons (value : Nat) (c : Char) (digits : List Char) :
    10 ^ (c :: digits).length * value + decimalValue (c :: digits) =
      10 ^ digits.length * (10 * value + digit c) + decimalValue digits := by
  rw [decimalValue_cons, List.length_cons, Nat.pow_succ]
  ring

/-- **Reading digits on from a value** gives the exact number, if that is in range. -/
theorem readDigits_eq_ok_iff (start : value ≤ limit) :
    readDigits limit beyond value digits = .ok n ↔
      (∀ c ∈ digits, c.isDigit) ∧ n = 10 ^ digits.length * value + decimalValue digits ∧
        n ≤ limit := by
  induction digits generalizing value with
  | nil =>
      have whole : 10 ^ ([] : List Char).length * value + decimalValue [] = value := by
        simp [decimalValue]
      rw [readDigits, Except.ok.injEq, whole]
      constructor
      · rintro rfl
        exact ⟨by simp, rfl, start⟩
      · rintro ⟨-, rfl, -⟩
        rfl
  | cons c digits ih =>
      rw [readDigits, digitValue?_eq, List.forall_mem_cons, readOn_cons]
      by_cases isDigit : c.isDigit
      · rw [if_pos isDigit]
        by_cases fits : 10 * value + digit c ≤ limit
        · simp only [fits, ↓reduceIte, ih fits, isDigit, true_and]
        · -- out of range already, and the digits that follow only add to it
          have grows : 10 * value + digit c ≤ 10 ^ digits.length * (10 * value + digit c) :=
            Nat.le_mul_of_pos_left _ (Nat.pow_pos (by decide))
          simp only [fits, ↓reduceIte, reduceCtorEq, false_iff]
          rintro ⟨-, rfl, within⟩
          omega
      · simp only [isDigit, Bool.false_eq_true, ↓reduceIte, reduceCtorEq, false_and]

/-- A magnitude is read from decimal digits, one at least, whose value is within the limit. -/
theorem readMagnitude_eq_ok_iff :
    readMagnitude limit beyond digits = .ok n ↔
      digits ≠ [] ∧ (∀ c ∈ digits, c.isDigit) ∧ n = decimalValue digits ∧ n ≤ limit := by
  cases digits with
  | nil => simp only [readMagnitude, reduceCtorEq, ne_eq, not_true_eq_false, false_and]
  | cons c digits =>
      rw [readMagnitude, readDigits_eq_ok_iff (Nat.zero_le limit), Nat.mul_zero, Nat.zero_add]
      · simp only [ne_eq, reduceCtorEq, not_false_eq_true, true_and]
      · rintro ⟨⟩

/-- An unsigned number after its sign. -/
theorem ofNat_readMagnitude_eq_ok_iff {n : UInt64} :
    UInt64.ofNat <$> readMagnitude maxUnsigned beyond digits = .ok n ↔
      digits ≠ [] ∧ (∀ c ∈ digits, c.isDigit) ∧ decimalValue digits = n.toNat := by
  constructor
  · intro read
    cases magnitude : readMagnitude maxUnsigned beyond digits with
    | error fault =>
        rw [magnitude] at read
        cases read
    | ok value =>
        obtain ⟨some, all, rfl, within⟩ := readMagnitude_eq_ok_iff.mp magnitude
        rw [magnitude] at read
        cases read
        exact ⟨some, all, (UInt64.toNat_ofNat_of_lt' (Nat.lt_of_le_pred (by decide) within)).symm⟩
  · rintro ⟨some, all, same⟩
    have within : n.toNat ≤ maxUnsigned := Nat.le_pred_of_lt n.toNat_lt
    rw [readMagnitude_eq_ok_iff.mpr ⟨some, all, same.symm, within⟩]
    exact congrArg Except.ok UInt64.ofNat_toNat

/-- A plus sign is followed by the number. -/
theorem decimal_signed_iff :
    Decimal ('+' :: digits) n ↔
      digits ≠ [] ∧ (∀ c ∈ digits, c.isDigit) ∧ decimalValue digits = n := by
  constructor
  · intro decimal
    cases decimal with
    | plain some all => exact absurd (all '+' List.mem_cons_self) (by decide)
    | signed some all => exact ⟨some, all, rfl⟩
  · rintro ⟨some, all, rfl⟩
    exact .signed some all

/-- Without a sign a decimal numeral is one or more digits. -/
theorem decimal_unsigned_iff (unsigned : ∀ rest, digits ≠ '+' :: rest) :
    Decimal digits n ↔ digits ≠ [] ∧ (∀ c ∈ digits, c.isDigit) ∧ decimalValue digits = n := by
  constructor
  · intro decimal
    cases decimal with
    | plain some all => exact ⟨some, all, rfl⟩
    | signed some all => exact absurd rfl (unsigned _)
  · rintro ⟨some, all, rfl⟩
    exact .plain some all

/-- **An unsigned number is read from the texts that write one**, with the value that they
write, and from no others. -/
theorem readUnsigned_eq_ok_iff {s : String} {n : UInt64} :
    readUnsigned s = .ok n ↔ Decimal s.toList n.toNat := by
  rw [readUnsigned]
  generalize s.toList = cs
  split
  · rw [decimal_unsigned_iff (by simp)]
    simp only [reduceCtorEq, ne_eq, not_true_eq_false, false_and]
  · rw [ofNat_readMagnitude_eq_ok_iff, decimal_signed_iff]
  · rename_i unsigned
    rw [ofNat_readMagnitude_eq_ok_iff, decimal_unsigned_iff unsigned]

/-! ## Numbers as they are printed -/

/-- The library's value of digits behind a number adds the value of these digits. -/
theorem ofDigitChars_eq (start : Nat) (digits : List Char) :
    Nat.ofDigitChars 10 digits start = 10 ^ digits.length * start + decimalValue digits := by
  induction digits generalizing start with
  | nil => simp [decimalValue]
  | cons c digits ih => rw [Nat.ofDigitChars_cons, ih, readOn_cons, digit]

/-- The digits that a number is printed with have its value. -/
theorem decimalValue_toDigits (n : Nat) : decimalValue (Nat.toDigits 10 n) = n := by
  have value := ofDigitChars_eq 0 (Nat.toDigits 10 n)
  rw [Nat.ofDigitChars_ten_toDigits, Nat.mul_zero, Nat.zero_add] at value
  exact value.symm

/-- Only zero is printed with a zero in front. -/
theorem toDigits_of_head?_eq_zero {n : Nat} (leads : (Nat.toDigits 10 n).head? = some '0') :
    Nat.toDigits 10 n = ['0'] := by
  induction n using Nat.strongRecOn with
  | ind n ih =>
      by_cases single : n < 10
      · rw [Nat.toDigits_of_lt_base single, List.head?_cons, Option.some.injEq] at leads
        rw [Nat.toDigits_of_lt_base single, leads]
      · have split := Nat.toDigits_of_base_le (b := 10) (n := n) (by decide) (by omega)
        have front : (Nat.toDigits 10 (n / 10)).head? = some '0' := by
          rwa [split, List.head?_append_of_ne_nil _ Nat.toDigits_ne_nil] at leads
        -- then what stands in front of the last digit is zero, and is not printed
        have zero := decimalValue_toDigits (n / 10)
        rw [ih (n / 10) (by omega) front] at zero
        have none : decimalValue ['0'] = 0 := rfl
        omega

end PocketTools.Text
