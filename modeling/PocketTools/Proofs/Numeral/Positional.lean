import Mathlib.Algebra.BigOperators.Fin
import Mathlib.Data.List.DropRight
import PocketTools.Proofs.Numeral.Classification

/-!
# The mode that wraps is positional

With the mode that wraps a binary numeral of any length is its positional value modulo
`2 ^ 64`. Digits more than 64 places from the end are multiples of that and count for
nothing. A character that is no digit is reported wherever it stands, and an overflow
never (`convert_wrap_positional`).
-/

namespace PocketTools.Numeral

/-- There are two digits. -/
theorem isDigit_iff (c : Char) : isDigit c ↔ c = '0' ∨ c = '1' := by
  rw [isDigit, Bool.or_eq_true, decide_eq_true_eq, decide_eq_true_eq]

/-- The digits in front count with the power of all those behind them. -/
theorem value_append (front back : List Char) :
    value (front ++ back) = 2 ^ back.length * value front + value back := by
  rw [value, List.map_append, List.reverse_append, Nat.ofDigits_append, List.length_reverse,
    List.length_map, Nat.add_comm]
  rfl

/-- The value is the sum of the digits, each with the power of its place. -/
theorem value_eq_sum (digits : List Char) :
    value digits = ∑ i : Fin digits.length, bit digits[i] * 2 ^ (digits.length - 1 - i) := by
  induction digits with
  | nil => rfl
  | cons c digits ih =>
      rw [value_cons, ih]
      simp only [List.length_cons]
      rw [Fin.sum_univ_succ]
      congr 1
      · simp [Nat.mul_comm]
      · apply Finset.sum_congr rfl
        intro i _
        -- both digits stand as many places from the end
        have place : digits.length - 1 - i = digits.length + 1 - 1 - i.succ := by
          rw [Fin.val_succ]
          omega
        rw [place]
        rfl

/-- The last 64 digits fix the value modulo `2 ^ 64`. -/
theorem value_rtake_mod (digits : List Char) :
    value (digits.rtake 64) % 2 ^ 64 = value digits % 2 ^ 64 := by
  by_cases few : digits.length ≤ 64
  · rw [List.rtake, Nat.sub_eq_zero_of_le few, List.drop_zero]
  · have count : (digits.drop (digits.length - 64)).length = 64 := by
      rw [List.length_drop]
      omega
    have split := List.take_append_drop (digits.length - 64) digits
    rw [List.rtake]
    conv_rhs => rw [← split, value_append, count, Nat.mul_add_mod]

/-- A numeral of digits wraps to its value, cut to a word. -/
theorem convert_wrap_of_digits {s : String} (all : ∀ c ∈ s.toList, isDigit c) :
    convert .wrap s = .ok (UInt64.ofNat (value s.toList)) := by
  rw [convert, convertFrom_wrap _ _ _ all, UInt64.toNat_zero, Nat.mul_zero, Nat.zero_add]

/-- The last 64 digits decide what a numeral wraps to. -/
theorem convert_wrap_rtake {s : String} (all : ∀ c ∈ s.toList, isDigit c) :
    convert .wrap (String.ofList (s.toList.rtake 64)) = convert .wrap s := by
  have kept : ∀ c ∈ (String.ofList (s.toList.rtake 64)).toList, isDigit c := by
    intro c member
    rw [String.toList_ofList] at member
    exact all c (List.mem_of_mem_drop member)
  rw [convert_wrap_of_digits all, convert_wrap_of_digits kept, String.toList_ofList]
  congr 1
  apply UInt64.toNat_inj.mp
  rw [UInt64.toNat_ofNat', UInt64.toNat_ofNat', value_rtake_mod]

/-- A text with a character that is no digit has a first one. -/
theorem exists_firstBad {s : String} {c : Char} (member : c ∈ s.toList) (bad : ¬ isDigit c) :
    ∃ first, s.toList[firstBad s]? = some first ∧ ¬ isDigit first := by
  have inside : firstBad s < s.toList.length := by
    apply List.findIdx_lt_length.mpr
    refine ⟨c, member, ?_⟩
    rw [Bool.not_eq_true', Bool.eq_false_iff]
    exact bad
  have found := List.getElem?_eq_getElem inside
  exact ⟨_, found, Bool.eq_false_iff.mp (isDigit_of_firstBad found)⟩

/-- **Wrapping is positional.** A numeral of digits is worth the sum of its digits times their
powers of two, modulo `2 ^ 64`, and as much as its last 64 digits. A text with another character
is refused for the first such character, at its index among the characters. The mode reports
no overflow. -/
theorem convert_wrap_positional (s : String) :
    ((∀ c ∈ s.toList, c = '0' ∨ c = '1') →
      (∃ n, convert .wrap s = .ok n ∧
        n.toNat = (∑ i : Fin s.toList.length,
          (if s.toList[i] = '1' then 1 else 0) * 2 ^ (s.toList.length - 1 - i)) % 2 ^ 64) ∧
      convert .wrap (String.ofList (s.toList.rtake 64)) = convert .wrap s) ∧
    ((∃ c ∈ s.toList, c ≠ '0' ∧ c ≠ '1') →
      ∃ position bad, s.toList[position]? = some bad ∧ (bad ≠ '0' ∧ bad ≠ '1') ∧
        (∀ c ∈ s.toList.take position, c = '0' ∨ c = '1') ∧
        convert .wrap s = .error (.invalidDigit bad position)) ∧
    ∀ length, convert .wrap s ≠ .error (.overflow length) := by
  simp only [ne_eq, ← not_or, ← isDigit_iff]
  refine ⟨fun all => ⟨⟨_, convert_wrap_of_digits all, ?_⟩, convert_wrap_rtake all⟩, ?_, ?_⟩
  · rw [UInt64.toNat_ofNat', value_eq_sum]
    rfl
  · rintro ⟨c, member, bad⟩
    obtain ⟨first, found, noDigit⟩ := exists_firstBad member bad
    refine ⟨firstBad s, first, found, noDigit, fun _ => isDigit_of_mem_take, ?_⟩
    rw [convert_wrap, outcome_of_bad found]
  · intro length
    rw [convert_wrap]
    exact outcome_ne_overflow s length

end PocketTools.Numeral
