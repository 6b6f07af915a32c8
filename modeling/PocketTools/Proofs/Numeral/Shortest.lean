import PocketTools.Proofs.Numeral.Positional

/-!
# Numerals and numbers

Every number has one numeral without leading zeros, its shortest one. A numeral of any length
is the shortest one of its value with zeros in front (`eq_zeros_append_shortest`). Zeros in
front of any text, numeral or not, leave its value alone and only move what is wrong with it
(`convert_zeros_append`). So 64-bit numbers and numerals that are not refused correspond, up to
those zeros (`numerals_correspond`).
-/

namespace PocketTools.Numeral

variable {s : String} {digits : List Char} {v : UInt64}

/-! ## Zeros in front -/

/-- What is wrong with a text, told of the same text with more characters in front. -/
def Fault.shift (k : Nat) : Fault → Fault
  | .invalidDigit digit position => .invalidDigit digit (position + k)
  | .overflow digits => .overflow (digits + k)

/-- A numeral of zeros. -/
def zeros (k : Nat) : List Char :=
  List.replicate k '0'

theorem append?_zero (mode : OverflowMode) : append? mode 0 0 = some 0 := by
  cases mode with
  | wrap => rfl
  | reject => rfl

/-- Zeros in front move the position on and change nothing else. -/
theorem convertFrom_zeros (mode : OverflowMode) (length position k : Nat) (rest : List Char) :
    convertFrom mode length position 0 (zeros k ++ rest) =
      convertFrom mode length (position + k) 0 rest := by
  induction k generalizing position with
  | zero => rfl
  | succ k ih =>
      have zero : digit? '0' = some 0 := rfl
      rw [zeros, List.replicate_succ, List.cons_append, convertFrom, zero]
      simp only [append?_zero]
      rw [← zeros, ih, Nat.add_assoc, Nat.add_comm 1 k]

/-- Reading on does not depend on how many characters came before, but its faults tell. -/
theorem convertFrom_shift (mode : OverflowMode) (length position k : Nat) (value : UInt64)
    (rest : List Char) :
    convertFrom mode (length + k) (position + k) value rest =
      (convertFrom mode length position value rest).mapError (Fault.shift k) := by
  induction rest generalizing position value with
  | nil => rfl
  | cons c rest ih =>
      rw [convertFrom, convertFrom]
      cases digit? c with
      | none => rfl
      | some digit =>
          simp only
          cases append? mode value digit with
          | none => rfl
          | some next =>
              simp only
              rw [← ih, Nat.add_right_comm]

/-- Zeros in front of a numeral shift the place or the length that its fault names, and keep
its value. -/
theorem convert_zeros_append (mode : OverflowMode) (k : Nat) (s : String) :
    convert mode (String.ofList (zeros k) ++ s) = (convert mode s).mapError (Fault.shift k) := by
  have count : (zeros k ++ s.toList).length = s.toList.length + k := by
    rw [List.length_append, zeros, List.length_replicate, Nat.add_comm]
  rw [convert, convert, String.toList_append, String.toList_ofList, count, convertFrom_zeros,
    convertFrom_shift]

theorem value_zeros_append (k : Nat) (digits : List Char) :
    value (zeros k ++ digits) = value digits := by
  have none : bit '0' = 0 := rfl
  rw [value, value, List.map_append, zeros, List.map_replicate, none, List.reverse_append,
    List.reverse_replicate, Nat.ofDigits_append_replicate_zero]

/-! ## The shortest numeral -/

/-- The character of a binary digit. -/
def digitChar (d : Nat) : Char :=
  if d = 1 then '1' else '0'

/-- The numeral of a number without leading zeros. That of zero is empty. -/
def shortest (n : Nat) : List Char :=
  ((Nat.digits 2 n).map digitChar).reverse

theorem isDigit_digitChar (d : Nat) : isDigit (digitChar d) := by
  unfold digitChar
  split
  · rfl
  · rfl

/-- The shortest numeral has digits only. -/
theorem isDigit_of_mem_shortest {n : Nat} {c : Char} (member : c ∈ shortest n) : isDigit c := by
  obtain ⟨d, -, rfl⟩ := List.mem_map.mp (List.mem_reverse.mp member)
  exact isDigit_digitChar d

theorem bit_digitChar {d : Nat} (below : d < 2) : bit (digitChar d) = d := by
  interval_cases d <;> rfl

/-- A digit is the character of what it is worth. -/
theorem digitChar_bit {c : Char} (digit : isDigit c) : digitChar (bit c) = c := by
  rcases (isDigit_iff c).mp digit with rfl | rfl
  · rfl
  · rfl

theorem map_map_eq_self {α β : Type} {f : α → β} {g : β → α} {items : List α}
    (back : ∀ item ∈ items, g (f item) = item) : (items.map f).map g = items := by
  rw [List.map_map]
  exact (List.map_congr_left back).trans (List.map_id items)

/-- The shortest numeral of a number has that value. -/
theorem value_shortest (n : Nat) : value (shortest n) = n := by
  have back : ((Nat.digits 2 n).map digitChar).map bit = Nat.digits 2 n := by
    apply map_map_eq_self
    intro d member
    exact bit_digitChar (Nat.digits_lt_base Nat.one_lt_two member)
  rw [value, shortest, List.map_reverse, List.reverse_reverse, back, Nat.ofDigits_digits]

/-- A numeral that begins with a one is the shortest one of its value. -/
theorem shortest_value_one_cons (all : ∀ c ∈ digits, isDigit c) :
    shortest (value ('1' :: digits)) = '1' :: digits := by
  have everyDigit : ∀ c ∈ '1' :: digits, isDigit c := List.forall_mem_cons.mpr ⟨rfl, all⟩
  have bits : ∀ d ∈ (('1' :: digits).map bit).reverse, d < 2 := by
    intro d member
    obtain ⟨c, -, rfl⟩ := List.mem_map.mp (List.mem_reverse.mp member)
    exact bit_lt_two c
  have highest : ∀ nonempty : (('1' :: digits).map bit).reverse ≠ [],
      (('1' :: digits).map bit).reverse.getLast nonempty ≠ 0 := by
    intro nonempty
    rw [List.getLast_reverse]
    exact Nat.one_ne_zero
  have back : (('1' :: digits).map bit).map digitChar = '1' :: digits :=
    map_map_eq_self fun c member => digitChar_bit (everyDigit c member)
  rw [shortest, value, Nat.digits_ofDigits 2 Nat.one_lt_two _ bits highest, List.map_reverse,
    List.reverse_reverse, back]

/-- **Every numeral is a shortest one with zeros in front.** -/
theorem eq_zeros_append_shortest (all : ∀ c ∈ digits, isDigit c) :
    ∃ k, digits = zeros k ++ shortest (value digits) := by
  induction digits with
  | nil => exact ⟨0, rfl⟩
  | cons c digits ih =>
      obtain ⟨digit, rest⟩ := List.forall_mem_cons.mp all
      rcases (isDigit_iff c).mp digit with rfl | rfl
      · obtain ⟨k, same⟩ := ih rest
        refine ⟨k + 1, ?_⟩
        have skipped : value ('0' :: digits) = value digits := value_zeros_append 1 digits
        rw [skipped]
        exact congrArg ('0' :: ·) same
      · exact ⟨0, (shortest_value_one_cons rest).symm⟩

/-- No numeral of digits with the same value is shorter. -/
theorem length_shortest_le {n : Nat} (all : ∀ c ∈ digits, isDigit c) (worth : value digits = n) :
    (shortest n).length ≤ digits.length := by
  obtain ⟨k, same⟩ := eq_zeros_append_shortest all
  rw [same, worth, List.length_append]
  exact Nat.le_add_left _ _

/-- The number of zeros in front of the same digits is determined. -/
theorem zeros_append_inj {j k : Nat} {rest : List Char} (same : zeros j ++ rest = zeros k ++ rest) :
    j = k := by
  have count := congrArg List.length (List.append_cancel_right same)
  rwa [zeros, zeros, List.length_replicate, List.length_replicate] at count

/-! ## Numbers -/

/-- The shortest numeral of a word is converted to that word, in either mode. -/
theorem convert_shortest (mode : OverflowMode) (v : UInt64) :
    convert mode (String.ofList (shortest v.toNat)) = .ok v := by
  have all : ∀ c ∈ shortest v.toNat, isDigit c := fun _ => isDigit_of_mem_shortest
  have exact : 2 ^ (shortest v.toNat).length * (0 : UInt64).toNat + value (shortest v.toNat) =
      v.toNat := by
    rw [UInt64.toNat_zero, Nat.mul_zero, Nat.zero_add, value_shortest]
  rw [convert, String.toList_ofList]
  cases mode with
  | wrap => rw [convertFrom_wrap _ _ _ all, exact, UInt64.ofNat_toNat]
  | reject => rw [convertFrom_reject _ _ _ all, exact, if_pos v.toNat_lt, UInt64.ofNat_toNat]

/-- A text that is not refused is a numeral, and its value is the number read. -/
theorem digits_of_convert_reject (converted : convert .reject s = .ok v) :
    (∀ c ∈ s.toList, isDigit c) ∧ value s.toList = v.toNat := by
  rw [convert_reject] at converted
  by_cases fits : valueOf s < UInt64.size
  · rw [if_pos fits] at converted
    cases found : s.toList[firstBad s]? with
    | some bad =>
        rw [outcome_of_bad found] at converted
        cases converted
    | none =>
        have whole : s.toList.take (firstBad s) = s.toList :=
          List.take_of_length_le (List.getElem?_eq_none_iff.mp found)
        rw [outcome, found] at converted
        cases converted
        refine ⟨?_, ?_⟩
        · intro c member
          apply isDigit_of_mem_take (s := s)
          rwa [whole]
        · rw [UInt64.toNat_ofNat_of_lt' fits, valueOf, whole]
  · rw [if_neg fits] at converted
    cases converted

/-- **Numerals and numbers correspond**, up to zeros in front. The shortest numeral of a number is
worth that number, and no numeral worth it is shorter. With any number of zeros in front it is
read as the number in both modes, and what the mode that rejects reads as the number is of that
form in just one way. Zeros in front of any text leave its value alone, and move a bad digit and
lengthen what is too long by as many. -/
theorem numerals_correspond :
    (∀ n, value (shortest n) = n ∧
      ∀ digits, (∀ c ∈ digits, isDigit c) → value digits = n →
        (shortest n).length ≤ digits.length) ∧
    (∀ mode (v : UInt64) k, convert mode (String.ofList (zeros k ++ shortest v.toNat)) = .ok v) ∧
    (∀ s v, convert .reject s = .ok v → ∃! k, s.toList = zeros k ++ shortest v.toNat) ∧
    ∀ mode k s,
      convert mode (String.ofList (zeros k) ++ s) = (convert mode s).mapError (Fault.shift k) := by
  refine ⟨?_, ?_, ?_, convert_zeros_append⟩
  · intro n
    exact ⟨value_shortest n, fun digits all worth => length_shortest_le all worth⟩
  · intro mode v k
    rw [String.ofList_append, convert_zeros_append, convert_shortest]
    rfl
  · intro s v converted
    obtain ⟨all, worth⟩ := digits_of_convert_reject converted
    obtain ⟨k, same⟩ := eq_zeros_append_shortest all
    rw [worth] at same
    refine ⟨k, same, ?_⟩
    intro j other
    exact zeros_append_inj (other.symm.trans same)

end PocketTools.Numeral
