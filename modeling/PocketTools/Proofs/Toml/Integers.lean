import PocketTools.Proofs.Text.Decimal
import PocketTools.Proofs.Toml.Written

/-!
# Decimal integers in documents

A decimal integer of any size is written with digits, single underscores between them, and
perhaps a sign. Its characters cannot be taken for a date-time, a number in another base or a
float, so it is read as the number it writes if that is in range, and as nothing at all if it
is not (`Literal.readAs`).
-/

namespace PocketTools.Toml

/-- Digits with single underscores between some of them. -/
inductive Grouped : List Char → List Char → Prop where
  | last {c : Char} (digit : c.isDigit) : Grouped [c] [c]
  | next {c : Char} {s digits : List Char} (digit : c.isDigit) (more : Grouped s digits) :
      Grouped (c :: s) (c :: digits)
  | gap {c : Char} {s digits : List Char} (digit : c.isDigit) (more : Grouped s digits) :
      Grouped (c :: '_' :: s) (c :: digits)

/-- Digits with no zero in front of others. -/
structure Magnitude (s digits : List Char) : Prop where
  grouped : Grouped s digits
  leading : digits.head? = some '0' → digits = ['0']

/-- **A decimal integer as a document writes it**, with its value. -/
inductive Literal : List Char → Int → Prop where
  | plain {s digits : List Char} (magnitude : Magnitude s digits) :
      Literal s (Text.decimalValue digits)
  | positive {s digits : List Char} (magnitude : Magnitude s digits) :
      Literal ('+' :: s) (Text.decimalValue digits)
  | negative {s digits : List Char} (magnitude : Magnitude s digits) :
      Literal ('-' :: s) (-Text.decimalValue digits)

variable {s digits after : List Char} {n : Int}

/-! ## Digits -/

namespace Grouped

theorem isDigit (grouped : Grouped s digits) : ∀ c ∈ digits, c.isDigit := by
  induction grouped with
  | last digit => simpa using digit
  | next digit more ih => exact List.forall_mem_cons.mpr ⟨digit, ih⟩
  | gap digit more ih => exact List.forall_mem_cons.mpr ⟨digit, ih⟩

/-- A grouped numeral has digits and underscores only. -/
theorem digit_or_underscore (grouped : Grouped s digits) : ∀ c ∈ s, c.isDigit ∨ c = '_' := by
  induction grouped with
  | last digit =>
      intro c member
      rw [List.mem_singleton.mp member]
      exact .inl digit
  | next digit more ih => exact List.forall_mem_cons.mpr ⟨.inl digit, ih⟩
  | gap digit more ih =>
      exact List.forall_mem_cons.mpr ⟨.inl digit, List.forall_mem_cons.mpr ⟨.inr rfl, ih⟩⟩

theorem not_mem (grouped : Grouped s digits) {c : Char} (other : ¬ (c.isDigit ∨ c = '_')) :
    c ∉ s :=
  fun member => other (grouped.digit_or_underscore c member)

/-- A grouped numeral begins with its first digit. -/
theorem exists_cons (grouped : Grouped s digits) :
    ∃ c rest others, s = c :: rest ∧ digits = c :: others ∧ c.isDigit := by
  cases grouped with
  | last digit => exact ⟨_, _, _, rfl, rfl, digit⟩
  | next digit more => exact ⟨_, _, _, rfl, rfl, digit⟩
  | gap digit more => exact ⟨_, _, _, rfl, rfl, digit⟩

/-- Digits without underscores. -/
theorem of_digits (nonempty : digits ≠ []) (all : ∀ c ∈ digits, c.isDigit) :
    Grouped digits digits := by
  induction digits with
  | nil => exact absurd rfl nonempty
  | cons c digits ih =>
      obtain ⟨digit, others⟩ := List.forall_mem_cons.mp all
      cases digits with
      | nil => exact .last digit
      | cons d digits => exact .next digit (ih (List.cons_ne_nil d digits) others)

theorem isDigit_head {c : Char} {rest : List Char} (grouped : Grouped (c :: rest) digits) :
    c.isDigit := by
  obtain ⟨_, _, _, same, -, digit⟩ := grouped.exists_cons
  rwa [(List.cons.inj same).1]

theorem eq_of_single {c : Char} (grouped : Grouped s [c]) : s = [c] := by
  cases grouped with
  | last digit => rfl
  | next digit more => cases more
  | gap digit more => cases more

/-- Ungrouping leaves the digits. -/
theorem ungroup?_eq (grouped : Grouped s digits) : ungroup? Char.isDigit s = some digits := by
  induction grouped with
  | last digit => simp only [ungroup?, digit, ↓reduceIte]
  | next digit more ih =>
      obtain ⟨c, rest, others, rfl, rfl, first⟩ := more.exists_cons
      have noGap : (c == '_') = false := by
        rw [beq_eq_false_iff_ne]
        rintro rfl
        exact absurd first (by decide)
      simp only [ungroup?, digit, noGap, ih, ↓reduceIte, Bool.false_eq_true, Option.map_some]
  | gap digit more ih =>
      simp only [ungroup?, digit, ih, ↓reduceIte, beq_self_eq_true, Option.map_some]

/-- After the first run of digits comes an underscore, or what follows the whole. -/
theorem head?_dropWhile (grouped : Grouped s digits)
    (stops : ∀ c, after.head? = some c → c.isDigit = false) {c : Char}
    (found : ((s ++ after).dropWhile Char.isDigit).head? = some c) :
    c = '_' ∨ after.head? = some c := by
  induction grouped with
  | last digit =>
      rw [List.cons_append, List.nil_append, List.dropWhile_cons_of_pos digit] at found
      cases after with
      | nil => cases found
      | cons first after =>
          rw [List.dropWhile_cons_of_neg (by simp [stops first rfl])] at found
          exact .inr found
  | next digit more ih =>
      rw [List.cons_append, List.dropWhile_cons_of_pos digit] at found
      exact ih found
  | gap digit more ih =>
      rw [List.cons_append, List.dropWhile_cons_of_pos digit, List.cons_append,
        List.dropWhile_cons_of_neg (by decide)] at found
      exact .inl (Option.some.inj found).symm

end Grouped

/-- A decimal digit has the same value among the hexadecimal ones. -/
theorem hexValue?_of_isDigit {c : Char} (digit : c.isDigit) :
    Text.hexValue? c = some (Text.digit c) := by
  have bounds : '0' ≤ c ∧ c ≤ '9' := by
    rw [Char.isDigit, Bool.and_eq_true, decide_eq_true_eq, decide_eq_true_eq] at digit
    exact digit
  rw [Text.hexValue?, if_pos bounds]
  rfl

/-- Reading on from a number adds the value of the digits behind it. -/
theorem foldl_digitsValue (start : Nat) (all : ∀ c ∈ digits, c.isDigit) :
    digits.foldl (fun n c => 10 * n + (Text.hexValue? c).getD 0) start =
      10 ^ digits.length * start + Text.decimalValue digits := by
  induction digits generalizing start with
  | nil => simp [Text.decimalValue]
  | cons c digits ih =>
      obtain ⟨digit, rest⟩ := List.forall_mem_cons.mp all
      rw [List.foldl_cons, ih _ rest, hexValue?_of_isDigit digit, Option.getD_some,
        Text.readOn_cons]

/-- Digits read with base ten have their decimal value. -/
theorem digitsValue_eq (all : ∀ c ∈ digits, c.isDigit) :
    digitsValue 10 digits = Text.decimalValue digits := by
  rw [digitsValue, foldl_digitsValue 0 all, Nat.mul_zero, Nat.zero_add]

/-! ## The number -/

namespace Magnitude

/-- A magnitude is read as its digits. -/
theorem decimal?_eq (magnitude : Magnitude s digits) : decimal? s = some digits := by
  rw [decimal?, magnitude.grouped.ungroup?_eq]
  split
  · rename_i leads
    cases leads
    cases magnitude.leading rfl
  · rfl

/-- A magnitude comes to the number of its digits with the given sign, if that is in range. -/
theorem magnitude?_eq (magnitude : Magnitude s digits) (negative : Bool) :
    magnitude? negative s =
      let n : Int :=
        if negative then -Text.decimalValue digits else Text.decimalValue digits
      if inRange n then some n else none := by
  rw [magnitude?, magnitude.decimal?_eq, ← digitsValue_eq magnitude.grouped.isDigit]
  rfl

/-- Nothing stands behind a leading zero. -/
theorem eq_nil_of_zero {rest : List Char} (magnitude : Magnitude ('0' :: rest) digits) :
    rest = [] := by
  obtain ⟨_, _, others, same, rfl, -⟩ := magnitude.grouped.exists_cons
  obtain ⟨rfl, -⟩ := List.cons.inj same
  have single := magnitude.leading rfl
  rw [single] at magnitude
  exact (List.cons.inj magnitude.grouped.eq_of_single).2

/-- Only a lone zero begins with one, so a number is in base ten. -/
theorem integer?_eq (magnitude : Magnitude s digits) : integer? s = magnitude? false s := by
  unfold integer?
  split
  · cases magnitude.eq_nil_of_zero
  · cases magnitude.eq_nil_of_zero
  · cases magnitude.eq_nil_of_zero
  · exact absurd magnitude.grouped.isDigit_head (by decide)
  · exact absurd magnitude.grouped.isDigit_head (by decide)
  · rfl

/-- Digits alone have neither a point nor an exponent. -/
theorem floatParts?_eq (magnitude : Magnitude s digits) : floatParts? s = none := by
  have noMark : ∀ c ∈ s, (!isExponentMark c) = true := by
    intro c member
    rw [Bool.not_eq_true', isExponentMark, Bool.or_eq_false_iff, beq_eq_false_iff_ne,
      beq_eq_false_iff_ne]
    constructor
    · rintro rfl
      exact magnitude.grouped.not_mem (by decide) member
    · rintro rfl
      exact magnitude.grouped.not_mem (by decide) member
  have noPoint : ∀ c ∈ s, (c != '.') = true := by
    intro c member
    rw [bne_iff_ne]
    rintro rfl
    exact magnitude.grouped.not_mem (by decide) member
  have mantissa := List.takeWhile_eq_self_iff.mpr noMark
  have whole := List.takeWhile_eq_self_iff.mpr noPoint
  have noFraction := List.dropWhile_eq_nil_iff.mpr noPoint
  have noExponent := List.dropWhile_eq_nil_iff.mpr noMark
  simp only [floatParts?, mantissa, whole, noFraction, noExponent, magnitude.decimal?_eq]
  rfl

/-- A magnitude is no float. -/
theorem isUnsignedFloat_eq (magnitude : Magnitude s digits) (negative : Bool) :
    isUnsignedFloat negative s = false := by
  have noName : ¬ ((s = ['i', 'n', 'f'] || s = ['n', 'a', 'n']) = true) := by
    rw [Bool.or_eq_true, decide_eq_true_eq, decide_eq_true_eq]
    rintro (rfl | rfl)
    · exact absurd magnitude.grouped.isDigit_head (by decide)
    · exact absurd magnitude.grouped.isDigit_head (by decide)
  rw [isUnsignedFloat, if_neg noName, magnitude.floatParts?_eq]

end Magnitude

/-- A number is printed as a magnitude. -/
theorem Magnitude.toDigits (n : Nat) : Magnitude (Nat.toDigits 10 n) (Nat.toDigits 10 n) where
  grouped := by
    apply Grouped.of_digits Nat.toDigits_ne_nil
    intro c member
    exact Nat.isDigit_of_mem_toDigits (by decide) (by decide) member
  leading := Text.toDigits_of_head?_eq_zero

namespace Literal

/-- A number as it is printed. -/
theorem toDigits (n : Nat) : Literal (Nat.toDigits 10 n) n := by
  have literal := Literal.plain (Magnitude.toDigits n)
  rwa [Text.decimalValue_toDigits] at literal

/-- A number without sign and underscores. -/
theorem of_digits (nonempty : digits ≠ []) (all : digits.all Char.isDigit)
    (leading : digits.head? = some '0' → digits = ['0']) :
    Literal digits (Text.decimalValue digits) :=
  .plain ⟨.of_digits nonempty (List.all_eq_true.mp all), leading⟩

/-- A decimal literal is read as its number, if that is in range. -/
theorem integer?_eq (literal : Literal s n) :
    integer? s = if inRange n then some n else none := by
  cases literal with
  | plain magnitude =>
      rw [magnitude.integer?_eq, magnitude.magnitude?_eq]
      rfl
  | positive magnitude => exact magnitude.magnitude?_eq false
  | negative magnitude => exact magnitude.magnitude?_eq true

/-- A decimal literal is no float. -/
theorem isFloat_eq (literal : Literal s n) : isFloat s = false := by
  cases literal with
  | plain magnitude =>
      unfold isFloat
      split
      · exact absurd magnitude.grouped.isDigit_head (by decide)
      · exact absurd magnitude.grouped.isDigit_head (by decide)
      · exact magnitude.isUnsignedFloat_eq false
  | positive magnitude => exact magnitude.isUnsignedFloat_eq false
  | negative magnitude => exact magnitude.isUnsignedFloat_eq true

/-- A literal begins with a digit or a sign. -/
theorem exists_cons (literal : Literal s n) :
    ∃ c rest, s = c :: rest ∧ (c.isDigit ∨ c = '+' ∨ c = '-') := by
  cases literal with
  | plain magnitude =>
      obtain ⟨c, rest, -, rfl, -, digit⟩ := magnitude.grouped.exists_cons
      exact ⟨c, rest, rfl, .inl digit⟩
  | positive magnitude => exact ⟨'+', _, rfl, .inr (.inl rfl)⟩
  | negative magnitude => exact ⟨'-', _, rfl, .inr (.inr rfl)⟩

/-- **An integer is the number that it writes**, as long as that is in range. -/
theorem ofToken?_eq (literal : Literal s n) :
    ofToken? s = if inRange n then some (.integer n) else none := by
  obtain ⟨c, rest, rfl, starts⟩ := literal.exists_cons
  have noWord : c ≠ 't' ∧ c ≠ 'f' := by
    constructor
    · rintro rfl
      exact absurd starts (by decide)
    · rintro rfl
      exact absurd starts (by decide)
  simp only [ofToken?, List.cons.injEq, noWord.1, noWord.2, false_and, ↓reduceIte,
    literal.integer?_eq, literal.isFloat_eq]
  by_cases within : inRange n
  · simp only [within, ↓reduceIte]
  · simp only [within, Bool.false_eq_true, ↓reduceIte]

end Literal

/-! ## Date-times -/

/-- A date begins with four digits and a dash. -/
theorem of_afterDate?_isSome (found : (afterDate? s).isSome) :
    ∃ a b c d rest, s = a :: b :: c :: d :: '-' :: rest ∧ ∀ e ∈ [a, b, c, d], e.isDigit := by
  unfold afterDate? at found
  split at found
  · rename_i a b c d m₁ m₂ d₁ d₂ rest
    refine ⟨a, b, c, d, _, rfl, ?_⟩
    by_cases digits : [a, b, c, d].all Char.isDigit = true
    · exact List.all_eq_true.mp digits
    · rw [if_neg digits] at found
      cases found
  · cases found

/-- A time begins with two digits and a colon. -/
theorem of_afterTime?_isSome {clock : Clock} (found : (afterTime? clock s).isSome) :
    ∃ a b rest, s = a :: b :: ':' :: rest ∧ ∀ e ∈ [a, b], e.isDigit := by
  unfold afterTime? at found
  split at found
  · rename_i a b m₁ m₂ s₁ s₂ rest
    refine ⟨a, b, _, rfl, ?_⟩
    by_cases digits : (a.isDigit && b.isDigit) = true
    · rw [Bool.and_eq_true] at digits
      simpa using digits
    · have noHour : twoDigits? 0 clock.lastHour a b = none := by rw [twoDigits?, if_neg digits]
      rw [noHour] at found
      cases found
  · cases found

/-- A date-time begins with digits, and a hyphen or a colon comes after them. -/
theorem afterDateTime?_eq_none (clock : Clock)
    (apart : ∀ c, s.head? = some c → c.isDigit →
      ∀ d, (s.dropWhile Char.isDigit).head? = some d → d ≠ '-' ∧ d ≠ ':') :
    afterDateTime? clock s = none := by
  rw [afterDateTime?]
  cases date : afterDate? s with
  | some rest =>
      obtain ⟨a, b, c, d, rest, rfl, digits⟩ :=
        of_afterDate?_isSome (Option.isSome_iff_exists.mpr ⟨rest, date⟩)
      have run : ([a, b, c, d] ++ '-' :: rest).dropWhile Char.isDigit = '-' :: rest :=
        List.dropWhile_append_of_pos digits
      have first := apart a rfl (digits a List.mem_cons_self) '-' (congrArg List.head? run)
      exact absurd rfl first.1
  | none =>
      cases time : afterTime? clock s with
      | none => rfl
      | some rest =>
          obtain ⟨a, b, rest, rfl, digits⟩ :=
            of_afterTime?_isSome (Option.isSome_iff_exists.mpr ⟨rest, time⟩)
          have run : ([a, b] ++ ':' :: rest).dropWhile Char.isDigit = ':' :: rest :=
            List.dropWhile_append_of_pos digits
          have first := apart a rfl (digits a List.mem_cons_self) ':' (congrArg List.head? run)
          exact absurd rfl first.2

/-! ## Unquoted values -/

theorem isTokenChar_of_isDigit {c : Char} (digit : c.isDigit) : isTokenChar c := by
  simp only [isTokenChar, Char.isAlphanum, digit, Bool.or_true, Bool.true_or]

/-- A grouped numeral is made of characters that a token may have. -/
theorem Grouped.isTokenChar (grouped : Grouped s digits) : ∀ c ∈ s, isTokenChar c := by
  intro c member
  rcases grouped.digit_or_underscore c member with digit | rfl
  · exact isTokenChar_of_isDigit digit
  · decide

namespace Literal

/-- A decimal literal is made of characters that a token may have. -/
theorem isTokenChar (literal : Literal s n) : ∀ c ∈ s, isTokenChar c := by
  cases literal with
  | plain magnitude => exact magnitude.grouped.isTokenChar
  | positive magnitude =>
      exact List.forall_mem_cons.mpr ⟨by decide, magnitude.grouped.isTokenChar⟩
  | negative magnitude =>
      exact List.forall_mem_cons.mpr ⟨by decide, magnitude.grouped.isTokenChar⟩

/-- A decimal literal is not the beginning of a date-time. -/
theorem afterDateTime?_eq (literal : Literal s n)
    (stops : ∀ c, after.head? = some c → Toml.isTokenChar c = false) :
    afterDateTime? .document (s ++ after) = none := by
  apply afterDateTime?_eq_none
  intro c first digit d found
  cases literal with
  | plain magnitude =>
      have noDigit : ∀ c, after.head? = some c → c.isDigit = false := by
        intro c next
        by_contra digit
        have token := isTokenChar_of_isDigit (Bool.eq_true_of_not_eq_false digit)
        rw [stops c next] at token
        cases token
      rcases magnitude.grouped.head?_dropWhile noDigit found with rfl | next
      · decide
      · constructor
        · rintro rfl
          exact absurd (stops _ next) (by decide)
        · rintro rfl
          exact absurd (stops _ next) (by decide)
  | positive magnitude =>
      cases first
      exact absurd digit (by decide)
  | negative magnitude =>
      cases first
      exact absurd digit (by decide)

/-- A decimal literal is read as an integer up to where its token stops. -/
theorem scalar?_eq (literal : Literal s n)
    (stops : ∀ c, after.head? = some c → Toml.isTokenChar c = false) :
    scalar? (s ++ after) = if inRange n then some (.integer n, after) else none := by
  have token := takeWhile_append_eq_left literal.isTokenChar stops
  have rest := dropWhile_append_eq_right literal.isTokenChar stops
  simp only [scalar?, literal.afterDateTime?_eq stops, token, rest, literal.ofToken?_eq]
  by_cases within : inRange n
  · simp only [within, ↓reduceIte, Option.map_some]
  · simp only [within, Bool.false_eq_true, ↓reduceIte, Option.map_none]

/-- A literal is neither quoted nor in brackets. -/
theorem value?_eq (literal : Literal s n) (depth : Nat) :
    value? depth (s ++ after) = scalar? (s ++ after) := by
  unfold value?
  split
  · exact absurd ‹_› (append_ne_cons literal.exists_cons (by decide) _)
  · exact absurd ‹_› (append_ne_cons literal.exists_cons (by decide) _)
  · unfold simple?
    split
    · exact absurd ‹_› (append_ne_cons literal.exists_cons (by decide) _)
    · exact absurd ‹_› (append_ne_cons literal.exists_cons (by decide) _)
    · rfl

/-- **A literal in a document** is read as its number if that is in range, and makes the document
ill-formed if not. -/
theorem readAs (literal : Literal s n) :
    ReadAs s (if inRange n then some (.integer n) else none) where
  begins := by
    obtain ⟨c, rest, rfl, starts⟩ := literal.exists_cons
    refine ⟨c, rest, rfl, ?_⟩
    by_contra space
    rw [Bool.not_eq_false, isSpace, Bool.or_eq_true, beq_iff_eq, beq_iff_eq] at space
    rcases space with rfl | rfl
    · exact absurd starts (by decide)
    · exact absurd starts (by decide)
  reads {after rest} ends := by
    have stops : ∀ c, after.head? = some c → Toml.isTokenChar c = false := by
      intro c first
      rw [ends.eq_newline first]
      decide
    rw [literal.value?_eq, literal.scalar?_eq stops]
    by_cases within : inRange n
    · simp only [within, ↓reduceIte, Option.map_some]
    · simp only [within, Bool.false_eq_true, ↓reduceIte, Option.map_none]

end Literal

end PocketTools.Toml
