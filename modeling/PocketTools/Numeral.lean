/-! # Binary numerals

A binary numeral is read most significant digit first into a 64-bit number.
What no longer fits is either dropped at the high end or refused, as the
overflow mode has it. The failure that comes first from the left decides.
-/

namespace PocketTools

/-- What to do with a numeral that needs more than 64 bits. -/
inductive OverflowMode where
  /-- Keep the low 64 bits. -/
  | wrap
  /-- Refuse the numeral. -/
  | reject
  deriving DecidableEq, Repr, Inhabited

/-- The word that names a mode in settings and on the command line. -/
def OverflowMode.word : OverflowMode → String
  | .wrap => "wrap"
  | .reject => "reject"

/-- The mode that a word names. -/
def OverflowMode.ofWord? (word : String) : Option OverflowMode :=
  if word = "wrap" then some .wrap
  else if word = "reject" then some .reject
  else none

/-- A word names a mode exactly when it is that mode's word. -/
theorem OverflowMode.ofWord?_eq_some_iff {word : String} {mode : OverflowMode} :
    ofWord? word = some mode ↔ word = mode.word := by
  constructor
  · intro named
    unfold ofWord? at named
    split at named
    · cases named
      assumption
    · split at named
      · cases named
        assumption
      · cases named
  · rintro rfl
    cases mode <;> rfl

namespace Numeral

/-- Why a text is not a binary numeral of 64 bits. Positions and lengths count
characters. -/
inductive Fault where
  | invalidDigit (digit : Char) (position : Nat)
  | overflow (digits : Nat)
  deriving DecidableEq, Repr

/-- The wording of each cause. -/
def Fault.message : Fault → String
  | .invalidDigit digit position =>
      s!"Invalid binary string: unexpected '{digit}' at position {position}"
  | .overflow digits => s!"binary number does not fit in 64 bits ({digits} digits)"

/-- The value of a binary digit. -/
def digit? (c : Char) : Option UInt64 :=
  if c = '0' then some 0 else if c = '1' then some 1 else none

/-- The number with one more digit at its end; none if the mode refuses it. -/
def append? (mode : OverflowMode) (value digit : UInt64) : Option UInt64 :=
  match mode with
  | .wrap => some (value <<< 1 ||| digit)
  | .reject =>
      let exact := 2 * value.toNat + digit.toNat
      if exact < UInt64.size then some (UInt64.ofNat exact) else none

/-- Carries a number on through the digits that follow. `length` is the length
of the whole numeral and `position` the number of digits read. -/
def convertFrom (mode : OverflowMode) (length : Nat) : (position : Nat) → (value : UInt64) →
    List Char → Except Fault UInt64
  | _, value, [] => .ok value
  | position, value, c :: rest =>
      match digit? c with
      | none => .error (.invalidDigit c position)
      | some digit =>
          match append? mode value digit with
          | none => .error (.overflow length)
          | some next => convertFrom mode length (position + 1) next rest

/-- Converting two runs of digits is converting the second from where the first
left off. -/
theorem convertFrom_append (mode : OverflowMode) (length position : Nat) (value : UInt64)
    (first second : List Char) :
    convertFrom mode length position value (first ++ second) =
      (convertFrom mode length position value first).bind fun next =>
        convertFrom mode length (position + first.length) next second := by
  induction first generalizing position value with
  | nil => rfl
  | cons c first ih =>
      simp only [List.cons_append, convertFrom, List.length_cons]
      split
      · rfl
      · split
        · rfl
        · rw [ih, Nat.add_assoc, Nat.add_comm 1 first.length]

/-- The number that a binary numeral stands for. The empty numeral stands for
zero. -/
def convert (mode : OverflowMode) (numeral : String) : Except Fault UInt64 :=
  let digits := numeral.toList
  convertFrom mode digits.length 0 0 digits

end Numeral

end PocketTools
