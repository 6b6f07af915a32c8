/-! # Reading whole numbers

A decimal numeral is judged from left to right: a character that is no digit is
reported where it stands, and a value that leaves the range is reported at the
digit that carries it out.
-/

namespace PocketTools.Text

/-- Why a text is not a whole number of the wanted range. -/
inductive NumberFault where
  | empty
  | invalidDigit
  | tooLarge
  | tooSmall
  deriving DecidableEq, Repr

/-- The wording of each cause. -/
def NumberFault.message : NumberFault → String
  | .empty => "cannot parse integer from empty string"
  | .invalidDigit => "invalid digit found in string"
  | .tooLarge => "number too large to fit in target type"
  | .tooSmall => "number too small to fit in target type"

/-- The value of an ASCII decimal digit. -/
def digitValue? (c : Char) : Option Nat :=
  if '0' ≤ c ∧ c ≤ '9' then some (c.toNat - '0'.toNat) else none

/-- Carries a value on through further digits, as long as it stays at most
`limit`; `beyond` is the fault of leaving that range. -/
def readDigits (limit : Nat) (beyond : NumberFault) : (value : Nat) → List Char →
    Except NumberFault Nat
  | value, [] => .ok value
  | value, c :: rest =>
      match digitValue? c with
      | none => .error .invalidDigit
      | some d =>
          let next := 10 * value + d
          if next ≤ limit then readDigits limit beyond next rest else .error beyond

/-- One digit or more, with the value at most `limit`. -/
def readMagnitude (limit : Nat) (beyond : NumberFault) : List Char → Except NumberFault Nat
  | [] => .error .invalidDigit
  | cs => readDigits limit beyond 0 cs

/-- The greatest unsigned 64-bit number. -/
def maxUnsigned : Nat := UInt64.size - 1

/-- The greatest signed 64-bit number. -/
def maxSigned : Nat := UInt64.size / 2 - 1

/-- An unsigned 64-bit number: an optional plus sign and decimal digits. -/
def readUnsigned (s : String) : Except NumberFault UInt64 :=
  match s.toList with
  | [] => .error .empty
  | '+' :: digits => UInt64.ofNat <$> readMagnitude maxUnsigned .tooLarge digits
  | digits => UInt64.ofNat <$> readMagnitude maxUnsigned .tooLarge digits

/-- A signed 64-bit number: an optional sign and decimal digits. -/
def readSigned (s : String) : Except NumberFault Int :=
  match s.toList with
  | [] => .error .empty
  | '+' :: digits => Int.ofNat <$> readMagnitude maxSigned .tooLarge digits
  | '-' :: digits => (fun n => -Int.ofNat n) <$> readMagnitude (maxSigned + 1) .tooSmall digits
  | digits => Int.ofNat <$> readMagnitude maxSigned .tooLarge digits

end PocketTools.Text
