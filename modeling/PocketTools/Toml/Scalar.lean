import PocketTools.Toml.DateTime
import PocketTools.Toml.Value

/-! # Unquoted values

Numbers, truth values and date-times. Apart from date-times, which may hold a
space, an unquoted value is the longest run of its characters, and is judged as
a whole.
-/

namespace PocketTools.Toml

/-- Whether an unquoted value can hold a character. -/
def isTokenChar (c : Char) : Bool :=
  c.isAlphanum || c == '+' || c == '-' || c == '_' || c == '.' || c == ':'

/-- The digits of a decimal number without sign: no zero leads a longer one. -/
def decimal? (s : List Char) : Option (List Char) :=
  match ungroup? Char.isDigit s with
  | some ('0' :: _ :: _) => none
  | other => other

/-- Whether a number is a signed 64-bit integer. -/
def inRange (n : Int) : Bool :=
  -9223372036854775808 ≤ n && n ≤ 9223372036854775807

/-- An integer in a base other than ten, its digits given. -/
def based? (base : Nat) (isDigit : Char → Bool) (s : List Char) : Option Int := do
  let n : Int := digitsValue base (← ungroup? isDigit s)
  if inRange n then some n else none

/-- A decimal integer without its sign. -/
def magnitude? (negative : Bool) (s : List Char) : Option Int := do
  let n : Int := digitsValue 10 (← decimal? s)
  let n := if negative then -n else n
  if inRange n then some n else none

/-- An integer: decimal with or without sign, or in base 16, 8 or 2. -/
def integer? : List Char → Option Int
  | '0' :: 'x' :: digits => based? 16 (fun c => (Text.hexValue? c).isSome) digits
  | '0' :: 'o' :: digits => based? 8 (fun c => '0' ≤ c && c ≤ '7') digits
  | '0' :: 'b' :: digits => based? 2 (fun c => c == '0' || c == '1') digits
  | '+' :: digits => magnitude? false digits
  | '-' :: digits => magnitude? true digits
  | digits => magnitude? false digits

/-- The least number that rounds to no finite double: halfway from the greatest
double to the next power of two. -/
def doubleBound : Nat := Nat.pow 2 1024 - Nat.pow 2 970

/-- Whether `m * 10 ^ e` is too large for a double. Numbers far from the bound
are judged by their number of digits. -/
def exceedsDouble (m : Nat) (e : Int) : Bool :=
  let top : Int := (Nat.toDigits 10 m).length + e
  if m = 0 then false
  else if top > 310 then true
  else if top < 308 then false
  else if e ≥ 0 then m * Nat.pow 10 e.toNat ≥ doubleBound
  else m ≥ doubleBound * Nat.pow 10 (-e).toNat

/-- The exponent of a float, after its letter. -/
def exponent? : List Char → Option Int
  | '+' :: digits => (ungroup? Char.isDigit digits).map fun ds => (digitsValue 10 ds : Int)
  | '-' :: digits => (ungroup? Char.isDigit digits).map fun ds => -(digitsValue 10 ds : Int)
  | digits => (ungroup? Char.isDigit digits).map fun ds => (digitsValue 10 ds : Int)

/-- Whether a letter begins an exponent. -/
def isExponentMark (c : Char) : Bool :=
  c == 'e' || c == 'E'

/-- The digits and the decimal exponent of a float in digits without its sign:
a decimal number with a fraction, an exponent or both. -/
def floatParts? (s : List Char) : Option (List Char × Int) := do
  let mantissa := s.takeWhile fun c => !isExponentMark c
  let whole ← decimal? (mantissa.takeWhile (· != '.'))
  let fraction ←
    match mantissa.dropWhile (· != '.') with
    | [] => some []
    | _ :: digits => ungroup? Char.isDigit digits
  let exponent ←
    match s.dropWhile fun c => !isExponentMark c with
    | [] => if fraction.isEmpty then none else some 0
    | _ :: digits => exponent? digits
  some (whole ++ fraction, exponent - fraction.length)

/-- Whether a text without its sign is a float. A float above every double is
refused, but a float below every double is not. -/
def isUnsignedFloat (negative : Bool) (s : List Char) : Bool :=
  if s = ['i', 'n', 'f'] || s = ['n', 'a', 'n'] then true
  else
    match floatParts? s with
    | some (digits, exponent) =>
        negative || !exceedsDouble (digitsValue 10 digits) exponent
    | none => false

/-- Whether a text is a float. -/
def isFloat : List Char → Bool
  | '+' :: s => isUnsignedFloat false s
  | '-' :: s => isUnsignedFloat true s
  | s => isUnsignedFloat false s

/-- The value of an unquoted text that is no date-time. -/
def ofToken? (s : List Char) : Option Value :=
  if s = ['t', 'r', 'u', 'e'] then some (.boolean true)
  else if s = ['f', 'a', 'l', 's', 'e'] then some (.boolean false)
  else
    match integer? s with
    | some n => some (.integer n)
    | none => if isFloat s then some (.float (String.ofList s)) else none

/-- An unquoted value, and what follows it. -/
def scalar? (s : List Char) : Option (Value × List Char) :=
  match afterDateTime? .document s with
  | some rest => some (.dateTime (String.ofList (s.take (s.length - rest.length))), rest)
  | none => (ofToken? (s.takeWhile isTokenChar)).map (·, s.dropWhile isTokenChar)

end PocketTools.Toml
