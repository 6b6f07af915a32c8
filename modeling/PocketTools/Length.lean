import PocketTools.Text.Utf8

/-! # Length of a text

A text ends at its first U+0000 character, or where it ends itself. Its length
is counted in characters or in bytes of UTF-8.
-/

namespace PocketTools.Length

/-- What a length counts. -/
inductive Measure where
  | chars
  | bytes
  deriving DecidableEq, Repr

/-- The name of a unit of length. -/
def Measure.name : Measure → String
  | .chars => "chars"
  | .bytes => "bytes"

/-- The number of characters before the first U+0000. -/
def charLength (s : String) : Nat :=
  (s.toList.takeWhile (· ≠ Char.ofNat 0)).length

/-- The number of bytes before the first zero byte. -/
def byteLength (s : String) : Nat :=
  ((Text.encode s).takeWhile (· ≠ 0)).length

/-- The length of a text in a unit. -/
def Measure.lengthOf : Measure → String → Nat
  | .chars => charLength
  | .bytes => byteLength

end PocketTools.Length
