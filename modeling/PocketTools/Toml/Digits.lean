import PocketTools.Text.Hexadecimal

/-! # Digits -/

namespace PocketTools.Toml

/-- The digits of a run in which single underscores may stand between digits. -/
def ungroup? (isDigit : Char → Bool) : List Char → Option (List Char)
  | [] => none
  | [c] => if isDigit c then some [c] else none
  | c :: d :: rest =>
      if isDigit c then
        if d == '_' then (ungroup? isDigit rest).map (c :: ·)
        else (ungroup? isDigit (d :: rest)).map (c :: ·)
      else none

/-- The number that digits of a base write. -/
def digitsValue (base : Nat) (digits : List Char) : Nat :=
  digits.foldl (fun n c => base * n + (Text.hexValue? c).getD 0) 0

end PocketTools.Toml
