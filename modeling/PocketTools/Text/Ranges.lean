/-! # Ranges of code points -/

namespace PocketTools.Text

/-- Whether a number lies in one of several ranges. They are given by their ends
in order: the first number of a range, the first number after it, and so on. -/
def inRanges (ends : List Nat) (n : Nat) : Bool :=
  (ends.takeWhile (· ≤ n)).length % 2 == 1

end PocketTools.Text
