import PocketTools.Toml.Digits

/-! # Date-times

A date-time is a calendar date, a time of day, or a date with a time and perhaps
an offset from universal time. What clocks may show differs between date-times
that stand in a document and date-times that are written as strings.
-/

namespace PocketTools.Toml

/-- What a clock may show. -/
structure Clock where
  /-- The last hour that a time of day may name. -/
  lastHour : Nat
  /-- Whether an offset may have so many hours and minutes. -/
  allowsOffset : (hours minutes : Nat) → Bool

/-- The clock of date-times in a document: hours and minutes stay below their
full circle. -/
def Clock.document : Clock :=
  ⟨23, fun hours minutes => hours ≤ 23 && minutes ≤ 59⟩

/-- The clock of date-times in strings: a day may have an hour 24, and an offset
is at most a day. -/
def Clock.string : Clock :=
  ⟨24, fun hours minutes => 60 * hours + minutes ≤ 1440⟩

/-- The number that two digits write, if it lies in a range. -/
def twoDigits? (low high : Nat) (a b : Char) : Option Nat :=
  if a.isDigit && b.isDigit then
    let n := digitsValue 10 [a, b]
    if low ≤ n ∧ n ≤ high then some n else none
  else none

/-- Whether a year has a 29th of February. -/
def isLeapYear (year : Nat) : Bool :=
  year % 4 == 0 && (year % 100 != 0 || year % 400 == 0)

/-- The number of days of a month. -/
def daysInMonth (year month : Nat) : Nat :=
  if month = 2 then if isLeapYear year then 29 else 28
  else if month = 4 ∨ month = 6 ∨ month = 9 ∨ month = 11 then 30
  else 31

/-- What follows a calendar date. -/
def afterDate? : List Char → Option (List Char)
  | y₁ :: y₂ :: y₃ :: y₄ :: '-' :: m₁ :: m₂ :: '-' :: d₁ :: d₂ :: rest => do
      if [y₁, y₂, y₃, y₄].all Char.isDigit then
        let month ← twoDigits? 1 12 m₁ m₂
        let _ ← twoDigits? 1 (daysInMonth (digitsValue 10 [y₁, y₂, y₃, y₄]) month) d₁ d₂
        some rest
      else none
  | _ => none

/-- What follows the fraction of a second, if one stands here. -/
def afterFraction (s : List Char) : List Char :=
  match s with
  | '.' :: c :: rest => if c.isDigit then rest.dropWhile Char.isDigit else s
  | _ => s

/-- What follows a time of day. A minute may have a 61st second. -/
def afterTime? (clock : Clock) : List Char → Option (List Char)
  | h₁ :: h₂ :: ':' :: m₁ :: m₂ :: ':' :: s₁ :: s₂ :: rest => do
      let _ ← twoDigits? 0 clock.lastHour h₁ h₂
      let _ ← twoDigits? 0 59 m₁ m₂
      let _ ← twoDigits? 0 60 s₁ s₂
      some (afterFraction rest)
  | _ => none

/-- Whether two digits each are the hours and minutes of an offset. -/
def isOffset (clock : Clock) (h₁ h₂ m₁ m₂ : Char) : Bool :=
  match twoDigits? 0 99 h₁ h₂, twoDigits? 0 99 m₁ m₂ with
  | some hours, some minutes => clock.allowsOffset hours minutes
  | _, _ => false

/-- What follows an offset from universal time; the text itself if none stands
here. -/
def afterOffset (clock : Clock) (s : List Char) : List Char :=
  match s with
  | sign :: h₁ :: h₂ :: ':' :: m₁ :: m₂ :: rest =>
      if sign == 'Z' || sign == 'z' then h₁ :: h₂ :: ':' :: m₁ :: m₂ :: rest
      else if (sign == '+' || sign == '-') && isOffset clock h₁ h₂ m₁ m₂ then rest
      else s
  | sign :: rest => if sign == 'Z' || sign == 'z' then rest else s
  | [] => s

/-- What follows a date-time. -/
def afterDateTime? (clock : Clock) (s : List Char) : Option (List Char) :=
  match afterDate? s with
  | some rest =>
      match rest with
      | mark :: time =>
          if mark == 'T' || mark == 't' || mark == ' ' then
            match afterTime? clock time with
            | some more => some (afterOffset clock more)
            | none => some rest
          else some rest
      | [] => some []
  | none => afterTime? clock s

/-- Whether a string is a date-time as a whole. -/
def isDateTime (text : String) : Bool :=
  afterDateTime? .string text.toList == some []

end PocketTools.Toml
