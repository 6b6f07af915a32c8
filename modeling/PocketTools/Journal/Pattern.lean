import PocketTools.Journal.Nesting
import PocketTools.Text.Alphanumeric
import PocketTools.Text.Blank
import PocketTools.Text.Hexadecimal

/-! # Patterns

Patterns for the text of a field are regular expressions: groups, repetitions,
classes of characters in brackets, and escapes. They are only checked here, never
matched. No tables of Unicode properties stand behind them, so sets of characters
by property, word boundaries and letters of either case are to be had for single
bytes only, and only where they stay within ASCII. There are no counted
repetitions, and no looking around.
-/

namespace PocketTools.Journal

/-- What flags in a pattern choose. -/
structure PatternFlags where
  /-- Whether letters of either case are alike. -/
  caseless : Bool := false
  /-- Whether characters are Unicode, and not single bytes. -/
  unicode : Bool := true
  /-- Whether blanks and comments are skipped. -/
  spaced : Bool := false
  deriving DecidableEq, Repr

namespace PatternFlags

/-- The flags with one set or cleared by its letter. -/
def put (on : Bool) (flags : PatternFlags) (letter : Char) : PatternFlags :=
  if letter == 'i' then { flags with caseless := on }
  else if letter == 'u' then { flags with unicode := on }
  else if letter == 'x' then { flags with spaced := on }
  else flags

/-- The flags after changes as written: letters before a hyphen set, and letters
after it clear. -/
def change (flags : PatternFlags) (written : List Char) : PatternFlags :=
  let cleared := (written.dropWhile (· != '-')).foldl (put false) flags
  (written.takeWhile (· != '-')).foldl (put true) cleared

end PatternFlags

/-- Where a reader of a pattern stands. -/
inductive Spot where
  /-- Where nothing precedes that could be repeated. -/
  | fresh
  /-- After something that can be repeated. -/
  | repeatable
  /-- After a backslash. -/
  | escape
  /-- Among the digits of a code point, with the value of those before. A code
  point of two digits may mean a byte. -/
  | digits (byte : Bool) (missing value : Nat)
  /-- After the parenthesis that opens a group. -/
  | group
  /-- Among the flags after a group's question mark, last first. -/
  | flags (seen : List Char)
  /-- Before the angle bracket of a group's name. -/
  | bracket
  /-- Before a group's name. -/
  | naming
  /-- Inside a group's name, its characters last first. -/
  | name (seen : List Char)
  /-- After the bracket that opens a class. -/
  | opened
  /-- After the caret that negates a class. -/
  | negated
  /-- After the hyphens that begin a class. -/
  | hyphens
  /-- Before a member of a class. -/
  | members
  /-- In a class after a character that makes an operator if it is doubled. -/
  | operator (c : Char)
  /-- After a member of a class, with its code point if it is one character. -/
  | member (code : Option Nat)
  /-- After the hyphen of a range, with the code point before it. -/
  | range (low : Option Nat)
  deriving DecidableEq, Repr

/-- Whether blanks may be skipped at a spot. -/
def Spot.skipsBlanks : Spot → Bool
  | .escape | .flags _ | .bracket | .naming | .name _ | .operator _ => false
  | _ => true

/-- What stands around an open group or class. -/
structure Surroundings where
  isClass : Bool
  flags : PatternFlags
  nesting : Nesting
  deriving DecidableEq, Repr

/-- What a reader of a pattern knows. -/
structure PatternState where
  spot : Spot := .fresh
  flags : PatternFlags := {}
  nesting : Nesting := {}
  /-- What is around the open groups and classes, innermost first. -/
  outer : List Surroundings := []
  /-- The names of groups. -/
  names : List (List Char) := []
  /-- The lower end of the range whose upper end is being read. -/
  low : Option (Option Nat) := none
  /-- Whether the reader is in a comment. -/
  inComment : Bool := false
  deriving DecidableEq, Repr

/-- The deepest that patterns may nest. -/
def maxPatternDepth : Nat := 250

namespace PatternState

/-- Whether a class is open. -/
def inClass (p : PatternState) : Bool :=
  p.outer.head?.any (·.isClass)

/-- At another spot. -/
def goto (p : PatternState) (spot : Spot) : Option PatternState :=
  some { p with spot }

/-- After something outside of classes that can be repeated. -/
def addItem (p : PatternState) : Option PatternState :=
  some { p with nesting := p.nesting.add 0, spot := .repeatable }

/-- After a member of a class, or after the upper end of a range. The ends of a
range are characters in order. -/
def addMember (p : PatternState) (code : Option Nat) : Option PatternState :=
  match p.low, code with
  | none, _ => some { p with nesting := p.nesting.add 0, spot := .member code }
  | some (some low), some high =>
      if low ≤ high then some { p with low := none, spot := .members } else none
  | some _, _ => none

/-- After one character. `byte` tells whether its code point may mean a byte. -/
def take (p : PatternState) (code : Nat) (byte : Bool) : Option PatternState :=
  if !p.flags.unicode && code ≥ 0x80 && (byte || p.inClass) then none
  else if p.inClass then p.addMember (some code)
  else if p.flags.unicode && p.flags.caseless then none
  else p.addItem

/-- After the opening of a group or a class. -/
def openLevel (p : PatternState) (isClass : Bool) : Option PatternState :=
  some { p with
    spot := if isClass then .opened else .group
    nesting := {}
    outer := ⟨isClass, p.flags, p.nesting⟩ :: p.outer }

/-- After the closing of a group or a class. -/
def closeLevel (p : PatternState) (isClass : Bool) : Option PatternState :=
  match p.outer with
  | [] => none
  | around :: outer =>
      if around.isClass != isClass then none
      else
        let closed : PatternState :=
          { p with
            flags := around.flags
            nesting := around.nesting.add (p.nesting.depth + 1)
            outer }
        closed.goto (if closed.inClass then .members else .repeatable)

/-- Reads a character outside of classes and escapes. -/
def stepPlain (p : PatternState) (c : Char) : Option PatternState :=
  if c == '(' then p.openLevel false
  else if c == ')' then p.closeLevel false
  else if c == '[' then
    if p.flags.unicode && p.flags.caseless then none else p.openLevel true
  else if c == '|' then some { p with nesting := p.nesting.choose, spot := .fresh }
  else if c == '*' || c == '+' || c == '?' then
    if p.spot = .repeatable then some { p with nesting := p.nesting.wrap } else none
  else if c == '.' then if p.flags.unicode then p.addItem else none
  else if c == '^' || c == '$' then p.addItem
  else if c == '\x7b' then none
  else if c == '\\' then p.goto .escape
  else p.take c.toNat false

/-- Reads a character that begins a member of a class. -/
def stepMember (p : PatternState) (c : Char) : Option PatternState :=
  if c == '[' then p.openLevel true
  else if c == ']' then p.closeLevel true
  else if c == '&' || c == '-' || c == '~' then p.goto (.operator c)
  else if c == '\\' then p.goto .escape
  else p.take c.toNat false

/-- The letters of the controls that have one, with their code points. -/
def controls : List (Char × Nat) :=
  [('a', 0x07), ('t', 0x09), ('n', 0x0A), ('v', 0x0B), ('f', 0x0C), ('r', 0x0D)]

/-- Reads the character after a backslash: it stands for a set of bytes, a code
point, a place in the text, a control or itself. -/
def stepEscape (p : PatternState) (c : Char) : Option PatternState :=
  if c == 'd' || c == 's' || c == 'w' then
    if p.flags.unicode then none else if p.inClass then p.addMember none else p.addItem
  else if c == 'x' then p.goto (.digits true 2 0)
  else if c == 'u' then p.goto (.digits false 4 0)
  else if c == 'U' then p.goto (.digits false 8 0)
  else if c == 'A' || c == 'z' then if p.inClass then none else p.addItem
  else if c == 'b' || c == 'B' || c == '<' || c == '>' then
    if p.inClass || p.flags.unicode then none else p.addItem
  else
    match controls.lookup c with
    | some code => p.take code false
    | none => if c.toNat ≥ 0x80 || c.isAlphanum then none else p.take c.toNat false

/-- Reads a digit of a code point. -/
def stepDigits (p : PatternState) (byte : Bool) (missing value : Nat) (c : Char) :
    Option PatternState :=
  match Text.hexValue? c with
  | none => none
  | some digit =>
      let value := 16 * value + digit
      if missing > 1 then p.goto (.digits byte (missing - 1) value)
      else if value.isValidChar then p.take value byte
      else none

/-- Reads a character after a group's question mark. Flags that end with a
parenthesis hold for the rest of the group around them. -/
def stepFlags (p : PatternState) (seen : List Char) (c : Char) : Option PatternState :=
  let flags := p.flags.change seen.reverse
  if seen = [] && c == '<' then p.goto .naming
  else if seen = [] && c == 'P' then p.goto .bracket
  else if seen.head? = some '-' && (c == ':' || c == ')') then none
  else if c == ':' then some { p with flags, spot := .fresh }
  else if c == ')' then
    match p.outer with
    | around :: outer =>
        if seen = [] then none
        else some { p with flags, nesting := around.nesting.add 0, outer, spot := .fresh }
    | [] => none
  else if ['i', 'm', 's', 'u', 'x', 'R', 'U', '-'].contains c && !seen.contains c then
    p.goto (.flags (c :: seen))
  else none

/-- Reads a character of a group's name. No two groups have one name. -/
def stepName (p : PatternState) (seen : List Char) (c : Char) : Option PatternState :=
  if c == '>' then
    if p.names.contains seen then none
    else some { p with names := seen :: p.names, spot := .fresh }
  else if ['_', '.', '[', ']'].contains c || Text.isAlphanumeric c then p.goto (.name (c :: seen))
  else none

/-- Reads a character that is not skipped. -/
def stepAt (p : PatternState) (c : Char) : Option PatternState :=
  match p.spot with
  | .fresh | .repeatable => p.stepPlain c
  | .escape => p.stepEscape c
  | .digits byte missing value => p.stepDigits byte missing value c
  | .group => if c == '?' then p.goto (.flags []) else p.stepPlain c
  | .flags seen => p.stepFlags seen c
  | .bracket => if c == '<' then p.goto .naming else none
  | .naming =>
      if c == '_' || Text.isAlphanumeric c && !c.isDigit then p.goto (.name [c]) else none
  | .name seen => p.stepName seen c
  | .opened =>
      if c == '^' then if p.flags.unicode then p.goto .negated else none
      else if c == '-' then some { p with nesting := p.nesting.add 0, spot := .hyphens }
      else if c == ']' then p.take c.toNat false
      else p.stepMember c
  | .negated =>
      if c == '-' then some { p with nesting := p.nesting.add 0, spot := .hyphens }
      else if c == ']' then p.take c.toNat false
      else p.stepMember c
  | .hyphens =>
      if c == '-' then some { p with nesting := p.nesting.add 0 } else p.stepMember c
  | .members | .operator _ => p.stepMember c
  | .member code => if c == '-' then p.goto (.range code) else p.stepMember c
  | .range low =>
      if c == ']' then { p with nesting := p.nesting.add 0 }.stepMember c
      else if c == '-' then some { p with nesting := p.nesting.operate, spot := .members }
      else if c == '\\' then some { p with low := some low, spot := .escape }
      else { p with low := some low }.take c.toNat false

/-- Reads a character, or skips it. -/
def advance (p : PatternState) (c : Char) : Option PatternState :=
  if p.inComment then some { p with inComment := c != '\n' }
  else if p.flags.spaced && p.spot.skipsBlanks && Text.isBlank c then some p
  else if p.flags.spaced && p.spot.skipsBlanks && c == '#' then some { p with inComment := true }
  else p.stepAt c

/-- Reads a character. One that could have made an operator and does not is a
member. -/
def step (p : PatternState) (c : Char) : Option PatternState :=
  match p.spot with
  | .operator first =>
      if c == first then some { p with nesting := p.nesting.operate, spot := .members }
      else (p.take first.toNat false).bind (·.advance c)
  | _ => p.advance c

/-- Whether a pattern may end here. -/
def isDone (p : PatternState) : Bool :=
  p.outer = [] && (p.spot = .fresh || p.spot = .repeatable) &&
    p.nesting.depth ≤ maxPatternDepth

end PatternState

/-- Whether a text is a pattern. -/
def isPattern (s : List Char) : Bool :=
  (s.foldlM PatternState.step {}).any PatternState.isDone

/-- Whether a text is a number without its sign: digits with at most one point,
and perhaps an exponent. -/
def isNumber (s : List Char) : Bool :=
  let mantissa := s.takeWhile fun c => c != 'e' && c != 'E'
  let digits := mantissa.erase '.'
  let isExponent :=
    match s.drop mantissa.length with
    | [] => true
    | _ :: sign :: rest =>
        let rest := if sign == '+' || sign == '-' then rest else sign :: rest
        rest ≠ [] && rest.all Char.isDigit
    | _ => false
  digits ≠ [] && digits.all Char.isDigit && isExponent

/-- Whether a text can be asked of a field: a number with a plus sign, or a
pattern. Other numbers are patterns, too. -/
def isFieldValue : List Char → Bool
  | '+' :: s =>
      isNumber s ||
        ["inf", "infinity", "nan"].contains (String.ofList (s.map Char.toLower))
  | s => isPattern s

end PocketTools.Journal
