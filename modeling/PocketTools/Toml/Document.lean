import PocketTools.Toml.Key
import PocketTools.Toml.Scalar
import PocketTools.Toml.Tree

/-! # Reading TOML documents

A document is a list of statements, each on lines of its own. Values nest to a
bounded depth, which is what reading them recurs on.
-/

namespace PocketTools.Toml

/-- A reader takes a value from the front of a text, and leaves what follows. -/
abbrev Reader := List Char → Option (Value × List Char)

/-- The items of an array after its opening bracket, and what follows the
closing one. Lines may end between the parts, and a comma may close the items.
`bound` bounds the number of items. -/
def arrayItems? (item : Reader) : (bound : Nat) → List Char → Option (List Value × List Char)
  | 0, _ => none
  | bound + 1, s =>
      match skipLines false s with
      | ']' :: rest => some ([], rest)
      | other =>
          match item other with
          | none => none
          | some (value, rest) =>
              match skipLines false rest with
              | ',' :: more =>
                  (arrayItems? item bound more).map fun (values, rest) => (value :: values, rest)
              | ']' :: more => some ([value], more)
              | _ => none

/-- The pairs of an inline table after its opening brace, and what follows the
closing one. There is at least one pair, and all stand on one line. -/
def inlinePairs? (item : Reader) : (bound : Nat) → List Char →
    Option (List (List String × Value) × List Char)
  | 0, _ => none
  | bound + 1, s =>
      match key? s with
      | some (path, '=' :: rest) =>
          match item (skipSpaces rest) with
          | none => none
          | some (value, rest) =>
              match skipSpaces rest with
              | ',' :: more =>
                  (inlinePairs? item bound more).map fun (pairs, rest) =>
                    ((path, value) :: pairs, rest)
              | '\x7d' :: more => some ([(path, value)], more)
              | _ => none
      | _ => none

/-- An inline table after its opening brace, and what follows it. -/
def inlineTable? (item : Reader) (s : List Char) : Option (Table × List Char) :=
  match skipSpaces s with
  | '\x7d' :: rest => some ([], rest)
  | other =>
      match inlinePairs? item (other.length + 1) other with
      | none => none
      | some (pairs, rest) => (tableOfPairs? pairs).map (·, rest)

/-- The deepest that arrays and inline tables may nest. -/
def maxNesting : Nat := 79

/-- A value that holds no others: a string or an unquoted value. -/
def simple? : Reader
  | '"' :: rest => (quoted? ('"' :: rest)).map fun (text, rest) => (.string text, rest)
  | '\'' :: rest => (quoted? ('\'' :: rest)).map fun (text, rest) => (.string text, rest)
  | other => scalar? other

/-- A value with at most `depth` arrays and inline tables inside one another. -/
def value? : (depth : Nat) → Reader
  | depth + 1, '[' :: rest =>
      (arrayItems? (value? depth) (rest.length + 1) rest).map fun (values, rest) =>
        (.array values, rest)
  | depth + 1, '\x7b' :: rest =>
      (inlineTable? (value? depth) rest).map fun (table, rest) => (.table table, rest)
  | _, other => simple? other

/-- A statement and the end of its line, and what follows. -/
def statement? (s : List Char) : Option (Statement × List Char) :=
  match s with
  | '[' :: '[' :: rest =>
      match key? rest with
      | some (path, ']' :: ']' :: more) => (lineEnd? more).map (.itemHeader path, ·)
      | _ => none
  | '[' :: rest =>
      match key? rest with
      | some (path, ']' :: more) => (lineEnd? more).map (.header path, ·)
      | _ => none
  | _ =>
      match key? s with
      | some (path, '=' :: rest) =>
          match value? maxNesting (skipSpaces rest) with
          | some (value, more) => (lineEnd? more).map (.assignment path value, ·)
          | none => none
      | _ => none

/-- The statements of a text. `bound` bounds the number of lines. -/
def statements? : (bound : Nat) → List Char → Option (List Statement)
  | 0, _ => none
  | bound + 1, s =>
      match skipSpaces s with
      | [] => some []
      | c :: rest =>
          if c == '#' || c == '\n' || c == '\r' then
            match lineEnd? (c :: rest) with
            | some more => statements? bound more
            | none => none
          else
            match statement? (c :: rest) with
            | some (statement, more) => (statements? bound more).map (statement :: ·)
            | none => none

/-- A text without the byte order mark it may begin with. -/
def dropMark : List Char → List Char
  | '\uFEFF' :: rest => rest
  | s => s

/-- The table that a TOML document writes; none if the text is no document. -/
def parse (text : String) : Option Table :=
  let s := dropMark text.toList
  (statements? (s.length + 1) s).bind tableOfStatements?

end PocketTools.Toml
