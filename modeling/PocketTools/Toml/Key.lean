import PocketTools.Toml.Quoted

/-! # Keys

A key is a dotted path of parts, each bare or quoted, with spaces allowed around
the dots.
-/

namespace PocketTools.Toml

/-- Whether a bare key can hold a character. -/
def isBareKeyChar (c : Char) : Bool :=
  c.isAlphanum || c == '-' || c == '_'

/-- One part of a key, and what follows it. -/
def keyPart? (s : List Char) : Option (String × List Char) :=
  match s with
  | '"' :: _ => quotedLine? s
  | '\'' :: _ => quotedLine? s
  | _ =>
      match s.takeWhile isBareKeyChar with
      | [] => none
      | part => some (String.ofList part, s.dropWhile isBareKeyChar)

/-- The most parts a key can have. -/
def maxKeyParts : Nat := 79

/-- A dotted key of at most `parts` parts with the spaces around it, and what
follows them. -/
def keyPath? : (parts : Nat) → List Char → Option (List String × List Char)
  | 0, _ => none
  | parts + 1, s =>
      match keyPart? (skipSpaces s) with
      | none => none
      | some (part, rest) =>
          match skipSpaces rest with
          | '.' :: more => (keyPath? parts more).map fun (path, rest) => (part :: path, rest)
          | other => some ([part], other)

/-- A key with the spaces around it, and what follows them. -/
def key? (s : List Char) : Option (List String × List Char) :=
  keyPath? maxKeyParts s

end PocketTools.Toml
