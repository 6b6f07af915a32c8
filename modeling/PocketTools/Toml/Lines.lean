/-! # Blanks, comments and line ends

The characters between the parts of a TOML document. A line ends with a line
feed, with or without a carriage return before it.
-/

namespace PocketTools.Toml

/-- Whether a character is a space or a tab. -/
def isSpace (c : Char) : Bool :=
  c == ' ' || c == '\t'

/-- Whether a comment or a string can hold a character as it is: no control
character but the tab. Line ends are judged apart. -/
def isPlain (c : Char) : Bool :=
  c == '\t' || (0x20 ≤ c.toNat && c.toNat != 0x7F)

/-- What follows spaces and tabs. -/
def skipSpaces (s : List Char) : List Char :=
  s.dropWhile isSpace

/-- What follows one line end, if there is one here. -/
def newline? : List Char → Option (List Char)
  | '\n' :: rest => some rest
  | '\r' :: '\n' :: rest => some rest
  | _ => none

/-- What follows the end of a line: spaces, a comment or none, and a line end or
the end of the document. -/
def lineEnd? (s : List Char) : Option (List Char) :=
  let rest :=
    match skipSpaces s with
    | '#' :: comment => comment.dropWhile isPlain
    | other => other
  match rest with
  | [] => some []
  | other => newline? other

/-- What follows spaces, line ends and comments. `inComment` tells whether a
comment has begun. A character that has no place there stops the skipping. -/
def skipLines : (inComment : Bool) → List Char → List Char
  | _, [] => []
  | inComment, c :: rest =>
      if c == '\n' then skipLines false rest
      else if c == '\r' then
        match rest with
        | '\n' :: more => skipLines false more
        | _ => c :: rest
      else if inComment then
        if isPlain c then skipLines true rest else c :: rest
      else if c == '#' then skipLines true rest
      else if isSpace c then skipLines false rest
      else c :: rest

end PocketTools.Toml
