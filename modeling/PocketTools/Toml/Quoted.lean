import PocketTools.Toml.Digits
import PocketTools.Toml.Lines

/-! # Quoted strings

Basic strings stand in double quotes and know escapes; literal strings stand in
single quotes and are taken as written. Tripled quotes let either kind go over
several lines.
-/

namespace PocketTools.Toml

/-- The character with a code point in hexadecimal. -/
def codePoint? (digits : List Char) : Option Char := do
  let values ← digits.mapM Text.hexValue?
  let n := values.foldl (fun n d => 16 * n + d) 0
  if n.isValidChar then some (Char.ofNat n) else none

/-- The character that a one-letter escape stands for. -/
def escaped? (c : Char) : Option Char :=
  if c == 'b' then some '\x08'
  else if c == 't' then some '\t'
  else if c == 'n' then some '\n'
  else if c == 'f' then some '\x0c'
  else if c == 'r' then some '\r'
  else if c == '"' then some '"'
  else if c == '\\' then some '\\'
  else none

/-- The character of an escape, and what follows it. The text begins after the
backslash. -/
def escape? : List Char → Option (Char × List Char)
  | [] => none
  | c :: rest =>
      if c == 'u' then do
        if rest.length < 4 then none
        else some (← codePoint? (rest.take 4), rest.drop 4)
      else if c == 'U' then do
        if rest.length < 8 then none
        else some (← codePoint? (rest.take 8), rest.drop 8)
      else (escaped? c).map (·, rest)

theorem escape?_length_lt {s rest : List Char} {c : Char} (h : escape? s = some (c, rest)) :
    rest.length < s.length := by
  cases s with
  | nil => simp [escape?] at h
  | cons a s =>
    simp only [escape?] at h
    split at h
    · split at h
      · cases h
      · simp only [Option.bind_eq_bind, Option.bind_eq_some_iff] at h
        obtain ⟨d, _, h⟩ := h
        cases h
        simp only [List.length_drop, List.length_cons]
        omega
    · split at h
      · split at h
        · cases h
        · simp only [Option.bind_eq_bind, Option.bind_eq_some_iff] at h
          obtain ⟨d, _, h⟩ := h
          cases h
          simp only [List.length_drop, List.length_cons]
          omega
      · simp only [Option.map_eq_some_iff] at h
        obtain ⟨d, _, h⟩ := h
        cases h
        simp

/-- The rest of a literal string on one line, after its opening quote, and what
follows it. `seen` holds the characters so far, last first. -/
def literalLine (seen : List Char) : List Char → Option (String × List Char)
  | [] => none
  | c :: rest =>
      if c == '\'' then some (String.ofList seen.reverse, rest)
      else if isPlain c then literalLine (c :: seen) rest
      else none

/-- The rest of a basic string on one line, after its opening quote, and what
follows it. `seen` holds the characters so far, last first. -/
def basicLine (seen : List Char) (s : List Char) : Option (String × List Char) :=
  match s with
  | [] => none
  | c :: rest =>
      if c == '"' then some (String.ofList seen.reverse, rest)
      else if c == '\\' then
        match h : escape? rest with
        | some (d, more) =>
            have := escape?_length_lt h
            basicLine (d :: seen) more
        | none => none
      else if isPlain c then basicLine (c :: seen) rest
      else none
termination_by s.length
decreasing_by
  all_goals simp only [List.length_cons]; omega

/-- The end of a string in tripled quotes: how many quotes before the closing
ones belong to the string, at most two, and what follows. -/
def closing? (quote : Char) : List Char → Option (Nat × List Char)
  | a :: b :: c :: rest =>
      if a == quote && b == quote && c == quote then
        match rest with
        | d :: e :: more =>
            if d == quote then if e == quote then some (2, more) else some (1, e :: more)
            else some (0, d :: e :: more)
        | [d] => if d == quote then some (1, []) else some (0, [d])
        | [] => some (0, [])
      else none
  | _ => none

/-- The rest of a literal string in tripled quotes, and what follows it. -/
def literalLines (seen : List Char) : List Char → Option (String × List Char)
  | [] => none
  | c :: rest =>
      match closing? '\'' (c :: rest) with
      | some (quotes, more) =>
          some (String.ofList (List.replicate quotes '\'' ++ seen).reverse, more)
      | none =>
          if c == '\n' then literalLines ('\n' :: seen) rest
          else if c == '\r' then
            match rest with
            | '\n' :: more => literalLines ('\n' :: seen) more
            | _ => none
          else if isPlain c then literalLines (c :: seen) rest
          else none

/-- Whether a backslash before this text ends its line: only spaces and tabs
stand between it and the line end. -/
def endsLine (s : List Char) : Bool :=
  (newline? (skipSpaces s)).isSome

/-- What follows spaces, tabs and line ends. -/
def skipFolded : List Char → List Char
  | [] => []
  | c :: rest =>
      if c == '\n' || isSpace c then skipFolded rest
      else if c == '\r' then
        match rest with
        | '\n' :: more => skipFolded more
        | _ => c :: rest
      else c :: rest

theorem skipFolded_length_le (s : List Char) : (skipFolded s).length ≤ s.length := by
  fun_induction skipFolded s with
  | case1 => simp
  | case2 c rest _ ih => simp only [List.length_cons]; omega
  | case3 c _ _ more ih => simp only [List.length_cons]; omega
  | case4 => simp
  | case5 => simp

/-- The rest of a basic string in tripled quotes, and what follows it. A
backslash at the end of a line drops the line end and all spaces and line ends
after it. -/
def basicLines (seen : List Char) (s : List Char) : Option (String × List Char) :=
  match s with
  | [] => none
  | c :: rest =>
      match closing? '"' (c :: rest) with
      | some (quotes, more) =>
          some (String.ofList (List.replicate quotes '"' ++ seen).reverse, more)
      | none =>
          if c == '\\' then
            if endsLine rest then
              have := skipFolded_length_le rest
              basicLines seen (skipFolded rest)
            else
              match h : escape? rest with
              | some (d, more) =>
                  have := escape?_length_lt h
                  basicLines (d :: seen) more
              | none => none
          else if c == '\n' then basicLines ('\n' :: seen) rest
          else if c == '\r' then
            match rest with
            | '\n' :: more => basicLines ('\n' :: seen) more
            | _ => none
          else if isPlain c then basicLines (c :: seen) rest
          else none
termination_by s.length
decreasing_by
  all_goals simp only [List.length_cons]; omega

/-- What follows a line end right after opening quotes; that line end is not
part of the string. -/
def afterOpening (s : List Char) : List Char :=
  (newline? s).getD s

/-- A quoted string of one line, and what follows it; none if no quote stands
here or the string is ill-formed. -/
def quotedLine? : List Char → Option (String × List Char)
  | '"' :: rest => basicLine [] rest
  | '\'' :: rest => literalLine [] rest
  | _ => none

/-- A quoted string of any kind, and what follows it. -/
def quoted? : List Char → Option (String × List Char)
  | '"' :: '"' :: '"' :: rest => basicLines [] (afterOpening rest)
  | '\'' :: '\'' :: '\'' :: rest => literalLines [] (afterOpening rest)
  | other => quotedLine? other

end PocketTools.Toml
