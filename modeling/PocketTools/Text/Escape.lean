import PocketTools.Text.Hexadecimal
import PocketTools.Text.Unprintable
import PocketTools.Text.Utf8

/-! # Text in quotes

Inside quotes a backslash escapes the quotes and itself, the common controls
have letters, and other characters that cannot be shown give their code point.
-/

namespace PocketTools.Text

/-- Which quotes an escaped text may not show as they are. -/
structure Quotes where
  single : Bool
  double : Bool

/-- A character as it stands inside quotes. -/
def escapeChar (quotes : Quotes) (c : Char) : List Char :=
  if c == '\x00' then ['\\', '0']
  else if c == '\t' then ['\\', 't']
  else if c == '\r' then ['\\', 'r']
  else if c == '\n' then ['\\', 'n']
  else if c == '\\' then ['\\', '\\']
  else if (c == '"' && quotes.double) || (c == '\'' && quotes.single) then ['\\', c]
  else if isUnprintable c then
    ['\\', 'u', '\x7b'] ++ (hexadecimal 1 c.toNat).toList ++ ['\x7d']
  else [c]

/-- A character in single quotes. -/
def quoteChar (c : Char) : String :=
  String.ofList ('\'' :: escapeChar ⟨true, false⟩ c ++ ['\''])

/-- A text in double quotes. -/
def quote (s : String) : String :=
  String.ofList ('"' :: s.toList.flatMap (escapeChar ⟨false, true⟩) ++ ['"'])

/-- A byte that encodes no character, as it stands inside quotes. -/
def escapeByte (b : UInt8) : List Char :=
  '\\' :: 'x' :: (hexadecimal 2 b.toNat).toList.map Char.toUpper

/-- A stretch of a byte string as it stands inside quotes. -/
def escapeStretch : Stretch → List Char
  | .char c => escapeChar ⟨false, true⟩ c
  | .broken bytes => bytes.flatMap escapeByte

/-- A byte string in double quotes, shown as text where it is UTF-8. -/
def quoteBytes (bytes : List UInt8) : String :=
  String.ofList ('"' :: (stretches bytes).flatMap escapeStretch ++ ['"'])

end PocketTools.Text
