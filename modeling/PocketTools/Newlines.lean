import PocketTools.Files.Basic

/-! # Counting newlines

A stream is read to its end and its newline bytes are counted. Only the bytes
matter, not how the reads cut them up.
-/

namespace PocketTools.Newlines

open Files

/-- What has been read of a stream. -/
structure Tally where
  bytes : Nat
  newlines : Nat
  deriving DecidableEq, Repr

/-- Why newlines could not be counted. -/
inductive Fault where
  | unopened (path : Path) (cause : Files.Fault)
  | unread (bytesRead : Nat) (cause : Files.Fault)
  deriving DecidableEq, Repr

/-- The wording of each cause. -/
def Fault.message : Fault → String
  | .unopened path _ => s!"ERROR: Could not open file: {path.display}"
  | .unread bytesRead _ => s!"read error after {bytesRead} bytes"

/-- The byte that ends a line. -/
def newline : UInt8 := 0x0A

/-- A tally with one more byte. -/
def Tally.add (tally : Tally) (b : UInt8) : Tally :=
  ⟨tally.bytes + 1, if b = newline then tally.newlines + 1 else tally.newlines⟩

/-- Carries a tally on to the end of a stream. Interrupted reads are tried
again. -/
def countFrom : Tally → Stream → Except Fault Tally
  | tally, [] => .ok tally
  | tally, .chunk [] :: _ => .ok tally
  | tally, .chunk (b :: bytes) :: rest => countFrom ((b :: bytes).foldl Tally.add tally) rest
  | tally, .failure fault :: rest =>
      if fault.kind = .interrupted then countFrom tally rest
      else .error (.unread tally.bytes fault)

/-- The bytes and newlines of a stream. -/
def count (stream : Stream) : Except Fault Tally :=
  countFrom ⟨0, 0⟩ stream

end PocketTools.Newlines
