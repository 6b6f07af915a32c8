import PocketTools.Journal.Transcript

/-! # Operations with the events they note

The work of the tools, each piece with its place in the log. An event comes only
of what succeeded, except that every operation of a program that was begun is
noted.
-/

namespace PocketTools.Journal

open Files Machine

/-- Converts a binary numeral. -/
def convert (mode : OverflowMode) (numeral : String) : Transcript Numeral.Fault UInt64 := do
  let value ← Transcript.ofExcept (Numeral.convert mode numeral)
  Transcript.note [.converted numeral.length value mode]
  return value

/-- Measures a text. -/
def measure {ε : Type} (unit : Length.Measure) (text : String) : Transcript ε Nat := do
  let length := unit.lengthOf text
  Transcript.note [.measured length unit]
  return length

/-- Counts the newlines of a stream. -/
def countStream (stream : Stream) : Transcript Newlines.Fault Nat := do
  let tally ← Transcript.ofExcept (Newlines.count stream)
  Transcript.note [.streamExhausted tally]
  return tally.newlines

/-- Counts the newlines of a file. -/
def countFile (fs : FileSystem) (path : Path) : Transcript Newlines.Fault Nat := do
  let stream ← Transcript.ofExcept ((fs.openFile path).mapError (Newlines.Fault.unopened path))
  Transcript.note [.openedFile path]
  countStream stream

/-- Loads a memory image from a file. -/
def loadImage (fs : FileSystem) (path : Path) : Transcript Machine.Fault Memory := do
  let image ← Transcript.ofExcept ((fs.readBytes path).mapError Machine.Fault.unreadable)
  Transcript.note [.loadedImage path image.length]
  Transcript.ofExcept (Memory.ofImage image)

/-- The events of a run. -/
def runEvents (run : Run) : List Event :=
  run.executed.map .executing ++
    match run.result with
    | .ok summary => [.halted summary]
    | .error _ => []

/-- Runs a memory image, and gives the memory it leaves with the summary. -/
def runProgram (computer : Computer) (memory : Memory) :
    Transcript Machine.Fault (Summary × Memory) := do
  let run := computer.run memory
  Transcript.note (runEvents run)
  let summary ← Transcript.ofExcept run.result
  return (summary, run.final.memory)

end PocketTools.Journal
