import PocketTools.Journal.Event

/-! # Transcripts

A transcript tells what a computation did to the world, in order, and how it
ended. It wrote bytes to its output and noted events. Since no computation looks
at its output, what becomes of the writes is settled afterwards: an output with
limited room takes the first bytes and then fails.
-/

namespace PocketTools.Journal

/-- Something done to the world. -/
inductive Act where
  | write (bytes : List UInt8)
  | note (event : Event)
  deriving DecidableEq, Repr

/-- The acts of a computation in order, and its result. -/
structure Transcript (ε α : Type) where
  acts : List Act
  result : Except ε α

namespace Transcript

variable {ε ε' α β : Type}

/-- Goes on with the value of a computation, if it has one. -/
def bind (first : Transcript ε α) (next : α → Transcript ε β) : Transcript ε β :=
  match first.result with
  | .ok a => ⟨first.acts ++ (next a).acts, (next a).result⟩
  | .error fault => ⟨first.acts, .error fault⟩

instance : Monad (Transcript ε) where
  pure a := ⟨[], .ok a⟩
  bind := bind

/-- A computation that only has a result. -/
def ofExcept (result : Except ε α) : Transcript ε α :=
  ⟨[], result⟩

/-- Writes a text. -/
def write (text : String) : Transcript ε Unit :=
  ⟨[.write (Text.encode text)], .ok ()⟩

/-- Notes events. -/
def note (events : List Event) : Transcript ε Unit :=
  ⟨events.map .note, .ok ()⟩

/-- A computation whose fault counts as part of a wider one. -/
def mapFault (wider : ε → ε') (transcript : Transcript ε α) : Transcript ε' α :=
  ⟨transcript.acts, transcript.result.mapError wider⟩

end Transcript

/-- The bytes an act writes. -/
def Act.bytes : Act → List UInt8
  | .write bytes => bytes
  | .note _ => []

/-- The event an act notes. -/
def Act.event? : Act → Option Event
  | .write _ => none
  | .note event => some event

/-- The bytes written. -/
def written (acts : List Act) : List UInt8 :=
  acts.flatMap Act.bytes

/-- The events noted. -/
def noted (acts : List Act) : List Event :=
  acts.filterMap Act.event?

@[simp]
theorem written_append (first second : List Act) :
    written (first ++ second) = written first ++ written second :=
  List.flatMap_append

@[simp]
theorem noted_append (first second : List Act) :
    noted (first ++ second) = noted first ++ noted second :=
  List.filterMap_append

/-- The acts that take place on an output with room for `room` bytes, and
whether all of them did. The write that does not fit is cut off and is the last
act. `done` holds the acts so far, last first. -/
def cutFrom (done : List Act) : (room : Nat) → List Act → List Act × Bool
  | _, [] => (done.reverse, true)
  | room, .note event :: acts => cutFrom (.note event :: done) room acts
  | room, .write bytes :: acts =>
      if bytes.length ≤ room then cutFrom (.write bytes :: done) (room - bytes.length) acts
      else ((.write (bytes.take room) :: done).reverse, false)

/-- The transcript on an output with limited room, if `room` is some number of
bytes. -/
def Transcript.within {α : Type} (room : Option Nat) (transcript : Transcript Failure α) :
    Transcript Failure α :=
  match room with
  | none => transcript
  | some room =>
      match cutFrom [] room transcript.acts with
      | (acts, true) => ⟨acts, transcript.result⟩
      | (acts, false) => ⟨acts, .error (.output .sinkFull)⟩

end PocketTools.Journal
