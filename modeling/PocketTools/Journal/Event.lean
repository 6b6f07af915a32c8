import PocketTools.Failure
import PocketTools.Length
import PocketTools.Machine.Run

/-! # Events

What the tools note in their log while they work. Each event belongs to a part
of the program, its target, and has a level, a text and named fields.
-/

namespace PocketTools.Journal

/-- How much detail an event is. A higher rank is more detail. -/
inductive Level where
  | debug
  | trace
  deriving DecidableEq, Repr

/-- The name of a level. -/
def Level.name : Level → String
  | .debug => "DEBUG"
  | .trace => "TRACE"

/-- The place of a level on the scale from 1, for errors, to 5. -/
def Level.rank : Level → Nat
  | .debug => 4
  | .trace => 5

/-- Something that happened. -/
inductive Event where
  | converted (digits : Nat) (value : UInt64) (mode : OverflowMode)
  | measured (length : Nat) (unit : Length.Measure)
  | openedFile (path : Files.Path)
  | streamExhausted (tally : Newlines.Tally)
  | loadedImage (path : Files.Path) (length : Nat)
  | executing (operation : Machine.Executed)
  | halted (summary : Machine.Summary)
  | loadedSection (path : Files.Path) (name : String)
  | loadedSettings (path : Files.Path)
  | toolFailed (failure : Failure)
  deriving DecidableEq, Repr

/-- The part of the program that an event belongs to. -/
def Event.target : Event → String
  | .converted .. => "archtools.binary"
  | .measured .. => "archtools.strlen"
  | .openedFile _ => "archtools.linecount"
  | .streamExhausted _ => "archtools.linecount"
  | .loadedImage .. => "archtools.vm"
  | .executing _ => "archtools.vm"
  | .halted _ => "archtools.vm"
  | .loadedSection .. => "archtools.config"
  | .loadedSettings _ => "archtools.config"
  | .toolFailed _ => "archtools.cli"

/-- The level of an event. -/
def Event.level : Event → Level
  | .executing _ => .trace
  | _ => .debug

/-- The text of an event. -/
def Event.text : Event → String
  | .converted .. => "converted binary numeral"
  | .measured .. => "measured"
  | .openedFile _ => "opened file"
  | .streamExhausted _ => "stream exhausted"
  | .loadedImage .. => "loaded image"
  | .executing _ => "execute"
  | .halted _ => "halted"
  | .loadedSection .. => "loaded config section"
  | .loadedSettings _ => "loaded config file"
  | .toolFailed _ => "command failed"

end PocketTools.Journal
