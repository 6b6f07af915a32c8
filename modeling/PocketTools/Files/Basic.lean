import PocketTools.Files.Fault
import PocketTools.Text.Utf8

/-! # Paths, streams and file systems

A file system is known by what it answers: whether a path exists, and what
comes of opening it. An opened file is a stream of reads, each of which gives
bytes or fails.
-/

namespace PocketTools.Files

/-- A path as the operating system takes it. -/
structure Path where
  bytes : List UInt8
  deriving DecidableEq, Repr, Inhabited

/-- The path that a text names. -/
def Path.ofString (s : String) : Path :=
  ⟨Text.encode s⟩

/-- A path as shown to people, with U+FFFD where its bytes are not UTF-8. -/
def Path.display (path : Path) : String :=
  Text.decodeLossy path.bytes

/-- What one read of a stream comes to. -/
inductive Read where
  | chunk (bytes : List UInt8)
  | failure (fault : Fault)
  deriving DecidableEq, Repr

/-- The reads of a stream, in order. An empty chunk ends the stream, and so does
the end of the list. -/
abbrev Stream := List Read

/-- All bytes of a stream. Interrupted reads are tried again; any other failure
ends the reading. -/
def Stream.readAll : Stream → Except Fault (List UInt8)
  | [] => .ok []
  | .chunk [] :: _ => .ok []
  | .chunk (b :: bytes) :: rest =>
      match Stream.readAll rest with
      | .ok more => .ok (b :: bytes ++ more)
      | .error fault => .error fault
  | .failure fault :: rest =>
      if fault.kind = .interrupted then Stream.readAll rest else .error fault

/-- A file system by its answers. -/
structure FileSystem where
  /-- Whether a path leads to a file or a directory. -/
  exists? : Path → Bool
  /-- The stream behind a path, or why it cannot be opened. -/
  openFile : Path → Except Fault Stream

/-- The whole contents of a file. -/
def FileSystem.readBytes (fs : FileSystem) (path : Path) : Except Fault (List UInt8) := do
  Stream.readAll (← fs.openFile path)

/-- The whole contents of a file as text. -/
def FileSystem.readText (fs : FileSystem) (path : Path) : Except Fault String := do
  match Text.decode? (← fs.readBytes path) with
  | some text => .ok text
  | none => .error .notText

end PocketTools.Files
