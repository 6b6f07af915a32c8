import PocketTools.Files.Basic

/-! # A directory tree in memory

A tree is listed by its entries, each with the names on the way to it. Every
directory on the way to an entry is there too. Paths are walked from the top of
the tree, name by name, with `.` and `..` taken as the operating system does.
-/

namespace PocketTools.Files

/-- A file name or directory name. -/
abbrev Name := List UInt8

/-- The longest name the file system can hold, in bytes. -/
def maxNameLength : Nat := 255

/-- The longest path the operating system takes, in bytes. -/
def maxPathLength : Nat := 4095

/-- What stands at a place of a tree. -/
inductive Entry where
  | file (bytes : List UInt8)
  | directory
  deriving DecidableEq, Repr

/-- A directory tree: its entries with their places, later ones first. -/
structure Tree where
  entries : List (List Name × Entry)
  deriving Inhabited

/-- The tree that holds nothing. -/
def Tree.empty : Tree := ⟨[]⟩

/-- The names of a path between its slashes. -/
def Path.names (path : Path) : List Name :=
  (path.bytes.splitOn 0x2F).filter (· ≠ [])

/-- Whether a path begins at the root. -/
def Path.isAbsolute (path : Path) : Bool :=
  path.bytes.head? == some 0x2F

/-- Puts an entry into a tree, in place of what was there. -/
def Tree.insert (tree : Tree) (path : Path) (entry : Entry) : Tree :=
  ⟨(path.names.filter (· ≠ [0x2E]), entry) :: tree.entries⟩

/-- What stands at a place. The top and every place on the way to an entry are
directories. -/
def Tree.at? (tree : Tree) (place : List Name) : Option Entry :=
  match tree.entries.lookup place with
  | some entry => some entry
  | none =>
      if place = [] ∨ tree.entries.any fun item => place.isPrefixOf item.1 then some .directory
      else none

/-- Where a walk stands: inside the tree, or a number of levels above its top. -/
inductive Place where
  | inside (names : List Name)
  | above (levels : Nat)

/-- What stands at a place of a walk. Above the top there are only directories. -/
def Tree.entryAt? (tree : Tree) : Place → Option Entry
  | .inside names => tree.at? names
  | .above _ => some .directory

/-- The place one level up. -/
def Place.parent : Place → Place
  | .inside [] => .above 1
  | .inside names => .inside names.dropLast
  | .above levels => .above (levels + 1)

/-- Goes on from a place by a name. -/
def Tree.enter (tree : Tree) (place : Place) (name : Name) : Except Fault Place :=
  match tree.entryAt? place with
  | none => .error .missing
  | some (.file _) => .error .throughFile
  | some .directory =>
      if name = [0x2E] then .ok place
      else if name = [0x2E, 0x2E] then .ok place.parent
      else if name.length > maxNameLength then .error .nameTooLong
      else
        match place with
        | .above _ => .error .missing
        | .inside names =>
            match tree.at? (names ++ [name]) with
            | some _ => .ok (.inside (names ++ [name]))
            | none => .error .missing

/-- Goes on from a place by several names. -/
def Tree.walk (tree : Tree) : Place → List Name → Except Fault Place
  | place, [] => .ok place
  | place, name :: names =>
      match tree.enter place name with
      | .ok next => tree.walk next names
      | .error fault => .error fault

/-- The entry a path leads to. A path that ends with a slash leads only to a
directory. -/
def Tree.resolve (tree : Tree) (path : Path) : Except Fault Entry :=
  if path.bytes.contains 0 then .error .zeroInName
  else if path.bytes = [] then .error .missing
  else if path.bytes.length > maxPathLength then .error .nameTooLong
  else
    let start : Place := if path.isAbsolute then .above 1 else .inside []
    match tree.walk start path.names with
    | .error fault => .error fault
    | .ok place =>
        match tree.entryAt? place with
        | none => .error .missing
        | some (.file bytes) =>
            if path.bytes.getLast? == some 0x2F then .error .throughFile else .ok (.file bytes)
        | some .directory => .ok .directory

/-- An entry as a stream: a directory opens but cannot be read. -/
def Entry.stream : Entry → Stream
  | .file bytes => [.chunk bytes]
  | .directory => [.failure .directory]

/-- The file system of a tree. -/
def Tree.fileSystem (tree : Tree) : FileSystem where
  exists? path := (tree.resolve path).toBool
  openFile path := Entry.stream <$> tree.resolve path

end PocketTools.Files
