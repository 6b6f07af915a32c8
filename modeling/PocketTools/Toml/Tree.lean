import PocketTools.Toml.Value

/-! # Putting a document together

The statements of a document build its tree one after the other. A table
remembers what made it, since that decides which later statements may add to it:
each table has at most one header, and dotted keys may only add to tables that
dotted keys made.
-/

namespace PocketTools.Toml

/-- What made a table. -/
inductive Origin where
  /-- Its own header. -/
  | header
  /-- A header further down, on the way. -/
  | implied
  /-- A dotted key, on the way. -/
  | dotted
  deriving DecidableEq, Repr

/-- A node of the tree under construction. -/
inductive Node where
  | leaf (value : Value)
  | table (origin : Origin) (entries : List (String × Node))
  | tables (items : List (List (String × Node)))
  deriving Inhabited

/-- The entries of a table under construction. -/
abbrev Entries := List (String × Node)

mutual

/-- The value of a node. -/
def Node.toValue : Node → Value
  | .leaf value => value
  | .table _ entries => .table (Node.toTable entries)
  | .tables items => .array (Node.toTables items)

/-- The table that entries make. -/
def Node.toTable : List (String × Node) → List (String × Value)
  | [] => []
  | (key, node) :: rest => (key, node.toValue) :: Node.toTable rest

/-- The tables of an array of tables. -/
def Node.toTables : List (List (String × Node)) → List Value
  | [] => []
  | entries :: rest => .table (Node.toTable entries) :: Node.toTables rest

end

/-- Changes the node under a key, or adds one at the end. -/
def updateEntry (key : String) (change : Option Node → Option Node) : Entries → Option Entries
  | [] => (change none).map fun node => [(key, node)]
  | (k, node) :: rest =>
      if k = key then (change (some node)).map fun node => (k, node) :: rest
      else (updateEntry key change rest).map ((k, node) :: ·)

/-- Changes the last of several tables. -/
def updateLast (change : Entries → Option Entries) : List Entries → Option (List Entries)
  | [] => none
  | [entries] => (change entries).map ([·])
  | entries :: rest => (updateLast change rest).map (entries :: ·)

/-- Steps down on the way of a header: into any table, into the last table of an
array of tables, or into a new table. -/
def stepDown (change : Entries → Option Entries) : Option Node → Option Node
  | none => (change []).map (Node.table .implied)
  | some (.table origin entries) => (change entries).map (Node.table origin)
  | some (.tables items) => (updateLast change items).map Node.tables
  | some (.leaf _) => none

/-- Changes the entries at the end of a header's path. -/
def updateAt (change : Entries → Option Entries) : List String → Entries → Option Entries
  | [], entries => change entries
  | key :: path, entries => updateEntry key (stepDown (updateAt change path)) entries

/-- Opens the table of a header, after all that stands beside it. A table that
stood only on the way of other headers keeps its entries. -/
def openTable (key : String) (entries : Entries) : Option Entries :=
  match entries.lookup key with
  | none => some (entries ++ [(key, .table .header [])])
  | some (.table .implied inner) =>
      some (entries.filter (·.1 != key) ++ [(key, .table .header inner)])
  | some _ => none

/-- Opens the next table of an array of tables. -/
def openItem (key : String) (entries : Entries) : Option Entries :=
  updateEntry key (fun
    | none => some (.tables [[]])
    | some (.tables items) => some (.tables (items ++ [[]]))
    | some _ => none) entries

/-- Changes the entries beside the end of a header's path. -/
def updateBeside (change : String → Entries → Option Entries) :
    List String → Entries → Option Entries
  | [], _ => none
  | [key], entries => change key entries
  | key :: path, entries => updateEntry key (stepDown (updateBeside change path)) entries

/-- Steps down on the way of a dotted key. `last` tells whether the key's last
part belongs into the table reached: that table must be one that dotted keys
made, and no table on the way may have a header of its own. -/
def stepDotted (last : Bool) (change : Entries → Option Entries) : Option Node → Option Node
  | none => (change []).map (Node.table .dotted)
  | some (.table .dotted entries) => (change entries).map (Node.table .dotted)
  | some (.table .implied entries) =>
      if last then none else (change entries).map (Node.table .implied)
  | some (.tables items) => if last then none else (updateLast change items).map Node.tables
  | some _ => none

/-- Adds a value under a dotted key that is not there yet. -/
def assign (value : Value) : List String → Entries → Option Entries
  | [], _ => none
  | [key], entries =>
      updateEntry key (fun
        | none => some (.leaf value)
        | some _ => none) entries
  | key :: path, entries =>
      updateEntry key (stepDotted (path.length = 1) (assign value path)) entries

/-- The table that key-value pairs make on their own. -/
def tableOfPairs? (pairs : List (List String × Value)) : Option Table :=
  (pairs.foldlM (fun entries pair => assign pair.2 pair.1 entries) []).map Node.toTable

/-- A statement of a document. -/
inductive Statement where
  /-- A value under a dotted key. -/
  | assignment (path : List String) (value : Value)
  /-- The header of a table. -/
  | header (path : List String)
  /-- The header of a table in an array of tables. -/
  | itemHeader (path : List String)
  deriving Inhabited

/-- A document under construction: its tree, and the path of the header that the
next assignments stand under. -/
structure Draft where
  entries : Entries
  current : List String

/-- A document without statements. -/
def Draft.empty : Draft := ⟨[], []⟩

/-- A document with one more statement; none if the statement may not stand
there. -/
def Draft.add (draft : Draft) : Statement → Option Draft
  | .assignment path value =>
      (updateAt (assign value path) draft.current draft.entries).map (⟨·, draft.current⟩)
  | .header path => (updateBeside openTable path draft.entries).map (⟨·, path⟩)
  | .itemHeader path => (updateBeside openItem path draft.entries).map (⟨·, path⟩)

/-- The table that the statements of a document make. -/
def tableOfStatements? (statements : List Statement) : Option Table :=
  (statements.foldlM Draft.add Draft.empty).map fun draft => Node.toTable draft.entries

end PocketTools.Toml
