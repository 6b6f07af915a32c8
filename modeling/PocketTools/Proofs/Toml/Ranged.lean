import PocketTools.Toml.Document

/-!
# Integers in documents

Every integer in a document is a signed integer of 64 bits. Integers are judged where they are
read (`inRange_of_integer?`). After that, the statements of a document only move values about in
its tree, so each of them keeps the tree in range (`Draft.add_ranged`), and the whole document
is (`parse_ranged`).
-/

namespace PocketTools.Toml

/-- Every integer in a value is a signed integer of 64 bits. -/
inductive Value.Ranged : Value → Prop where
  | string (text : String) : Ranged (.string text)
  | integer {n : Int} (within : inRange n) : Ranged (.integer n)
  | float (literal : String) : Ranged (.float literal)
  | boolean (b : Bool) : Ranged (.boolean b)
  | dateTime (literal : String) : Ranged (.dateTime literal)
  | array {items : List Value} (all : ∀ item ∈ items, Ranged item) : Ranged (.array items)
  | table {entries : List (String × Value)} (all : ∀ entry ∈ entries, Ranged entry.2) :
      Ranged (.table entries)

/-- The same of a table. -/
def Table.Ranged (table : Table) : Prop :=
  ∀ entry ∈ table, entry.2.Ranged

variable {s rest : List Char} {n : Int} {value : Value}

/-! ## Numbers -/

/-- An integer with a base is read only if it is in range. -/
theorem inRange_of_based? {base : Nat} {isDigit : Char → Bool}
    (read : based? base isDigit s = some n) : inRange n := by
  obtain ⟨digits, -, judged⟩ := Option.bind_eq_some_iff.mp read
  obtain ⟨within, same⟩ := Option.ite_none_right_eq_some.mp judged
  exact Option.some.inj same ▸ within

/-- A decimal integer is read only if it is in range. -/
theorem inRange_of_magnitude? {negative : Bool} (read : magnitude? negative s = some n) :
    inRange n := by
  obtain ⟨digits, -, judged⟩ := Option.bind_eq_some_iff.mp read
  obtain ⟨within, same⟩ := Option.ite_none_right_eq_some.mp judged
  exact Option.some.inj same ▸ within

/-- An integer of any notation is read only if it is in range. -/
theorem inRange_of_integer? (read : integer? s = some n) : inRange n := by
  unfold integer? at read
  split at read
  · exact inRange_of_based? read
  · exact inRange_of_based? read
  · exact inRange_of_based? read
  · exact inRange_of_magnitude? read
  · exact inRange_of_magnitude? read
  · exact inRange_of_magnitude? read

/-- What a token stands for has its integers in range. -/
theorem ofToken?_ranged (read : ofToken? s = some value) : value.Ranged := by
  unfold ofToken? at read
  split at read
  · cases read
    exact .boolean true
  · split at read
    · cases read
      exact .boolean false
    · split at read
      · cases read
        exact .integer (inRange_of_integer? ‹_›)
      · obtain ⟨-, same⟩ := Option.ite_none_right_eq_some.mp read
        cases same
        exact .float _

/-- A scalar that is read has its integers in range. -/
theorem scalar?_ranged (read : scalar? s = some (value, rest)) : value.Ranged := by
  unfold scalar? at read
  split at read
  · cases read
    exact .dateTime _
  · obtain ⟨token, found, same⟩ := Option.map_eq_some_iff.mp read
    cases same
    exact ofToken?_ranged found

/-! ## The tree of a document -/

/-- Every value in a tree is in range. -/
inductive Node.Ranged : Node → Prop where
  | leaf {value : Value} (ranged : value.Ranged) : Ranged (.leaf value)
  | table {entries : Entries} (origin : Origin) (all : ∀ entry ∈ entries, Ranged entry.2) :
      Ranged (.table origin entries)
  | tables {items : List Entries} (all : ∀ entries ∈ items, ∀ entry ∈ entries, Ranged entry.2) :
      Ranged (.tables items)

/-- The same of the entries of a table. -/
def Entries.Ranged (entries : Entries) : Prop :=
  ∀ entry ∈ entries, entry.2.Ranged

mutual

/-- A node makes a value with the same integers. -/
theorem Node.toValue_ranged : {node : Node} → node.Ranged → node.toValue.Ranged
  | .leaf _, .leaf ranged => ranged
  | .table _ _, .table _ all => .table (Node.toTable_ranged all)
  | .tables _, .tables all => .array (Node.toTables_ranged all)

theorem Node.toTable_ranged : {entries : Entries} → entries.Ranged →
    ∀ entry ∈ Node.toTable entries, entry.2.Ranged
  | [], _ => List.forall_mem_nil _
  | (key, node) :: rest, all => by
      obtain ⟨first, others⟩ := List.forall_mem_cons.mp all
      exact List.forall_mem_cons.mpr ⟨Node.toValue_ranged first, Node.toTable_ranged others⟩

theorem Node.toTables_ranged : {items : List Entries} → (∀ entries ∈ items, entries.Ranged) →
    ∀ item ∈ Node.toTables items, item.Ranged
  | [], _ => List.forall_mem_nil _
  | entries :: rest, all => by
      obtain ⟨first, others⟩ := List.forall_mem_cons.mp all
      exact List.forall_mem_cons.mpr
        ⟨.table (Node.toTable_ranged first), Node.toTables_ranged others⟩

end

theorem mem_of_lookup {β : Type} {entries : List (String × β)} {key : String} {b : β}
    (found : entries.lookup key = some b) : (key, b) ∈ entries := by
  obtain ⟨before, after, rfl, -⟩ := List.lookup_eq_some_iff.mp found
  exact List.mem_append_right before List.mem_cons_self

/-- The entries of a table in range are in range. -/
theorem Node.Ranged.entries {origin : Origin} {entries : Entries}
    (ranged : (Node.table origin entries).Ranged) : entries.Ranged := by
  cases ranged with
  | table origin all => exact all

/-- The items of an array of tables in range are in range. -/
theorem Node.Ranged.items {items : List Entries} (ranged : (Node.tables items).Ranged) :
    ∀ entries ∈ items, entries.Ranged := by
  cases ranged with
  | tables all => exact all

/-- A change of entries that keeps them in range. -/
def Keeps (change : Entries → Option Entries) : Prop :=
  ∀ {before after : Entries}, before.Ranged → change before = some after → after.Ranged

/-- A change of what stands under a key, if anything does, that keeps it in range. -/
def KeepsNode (change : Option Node → Option Node) : Prop :=
  ∀ {before : Option Node} {after : Node}, (∀ node ∈ before, node.Ranged) →
    change before = some after → after.Ranged

theorem Entries.ranged_nil : Entries.Ranged [] :=
  List.forall_mem_nil _

/-- Changing one entry keeps the range if the change of its node does. -/
theorem keeps_updateEntry {change : Option Node → Option Node} (key : String)
    (keeps : KeepsNode change) : Keeps (updateEntry key change) := by
  intro before after ranged done
  induction before generalizing after with
  | nil =>
      obtain ⟨node, made, rfl⟩ := Option.map_eq_some_iff.mp done
      have new : node.Ranged := keeps (by simp) made
      exact List.forall_mem_cons.mpr ⟨new, Entries.ranged_nil⟩
  | cons entry rest ih =>
      obtain ⟨k, node⟩ := entry
      obtain ⟨first, others⟩ := List.forall_mem_cons.mp ranged
      rw [updateEntry] at done
      by_cases here : k = key
      · rw [if_pos here] at done
        obtain ⟨changed, made, rfl⟩ := Option.map_eq_some_iff.mp done
        have new : changed.Ranged := keeps (by simpa using first) made
        exact List.forall_mem_cons.mpr ⟨new, others⟩
      · rw [if_neg here] at done
        obtain ⟨changed, made, rfl⟩ := Option.map_eq_some_iff.mp done
        exact List.forall_mem_cons.mpr ⟨first, ih others made⟩

/-- Changing the last item keeps the range if the change of its entries does. -/
theorem updateLast_ranged {change : Entries → Option Entries} (keeps : Keeps change)
    {items after : List Entries} (ranged : ∀ entries ∈ items, entries.Ranged)
    (done : updateLast change items = some after) : ∀ entries ∈ after, entries.Ranged := by
  induction items generalizing after with
  | nil => cases done
  | cons entries rest ih =>
      obtain ⟨first, others⟩ := List.forall_mem_cons.mp ranged
      cases rest with
      | nil =>
          obtain ⟨changed, made, rfl⟩ := Option.map_eq_some_iff.mp done
          exact List.forall_mem_cons.mpr ⟨keeps first made, others⟩
      | cons next rest =>
          obtain ⟨changed, made, rfl⟩ := Option.map_eq_some_iff.mp done
          exact List.forall_mem_cons.mpr ⟨first, ih others made⟩

/-- What stands under a key, taken as the entries or the tables that it holds. -/
theorem keepsNode_stepDown {change : Entries → Option Entries} (keeps : Keeps change) :
    KeepsNode (stepDown change) := by
  intro before after ranged done
  match before with
  | none =>
      obtain ⟨entries, made, rfl⟩ := Option.map_eq_some_iff.mp done
      exact .table .implied (keeps Entries.ranged_nil made)
  | some (.table origin inner) =>
      obtain ⟨entries, made, rfl⟩ := Option.map_eq_some_iff.mp done
      exact .table origin (keeps (ranged _ rfl).entries made)
  | some (.tables items) =>
      obtain ⟨changed, made, rfl⟩ := Option.map_eq_some_iff.mp done
      exact .tables (updateLast_ranged keeps (ranged _ rfl).items made)
  | some (.leaf value) => cases done

/-- A step along a dotted key keeps the range if the change behind it does. -/
theorem keepsNode_stepDotted {change : Entries → Option Entries} (last : Bool)
    (keeps : Keeps change) : KeepsNode (stepDotted last change) := by
  intro before after ranged done
  match before with
  | none =>
      obtain ⟨entries, made, rfl⟩ := Option.map_eq_some_iff.mp done
      exact .table .dotted (keeps Entries.ranged_nil made)
  | some (.table .dotted inner) =>
      obtain ⟨entries, made, rfl⟩ := Option.map_eq_some_iff.mp done
      exact .table .dotted (keeps (ranged _ rfl).entries made)
  | some (.table .implied inner) =>
      cases last with
      | true => cases done
      | false =>
          obtain ⟨entries, made, rfl⟩ := Option.map_eq_some_iff.mp done
          exact .table .implied (keeps (ranged _ rfl).entries made)
  | some (.tables items) =>
      cases last with
      | true => cases done
      | false =>
          obtain ⟨changed, made, rfl⟩ := Option.map_eq_some_iff.mp done
          exact .tables (updateLast_ranged keeps (ranged _ rfl).items made)
  | some (.table .header inner) => cases done
  | some (.leaf value) => cases done

/-- A change at the end of a path keeps the range if the change itself does. -/
theorem keeps_updateAt {change : Entries → Option Entries} (keeps : Keeps change)
    (path : List String) : Keeps (updateAt change path) := by
  induction path with
  | nil => exact keeps
  | cons key path ih => exact keeps_updateEntry key (keepsNode_stepDown ih)

/-- A change beside the end of a path keeps the range if it does so for every key. -/
theorem keeps_updateBeside {change : String → Entries → Option Entries}
    (keeps : ∀ key, Keeps (change key)) (path : List String) :
    Keeps (updateBeside change path) := by
  induction path with
  | nil =>
      intro before after ranged done
      cases done
  | cons key path ih =>
      cases path with
      | nil => exact keeps key
      | cons next path => exact keeps_updateEntry key (keepsNode_stepDown ih)

/-- Opening a table adds no integers. -/
theorem keeps_openTable (key : String) : Keeps (openTable key) := by
  intro before after ranged done
  have extended : ∀ {kept : Entries} {node : Node}, kept.Ranged → node.Ranged →
      Entries.Ranged (kept ++ [(key, node)]) := by
    intro kept node keptRanged nodeRanged
    exact List.forall_mem_append.mpr ⟨keptRanged, List.forall_mem_singleton.mpr nodeRanged⟩
  rw [openTable] at done
  split at done
  · cases done
    exact extended ranged (.table .header Entries.ranged_nil)
  · rename_i inner found
    cases done
    have there : (Node.table .implied inner).Ranged := ranged _ (mem_of_lookup found)
    apply extended
    · intro entry member
      exact ranged entry (List.mem_filter.mp member).1
    · exact .table .header there.entries
  · cases done

theorem keeps_openItem (key : String) : Keeps (openItem key) := by
  apply keeps_updateEntry
  intro before after ranged done
  match before with
  | none =>
      cases done
      exact .tables (List.forall_mem_singleton.mpr Entries.ranged_nil)
  | some (.tables items) =>
      cases done
      apply Node.Ranged.tables
      exact List.forall_mem_append.mpr
        ⟨(ranged _ rfl).items, List.forall_mem_singleton.mpr Entries.ranged_nil⟩
  | some (.table origin inner) => cases done
  | some (.leaf value) => cases done

/-- Assigning a value in range keeps the range. -/
theorem keeps_assign (ranged : value.Ranged) (path : List String) : Keeps (assign value path) := by
  induction path with
  | nil =>
      intro before after ranged done
      cases done
  | cons key path ih =>
      cases path with
      | nil =>
          apply keeps_updateEntry
          intro before after _ done
          match before with
          | none =>
              cases done
              exact .leaf ranged
          | some node => cases done
      | cons next path => exact keeps_updateEntry key (keepsNode_stepDotted _ ih)

/-! ## Values -/

/-- A reader of values in range. -/
def Reader.Ranged (reader : Reader) : Prop :=
  ∀ {s : List Char} {value : Value} {rest : List Char}, reader s = some (value, rest) →
    value.Ranged

/-- A value without parts that is read has its integers in range. -/
theorem simple?_ranged : Reader.Ranged simple? := by
  intro s value rest read
  unfold simple? at read
  split at read
  · obtain ⟨text, -, same⟩ := Option.map_eq_some_iff.mp read
    cases same
    exact .string _
  · obtain ⟨text, -, same⟩ := Option.map_eq_some_iff.mp read
    cases same
    exact .string _
  · exact scalar?_ranged read

/-- The items of an array have their integers in range if what an item is read with keeps to it. -/
theorem arrayItems?_ranged {item : Reader} (ranged : item.Ranged) {bound : Nat}
    {values : List Value} (read : arrayItems? item bound s = some (values, rest)) :
    ∀ value ∈ values, value.Ranged := by
  induction bound generalizing s values rest with
  | zero => cases read
  | succ bound ih =>
      rw [arrayItems?] at read
      split at read
      · cases read
        simp
      · split at read
        · cases read
        · rename_i first _ here
          split at read
          · obtain ⟨⟨others, after⟩, more, same⟩ := Option.map_eq_some_iff.mp read
            cases same
            exact List.forall_mem_cons.mpr ⟨ranged here, ih more⟩
          · cases read
            exact List.forall_mem_cons.mpr ⟨ranged here, List.forall_mem_nil _⟩
          · cases read

/-- The values of an inline table have their integers in range if what a value is read with
keeps to it. -/
theorem inlinePairs?_ranged {item : Reader} (ranged : item.Ranged) {bound : Nat}
    {pairs : List (List String × Value)} (read : inlinePairs? item bound s = some (pairs, rest)) :
    ∀ pair ∈ pairs, pair.2.Ranged := by
  induction bound generalizing s pairs rest with
  | zero => cases read
  | succ bound ih =>
      rw [inlinePairs?] at read
      split at read
      · split at read
        · cases read
        · rename_i here
          split at read
          · obtain ⟨⟨others, after⟩, more, same⟩ := Option.map_eq_some_iff.mp read
            cases same
            exact List.forall_mem_cons.mpr ⟨ranged here, ih more⟩
          · cases read
            exact List.forall_mem_cons.mpr ⟨ranged here, List.forall_mem_nil _⟩
          · cases read
      · cases read

/-- What every step of a fold keeps, the fold keeps. -/
theorem foldlM_keeps {σ α : Type} {step : σ → α → Option σ} {P : σ → Prop} {items : List α}
    (keeps : ∀ item ∈ items, ∀ {before after : σ}, P before → step before item = some after →
      P after)
    {start last : σ} (good : P start) (folded : items.foldlM step start = some last) :
    P last := by
  induction items generalizing start with
  | nil =>
      cases folded
      exact good
  | cons item items ih =>
      obtain ⟨first, others⟩ := List.forall_mem_cons.mp keeps
      obtain ⟨next, stepped, folded⟩ := Option.bind_eq_some_iff.mp folded
      exact ih others (first good stepped) folded

/-- Pairs whose values are in range make a table in range. -/
theorem tableOfPairs?_ranged {pairs : List (List String × Value)}
    (ranged : ∀ pair ∈ pairs, pair.2.Ranged) {table : Table}
    (made : tableOfPairs? pairs = some table) : table.Ranged := by
  obtain ⟨entries, folded, rfl⟩ := Option.map_eq_some_iff.mp made
  apply Node.toTable_ranged
  apply foldlM_keeps (P := Entries.Ranged) ?_ Entries.ranged_nil folded
  intro pair member before after good assigned
  exact keeps_assign (ranged pair member) pair.1 good assigned

/-- An inline table has its integers in range if what a value is read with keeps to it. -/
theorem inlineTable?_ranged {item : Reader} (ranged : item.Ranged) {table : Table}
    (read : inlineTable? item s = some (table, rest)) : table.Ranged := by
  unfold inlineTable? at read
  split at read
  · cases read
    exact List.forall_mem_nil _
  · split at read
    · cases read
    · rename_i pairs
      obtain ⟨made, found, same⟩ := Option.map_eq_some_iff.mp read
      cases same
      exact tableOfPairs?_ranged (inlinePairs?_ranged ranged pairs) found

/-- Values of any depth that are read have their integers in range. The induction is on the
depth. -/
theorem value?_ranged (depth : Nat) : Reader.Ranged (value? depth) := by
  induction depth with
  | zero =>
      intro s value rest read
      exact simple?_ranged read
  | succ depth ih =>
      intro s value rest read
      unfold value? at read
      split at read
      · rename_i deeper
        cases deeper
        obtain ⟨⟨values, others⟩, items, same⟩ := Option.map_eq_some_iff.mp read
        cases same
        exact .array (arrayItems?_ranged ih items)
      · rename_i deeper
        cases deeper
        obtain ⟨⟨table, others⟩, entries, same⟩ := Option.map_eq_some_iff.mp read
        cases same
        exact .table (inlineTable?_ranged ih entries)
      · exact simple?_ranged read

/-! ## Documents -/

/-- The value that a statement assigns is in range, if it assigns one. -/
def Statement.Ranged : Statement → Prop
  | .assignment _ value => value.Ranged
  | .header _ => True
  | .itemHeader _ => True

/-- A statement that is read assigns a value in range. -/
theorem statement?_ranged {statement : Statement} (read : statement? s = some (statement, rest)) :
    statement.Ranged := by
  unfold statement? at read
  split at read
  · split at read
    · obtain ⟨more, -, same⟩ := Option.map_eq_some_iff.mp read
      cases same
      trivial
    · cases read
  · split at read
    · obtain ⟨more, -, same⟩ := Option.map_eq_some_iff.mp read
      cases same
      trivial
    · cases read
  · split at read
    · split at read
      · rename_i here
        obtain ⟨more, -, same⟩ := Option.map_eq_some_iff.mp read
        cases same
        exact value?_ranged maxNesting here
      · cases read
    · cases read

/-- All statements of a text assign values in range. -/
theorem statements?_ranged {bound : Nat} {statements : List Statement}
    (read : statements? bound s = some statements) :
    ∀ statement ∈ statements, statement.Ranged := by
  induction bound generalizing s statements with
  | zero => cases read
  | succ bound ih =>
      rw [statements?] at read
      split at read
      · cases read
        simp
      · split at read
        · split at read
          · exact ih read
          · cases read
        · split at read
          · rename_i first
            obtain ⟨others, more, rfl⟩ := Option.map_eq_some_iff.mp read
            exact List.forall_mem_cons.mpr ⟨statement?_ranged first, ih more⟩
          · cases read

/-- **A statement keeps a document in range** if it assigns nothing out of range. -/
theorem Draft.add_ranged {draft after : Draft} {statement : Statement}
    (ranged : statement.Ranged) (good : draft.entries.Ranged)
    (added : draft.add statement = some after) : after.entries.Ranged := by
  cases statement with
  | assignment path value =>
      obtain ⟨entries, done, rfl⟩ := Option.map_eq_some_iff.mp added
      exact keeps_updateAt (keeps_assign ranged path) draft.current good done
  | header path =>
      obtain ⟨entries, done, rfl⟩ := Option.map_eq_some_iff.mp added
      exact keeps_updateBeside keeps_openTable path good done
  | itemHeader path =>
      obtain ⟨entries, done, rfl⟩ := Option.map_eq_some_iff.mp added
      exact keeps_updateBeside keeps_openItem path good done

/-- **Every integer of a document is in range.** -/
theorem parse_ranged {text : String} {table : Table} (read : parse text = some table) :
    table.Ranged := by
  obtain ⟨statements, stated, made⟩ := Option.bind_eq_some_iff.mp read
  obtain ⟨draft, folded, rfl⟩ := Option.map_eq_some_iff.mp made
  apply Node.toTable_ranged
  apply foldlM_keeps (P := fun draft => draft.entries.Ranged) ?_ Entries.ranged_nil folded
  intro statement member before after good added
  exact Draft.add_ranged (statements?_ranged stated statement member) good added

/-- An entry of a table in range is in range. -/
theorem Table.Ranged.lookup {table : Table} (ranged : table.Ranged) {name : String}
    (found : table.lookup name = some value) : value.Ranged :=
  ranged (name, value) (mem_of_lookup found)

end PocketTools.Toml
