import PocketTools.Journal.Rule

/-! # Which events are logged

A filter is a list of rules. Of the rules that are about an event the most
specific decides, and of equally specific ones the last.
-/

namespace PocketTools.Journal

/-- A filter by its rules, later ones last. -/
abbrev Filter := List Rule

/-- Whether one subject is at least as specific as another. A field is more
specific than none, and fields are ordered by their names. -/
def Subject.refines : Subject → Subject → Bool
  | _, .all => true
  | .having field, .having other => !(field < other)
  | _, _ => false

/-- Whether a rule is at least as specific as another about the same event. -/
def Rule.refines (rule other : Rule) : Bool :=
  other.target.length < rule.target.length ||
    (other.target.length == rule.target.length && rule.subject.refines other.subject)

/-- The rule that decides about an event. -/
def Filter.rule? (filter : Filter) (event : Event) : Option Rule :=
  (filter.filter (·.fits event)).foldl
    (fun best rule =>
      match best with
      | some old => if rule.refines old then some rule else some old
      | none => some rule)
    none

/-- Whether a filter shows an event. -/
def Filter.shows (filter : Filter) (event : Event) : Bool :=
  match filter.rule? event with
  | some rule => event.level.rank ≤ rule.rank
  | none => false

/-- The filter that a list of rules between commas gives. No rules at all show
errors only. -/
def Filter.ofText? (text : String) : Option Filter :=
  let words := (text.toList.splitOn ',').filter (· ≠ [])
  match words.mapM Rule.ofWord? with
  | some [] => some [⟨"", .all, 1⟩]
  | other => other

/-- The filter of a tool: the environment's if it gives a valid one, else by how
often more detail was asked for. -/
def Filter.choose (wanted : Option String) (verbosity : UInt8) : Filter :=
  match wanted.bind Filter.ofText? with
  | some filter => filter
  | none => [⟨"", .all, if verbosity = 0 then 2 else if verbosity = 1 then 4 else 5⟩]

end PocketTools.Journal
