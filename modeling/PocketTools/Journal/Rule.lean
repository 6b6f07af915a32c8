import PocketTools.Journal.Line
import PocketTools.Journal.Pattern
import PocketTools.Text.Blank
import PocketTools.Text.Decimal

/-! # Rules of a filter

A rule tells up to which rank of detail the events of some targets are shown. In
brackets it may be narrowed to events inside a span or to events that have a
field. Blanks belong to the part of a rule that they stand in; only at its end,
after brackets, are they skipped.
-/

namespace PocketTools.Journal

/-- Which events of its targets a rule is about. -/
inductive Subject where
  /-- All of them. -/
  | all
  /-- Those with a field of some name. -/
  | having (field : String)
  /-- Those inside of spans. The tools open none, so there are no such events. -/
  | inSpan
  deriving DecidableEq, Repr

/-- A rule: the events of targets that begin so are shown up to a rank of detail
if they are what the rule is about. -/
structure Rule where
  target : String
  subject : Subject
  rank : Nat
  deriving DecidableEq, Repr

/-- Whether an event has a field of some name. Its text counts as one. -/
def Event.hasField (event : Event) (name : String) : Bool :=
  name == "message" || event.fields.any (·.1 == name)

/-- Whether a rule is about an event. -/
def Rule.fits (rule : Rule) (event : Event) : Bool :=
  rule.target.toList.isPrefixOf event.target.toList &&
    match rule.subject with
    | .all => true
    | .having field => event.hasField field
    | .inSpan => false

/-- The rank that a word or a number names: 0 is silence, 5 is all. -/
def rankOf? (word : String) : Option Nat :=
  match Text.lowerAscii word with
  | "off" => some 0
  | "error" => some 1
  | "warn" => some 2
  | "info" => some 3
  | "debug" => some 4
  | "trace" => some 5
  | other =>
      match Text.readUnsigned other with
      | .ok n => if n ≤ 5 then some n.toNat else none
      | .error _ => none

/-- What the brackets of a rule hold, after the opening one, and what follows the
closing one. There is a span's name, or a field in braces, or both; a field may
have a value. -/
def subject? (s : List Char) : Option (Subject × List Char) :=
  let span := s.takeWhile fun c => c != ']' && c != '\x7b'
  match s.drop span.length with
  | ']' :: rest => some (.inSpan, rest)
  | '\x7b' :: inside =>
      let field := inside.takeWhile (· != '\x7d')
      match inside.drop field.length with
      | '\x7d' :: ']' :: rest =>
          match field.dropWhile (· != '=') with
          | [] =>
              if field = [] then none
              else if span = [] then some (.having (String.ofList field), rest)
              else some (.inSpan, rest)
          | _ :: value =>
              if isFieldValue (value.takeWhile (· != '=')) then some (.inSpan, rest) else none
      | _ => none
  | _ => none

/-- A rule taken apart. -/
structure RuleParts where
  target : List Char
  subject : Subject
  level : Option (List Char)

/-- Whether the target of a rule can begin with a character. -/
def beginsTarget (c : Char) : Bool :=
  Text.isAlphanumeric c || c == '-' || c == ':' || c == '_'

/-- The parts of a text: a target, a subject in brackets, or both, and then
perhaps a level after an equals sign. -/
def RuleParts.ofChars? (s : List Char) : Option RuleParts :=
  let target := s.takeWhile fun c => c != '=' && c != '['
  if !(target.head?.all beginsTarget) then none
  else match s.drop target.length with
  | [] => if target = [] then none else some ⟨target, .all, none⟩
  | '[' :: rest =>
      match subject? rest with
      | none => none
      | some (subject, '=' :: level) => some ⟨target, subject, some level⟩
      | some (subject, rest) =>
          if rest.all Text.isBlank then some ⟨target, subject, none⟩ else none
  | _ :: level => if target = [] then none else some ⟨target, .all, some level⟩

/-- The rule that its parts make. A level alone is for every target, and a rule
without a level shows everything. -/
def RuleParts.toRule? (parts : RuleParts) : Option Rule :=
  let target := String.ofList parts.target
  match parts.level with
  | none =>
      match parts.subject, rankOf? target with
      | .all, some rank => some ⟨"", .all, rank⟩
      | subject, _ => some ⟨target, subject, 5⟩
  | some [] => some ⟨target, parts.subject, 5⟩
  | some level => (rankOf? (String.ofList level)).map fun rank => ⟨target, parts.subject, rank⟩

/-- The rule that a word writes. Blanks before it become part of its target, and
then it cannot set a level. -/
def Rule.ofWord? (word : List Char) : Option Rule :=
  let blanks := word.takeWhile Text.isBlank
  match RuleParts.ofChars? (word.drop blanks.length) with
  | none => none
  | some parts =>
      if blanks = [] then parts.toRule?
      else if parts.level.isSome then none
      else some ⟨String.ofList (blanks ++ parts.target), parts.subject, 5⟩

end PocketTools.Journal
