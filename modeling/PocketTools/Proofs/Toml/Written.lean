import Mathlib.Data.List.TakeWhile
import PocketTools.Toml.Document

/-!
# Plainly written documents

A document is written plainly if every line of it is the header of a table with a bare key, or
an assignment to a bare key. Such a document is read line by line (`statements?_header`,
`statements?_assignment`), and only a value that cannot be read (`ReadAs`) keeps it from being
read.
-/

namespace PocketTools.Toml

variable {s after rest key : List Char}

/-! ## Runs of characters -/

section Run

variable {p : Char → Bool}

/-- A run up to where it stops is taken whole. -/
theorem takeWhile_append_eq_left (run : ∀ c ∈ s, p c)
    (stops : ∀ c, after.head? = some c → p c = false) : (s ++ after).takeWhile p = s := by
  rw [List.takeWhile_append_of_pos run]
  cases after with
  | nil => rw [List.takeWhile_nil, List.append_nil]
  | cons c after => rw [List.takeWhile_cons_of_neg (by simp [stops c rfl]), List.append_nil]

theorem dropWhile_append_eq_right (run : ∀ c ∈ s, p c)
    (stops : ∀ c, after.head? = some c → p c = false) : (s ++ after).dropWhile p = after := by
  rw [List.dropWhile_append_of_pos run]
  cases after with
  | nil => rfl
  | cons c after => rw [List.dropWhile_cons_of_neg (by simp [stops c rfl])]

/-- A text does not begin with a character that may not begin it. -/
theorem append_ne_cons {starts : Char → Prop} (begins : ∃ c rest, s = c :: rest ∧ starts c)
    {c : Char} (other : ¬ starts c) (rest : List Char) : s ++ after ≠ c :: rest := by
  intro same
  obtain ⟨d, _, rfl, first⟩ := begins
  obtain ⟨rfl, -⟩ := List.cons.inj same
  exact other first

end Run

/-- No space is skipped before another character. -/
theorem skipSpaces_cons {c : Char} (visible : isSpace c = false) :
    skipSpaces (c :: s) = c :: s := by
  rw [skipSpaces, List.dropWhile_cons_of_neg (by simp [visible])]

/-- The end of a line and what follows it: a line feed, or the end of the document. -/
inductive LineEnd : List Char → List Char → Prop where
  | document : LineEnd [] []
  | newline (rest : List Char) : LineEnd ('\n' :: rest) rest

namespace LineEnd

/-- The end of a line is read as such. -/
theorem lineEnd?_eq (ends : LineEnd after rest) : lineEnd? after = some rest := by
  cases ends <;> rfl

/-- A line that ends before any other character ends with a newline. -/
theorem eq_newline (ends : LineEnd after rest) {c : Char} (first : after.head? = some c) :
    c = '\n' := by
  cases ends with
  | document => cases first
  | newline rest => exact (Option.some.inj first).symm

end LineEnd

/-! ## Bare keys -/

/-- A key of one part that needs no quotes. -/
structure BareKey (key : List Char) : Prop where
  nonempty : key ≠ []
  bare : key.all isBareKeyChar

instance (key : List Char) : Decidable (BareKey key) :=
  decidable_of_iff (key ≠ [] ∧ key.all isBareKeyChar)
    ⟨fun ⟨nonempty, bare⟩ => ⟨nonempty, bare⟩, fun bare => ⟨bare.nonempty, bare.bare⟩⟩

/-- A character of a bare key is none that a bare key cannot have. -/
theorem beq_false_of_isBareKeyChar {c d : Char} (bare : isBareKeyChar c)
    (other : isBareKeyChar d = false) : (c == d) = false := by
  rw [beq_eq_false_iff_ne]
  rintro rfl
  rw [bare] at other
  cases other

/-- A bare key has no space in it. -/
theorem isSpace_of_isBareKeyChar {c : Char} (bare : isBareKeyChar c) : isSpace c = false := by
  rw [isSpace, beq_false_of_isBareKeyChar bare (by decide),
    beq_false_of_isBareKeyChar bare (by decide)]
  rfl

namespace BareKey

theorem isBareKeyChar (bare : BareKey key) : ∀ c ∈ key, Toml.isBareKeyChar c :=
  List.all_eq_true.mp bare.bare

/-- A bare key is not empty. -/
theorem exists_cons (bare : BareKey key) :
    ∃ c rest, key = c :: rest ∧ Toml.isBareKeyChar c := by
  obtain ⟨c, rest, rfl⟩ := List.exists_cons_of_ne_nil bare.nonempty
  exact ⟨c, rest, rfl, bare.isBareKeyChar c List.mem_cons_self⟩

theorem skipSpaces_eq (bare : BareKey key) : skipSpaces (key ++ after) = key ++ after := by
  obtain ⟨c, key, rfl, first⟩ := bare.exists_cons
  exact skipSpaces_cons (isSpace_of_isBareKeyChar first)

/-- A bare key is read up to where it stops. -/
theorem keyPart?_eq (bare : BareKey key)
    (stops : ∀ c, after.head? = some c → Toml.isBareKeyChar c = false) :
    keyPart? (key ++ after) = some (String.ofList key, after) := by
  unfold keyPart?
  split
  · exact absurd ‹_› (append_ne_cons bare.exists_cons (by decide) _)
  · exact absurd ‹_› (append_ne_cons bare.exists_cons (by decide) _)
  · rw [takeWhile_append_eq_left bare.isBareKeyChar stops,
      dropWhile_append_eq_right bare.isBareKeyChar stops]
    split
    · exact absurd rfl bare.nonempty
    · rfl

/-- A bare key is the whole path if no dot comes after it. -/
theorem keyPath?_eq (parts : Nat) (bare : BareKey key) {c d : Char} {more : List Char}
    (stops : Toml.isBareKeyChar c = false) (follows : skipSpaces (c :: after) = d :: more)
    (noDot : d ≠ '.') :
    keyPath? (parts + 1) (key ++ c :: after) = some ([String.ofList key], d :: more) := by
  have part : keyPart? (key ++ c :: after) = some (String.ofList key, c :: after) := by
    apply bare.keyPart?_eq
    intro e first
    cases first
    exact stops
  rw [keyPath?, bare.skipSpaces_eq, part]
  simp only [follows]
  split
  · rename_i same
    exact absurd (List.cons.inj same).1 noDot
  · rfl

/-- A bare key without a dot behind it is a path of one part. -/
theorem key?_eq (bare : BareKey key) {c d : Char} {more : List Char}
    (stops : Toml.isBareKeyChar c = false) (follows : skipSpaces (c :: after) = d :: more)
    (noDot : d ≠ '.') : key? (key ++ c :: after) = some ([String.ofList key], d :: more) :=
  keyPath?_eq 78 bare stops follows noDot

end BareKey

/-! ## Values at the end of a line -/

/-- **How a value is read** that stands at the end of a line: as a value, or not at all. -/
structure ReadAs (s : List Char) (value : Option Value) : Prop where
  begins : ∃ c rest, s = c :: rest ∧ isSpace c = false
  reads : ∀ {after rest}, LineEnd after rest →
    value? maxNesting (s ++ after) = value.map (·, after)

/-- A value does not begin with a space. -/
theorem ReadAs.skipSpaces_eq {value : Option Value} (read : ReadAs s value) :
    skipSpaces (s ++ after) = s ++ after := by
  obtain ⟨c, s, rfl, visible⟩ := read.begins
  exact skipSpaces_cons visible

/-- A character that a basic string can hold as it is. -/
def isUnescaped (c : Char) : Bool :=
  isPlain c && c != '"' && c != '\\'

/-- Characters that need no escape stand for themselves, up to the closing quote. -/
theorem basicLine_unescaped (seen : List Char) (unescaped : ∀ c ∈ s, isUnescaped c) :
    basicLine seen (s ++ '"' :: after) = some (String.ofList (seen.reverse ++ s), after) := by
  induction s generalizing seen with
  | nil =>
      rw [List.nil_append, basicLine]
      simp only [beq_self_eq_true, ↓reduceIte, List.append_nil]
  | cons c s ih =>
      obtain ⟨first, others⟩ := List.forall_mem_cons.mp unescaped
      simp only [isUnescaped, Bool.and_eq_true, bne_iff_ne] at first
      obtain ⟨⟨plain, noQuote⟩, noEscape⟩ := first
      rw [List.cons_append, basicLine]
      simp only [beq_eq_false_iff_ne.mpr noQuote, beq_eq_false_iff_ne.mpr noEscape, plain,
        Bool.false_eq_true, ↓reduceIte, ih _ others, List.reverse_cons, List.append_assoc,
        List.singleton_append]

/-- A string whose characters need no escape is read as what stands between its quotes. -/
theorem quoted?_unescaped (unescaped : s.all isUnescaped) (ends : LineEnd after rest) :
    quoted? ('"' :: (s ++ '"' :: after)) = some (String.ofList s, after) := by
  unfold quoted?
  split
  · rename_i more same
    -- neither the string nor what follows it begins with a third quote
    cases s with
    | nil =>
        have third := congrArg List.head? (List.cons.inj (List.cons.inj same).2).2
        cases ends.eq_newline third
    | cons c s =>
        obtain ⟨rfl, -⟩ := List.cons.inj (List.cons.inj same).2
        exact absurd (List.all_eq_true.mp unescaped _ List.mem_cons_self) (by decide)
  · rename_i same
    cases same
  · exact basicLine_unescaped [] (List.all_eq_true.mp unescaped)

/-- A string whose characters need no escape is a value, and reads as itself. -/
theorem readAs_string (unescaped : s.all isUnescaped) :
    ReadAs ('"' :: (s ++ ['"'])) (some (.string (String.ofList s))) where
  begins := ⟨'"', s ++ ['"'], rfl, by decide⟩
  reads {after rest} ends := by
    change (quoted? ('"' :: (s ++ ['"'] ++ after))).map _ = _
    rw [List.append_assoc, List.singleton_append, quoted?_unescaped unescaped ends]
    rfl

/-! ## Lines -/

/-- A bare key in brackets on a line of its own is read as a header. -/
theorem statement?_header (bare : BareKey key) (ends : LineEnd after rest) :
    statement? ('[' :: (key ++ ']' :: after)) = some (.header [String.ofList key], rest) := by
  have path : key? (key ++ ']' :: after) = some ([String.ofList key], ']' :: after) :=
    bare.key?_eq (by decide) (skipSpaces_cons (by decide)) (by decide)
  unfold statement?
  split
  · rename_i same
    exact absurd (List.cons.inj same).2 (append_ne_cons bare.exists_cons (by decide) _)
  · rename_i same
    obtain rfl := (List.cons.inj same).2
    simp only [path, ends.lineEnd?_eq, Option.map_some]
  · rename_i other
    exact absurd rfl (other _)

/-- A bare key with a value behind it on one line is read as an assignment. -/
theorem statement?_assignment (bare : BareKey key) {value : Option Value} (read : ReadAs s value)
    (ends : LineEnd after rest) :
    statement? (key ++ ' ' :: '=' :: ' ' :: (s ++ after)) =
      value.map fun value => (.assignment [String.ofList key] value, rest) := by
  have path : key? (key ++ ' ' :: '=' :: ' ' :: (s ++ after)) =
      some ([String.ofList key], '=' :: ' ' :: (s ++ after)) :=
    bare.key?_eq (by decide) rfl (by decide)
  have space : skipSpaces (' ' :: (s ++ after)) = s ++ after := read.skipSpaces_eq
  unfold statement?
  split
  · exact absurd ‹_› (append_ne_cons bare.exists_cons (by decide) _)
  · exact absurd ‹_› (append_ne_cons bare.exists_cons (by decide) _)
  · simp only [path, space, read.reads ends]
    cases value with
    | none => rfl
    | some value => simp only [Option.map_some, ends.lineEnd?_eq]

/-- A line that is not blank holds a statement. -/
theorem statements?_cons (bound : Nat) {c : Char} (visible : isSpace c = false)
    (noEnd : (c == '#' || c == '\n' || c == '\r') = false) :
    statements? (bound + 1) (c :: s) =
      (statement? (c :: s)).bind fun (statement, more) =>
        (statements? bound more).map (statement :: ·) := by
  rw [statements?, skipSpaces_cons visible]
  simp only [noEnd, Bool.false_eq_true, ↓reduceIte]
  cases statement? (c :: s) <;> rfl

/-- An empty line holds no statement. -/
theorem statements?_newline (bound : Nat) (rest : List Char) :
    statements? (bound + 1) ('\n' :: rest) = statements? bound rest := by
  rw [statements?, skipSpaces_cons (by decide)]
  rfl

/-- A header is followed by the statements of the lines after it. -/
theorem statements?_header (bound : Nat) (bare : BareKey key) (ends : LineEnd after rest) :
    statements? (bound + 1) ('[' :: (key ++ ']' :: after)) =
      (statements? bound rest).map (.header [String.ofList key] :: ·) := by
  rw [statements?_cons bound (by decide) (by decide), statement?_header bare ends]
  rfl

/-- An assignment is followed by the statements of the lines after it. -/
theorem statements?_assignment (bound : Nat) (bare : BareKey key) {value : Option Value}
    (read : ReadAs s value) (ends : LineEnd after rest) :
    statements? (bound + 1) (key ++ ' ' :: '=' :: ' ' :: (s ++ after)) =
      value.bind fun value =>
        (statements? bound rest).map (.assignment [String.ofList key] value :: ·) := by
  have line := statement?_assignment bare read ends
  obtain ⟨c, key, rfl, first⟩ := bare.exists_cons
  have noEnd : (c == '#' || c == '\n' || c == '\r') = false := by
    rw [beq_false_of_isBareKeyChar first (by decide), beq_false_of_isBareKeyChar first (by decide),
      beq_false_of_isBareKeyChar first (by decide)]
    rfl
  rw [List.cons_append] at line ⊢
  rw [statements?_cons bound (isSpace_of_isBareKeyChar first) noEnd, line]
  cases value <;> rfl

end PocketTools.Toml
