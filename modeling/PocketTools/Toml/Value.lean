/-!
# TOML values

The values of a document, and when two of them are the same.
-/

namespace PocketTools.Toml

/-- A value of a TOML document. Floats and date-times are kept as written. -/
inductive Value where
  | string (text : String)
  | integer (n : Int)
  | float (literal : String)
  | boolean (b : Bool)
  | dateTime (literal : String)
  | array (items : List Value)
  | table (entries : List (String × Value))
  deriving Repr, Inhabited

namespace Value

mutual

/-- Whether two values are the same. -/
def same : Value → Value → Bool
  | .string text, .string other => text == other
  | .integer n, .integer other => n == other
  | .float literal, .float other => literal == other
  | .boolean b, .boolean other => b == other
  | .dateTime literal, .dateTime other => literal == other
  | .array items, .array others => sameItems items others
  | .table entries, .table others => sameEntries entries others
  | _, _ => false

/-- Whether two lists of values are the same. -/
def sameItems : List Value → List Value → Bool
  | [], [] => true
  | item :: items, other :: others => item.same other && sameItems items others
  | _, _ => false

/-- Whether two lists of entries are the same. -/
def sameEntries : List (String × Value) → List (String × Value) → Bool
  | [], [] => true
  | (key, value) :: entries, (key', other) :: others =>
      key == key' && value.same other && sameEntries entries others
  | _, _ => false

end

mutual

/-- Values are the same when they are equal. The induction is on the first value. -/
theorem same_iff : {value other : Value} → (value.same other ↔ value = other)
  | .array items, other => by
      cases other with
      | array others => rw [same, sameItems_iff, array.injEq]
      | _ => simp only [same, Bool.false_eq_true, reduceCtorEq]
  | .table entries, other => by
      cases other with
      | table others => rw [same, sameEntries_iff, table.injEq]
      | _ => simp only [same, Bool.false_eq_true, reduceCtorEq]
  | .string text, other => by cases other <;> simp [same]
  | .integer n, other => by cases other <;> simp [same]
  | .float literal, other => by cases other <;> simp [same]
  | .boolean b, other => by cases other <;> simp [same]
  | .dateTime literal, other => by cases other <;> simp [same]

theorem sameItems_iff : {items others : List Value} → (sameItems items others ↔ items = others)
  | [], others => by cases others <;> simp [sameItems]
  | item :: items, [] => by simp [sameItems]
  | item :: items, other :: others => by
      rw [sameItems, Bool.and_eq_true, same_iff, sameItems_iff, List.cons.injEq]

theorem sameEntries_iff : {entries others : List (String × Value)} →
    (sameEntries entries others ↔ entries = others)
  | [], others => by cases others <;> simp [sameEntries]
  | entry :: entries, [] => by simp [sameEntries]
  | (key, value) :: entries, (key', other) :: others => by
      rw [sameEntries, Bool.and_eq_true, Bool.and_eq_true, beq_iff_eq, same_iff, sameEntries_iff,
        List.cons.injEq, Prod.mk.injEq]

end

end Value

instance : DecidableEq Value := fun value other =>
  decidable_of_iff (value.same other) Value.same_iff

/-- A table: its keys and their values in order, no key twice. -/
abbrev Table := List (String × Value)

end PocketTools.Toml
