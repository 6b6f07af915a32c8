import Mathlib.Data.Option.Basic
import PocketTools.Toml.Marked

/-!
# Values with their date-times in place

Putting date-times in place goes through arrays item by item and through tables entry by
entry, and leaves keys and scalars alone. Only a table whose first key is the mark becomes
something else (`resolve?_table`), so the entries of a document are resolved each on its own
(`rel_lookup_resolveEntries`).
-/

namespace PocketTools.Toml

variable {value resolved : Value} {entries : List (String × Value)} {items : List Value}

/-- An array is resolved item by item. -/
theorem resolve?_array (done : (Value.array items).resolve? = some resolved) :
    ∃ others, resolveItems? items = some others ∧ resolved = .array others := by
  rw [Value.resolve?, Option.map_eq_some_iff] at done
  obtain ⟨others, same, rfl⟩ := done
  exact ⟨others, same, rfl⟩

/-- A table stays a table with the same keys, or it is marked and becomes a date-time. -/
theorem resolve?_table (done : (Value.table entries).resolve? = some resolved) :
    (∃ others, resolveEntries? entries = some others ∧ resolved = .table others) ∨
      (∃ value rest, entries = (dateTimeMark, value) :: rest) ∧
        ∃ literal, resolved = .dateTime literal := by
  rw [Value.resolve?] at done
  cases entries with
  | nil =>
      cases done
      exact .inl ⟨[], rfl, rfl⟩
  | cons entry rest =>
      obtain ⟨key, value⟩ := entry
      by_cases marked : key = dateTimeMark
      · subst marked
        refine .inr ⟨⟨value, rest, rfl⟩, ?_⟩
        simp only [Table.marked?, ↓reduceIte] at done
        cases value with
        | string text =>
            simp only [Value.toDateTime?, Option.ite_none_right_eq_some] at done
            exact ⟨text, (Option.some.inj done.2).symm⟩
        | integer | float | boolean | dateTime | array | table => cases done
      · simp only [Table.marked?, marked, ↓reduceIte, Option.map_eq_some_iff] at done
        obtain ⟨others, same, rfl⟩ := done
        exact .inl ⟨others, same, rfl⟩

/-- Items are resolved one after the other, and each has to be. -/
theorem resolveItems?_cons {item : Value} {others : List Value}
    (done : resolveItems? (item :: items) = some others) :
    ∃ other rest, item.resolve? = some other ∧ resolveItems? items = some rest ∧
      others = other :: rest := by
  rw [resolveItems?] at done
  cases here : item.resolve? with
  | none =>
      rw [here] at done
      cases done
  | some other =>
      rw [here] at done
      obtain ⟨rest, restDone, rfl⟩ := Option.map_eq_some_iff.mp done
      exact ⟨other, rest, rfl, restDone, rfl⟩

theorem resolveEntries?_cons {key : String} {others : List (String × Value)}
    (done : resolveEntries? ((key, value) :: entries) = some others) :
    ∃ other rest, value.resolve? = some other ∧ resolveEntries? entries = some rest ∧
      others = (key, other) :: rest := by
  rw [resolveEntries?] at done
  cases here : value.resolve? with
  | none =>
      rw [here] at done
      cases done
  | some other =>
      rw [here] at done
      obtain ⟨rest, restDone, rfl⟩ := Option.map_eq_some_iff.mp done
      exact ⟨other, rest, rfl, restDone, rfl⟩

/-- Resolving keeps the keys: each key has the resolved value of its entry, or no entry
before and after. -/
theorem rel_lookup_resolveEntries {others : List (String × Value)}
    (done : resolveEntries? entries = some others) (name : String) :
    Option.Rel (fun before after => before.resolve? = some after) (entries.lookup name)
      (others.lookup name) := by
  induction entries generalizing others with
  | nil =>
      cases done
      exact .none
  | cons entry rest ih =>
      obtain ⟨key, value⟩ := entry
      obtain ⟨other, later, here, restDone, rfl⟩ := resolveEntries?_cons done
      rw [List.lookup_cons, List.lookup_cons]
      cases name == key with
      | true => exact .some here
      | false => exact ih restDone

/-- Date-times are put in place under each key on its own. -/
theorem lookup_resolveEntries {table resolved : Table}
    (done : resolveEntries? table = some resolved) (name : String) :
    resolved.lookup name = (table.lookup name).bind Value.resolve? := by
  have each := rel_lookup_resolveEntries done name
  revert each
  generalize table.lookup name = before
  generalize resolved.lookup name = after
  intro each
  cases each with
  | none => rfl
  | some here => exact here.symm

end PocketTools.Toml
