import PocketTools.Proofs.Command.Precedence
import PocketTools.Proofs.Toml.Integers

/-!
# A budget of any size beside an overflow mode

The converter's section gives an overflow mode, and that of the computer a budget that the
converter does not ask for. The mode is loaded as long as the budget is an integer that a
document can hold. A budget beyond that leaves no document to load the mode from
(`result_loadBinary_besideBudget`).
-/

namespace PocketTools.Settings

open Command Files Journal Toml

/-- A settings file with an overflow mode in its first section and a budget in its second. -/
def besideBudget (mode : OverflowMode) (budget ending : String) : String :=
  "\n".intercalate
    ["[binary]", "overflow = \"" ++ mode.word ++ "\"", "[vm]", "max_steps = " ++ budget] ++ ending

variable {mode : OverflowMode} {budget ending : String}

/-! ## The document -/

/-- The word of a mode in quotes is read as the string. -/
theorem readAs_word (mode : OverflowMode) :
    ReadAs ('"' :: (mode.word.toList ++ ['"'])) (some (.string mode.word)) := by
  have read := readAs_string (s := mode.word.toList) (by cases mode <;> decide)
  rwa [String.ofList_toList] at read

/-- The text of both sections, character by character. -/
theorem toList_besideBudget (mode : OverflowMode) (budget ending : String) :
    (besideBudget mode budget ending).toList =
      '[' :: ("binary".toList ++ ']' :: '\n' ::
        ("overflow".toList ++ ' ' :: '=' :: ' ' :: (('"' :: (mode.word.toList ++ ['"'])) ++ '\n' ::
          '[' :: ("vm".toList ++ ']' :: '\n' ::
            ("max_steps".toList ++ ' ' :: '=' :: ' ' :: (budget.toList ++ ending.toList)))))) := by
  simp [besideBudget]

/-- The document of such a file, if its budget is a value. -/
theorem parse_besideBudget {value : Option Value} (read : ReadAs budget.toList value)
    (ends : LineEnd ending.toList []) :
    parse (besideBudget mode budget ending) =
      value.map fun budget =>
        [("binary", .table [("overflow", .string mode.word)]),
          ("vm", .table [("max_steps", budget)])] := by
  have chars := toList_besideBudget mode budget ending
  have unmarked : dropMark (besideBudget mode budget ending).toList =
      (besideBudget mode budget ending).toList := by
    rw [chars]
    rfl
  -- four lines, and one more round for the end of the document
  obtain ⟨bound, length⟩ :
      ∃ bound, (besideBudget mode budget ending).toList.length = bound + 4 := by
    apply Nat.exists_eq_add_of_le'
    simp only [chars, List.length_cons, List.length_append]
    omega
  have statements : statements? (bound + 5) (besideBudget mode budget ending).toList =
      value.map fun budget =>
        [.header ["binary"], .assignment ["overflow"] (.string mode.word), .header ["vm"],
          .assignment ["max_steps"] budget] := by
    rw [chars, statements?_header _ (by decide) (.newline _),
      statements?_assignment _ (by decide) (readAs_word mode) (.newline _),
      statements?_header _ (by decide) (.newline _),
      statements?_assignment _ (by decide) read ends]
    cases value <;> rfl
  simp only [parse, unmarked, length]
  rw [statements]
  cases value <;> rfl

/-! ## The mode -/

/-- Integers in range are the signed words. -/
theorem inRange_iff (n : Int) : inRange n ↔ -2 ^ 63 ≤ n ∧ n < 2 ^ 63 := by
  rw [inRange, Bool.and_eq_true, decide_eq_true_eq, decide_eq_true_eq]
  omega

variable {fs : FileSystem} {path : Path} {environment : Environment} {n : Int}

/-- **A foreign budget of any size.** With no variable set, the converter's mode is loaded from
a file if the budget beside it is a signed integer of 64 bits. With any other integer the
converter fails, although it has no use for budgets. -/
theorem result_loadBinary_besideBudget (there : fs.exists? path = true)
    (reads : fs.readText path = .ok (besideBudget mode budget ending))
    (ends : ending = "" ∨ ending = "\n") (literal : Literal budget.toList n)
    (unset : environment overflowVariable = none) :
    (loadBinary fs environment path).result =
      if -2 ^ 63 ≤ n ∧ n < 2 ^ 63 then .ok ⟨mode⟩ else .error .malformed := by
  have lastLine : LineEnd ending.toList [] := by
    rcases ends with rfl | rfl
    · exact .document
    · exact .newline []
  have document : parse (besideBudget mode budget ending) = _ :=
    parse_besideBudget literal.readAs lastLine
  by_cases within : inRange n
  · rw [if_pos within, Option.map_some] at document
    rw [if_pos ((inRange_iff n).mp within)]
    have resolved : parseResolved (besideBudget mode budget ending) =
        some [("binary", .table [("overflow", .string mode.word)]),
          ("vm", .table [("max_steps", .integer n)])] := by
      rw [parseResolved, document]
      rfl
    have decoded : modeOfValue? (.string mode.word) = some mode := by
      cases mode <;> rfl
    exact result_loadBinary (.value there reads resolved rfl rfl decoded) (.unset unset)
  · rw [if_neg within, Option.map_none] at document
    rw [if_neg fun bounds => within ((inRange_iff n).mpr bounds)]
    exact result_loadBinary (.notToml there reads document) (.unset unset)

/-- The greatest budget that leaves the mode alone. -/
theorem result_loadBinary_beside_greatest :
    Literal "9223372036854775807".toList 9223372036854775807 ∧
      (loadBinary (filesWith (besideBudget .reject "9223372036854775807" "\n")) (fun _ => none)
        file).result = .ok ⟨.reject⟩ := by
  have literal : Literal "9223372036854775807".toList 9223372036854775807 :=
    .of_digits (by decide) (by decide) (by decide)
  refine ⟨literal, ?_⟩
  rw [result_loadBinary_besideBudget (exists_filesWith _) (readText_filesWith _) (.inr rfl)
    literal rfl]
  rfl

/-- **The mode is lost beside a greater budget.** -/
theorem mode_lost_beside_greater :
    Literal "9223372036854775808".toList 9223372036854775808 ∧
      (loadBinary (filesWith (besideBudget .reject "9223372036854775808" "\n")) (fun _ => none)
        file).result ≠ .ok ⟨.reject⟩ := by
  have literal : Literal "9223372036854775808".toList 9223372036854775808 :=
    .of_digits (by decide) (by decide) (by decide)
  have document : parse (besideBudget .reject "9223372036854775808" "\n") = none :=
    parse_besideBudget literal.readAs (.newline [])
  have said : FileSays _ file "binary" "overflow" modeOfValue? (.error .malformed) :=
    .notToml (exists_filesWith _) (readText_filesWith _) document
  refine ⟨literal, ?_⟩
  rw [result_loadBinary said (.unset rfl)]
  intro same
  cases same

end PocketTools.Settings
