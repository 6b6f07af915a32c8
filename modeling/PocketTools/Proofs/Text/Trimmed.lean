import Mathlib.Data.List.TakeWhile
import PocketTools.Text.Blank

/-!
# What trimming leaves

A text has one middle part with blanks in front of it and behind it that itself neither
begins nor ends with a blank, and trimming leaves that part (`trim_eq_iff`).
-/

namespace PocketTools.Text

variable {cs middle front back : List Char} {s t : String}

/-- Neither the first nor the last character is a blank. -/
structure Bare (cs : List Char) : Prop where
  front : ∀ c, cs.head? = some c → isBlank c = false
  back : ∀ c, cs.getLast? = some c → isBlank c = false

/-- A text is another one with blanks around it. -/
def Surrounds (s t : String) : Prop :=
  ∃ front back : List Char, s.toList = front ++ t.toList ++ back ∧
    (∀ c ∈ front, isBlank c) ∧ (∀ c ∈ back, isBlank c) ∧ Bare t.toList

/-- Blanks in front are dropped up to the first other character. -/
theorem dropWhile_blanks_append (blanks : ∀ c ∈ front, isBlank c)
    (bare : ∀ c, middle.head? = some c → isBlank c = false) (some : middle ≠ []) :
    (front ++ (middle ++ back)).dropWhile isBlank = middle ++ back := by
  rw [List.dropWhile_append_of_pos blanks]
  cases middle with
  | nil => exact (some rfl).elim
  | cons c middle =>
      rw [List.cons_append, List.dropWhile_cons_of_neg]
      rw [bare c rfl]
      exact Bool.false_ne_true

/-- Trimming leaves the bare middle of what is surrounded by blanks. -/
theorem trimChars_append (blanksBefore : ∀ c ∈ front, isBlank c)
    (blanksAfter : ∀ c ∈ back, isBlank c) (bare : Bare middle) :
    trimChars (front ++ middle ++ back) = middle := by
  rw [trimChars, List.append_assoc]
  by_cases empty : middle = []
  · -- all characters are blanks
    subst empty
    have all : ∀ c ∈ front ++ ([] ++ back), isBlank c := by
      intro c mem
      rcases List.mem_append.mp mem with before | after
      · exact blanksBefore c before
      · exact blanksAfter c after
    rw [List.dropWhile_eq_nil_iff.mpr all]
    rfl
  · have blanks : ∀ c ∈ back.reverse, isBlank c := fun c mem =>
      blanksAfter c (List.mem_reverse.mp mem)
    have last : ∀ c, middle.reverse.head? = some c → isBlank c = false := by
      rw [List.head?_reverse]
      exact bare.back
    have ends : (back.reverse ++ (middle.reverse ++ [])).dropWhile isBlank = middle.reverse ++ [] :=
      dropWhile_blanks_append blanks last (List.reverse_ne_nil_iff.mpr empty)
    rw [List.append_nil] at ends
    rw [dropWhile_blanks_append blanksBefore bare.front empty, List.reverse_append, ends,
      List.reverse_reverse]

theorem not_blank_of_head_dropWhile {c : Char}
    (first : (cs.dropWhile isBlank).head? = some c) : isBlank c = false := by
  have stops := List.head?_dropWhile_not isBlank cs
  rw [first] at stops
  exact stops

/-- What trimming takes off the end. -/
theorem exists_trimChars_append (cs : List Char) :
    ∃ back, cs.dropWhile isBlank = trimChars cs ++ back ∧ ∀ c ∈ back, isBlank c := by
  let kept := cs.dropWhile isBlank
  refine ⟨(kept.reverse.takeWhile isBlank).reverse, ?_, ?_⟩
  · change kept = (kept.reverse.dropWhile isBlank).reverse ++ _
    rw [← List.reverse_append, List.takeWhile_append_dropWhile, List.reverse_reverse]
  · intro c mem
    exact List.mem_takeWhile_imp (List.mem_reverse.mp mem)

/-- What trimming leaves neither begins nor ends with a blank. -/
theorem bare_trimChars (cs : List Char) : Bare (trimChars cs) where
  front c first := by
    obtain ⟨back, split, -⟩ := exists_trimChars_append cs
    have first : (cs.dropWhile isBlank).head? = some c := by
      rw [split, List.head?_append, first, Option.some_or]
    exact not_blank_of_head_dropWhile first
  back c last := by
    rw [trimChars, List.getLast?_reverse] at last
    exact not_blank_of_head_dropWhile last

/-- **Trimming leaves the middle part.** -/
theorem trim_eq_iff : trim s = t ↔ Surrounds s t := by
  constructor
  · rintro rfl
    obtain ⟨back, split, blanks⟩ := exists_trimChars_append s.toList
    refine ⟨s.toList.takeWhile isBlank, back, ?_, fun c => List.mem_takeWhile_imp, blanks, ?_⟩
    · rw [trim, String.toList_ofList, List.append_assoc, ← split,
        List.takeWhile_append_dropWhile]
    · rw [trim, String.toList_ofList]
      exact bare_trimChars _
  · rintro ⟨front, back, whole, before, after, bare⟩
    rw [trim, whole, trimChars_append before after bare, String.ofList_toList]

/-- Of a text of blanks, and of no other, trimming leaves nothing. -/
theorem trim_eq_empty_iff : trim s = "" ↔ ∀ c ∈ s.toList, isBlank c := by
  rw [trim_eq_iff]
  constructor
  · rintro ⟨front, back, whole, before, after, -⟩ c mem
    rw [whole] at mem
    rcases List.mem_append.mp mem with inFront | inBack
    · exact before c (by simpa using inFront)
    · exact after c inBack
  · intro blanks
    refine ⟨s.toList, [], by simp, blanks, by simp, by simp, by simp⟩

end PocketTools.Text
