import PocketTools.Proofs.Journal.Parts

/-!
# Outputs with limited room

An output with room for `n` bytes takes the first `n` bytes of what is written to it, and
fails as soon as there is a byte more (`written_cut`, `cut_complete`). What happens to a
computation on such an output is settled write by write: its parts run one after the
other, each on the room that the parts before it left, and the first that fails is the
last (`Transcript.within_bind`). In particular it does not matter in how many pieces a
text is written.
-/

namespace PocketTools.Journal

/-- The acts that take place on an output with room for `room` bytes, and whether all of
them did. -/
def cut (room : Nat) (acts : List Act) : List Act × Bool :=
  cutFrom [] room acts

variable {done acts first second : List Act} {bytes : List UInt8} {room : Nat} {event : Event}

/-- The acts done so far stand in front and are not cut. -/
theorem cutFrom_eq_cut (done : List Act) (room : Nat) (acts : List Act) :
    cutFrom done room acts = (done.reverse ++ (cut room acts).1, (cut room acts).2) := by
  unfold cut
  induction acts generalizing done room with
  | nil => simp only [cutFrom, List.reverse_nil, List.append_nil]
  | cons act acts ih =>
      cases act with
      | note event =>
          rw [cutFrom, cutFrom, ih, ih [.note event]]
          simp only [List.reverse_cons, List.reverse_nil, List.nil_append, List.append_assoc]
      | write bytes =>
          rw [cutFrom, cutFrom]
          split
          · rw [ih, ih [.write bytes]]
            simp only [List.reverse_cons, List.reverse_nil, List.nil_append, List.append_assoc]
          · simp only [List.reverse_cons, List.reverse_nil, List.nil_append]

@[simp]
theorem cut_nil (room : Nat) : cut room [] = ([], true) :=
  rfl

theorem cut_note (event : Event) (room : Nat) (acts : List Act) :
    cut room (.note event :: acts) = (.note event :: (cut room acts).1, (cut room acts).2) :=
  cutFrom_eq_cut [.note event] room acts

/-- A write that fits uses up its part of the room. -/
theorem cut_write_of_le (fits : bytes.length ≤ room) (acts : List Act) :
    cut room (.write bytes :: acts) =
      (.write bytes :: (cut (room - bytes.length) acts).1,
        (cut (room - bytes.length) acts).2) := by
  rw [cut, cutFrom, if_pos fits]
  exact cutFrom_eq_cut [.write bytes] _ acts

/-- A write that does not fit is cut off and is the last act. -/
theorem cut_write_of_lt (full : room < bytes.length) (acts : List Act) :
    cut room (.write bytes :: acts) = ([.write (bytes.take room)], false) := by
  rw [cut, cutFrom, if_neg (Nat.not_le.mpr full)]
  rfl

theorem written_cons (act : Act) (acts : List Act) :
    written (act :: acts) = act.bytes ++ written acts :=
  List.flatMap_cons

/-- **An output takes the first bytes**, as many as it has room for. -/
theorem written_cut (room : Nat) (acts : List Act) :
    written (cut room acts).1 = (written acts).take room := by
  induction acts generalizing room with
  | nil => rw [cut_nil, written, List.flatMap_nil, List.take_nil]
  | cons act acts ih =>
      rw [written_cons]
      cases act with
      | note event =>
          rw [cut_note, written_cons, ih]
          rfl
      | write bytes =>
          rcases Nat.lt_or_ge room bytes.length with full | fits
          · rw [cut_write_of_lt full, written_cons]
            change bytes.take room ++ [] = (bytes ++ written acts).take room
            rw [List.append_nil, List.take_append_of_le_length (Nat.le_of_lt full)]
          · rw [cut_write_of_le fits, written_cons, ih]
            change bytes ++ _ = (bytes ++ written acts).take room
            rw [List.take_append, List.take_of_length_le fits]

/-- **An output fails at the first byte too many**, and at none before. -/
theorem cut_complete (room : Nat) (acts : List Act) :
    (cut room acts).2 = true ↔ (written acts).length ≤ room := by
  induction acts generalizing room with
  | nil => simp only [cut_nil, written, List.flatMap_nil, List.length_nil, Nat.zero_le]
  | cons act acts ih =>
      rw [written_cons, List.length_append]
      cases act with
      | note event =>
          rw [cut_note, ih, Act.bytes, List.length_nil, Nat.zero_add]
      | write bytes =>
          rw [Act.bytes]
          rcases Nat.lt_or_ge room bytes.length with full | fits
          · rw [cut_write_of_lt full]
            simp only [Bool.false_eq_true, false_iff, Nat.not_le]
            exact Nat.lt_add_right _ full
          · rw [cut_write_of_le fits, ih]
            omega

/-- Acts that fit all take place. -/
theorem cut_of_le (fits : (written acts).length ≤ room) : (cut room acts).1 = acts := by
  induction acts generalizing room with
  | nil => rfl
  | cons act acts ih =>
      rw [written_cons, List.length_append] at fits
      cases act with
      | note event =>
          rw [cut_note, ih (Nat.le_of_add_left_le fits)]
      | write bytes =>
          rw [Act.bytes] at fits
          rw [cut_write_of_le (Nat.le_of_add_right_le fits), ih (Nat.le_sub_of_add_le' fits)]

/-- Acts that fit leave the room that they do not use to those that follow. -/
theorem cut_append_of_le (fits : (written first).length ≤ room) (second : List Act) :
    (cut room (first ++ second)).1 =
      first ++ (cut (room - (written first).length) second).1 := by
  induction first generalizing room with
  | nil => rfl
  | cons act first ih =>
      rw [written_cons, List.length_append] at fits
      rw [written_cons, List.length_append, List.cons_append]
      cases act with
      | note event =>
          rw [cut_note, ih (Nat.le_of_add_left_le fits), Act.bytes, List.length_nil, Nat.zero_add]
          rfl
      | write bytes =>
          rw [Act.bytes] at fits ⊢
          rw [cut_write_of_le (Nat.le_of_add_right_le fits), ih (Nat.le_sub_of_add_le' fits),
            Nat.sub_sub]
          rfl

/-- Acts that do not fit are the last ones. -/
theorem cut_append_of_lt (full : room < (written first).length) (second : List Act) :
    (cut room (first ++ second)).1 = (cut room first).1 := by
  induction first generalizing room with
  | nil => cases full
  | cons act first ih =>
      rw [written_cons, List.length_append] at full
      rw [List.cons_append]
      cases act with
      | note event =>
          rw [Act.bytes, List.length_nil, Nat.zero_add] at full
          rw [cut_note, cut_note, ih full]
      | write bytes =>
          rw [Act.bytes] at full
          rcases Nat.lt_or_ge room bytes.length with here | later
          · rw [cut_write_of_lt here, cut_write_of_lt here]
          · rw [cut_write_of_le later, cut_write_of_le later, ih (by omega)]

/-! ## Partial writes -/

/-- **How pieces are delivered** to an output with limited room. A write hands over what is
left of the first piece, and the output takes as much of that as it likes, but some of it;
only an output without any room takes nothing, and nothing is delivered after that. -/
inductive Delivery : (room : Nat) → (pieces : List (List UInt8)) → (taken : List UInt8) →
    (complete : Bool) → Prop where
  | finished {room : Nat} : Delivery room [] [] true
  | next {room : Nat} {pieces : List (List UInt8)} {taken : List UInt8} {complete : Bool}
      (rest : Delivery room pieces taken complete) : Delivery room ([] :: pieces) taken complete
  | accepted {room count : Nat} {piece : List UInt8} {pieces : List (List UInt8)}
      {taken : List UInt8} {complete : Bool} (some : 0 < count) (fits : count ≤ room)
      (offered : count ≤ piece.length)
      (rest : Delivery (room - count) (piece.drop count :: pieces) taken complete) :
      Delivery room (piece :: pieces) (piece.take count ++ taken) complete
  | refused {piece : List UInt8} {pieces : List (List UInt8)} (offered : piece ≠ []) :
      Delivery 0 (piece :: pieces) [] false

/-- Every output that takes what it has room for delivers any pieces. -/
theorem exists_delivery (room : Nat) (pieces : List (List UInt8)) :
    ∃ taken complete, Delivery room pieces taken complete := by
  induction pieces generalizing room with
  | nil => exact ⟨_, _, .finished⟩
  | cons piece pieces ih =>
      rcases Nat.lt_or_ge room piece.length with full | fits
      · -- the output takes what it has room for, and refuses what is left
        have left : piece.drop room ≠ [] := fun empty =>
          Nat.not_le.mpr full (List.drop_eq_nil_iff.mp empty)
        rcases Nat.eq_zero_or_pos room with rfl | some
        · exact ⟨_, _, .refused left⟩
        · have rest : Delivery (room - room) (piece.drop room :: pieces) [] false := by
            rw [Nat.sub_self]
            exact .refused left
          exact ⟨_, _, .accepted some (Nat.le_refl room) (Nat.le_of_lt full) rest⟩
      · obtain ⟨taken, complete, rest⟩ := ih (room - piece.length)
        rcases Nat.eq_zero_or_pos piece.length with empty | some
        · rw [List.eq_nil_of_length_eq_zero empty] at rest ⊢
          exact ⟨_, _, .next rest⟩
        · have rest : Delivery (room - piece.length) (piece.drop piece.length :: pieces) taken
              complete := by
            rw [List.drop_length]
            exact .next rest
          exact ⟨_, _, .accepted some fits (Nat.le_refl _) rest⟩

/-- **Pieces and partial writes make no difference**: the output takes the first bytes of
all the pieces together, and all is delivered exactly if there is room for them. -/
theorem Delivery.taken_eq {pieces : List (List UInt8)} {taken : List UInt8} {complete : Bool}
    (delivery : Delivery room pieces taken complete) :
    taken = pieces.flatten.take room ∧ (complete = true ↔ pieces.flatten.length ≤ room) := by
  induction delivery with
  | finished =>
      simp only [List.flatten_nil, List.take_nil, List.length_nil, Nat.zero_le, and_self]
  | next rest ih => exact ih
  | @accepted room count piece pieces taken complete some fits offered rest ih =>
      have whole : (piece :: pieces).flatten =
          piece.take count ++ (piece.drop count :: pieces).flatten := by
        rw [List.flatten_cons, List.flatten_cons, ← List.append_assoc, List.take_append_drop]
      have front : (piece.take count).length = count := List.length_take_of_le offered
      have inside : (piece.take count).take room = piece.take count :=
        List.take_of_length_le (by omega)
      rw [whole, ih.1, List.take_append, front, inside, List.length_append, front, ih.2]
      exact ⟨rfl, by omega⟩
  | @refused piece pieces offered =>
      refine ⟨rfl, ?_⟩
      have some := List.length_pos_iff.mpr offered
      simp only [List.flatten_cons, List.length_append, Bool.false_eq_true, false_iff]
      omega

namespace Transcript

variable {α β : Type}

/-- **A computation on an output with limited room.** It writes what there is room for,
and it fails as its output does if there is not room for everything. -/
theorem within_some (room : Nat) (transcript : Transcript Failure α) :
    transcript.within (some room) =
      ⟨(cut room transcript.acts).1,
        if (written transcript.acts).length ≤ room then transcript.result
        else .error (.output .sinkFull)⟩ := by
  rw [within, ← cut]
  cases complete : (cut room transcript.acts).2 with
  | true =>
      rw [if_pos ((cut_complete room transcript.acts).mp complete)]
      split
      · rename_i taken
        rw [taken]
      · rename_i taken
        rw [taken] at complete
        cases complete
  | false =>
      have full : ¬ (written transcript.acts).length ≤ room := fun fits => by
        rw [(cut_complete room transcript.acts).mpr fits] at complete
        cases complete
      rw [if_neg full]
      split
      · rename_i taken
        rw [taken] at complete
        cases complete
      · rename_i taken
        rw [taken]

/-- **One part after the other.** On an output with limited room a computation is its
parts in order, each on the room that is left, up to the first that fails. -/
theorem within_bind (room : Nat) (first : Transcript Failure α)
    (next : α → Transcript Failure β) :
    (first >>= next).within (some room) =
      first.within (some room) >>= fun a =>
        (next a).within (some (room - (written first.acts).length)) := by
  rcases Nat.lt_or_ge room (written first.acts).length with full | fits
  · have stopped : (first.within (some room)).result = .error (.output .sinkFull) := by
      rw [within_some, if_neg (Nat.not_le.mpr full)]
    rw [bind_of_error stopped]
    cases result : first.result with
    | error fault =>
        rw [bind_of_error result, within_some, within_some, if_neg (Nat.not_le.mpr full)]
    | ok a =>
        rw [bind_of_ok result, within_some, within_some, cut_append_of_lt full, written_append,
          List.length_append, if_neg (by omega)]
  · have whole : first.within (some room) = first := by
      rw [within_some, cut_of_le fits, if_pos fits]
    rw [whole]
    cases result : first.result with
    | error fault =>
        rw [bind_of_error result, bind_of_error result, within_some, cut_of_le fits, if_pos fits]
    | ok a =>
        rw [bind_of_ok result, bind_of_ok result, within_some, within_some, cut_append_of_le fits,
          written_append, List.length_append]
        simp only [Nat.le_sub_iff_add_le' fits]

end Transcript

end PocketTools.Journal
