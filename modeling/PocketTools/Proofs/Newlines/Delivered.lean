import PocketTools.Newlines

/-!
# What a stream delivers

A stream delivers the bytes in front of the first read that ends it: an empty chunk, the end of
the reads, or a failure that is no interruption. Nothing else about its reads matters, neither
to those who take the whole contents (`readAll_of_delivers`) nor to those who count as they go
(`count_of_delivers`).
-/

namespace PocketTools.Files.Stream

/-- **What a stream delivers**: its bytes up to the read that ends it, and the failure if that
is one. -/
inductive Delivers : Stream → List UInt8 → Option Fault → Prop where
  | done : Delivers [] [] none
  | empty (rest : Stream) : Delivers (.chunk [] :: rest) [] none
  | chunk {rest : Stream} {more : List UInt8} {ending : Option Fault} (b : UInt8)
      (bytes : List UInt8) (later : Delivers rest more ending) :
      Delivers (.chunk (b :: bytes) :: rest) (b :: bytes ++ more) ending
  | retried {fault : Fault} {rest : Stream} {bytes : List UInt8} {ending : Option Fault}
      (interrupted : fault.kind = .interrupted) (later : Delivers rest bytes ending) :
      Delivers (.failure fault :: rest) bytes ending
  | failed {fault : Fault} (rest : Stream) (lasting : fault.kind ≠ .interrupted) :
      Delivers (.failure fault :: rest) [] (some fault)

/-- Every stream delivers some bytes and ends in some way. -/
theorem exists_delivers (stream : Stream) : ∃ bytes ending, stream.Delivers bytes ending := by
  induction stream with
  | nil => exact ⟨[], none, .done⟩
  | cons read rest ih =>
      obtain ⟨more, ending, later⟩ := ih
      cases read with
      | chunk bytes =>
          cases bytes with
          | nil => exact ⟨[], none, .empty rest⟩
          | cons b bytes => exact ⟨b :: bytes ++ more, ending, .chunk b bytes later⟩
      | failure fault =>
          by_cases interrupted : fault.kind = .interrupted
          · exact ⟨more, ending, .retried interrupted later⟩
          · exact ⟨[], some fault, .failed rest interrupted⟩

variable {stream : Stream} {bytes : List UInt8} {ending : Option Fault}

/-- Reading all of a stream comes to the bytes delivered, or to the fault that ends it. -/
theorem readAll_of_delivers (delivers : stream.Delivers bytes ending) :
    stream.readAll = ending.elim (.ok bytes) .error := by
  induction delivers with
  | done => rfl
  | empty rest => rfl
  | @chunk _ _ ending b bytes later ih =>
      rw [readAll, ih]
      cases ending <;> rfl
  | retried interrupted later ih => rw [readAll, if_pos interrupted, ih]
  | failed rest lasting =>
      rw [readAll, if_neg lasting]
      rfl

end PocketTools.Files.Stream

namespace PocketTools.Newlines

open Files

/-- Byte by byte the tally adds up the bytes and the newlines among them. -/
theorem foldl_add (tally : Tally) (bytes : List UInt8) :
    bytes.foldl Tally.add tally =
      ⟨tally.bytes + bytes.length, tally.newlines + bytes.count newline⟩ := by
  induction bytes generalizing tally with
  | nil => rfl
  | cons b bytes ih =>
      rw [List.foldl_cons, ih, List.length_cons, List.count_cons]
      by_cases ends : b = newline
      · simp only [Tally.add, ends, ↓reduceIte, beq_self_eq_true, Tally.mk.injEq]
        omega
      · simp only [Tally.add, ends, ↓reduceIte, beq_iff_eq, Tally.mk.injEq]
        omega

/-- Counting a stream comes to the bytes delivered and the newlines among them, or to its
fault with the number of bytes before it. -/
theorem countFrom_of_delivers {stream : Stream} {bytes : List UInt8}
    {ending : Option Files.Fault} (delivers : stream.Delivers bytes ending) (tally : Tally) :
    countFrom tally stream =
      ending.elim (.ok ⟨tally.bytes + bytes.length, tally.newlines + bytes.count newline⟩)
        fun fault => .error (.unread (tally.bytes + bytes.length) fault) := by
  induction delivers generalizing tally with
  | done => rfl
  | empty rest => rfl
  | @chunk _ more ending b bytes later ih =>
      rw [countFrom, ih, foldl_add]
      cases ending <;> simp only [List.length_append, List.count_append, Nat.add_assoc]
  | retried interrupted later ih => rw [countFrom, if_pos interrupted, ih]
  | failed rest lasting =>
      rw [countFrom, if_neg lasting, List.length_nil, Nat.add_zero]
      rfl

/-- **Counting takes in what a stream delivers.** -/
theorem count_of_delivers {stream : Stream} {bytes : List UInt8} {ending : Option Files.Fault}
    (delivers : stream.Delivers bytes ending) :
    count stream =
      ending.elim (.ok ⟨bytes.length, bytes.count newline⟩)
        fun fault => .error (.unread bytes.length fault) := by
  rw [count, countFrom_of_delivers delivers]
  simp only [Nat.zero_add]

end PocketTools.Newlines
