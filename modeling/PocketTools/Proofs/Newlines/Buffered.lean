import PocketTools.Journal.Operations
import PocketTools.Proofs.Newlines.Delivered

/-!
# Counting byte by byte through a buffer

Newlines can be counted one byte at a time, through a buffer that takes in what one read of
the stream gives and is filled again when it is empty. That comes to the same as counting
chunk by chunk, whatever the size of the buffer (`Buffered.countFrom_eq`). So the count depends
on the bytes in front of the first read that ends the stream, and on that read, and on
nothing else (`countStream_of_bytes`).
-/

namespace PocketTools.Files

/-! ## The read that ends a stream -/

namespace Read

/-- A read ends its stream if it gives no bytes, or fails for good. -/
def Ends : Read → Prop
  | .chunk bytes => bytes = []
  | .failure fault => fault.kind ≠ .interrupted

instance : DecidablePred Ends
  | .chunk bytes => inferInstanceAs (Decidable (bytes = []))
  | .failure fault => inferInstanceAs (Decidable (fault.kind ≠ .interrupted))

/-- The bytes that a read gives. -/
def bytes : Read → List UInt8
  | .chunk bytes => bytes
  | .failure _ => []

/-- The failure that a read is, if it is one. -/
def fault? : Read → Option Fault
  | .chunk _ => none
  | .failure fault => some fault

end Read

namespace Stream

/-- The bytes in front of the first read that ends the stream. -/
def delivered (stream : Stream) : List UInt8 :=
  (stream.takeWhile fun read => ¬ read.Ends).flatMap Read.bytes

/-- The failure that ends the stream, if its first read to end it is one. -/
def ending? (stream : Stream) : Option Fault :=
  (stream.find? fun read => read.Ends).bind Read.fault?

variable {read : Read} {rest tail : Stream} {front : List Read}

/-- A read that ends a stream delivers nothing, and no later one does. -/
theorem delivered_cons_of_ends (ends : read.Ends) : delivered (read :: rest) = [] := by
  rw [delivered, List.takeWhile_cons_of_neg (by simpa using ends), List.flatMap_nil]

/-- A stream ends with the first read that ends it. -/
theorem ending?_cons_of_ends (ends : read.Ends) : ending? (read :: rest) = read.fault? := by
  rw [ending?, List.find?_cons_of_pos (by simpa using ends), Option.bind_some]

/-- A read that does not end a stream adds its bytes. -/
theorem delivered_cons_of_goesOn (goesOn : ¬ read.Ends) :
    delivered (read :: rest) = read.bytes ++ delivered rest := by
  rw [delivered, List.takeWhile_cons_of_pos (by simpa using goesOn), List.flatMap_cons]
  rfl

theorem ending?_cons_of_goesOn (goesOn : ¬ read.Ends) :
    ending? (read :: rest) = ending? rest := by
  rw [ending?, List.find?_cons_of_neg (by simpa using goesOn)]
  rfl

/-- Reads that do not end a stream deliver their bytes in front. -/
theorem delivered_append (goesOn : ∀ read ∈ front, ¬ read.Ends) :
    delivered (front ++ tail) = front.flatMap Read.bytes ++ delivered tail := by
  induction front with
  | nil => rfl
  | cons read front ih =>
      rw [List.forall_mem_cons] at goesOn
      rw [List.cons_append, delivered_cons_of_goesOn goesOn.1, ih goesOn.2, List.flatMap_cons,
        List.append_assoc]

theorem ending?_append (goesOn : ∀ read ∈ front, ¬ read.Ends) :
    ending? (front ++ tail) = ending? tail := by
  induction front with
  | nil => rfl
  | cons read front ih =>
      rw [List.forall_mem_cons] at goesOn
      rw [List.cons_append, ending?_cons_of_goesOn goesOn.1, ih goesOn.2]

/-- A stream delivers the bytes in front of the read that ends it. -/
theorem delivers (stream : Stream) : stream.Delivers stream.delivered stream.ending? := by
  induction stream with
  | nil => exact .done
  | cons read rest ih =>
      by_cases ends : read.Ends
      · rw [delivered_cons_of_ends ends, ending?_cons_of_ends ends]
        cases read with
        | chunk bytes =>
            obtain rfl : bytes = [] := ends
            exact .empty rest
        | failure fault => exact .failed rest ends
      · rw [delivered_cons_of_goesOn ends, ending?_cons_of_goesOn ends]
        cases read with
        | chunk bytes =>
            obtain ⟨b, more, rfl⟩ := List.exists_cons_of_ne_nil ends
            exact .chunk b more ih
        | failure fault => exact .retried (Decidable.of_not_not ends) ih

/-- Two ways to read the same bytes: cut into other chunks, and interrupted at other times.
No read of either ends the stream. -/
structure SameBytes (front other : List Read) : Prop where
  goesOn : ∀ read ∈ front, ¬ read.Ends
  goesOn' : ∀ read ∈ other, ¬ read.Ends
  bytes : front.flatMap Read.bytes = other.flatMap Read.bytes

end Stream

/-! ## Reading through a buffer -/

/-- One read of a stream by a reader with room for some bytes. What does not fit is there for
the next read. -/
def Stream.readInto (room : Nat) : Stream → Except Fault (List UInt8) × Stream
  | [] => (.ok [], [])
  | .chunk bytes :: rest =>
      if bytes.length ≤ room then (.ok bytes, rest)
      else (.ok (bytes.take room), .chunk (bytes.drop room) :: rest)
  | .failure fault :: rest => (.error fault, rest)

/-- The number of reads to come and of the bytes in them. -/
def Stream.left : Stream → Nat
  | [] => 0
  | read :: rest => read.bytes.length + 1 + Stream.left rest

/-- A stream with a buffer in front of it that holds the bytes read ahead. -/
structure Buffered where
  held : List UInt8
  behind : Stream

/-- What comes of taking one byte. -/
inductive Taken where
  | byte (b : UInt8) (later : Buffered)
  | ended
  | failed (fault : Fault) (later : Buffered)

namespace Stream

variable {stream rest : Stream} {room : Nat} {b : UInt8} {bytes held : List UInt8} {fault : Fault}

/-- A read gives nothing at the end of the stream, and otherwise a chunk, or as much of one as
there is room for. -/
theorem readInto_eq_ok (given : stream.readInto room = (.ok bytes, rest)) :
    bytes = [] ∧ stream = [] ∨ stream = .chunk bytes :: rest ∨
      ∃ more after, bytes.length = room ∧ more ≠ [] ∧ stream = .chunk (bytes ++ more) :: after ∧
        rest = .chunk more :: after := by
  cases stream with
  | nil =>
      cases given
      exact Or.inl ⟨rfl, rfl⟩
  | cons read after =>
      cases read with
      | failure fault => cases given
      | chunk whole =>
          rw [readInto] at given
          split at given
          · cases given
            exact Or.inr (Or.inl rfl)
          · rename_i long
            cases given
            refine Or.inr (Or.inr ⟨whole.drop room, after, ?_, ?_, ?_, rfl⟩)
            · exact List.length_take_of_le (Nat.le_of_not_le long)
            · rw [ne_eq, List.drop_eq_nil_iff]
              exact long
            · rw [List.take_append_drop]

/-- A read into a buffer fails where the stream does. -/
theorem readInto_eq_error (given : stream.readInto room = (.error fault, rest)) :
    stream = .failure fault :: rest := by
  cases stream with
  | nil => cases given
  | cons read after =>
      cases read with
      | failure cause =>
          cases given
          rfl
      | chunk whole =>
          rw [readInto] at given
          split at given <;> cases given

/-- What is read into a buffer is no longer left in the stream. -/
theorem left_of_readInto_ok (given : stream.readInto room = (.ok (b :: held), rest)) :
    held.length + rest.left < stream.left := by
  rcases readInto_eq_ok given with ⟨empty, -⟩ | rfl | ⟨more, after, -, -, rfl, rfl⟩
  · cases empty
  · rw [left, Read.bytes, List.length_cons]
    omega
  · rw [left, left, Read.bytes, Read.bytes, List.length_append, List.length_cons]
    omega

end Stream

namespace Buffered

/-- Takes one byte from the buffer, which is filled by one read if it is empty. -/
def takeByte (capacity : Nat) : Buffered → Taken
  | ⟨b :: held, behind⟩ => .byte b ⟨held, behind⟩
  | ⟨[], behind⟩ =>
      match behind.readInto capacity with
      | (.ok (b :: held), rest) => .byte b ⟨held, rest⟩
      | (.ok [], _) => .ended
      | (.error fault, rest) => .failed fault ⟨[], rest⟩

/-- The number of bytes and reads to come. -/
def left (reader : Buffered) : Nat :=
  reader.held.length + reader.behind.left

variable {capacity : Nat} {reader later : Buffered} {b : UInt8} {fault : Fault}

/-- A byte is the first of those in the buffer, as it is or after it was filled. -/
theorem takeByte_eq_byte (taken : reader.takeByte capacity = .byte b later) :
    reader = ⟨b :: later.held, later.behind⟩ ∨
      reader.held = [] ∧
        reader.behind.readInto capacity = (.ok (b :: later.held), later.behind) := by
  obtain ⟨_ | ⟨c, held⟩, behind⟩ := reader
  · rw [takeByte] at taken
    split at taken <;> cases taken
    exact Or.inr ⟨rfl, ‹_›⟩
  · cases taken
    exact Or.inl rfl

/-- The bytes have ended when the buffer is used up and the stream gives no more. -/
theorem takeByte_eq_ended (taken : reader.takeByte capacity = .ended) :
    reader.held = [] ∧ ∃ rest, reader.behind.readInto capacity = (.ok [], rest) := by
  obtain ⟨_ | ⟨c, held⟩, behind⟩ := reader
  · rw [takeByte] at taken
    split at taken <;> cases taken
    exact ⟨rfl, _, ‹_›⟩
  · cases taken

/-- A failure is that of a read for which the buffer was empty, and leaves it so. -/
theorem takeByte_eq_failed (taken : reader.takeByte capacity = .failed fault later) :
    reader.held = [] ∧ later.held = [] ∧
      reader.behind.readInto capacity = (.error fault, later.behind) := by
  obtain ⟨_ | ⟨c, held⟩, behind⟩ := reader
  · rw [takeByte] at taken
    split at taken <;> cases taken
    exact ⟨rfl, rfl, ‹_›⟩
  · cases taken

/-- A byte that is taken leaves less. -/
theorem left_of_takeByte_byte (taken : reader.takeByte capacity = .byte b later) :
    later.left < reader.left := by
  rcases takeByte_eq_byte taken with rfl | ⟨empty, given⟩
  · exact Nat.add_lt_add_right (Nat.lt_succ_self _) _
  · have fewer := Stream.left_of_readInto_ok given
    rwa [left, left, empty, List.length_nil, Nat.zero_add]

theorem left_of_takeByte_failed (taken : reader.takeByte capacity = .failed fault later) :
    later.left < reader.left := by
  obtain ⟨empty, empty', given⟩ := takeByte_eq_failed taken
  rw [left, left, empty, empty', Stream.readInto_eq_error given, Stream.left]
  omega

end Buffered

end PocketTools.Files

namespace PocketTools.Newlines

open Files

/-- Carries a tally on to the end of a buffered stream, one byte at a time. Interrupted reads
are tried again. -/
def countBytes (capacity : Nat) (tally : Tally) (reader : Buffered) : Except Fault Tally :=
  match _taken : reader.takeByte capacity with
  | .byte b later => countBytes capacity (tally.add b) later
  | .ended => .ok tally
  | .failed fault later =>
      if fault.kind = .interrupted then countBytes capacity tally later
      else .error (.unread tally.bytes fault)
termination_by reader.left
decreasing_by
  · exact Buffered.left_of_takeByte_byte _taken
  · exact Buffered.left_of_takeByte_failed _taken

section

variable {stream rest : Stream} {room : Nat} {b : UInt8} {bytes held : List UInt8} {tally : Tally}

/-- A chunk is counted byte by byte. -/
theorem countFrom_chunk (given : bytes ≠ []) (tally : Tally) (rest : Stream) :
    countFrom tally (.chunk bytes :: rest) = countFrom (bytes.foldl Tally.add tally) rest := by
  obtain ⟨b, more, rfl⟩ := List.exists_cons_of_ne_nil given
  rfl

/-- A read may give a part of a chunk only, and the rest of it is counted later. -/
theorem countFrom_of_readInto_ok (given : stream.readInto room = (.ok (b :: held), rest)) :
    countFrom tally stream = countFrom ((b :: held).foldl Tally.add tally) rest := by
  rcases Stream.readInto_eq_ok given with ⟨empty, -⟩ | rfl | ⟨more, after, -, later, rfl, rfl⟩
  · cases empty
  · rfl
  · have whole : b :: held ++ more ≠ [] := List.cons_ne_nil b (held ++ more)
    rw [countFrom_chunk whole, countFrom_chunk later, List.foldl_append]

/-- A reader with room for bytes is given none only at the end. -/
theorem countFrom_of_readInto_nil (positive : 0 < room)
    (given : stream.readInto room = (.ok [], rest)) : countFrom tally stream = .ok tally := by
  rcases Stream.readInto_eq_ok given with ⟨-, rfl⟩ | rfl | ⟨-, -, full, -⟩
  · rfl
  · rfl
  · exact (Nat.ne_of_lt positive full).elim

end

/-- **Counting byte by byte is counting chunk by chunk.** The bytes in the buffer come first. -/
theorem countBytes_eq_countFrom {capacity : Nat} (room : 0 < capacity) (tally : Tally)
    (reader : Buffered) :
    countBytes capacity tally reader =
      countFrom (reader.held.foldl Tally.add tally) reader.behind := by
  -- on the bytes and reads to come; those held have been taken off the stream already
  fun_induction countBytes capacity tally reader with
  | case1 tally reader b later taken ih =>
      rw [ih]
      rcases Buffered.takeByte_eq_byte taken with rfl | ⟨empty, given⟩
      · rfl
      · rw [empty, List.foldl_nil, countFrom_of_readInto_ok given, List.foldl_cons]
  | case2 tally reader taken =>
      obtain ⟨empty, rest, given⟩ := Buffered.takeByte_eq_ended taken
      rw [empty, List.foldl_nil, countFrom_of_readInto_nil room given]
  | case3 tally reader fault later taken interrupted ih =>
      obtain ⟨empty, empty', given⟩ := Buffered.takeByte_eq_failed taken
      rw [ih, empty, empty', Stream.readInto_eq_error given, List.foldl_nil, countFrom,
        if_pos interrupted]
  | case4 tally reader fault later taken lasting =>
      obtain ⟨empty, -, given⟩ := Buffered.takeByte_eq_failed taken
      rw [empty, Stream.readInto_eq_error given, List.foldl_nil, countFrom, if_neg lasting]

/-- What counting comes to and what it notes, from the bytes in front of the read that ends the
stream and the failure that this read may be. -/
theorem countStream_eq (stream : Stream) :
    Journal.countStream stream =
      match stream.ending? with
      | none =>
          ⟨[.note (.streamExhausted ⟨stream.delivered.length, stream.delivered.count newline⟩)],
            .ok (stream.delivered.count newline)⟩
      | some fault => ⟨[], .error (.unread stream.delivered.length fault)⟩ := by
  rw [Journal.countStream, count_of_delivers stream.delivers]
  cases stream.ending? <;> rfl

/-- Streams with the same bytes and the same ending are counted alike, whatever the pieces. -/
theorem countStream_congr {stream other : Stream} (bytes : stream.delivered = other.delivered)
    (ending : stream.ending? = other.ending?) :
    Journal.countStream stream = Journal.countStream other := by
  rw [countStream_eq, countStream_eq, bytes, ending]

/-- **Counting depends on the bytes of a stream only.** The count is that of the bytes in front
of the first read that ends the stream, and a failure that ends it is reported with their
number. It is the same byte by byte through a buffer of any size. It does not change when the
same bytes are cut into other chunks or interrupted at other times, nor with anything behind the
read that ends the stream. -/
theorem countStream_of_bytes (stream : Stream) (capacity : Nat) (room : 0 < capacity) :
    Journal.countStream stream =
        (match stream.ending? with
        | none =>
            ⟨[.note (.streamExhausted ⟨stream.delivered.length, stream.delivered.count newline⟩)],
              .ok (stream.delivered.count newline)⟩
        | some fault => ⟨[], .error (.unread stream.delivered.length fault)⟩) ∧
      countBytes capacity ⟨0, 0⟩ ⟨[], stream⟩ = count stream ∧
      ∀ front other : List Read, Stream.SameBytes front other →
        (∀ (last : Read) (rest after : Stream), last.Ends →
          Journal.countStream (front ++ last :: rest) =
            Journal.countStream (other ++ last :: after)) ∧
        ∀ rest : Stream,
          Journal.countStream (front ++ .chunk [] :: rest) = Journal.countStream other := by
  refine ⟨countStream_eq stream, countBytes_eq_countFrom room _ _, ?_⟩
  intro front other same
  refine ⟨fun last rest after ends => ?_, fun rest => ?_⟩
  · apply countStream_congr
    · rw [Stream.delivered_append same.goesOn, Stream.delivered_append same.goesOn', same.bytes,
        Stream.delivered_cons_of_ends ends, Stream.delivered_cons_of_ends ends]
    · rw [Stream.ending?_append same.goesOn, Stream.ending?_append same.goesOn',
        Stream.ending?_cons_of_ends ends, Stream.ending?_cons_of_ends ends]
  · -- the end of the reads is as good as an empty chunk
    have nothing : Read.Ends (.chunk []) := rfl
    rw [← List.append_nil other]
    apply countStream_congr
    · rw [Stream.delivered_append same.goesOn, Stream.delivered_append same.goesOn', same.bytes,
        Stream.delivered_cons_of_ends nothing]
      rfl
    · rw [Stream.ending?_append same.goesOn, Stream.ending?_append same.goesOn',
        Stream.ending?_cons_of_ends nothing]
      rfl

/-- The first chunk is longer than the buffer, and an interruption comes between the chunks.
The stream then fails while the buffer is empty, and what follows does not count. -/
theorem countStream_of_five_bytes :
    let stream : Stream := [.chunk [0x61, 0x0A, 0x62], .failure (.reported .interrupted "signal"),
      .chunk [0x0A, 0x0A], .failure (.reported .other "disk on fire"), .chunk [0x0A]]
    0 < 2 ∧
      (Journal.countStream stream).result =
        .error (.unread 5 (.reported .other "disk on fire")) ∧
      countBytes 2 ⟨0, 0⟩ ⟨[], stream⟩ = .error (.unread 5 (.reported .other "disk on fire")) ∧
      countBytes 2 ⟨0, 0⟩ ⟨[], stream.take 3⟩ = .ok ⟨5, 3⟩ := by
  intro stream
  have room : 0 < 2 := by decide
  obtain ⟨counted, bytewise, -⟩ := countStream_of_bytes stream 2 room
  refine ⟨room, ?_, bytewise, (countStream_of_bytes (stream.take 3) 2 room).2.1⟩
  rw [counted]
  rfl

end PocketTools.Newlines
