import PocketTools.Journal.Operations

/-!
# Computations in parts

What a computation in parts does and comes to, part by part: the parts after one that
fails do not take place (`Transcript.bind_of_ok`, `Transcript.bind_of_error`). What is seen
of a computation is what it wrote and its result. The operations of the tools write
nothing themselves, so that of such a part only the result is seen
(`Transcript.seen_bind`).
-/

namespace PocketTools.Journal

/-- Notes write nothing. -/
theorem written_notes (events : List Event) : written (events.map .note) = [] := by
  induction events with
  | nil => rfl
  | cons event events ih => exact ih

namespace Transcript

variable {ε ε' α β : Type}

/-- Behind a part that succeeds the next one takes place. -/
theorem bind_of_ok {first : Transcript ε α} {a : α} (goes : first.result = .ok a)
    (next : α → Transcript ε β) :
    first >>= next = ⟨first.acts ++ (next a).acts, (next a).result⟩ := by
  change Transcript.bind first next = _
  simp only [Transcript.bind, goes]

/-- Behind a part that fails nothing takes place. -/
theorem bind_of_error {first : Transcript ε α} {fault : ε} (fails : first.result = .error fault)
    (next : α → Transcript ε β) : first >>= next = ⟨first.acts, .error fault⟩ := by
  change Transcript.bind first next = _
  simp only [Transcript.bind, fails]

/-- The result of two parts in turn is that of the second, or the fault of the first. -/
theorem result_bind (first : Transcript ε α) (next : α → Transcript ε β) :
    (first >>= next).result = first.result.bind fun a => (next a).result := by
  cases result : first.result with
  | error fault => rw [bind_of_error result]; rfl
  | ok a => rw [bind_of_ok result]; rfl

/-- Parts that write nothing make a whole that writes nothing. -/
theorem written_bind_eq_nil {first : Transcript ε α} {next : α → Transcript ε β}
    (silent : written first.acts = []) (later : ∀ a, written (next a).acts = []) :
    written (first >>= next).acts = [] := by
  cases result : first.result with
  | error fault => rw [bind_of_error result, silent]
  | ok a => rw [bind_of_ok result, written_append, silent, later, List.append_nil]

/-- What is seen of a computation: the bytes that it wrote, and its result. -/
def seen (transcript : Transcript ε α) : List UInt8 × Except ε α :=
  (written transcript.acts, transcript.result)

/-- Of a part that writes nothing only the result is seen. -/
theorem seen_bind {first : Transcript ε α} (silent : written first.acts = []) (wider : ε → ε')
    (next : α → Transcript ε' β) :
    (first.mapFault wider >>= next).seen =
      match first.result with
      | .ok a => (next a).seen
      | .error fault => ([], .error (wider fault)) := by
  cases result : first.result with
  | error fault =>
      have fails : (first.mapFault wider).result = .error (wider fault) := by
        rw [mapFault, result]
        rfl
      rw [bind_of_error fails, seen, mapFault, silent]
  | ok a =>
      have goes : (first.mapFault wider).result = .ok a := by
        rw [mapFault, result]
        rfl
      rw [bind_of_ok goes, seen, written_append, mapFault, silent, List.nil_append]
      rfl

/-- What a text that is written first adds to what is seen. -/
theorem seen_write (text : String) (next : Unit → Transcript ε β) :
    (write text >>= next).seen = (Text.encode text ++ (next ()).seen.1, (next ()).seen.2) := by
  rw [bind_of_ok rfl, seen, written_append]
  change (Text.encode text ++ [] ++ _, _) = _
  rw [List.append_nil]
  rfl

theorem seen_write_last (text : String) :
    (write text : Transcript ε Unit).seen = (Text.encode text, .ok ()) :=
  congrArg (·, _) (List.append_nil _)

end Transcript

/-! ## The operations of the tools -/

open Files Machine

theorem written_convert (mode : OverflowMode) (numeral : String) :
    written (convert mode numeral).acts = [] := by
  unfold convert
  exact Transcript.written_bind_eq_nil rfl fun _ => rfl

/-- Converting a numeral comes to what the conversion does. -/
theorem result_convert (mode : OverflowMode) (numeral : String) :
    (convert mode numeral).result = Numeral.convert mode numeral := by
  unfold convert
  rw [Transcript.result_bind]
  change (Numeral.convert mode numeral).bind Except.ok = _
  cases Numeral.convert mode numeral <;> rfl

/-- Measuring a text is not seen, and what follows goes on with the length. -/
theorem seen_measure_bind {ε α : Type} (unit : Length.Measure) (text : String)
    (next : Nat → Transcript ε α) :
    (measure unit text >>= next).seen = (next (unit.lengthOf text)).seen := by
  rw [Transcript.bind_of_ok rfl, Transcript.seen, written_append]
  rfl

/-- Counting newlines writes nothing. -/
theorem written_countFile (fs : FileSystem) (path : Path) :
    written (countFile fs path).acts = [] := by
  unfold countFile
  apply Transcript.written_bind_eq_nil rfl
  intro stream
  apply Transcript.written_bind_eq_nil rfl
  intro noted
  exact Transcript.written_bind_eq_nil rfl fun _ => rfl

/-- Counting the newlines of a file comes to the count of what it opens to. -/
theorem result_countFile (fs : FileSystem) (path : Path) :
    (countFile fs path).result =
      match fs.openFile path with
      | .error cause => .error (.unopened path cause)
      | .ok stream => (Newlines.count stream).map Newlines.Tally.newlines := by
  unfold countFile
  rw [Transcript.result_bind]
  cases fs.openFile path with
  | error cause => rfl
  | ok stream =>
      change (countStream stream).result = _
      unfold countStream
      rw [Transcript.result_bind]
      rfl

theorem written_loadImage (fs : FileSystem) (path : Path) :
    written (loadImage fs path).acts = [] := by
  unfold loadImage
  exact Transcript.written_bind_eq_nil rfl fun _ => Transcript.written_bind_eq_nil rfl fun _ => rfl

/-- Loading an image comes to the memory that the bytes of the file make. -/
theorem result_loadImage (fs : FileSystem) (path : Path) :
    (loadImage fs path).result =
      match fs.readBytes path with
      | .error cause => .error (.unreadable cause)
      | .ok image => Memory.ofImage image := by
  unfold loadImage
  rw [Transcript.result_bind]
  cases fs.readBytes path <;> rfl

theorem written_runProgram (computer : Computer) (memory : Memory) :
    written (runProgram computer memory).acts = [] := by
  unfold runProgram
  exact Transcript.written_bind_eq_nil (written_notes _) fun _ =>
    Transcript.written_bind_eq_nil rfl fun _ => rfl

/-- Running a program comes to the result of the run, with the memory it left. -/
theorem result_runProgram (computer : Computer) (memory : Memory) :
    (runProgram computer memory).result =
      (computer.run memory).result.map (·, (computer.run memory).final.memory) := by
  unfold runProgram
  simp only [Transcript.result_bind]
  rfl

end PocketTools.Journal
