import PocketTools.Proofs.Command.Answers
import PocketTools.Proofs.Newlines.Delivered

/-!
# How calls end

Each way in which a call can end on an output that takes everything is a constructor of `Ends`,
with what the world must be like for it. The exit status and the bytes on the output follow
from the result: a failure leaves the output empty, or holding the echo of a numeral that was
refused, and never a part of an answer (`output_by_result`).
-/

namespace PocketTools.Command

open Files Journal Machine Settings

/-- Why the newlines of a file are not counted: it does not open, or reading it fails after
some bytes. -/
inductive Uncounted (files : FileSystem) (path : Path) : Newlines.Fault → Prop where
  | unopened {cause : Files.Fault} (closed : files.openFile path = .error cause) :
      Uncounted files path (.unopened path cause)
  | unread {stream : Stream} {bytes : List UInt8} {cause : Files.Fault}
      (opened : files.openFile path = .ok stream) (breaks : stream.Delivers bytes (some cause)) :
      Uncounted files path (.unread bytes.length cause)

/-- **How a call ends**: with what on the output, and with what result. -/
inductive Ends (world : World) : Call → List UInt8 → Except Failure Unit → Prop where
  | modeless {call : Invocation String Binconvert.Options} {fault : Settings.Fault}
      (broken : (loadBinary world.files world.environment file).result = .error fault) :
      Ends world (.binconvert call) [] (.error (.settings fault))
  | refused {call : Invocation String Binconvert.Options} {settings : Settings.Binary}
      {fault : Numeral.Fault}
      (loaded : (loadBinary world.files world.environment file).result = .ok settings)
      (refuses : Numeral.convert (call.options.overflow.getD settings.overflow) call.subject =
        .error fault) :
      Ends world (.binconvert call) (Binconvert.echo call.subject) (.error (.numeral fault))
  | converted {call : Invocation String Binconvert.Options} {settings : Settings.Binary}
      {value : UInt64}
      (loaded : (loadBinary world.files world.environment file).result = .ok settings)
      (converts : Numeral.convert (call.options.overflow.getD settings.overflow) call.subject =
        .ok value) :
      Ends world (.binconvert call)
        (Binconvert.echo call.subject ++ Text.encode s!"Decimal: {value.toNat}\n") (.ok ())
  | uncounted {call : Invocation Path Unit} {fault : Newlines.Fault}
      (why : Uncounted world.files call.subject fault) :
      Ends world (.linecount call) [] (.error (.newlines fault))
  | counted {call : Invocation Path Unit} {bytes : List UInt8}
      (reads : world.files.readBytes call.subject = .ok bytes) :
      Ends world (.linecount call) (Text.encode s!"Lines count: {bytes.count 0x0A}\n") (.ok ())
  | measured {call : Invocation String Strlen.Options} {length : Nat}
      (measures : length =
        if call.options.bytes then Length.byteLength call.subject
        else Length.charLength call.subject) :
      Ends world (.strlen call)
        (Text.encode s!"Input: {call.subject}\n" ++ Text.encode s!"Length: {length}\n") (.ok ())
  | budgetless {call : Invocation Path Vm.Options} {fault : Settings.Fault}
      (broken : (loadVm world.files world.environment file).result = .error fault) :
      Ends world (.vm call) [] (.error (.settings fault))
  | imageless {call : Invocation Path Vm.Options} {cause : Files.Fault}
      (unread : world.files.readBytes call.subject = .error cause) :
      Ends world (.vm call) [] (.error (.machine (.unreadable cause)))
  | missized {call : Invocation Path Vm.Options} {image : List UInt8} {fault : Machine.Fault}
      (reads : world.files.readBytes call.subject = .ok image)
      (size : Memory.ofImage image = .error fault) :
      Ends world (.vm call) [] (.error (.machine fault))
  | unhalted {call : Invocation Path Vm.Options} {settings : Settings.Vm} {image : List UInt8}
      {memory : Memory} {fault : Machine.Fault}
      (loaded : (loadVm world.files world.environment file).result = .ok settings)
      (reads : world.files.readBytes call.subject = .ok image)
      (made : Memory.ofImage image = .ok memory)
      (fails : ((Computer.new (call.options.maxSteps.getD settings.maxSteps)).run
        (call.options.inputs memory)).result = .error fault) :
      Ends world (.vm call) [] (.error (.machine fault))
  | halted {call : Invocation Path Vm.Options} {settings : Settings.Vm} {image : List UInt8}
      {memory : Memory} {summary : Summary}
      (loaded : (loadVm world.files world.environment file).result = .ok settings)
      (reads : world.files.readBytes call.subject = .ok image)
      (made : Memory.ofImage image = .ok memory)
      (halts : ((Computer.new (call.options.maxSteps.getD settings.maxSteps)).run
        (call.options.inputs memory)).result = .ok summary) :
      Ends world (.vm call)
        (Vm.lines summary ((Computer.new (call.options.maxSteps.getD settings.maxSteps)).run
          (call.options.inputs memory)).final.memory) (.ok ())

/-! ## Tool by tool -/

variable {world : World}

/-- The converter ends with a broken setting, with its answer, or with a fault of the numeral
behind the echo. -/
theorem Binconvert.ends (call : Invocation String Options) :
    Ends world (.binconvert call) (run world call).seen.1 (run world call).seen.2 := by
  rw [loadsFirst.seen_run]
  cases loaded : (loadBinary world.files world.environment file).result with
  | error fault => exact .modeless loaded
  | ok settings =>
      simp only [seen_convertWith, answer]
      cases converted :
          Numeral.convert (call.options.overflow.getD settings.overflow) call.subject with
      | error fault => exact .refused loaded converted
      | ok value => exact .converted loaded converted

/-- Counting newlines shows one line with the count, or nothing. -/
theorem Linecount.seen_run (call : Invocation Path Unit) :
    (run world call).seen =
      match (countFile world.files call.subject).result with
      | .ok count => (Text.encode s!"Lines count: {count}\n", .ok ())
      | .error fault => ([], .error (.newlines fault)) := by
  rw [run, Transcript.seen_bind (written_countFile _ _)]
  cases (countFile world.files call.subject).result with
  | error fault => rfl
  | ok count => exact Transcript.seen_write_last _

/-- Counting newlines ends with its line or with a fault of the counted file. -/
theorem Linecount.ends (call : Invocation Path Unit) :
    Ends world (.linecount call) (run world call).seen.1 (run world call).seen.2 := by
  rw [seen_run, result_countFile]
  cases opened : world.files.openFile call.subject with
  | error cause => exact .uncounted (.unopened opened)
  | ok stream =>
      obtain ⟨bytes, ending, delivers⟩ := stream.exists_delivers
      simp only [Newlines.count_of_delivers delivers]
      cases ending with
      | some cause => exact .uncounted (.unread opened delivers)
      | none =>
          refine .counted ?_
          rw [FileSystem.readBytes, opened]
          exact Stream.readAll_of_delivers delivers

/-- Measuring a text always ends with its two lines. -/
theorem Strlen.ends (call : Invocation String Options) :
    Ends world (.strlen call) (run call).seen.1 (run call).seen.2 := by
  rw [run, seen_measure_bind, Transcript.seen_write, Transcript.seen_write_last]
  apply Ends.measured
  rw [Options.unit]
  cases call.options.bytes <;> rfl

/-- The computer ends with a broken setting, with its five lines, or with a fault of the
image or the run. -/
theorem Vm.ends (call : Invocation Path Options) :
    Ends world (.vm call) (run world call).seen.1 (run world call).seen.2 := by
  rw [loadsFirst.seen_run]
  cases loaded : (loadVm world.files world.environment file).result with
  | error fault => exact .budgetless loaded
  | ok settings =>
      simp only [seen_runWith, answer]
      cases reads : world.files.readBytes call.subject with
      | error cause => exact .imageless reads
      | ok image =>
          simp only
          cases made : Memory.ofImage image with
          | error fault => exact .missized reads made
          | ok memory =>
              simp only
              cases ran : ((Computer.new (call.options.maxSteps.getD settings.maxSteps)).run
                  (call.options.inputs memory)).result with
              | error fault => exact .unhalted loaded reads made ran
              | ok summary => exact .halted loaded reads made ran

/-- Every call ends in one of the ways told apart. -/
theorem Call.ends (world : World) (call : Call) :
    Ends world call (call.output world).stdout (call.run world).result := by
  cases call with
  | binconvert call => exact Binconvert.ends call
  | linecount call => exact Linecount.ends call
  | strlen call => exact Strlen.ends call
  | vm call => exact Vm.ends call

/-! ## Exit statuses -/

/-- Success has the exit status zero, and no failure does. -/
theorem statusOf_eq_zero_iff (result : Except Failure Unit) :
    statusOf result = 0 ↔ result = .ok () := by
  rcases result with failure | done
  · cases failure <;> simp [statusOf, Failure.status]
  · simp [statusOf]

/-- The exit status 255 stands for a file whose newlines could not be counted. -/
theorem statusOf_eq_255_iff (result : Except Failure Unit) :
    statusOf result = 255 ↔ ∃ fault, result = .error (.newlines fault) := by
  rcases result with failure | done
  · cases failure <;> simp [statusOf, Failure.status]
  · simp [statusOf]

/-- There are three exit statuses. -/
theorem statusOf_cases (result : Except Failure Unit) :
    statusOf result = 0 ∨ statusOf result = 255 ∨ statusOf result = 1 := by
  rcases result with failure | done
  · cases failure <;> simp [statusOf, Failure.status]
  · simp [statusOf]

/-- **What reaches the output, and the exit status.** Take a call on an output that takes
everything. It succeeds with status 0. If it fails, that is with status 255 for a file whose
newlines cannot be counted and with status 1 for any other cause, and the output is empty, but
for the echo of a numeral that was refused. If it succeeds, the output holds the whole answer.
Measuring a text always succeeds. -/
theorem output_by_result (world : World) (call : Call) :
    let output := call.output world
    let result := (call.run world).result
    (output.status = 0 ↔ result = .ok ()) ∧
    (output.status = 255 ↔ ∃ fault, result = .error (.newlines fault)) ∧
    (output.status = 0 ∨ output.status = 255 ∨ output.status = 1) ∧
    (∀ failure, result = .error failure →
      match call, failure with
      | .binconvert conversion, .numeral _ =>
          output.stdout = Text.encode s!"Binary number entered: {conversion.subject}\n"
      | .binconvert _, .settings _ => output.stdout = []
      | .linecount counting, .newlines fault =>
          output.stdout = [] ∧ Uncounted world.files counting.subject fault
      | .vm _, .settings _ => output.stdout = []
      | .vm _, .machine _ => output.stdout = []
      | _, _ => False) ∧
    (∀ measuring, call = .strlen measuring → result = .ok ()) ∧
    (result = .ok () →
      match call with
      | .binconvert conversion => ∃ settings value,
          (loadBinary world.files world.environment file).result = .ok settings ∧
          Numeral.convert (conversion.options.overflow.getD settings.overflow)
            conversion.subject = .ok value ∧
          output.stdout = Text.encode
            (s!"Binary number entered: {conversion.subject}\n" ++ s!"Decimal: {value.toNat}\n")
      | .linecount counting => ∃ bytes,
          world.files.readBytes counting.subject = .ok bytes ∧
          output.stdout = Text.encode s!"Lines count: {bytes.count 0x0A}\n"
      | .strlen measuring =>
          let length :=
            if measuring.options.bytes then Length.byteLength measuring.subject
            else Length.charLength measuring.subject
          output.stdout = Text.encode
            (s!"Input: {measuring.subject}\n" ++ s!"Length: {length}\n")
      | .vm computing => ∃ settings image memory summary,
          (loadVm world.files world.environment file).result = .ok settings ∧
          world.files.readBytes computing.subject = .ok image ∧
          Memory.ofImage image = .ok memory ∧
          let run := (Computer.new (computing.options.maxSteps.getD settings.maxSteps)).run
            (computing.options.inputs memory)
          run.result = .ok summary ∧ output.stdout = Vm.lines summary run.final.memory) := by
  intro output result
  have ends : Ends world call output.stdout result := call.ends world
  have status : output.status = statusOf result := rfl
  rw [status]
  refine ⟨statusOf_eq_zero_iff result, statusOf_eq_255_iff result, statusOf_cases result, ?_⟩
  generalize output.stdout = written at ends ⊢
  clear_value result
  refine ⟨?_, ?_, ?_⟩
  · rintro failure rfl
    cases ends with
    | modeless => rfl
    | refused => rfl
    | uncounted why => exact ⟨rfl, why⟩
    | budgetless => rfl
    | imageless => rfl
    | missized => rfl
    | unhalted => rfl
  · rintro measuring rfl
    cases ends
    rfl
  · rintro rfl
    cases ends with
    | converted loaded converts =>
        refine ⟨_, _, loaded, converts, ?_⟩
        exact (Text.encode_append _ _).symm
    | counted reads => exact ⟨_, reads, rfl⟩
    | measured measures =>
        subst measures
        exact (Text.encode_append _ _).symm
    | halted loaded reads made halts => exact ⟨_, _, _, _, loaded, reads, made, halts, rfl⟩

end PocketTools.Command
