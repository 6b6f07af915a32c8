import PocketTools.Files.Tree
import PocketTools.Proofs.Command.Truncation
import PocketTools.Proofs.Machine.Performed

/-!
# Inputs on the command line

An input that the command line gives comes to the same as one that stands in the image. What
the computer reports is the state that its program leaves, so an input is reported as it was
given unless a store touches it (`runWith_patched`).
-/

namespace PocketTools.Command.Vm

open Files Journal Machine

/-- The options but for the inputs. -/
def Options.withoutInputs (options : Options) : Options :=
  { options with input1 := none, input2 := none }

/-- An image with the inputs that the command line gives in their places. -/
def Options.patch (options : Options) (image : List UInt8) : List UInt8 :=
  let image := options.input1.elim image (putWord image 0x10)
  options.input2.elim image (putWord image 0x12)

/-- The lines about a program that halted. All numbers are in decimal. -/
def fiveLines (input1 input2 output pc r1 r2 steps : Nat) : String :=
  s!"Input1: {input1}\n" ++ s!"Input2: {input2}\n" ++ s!"Output: {output}\n" ++
    s!"Registers: pc={pc} r1={r1} r2={r2}\n" ++ s!"Steps: {steps}\n"

example : fiveLines 40 2 42 12 42 2 5 =
    "Input1: 40\nInput2: 2\nOutput: 42\nRegisters: pc=12 r1=42 r2=2\nSteps: 5\n" := by
  rfl

/-- The answer of the computer is five lines on its registers, words and count. -/
theorem lines_eq (summary : Summary) (memory : Memory) :
    lines summary memory =
      Text.encode (fiveLines memory.input1.toNat memory.input2.toNat memory.output.toNat
        summary.registers.pc.toNat summary.registers.r1.toNat summary.registers.r2.toNat
        summary.steps) := by
  rw [fiveLines, Text.encode_append, Text.encode_append, Text.encode_append, Text.encode_append]
  rfl

/-! ## Inputs in memory and in the image -/

/-- Memory with a word put at a place, if one is given. -/
def putGiven (memory : Memory) (place : Nat) (inside : place + 1 < memorySize)
    (given : Option UInt16) : Memory :=
  given.elim memory fun w => memory.setWordAt place w inside

section Given

variable {memory : Memory} {place : Nat} (inside : place + 1 < memorySize)
  (given : Option UInt16)

/-- A word that is given is put into the image, and without one the image stays. -/
theorem image_putGiven : (putGiven memory place inside given).image =
    given.elim memory.image (putWord memory.image place) := by
  cases given with
  | none => rfl
  | some w => exact memory.image_setWordAt w inside

/-- The word at a place is the given one, or else what was there. -/
theorem wordAt_putGiven : (putGiven memory place inside given).wordAt place inside =
    given.getD (memory.wordAt place inside) := by
  cases given with
  | none => rfl
  | some w => exact memory.wordAt_setWordAt w inside

/-- Words that lie apart from the place of a given word stay. -/
theorem wordAt_putGiven_of_apart {apart : Nat} (within : apart + 1 < memorySize)
    (disjoint : apart + 1 < place ∨ place + 1 < apart) :
    (putGiven memory place inside given).wordAt apart within = memory.wordAt apart within := by
  cases given with
  | none => rfl
  | some w => exact Memory.wordAt_setWordAt_of_apart w inside within disjoint

end Given

namespace Options

variable (options : Options) (memory : Memory)

/-- The given inputs are put one after the other. -/
theorem inputs_eq : options.inputs memory =
    putGiven (putGiven memory 0x10 (by decide) options.input1) 0x12 (by decide)
      options.input2 :=
  rfl

/-- Patching the image of a memory and putting the inputs into the memory come to the same. -/
theorem patch_image : options.patch memory.image = (options.inputs memory).image := by
  rw [inputs_eq, image_putGiven, image_putGiven, patch]

/-- The first input is the one given, or else the one in memory. -/
theorem input1_inputs : (options.inputs memory).input1 = options.input1.getD memory.input1 := by
  rw [inputs_eq, Memory.input1, wordAt_putGiven_of_apart, wordAt_putGiven]
  · rfl
  · exact .inl (by decide)

/-- The second input is the given one, or else that of the image. -/
theorem input2_inputs : (options.inputs memory).input2 = options.input2.getD memory.input2 := by
  rw [inputs_eq, Memory.input2, wordAt_putGiven, wordAt_putGiven_of_apart]
  · rfl
  · exact .inr (by decide)

end Options

/-! ## Answers -/

/-- What is seen of a run. -/
def answerOf (run : Run) : List UInt8 × Except Failure Unit :=
  match run.result with
  | .error fault => ([], .error (.machine fault))
  | .ok summary => (lines summary run.final.memory, .ok ())

section Image

variable {files other : FileSystem} {call : Invocation Path Options} {image : List UInt8}
  {memory : Memory} {limit : UInt64}

/-- The computer's answer on an image that gives a memory. -/
theorem answer_of_image (found : files.readBytes call.subject = .ok image)
    (made : Memory.ofImage image = .ok memory) :
    answer limit files call = answerOf ((Computer.new limit).run (call.options.inputs memory)) := by
  simp only [answer, found, made]
  rfl

/-- Inputs on the command line are as good as inputs in the image. -/
theorem answer_patched {path : Path} (found : files.readBytes call.subject = .ok image)
    (size : image.length = memorySize)
    (patched : other.readBytes path = .ok (call.options.patch image)) :
    answer limit files call =
      answer limit other { call with subject := path, options := call.options.withoutInputs } := by
  obtain ⟨memory, made⟩ := Memory.exists_ofImage size
  have madePatched : Memory.ofImage (call.options.patch image) =
      .ok (call.options.inputs memory) := by
    rw [Memory.ofImage_eq_ok_iff, ← Options.patch_image, Memory.ofImage_eq_ok_iff.mp made]
  rw [answer_of_image found made, answer_of_image patched madePatched]
  rfl

/-- A call whose run halts shows the lines on the state that the run left. -/
theorem seen_runWith_of_halted {settings : Settings.Vm} {summary : Summary}
    (found : files.readBytes call.subject = .ok image) (made : Memory.ofImage image = .ok memory)
    (halted : ((Computer.new (call.options.maxSteps.getD settings.maxSteps)).run
      (call.options.inputs memory)).result = .ok summary) :
    (runWith settings files call).seen =
      (lines summary ((Computer.new (call.options.maxSteps.getD settings.maxSteps)).run
        (call.options.inputs memory)).final.memory, .ok ()) := by
  rw [seen_runWith, answer_of_image found made, answerOf, halted]

end Image

/-- **Inputs given are inputs patched, and the report is the final state.** Take an image of 20
bytes. A call with inputs comes to the same as the call without them on the image with the
inputs in their places, low byte first, on every output. If the program fails on the machine,
nothing is written. If it halts, the lines give the words that it leaves at 0x10, 0x12 and 0x0E,
the registers that it leaves, and the number of instructions executed. An input is then
reported as it was given, or as it is in the image, unless a store was executed whose word
has a byte of the input. -/
theorem runWith_patched (settings : Settings.Vm) (files : FileSystem)
    (call : Invocation Path Options) (image : List UInt8)
    (found : files.readBytes call.subject = .ok image) (size : image.length = 20) :
    (∀ (other : FileSystem) (path : Path),
      other.readBytes path = .ok (call.options.patch image) → ∀ room,
        outcome room (runWith settings files call) =
          outcome room (runWith settings other
            { call with subject := path, options := call.options.withoutInputs })) ∧
    ∃ memory, Memory.ofImage (call.options.patch image) = .ok memory ∧
      let computer := Computer.new (call.options.maxSteps.getD settings.maxSteps)
      let run := computer.run memory
      let registers := run.final.registers
      let input1 := run.final.memory.wordAt 0x10 (by decide)
      let input2 := run.final.memory.wordAt 0x12 (by decide)
      let output := run.final.memory.wordAt 0x0E (by decide)
      (∀ fault, run.result = .error fault → ∀ room,
        outcome room (runWith settings files call) = ([], .error (.machine fault), 1)) ∧
      ∀ summary, run.result = .ok summary →
        let performed := memory.start.performed run.executed.length
        performed.map Instruction.opcode = run.executed.map Executed.opcode ∧
        outcome none (runWith settings files call) =
          (Text.encode (fiveLines input1.toNat input2.toNat output.toNat registers.pc.toNat
            registers.r1.toNat registers.r2.toNat run.executed.length), .ok (), 0) ∧
        (NoStoreAt [0x0F, 0x10, 0x11] performed →
          input1 = call.options.input1.getD (word image[0x10] image[0x11])) ∧
        (NoStoreAt [0x11, 0x12] performed →
          input2 = call.options.input2.getD (word image[0x12] image[0x13])) := by
  obtain ⟨original, made⟩ := Memory.exists_ofImage size
  refine ⟨?_, call.options.inputs original, ?_, ?_, ?_⟩
  · intro other path patched room
    apply outcome_eq_of_seen_eq
    rw [seen_runWith, seen_runWith]
    exact answer_patched found size patched
  · rw [Memory.ofImage_eq_ok_iff, ← Options.patch_image, Memory.ofImage_eq_ok_iff.mp made]
  · intro fault fails room
    apply outcome_of_seen_error
    rw [seen_runWith, answer_of_image found made, answerOf, fails]
  · intro summary halted performed
    obtain ⟨registers, steps, operations⟩ := Computer.report_of_halted halted
    have counted : performed = (call.options.inputs original).start.performed summary.steps :=
      congrArg _ steps.symm
    have word1 : original.input1 = word image[0x10] image[0x11] :=
      Memory.wordAt_of_ofImage made _ size
    have word2 : original.input2 = word image[0x12] image[0x13] :=
      Memory.wordAt_of_ofImage made _ size
    -- what should be reported for an input is what stood in memory when the run started
    rw [counted, ← word1, ← word2, ← Options.input1_inputs, ← Options.input2_inputs]
    refine ⟨operations.symm, ?_, Computer.input1_of_clear halted, Computer.input2_of_clear halted⟩
    have seen := seen_runWith_of_halted found made halted
    rw [lines_eq, registers, steps] at seen
    exact outcome_none_of_seen seen

/-- A program that adds the inputs, stores the sum as its output and halts. -/
def sumImage : List UInt8 :=
  [0x01, 0x01, 0x10, 0x01, 0x02, 0x12, 0x03, 0x01, 0x02, 0x02, 0x01, 0x0E, 0xFF, 0, 0, 0,
    0xAA, 0x14, 0x0C, 0]

/-- A directory with one image. -/
def imageFiles (image : List UInt8) : FileSystem :=
  (Tree.empty.insert (Path.ofString "image") (.file image)).fileSystem

/-- The memory of that program with 40 as its first input. -/
def sumMemory : Memory :=
  ⟨#v[0x01, 0x01, 0x10, 0x01, 0x02, 0x12, 0x03, 0x01, 0x02, 0x02, 0x01, 0x0E, 0xFF, 0, 0, 0,
    40, 0, 0x0C, 0]⟩

/-- The sum of a given input and one from the image. The output stands beside the inputs, so
the inputs are reported as they were given. -/
theorem runWith_patched_sum :
    let call : Invocation Path Options :=
      ⟨Path.ofString "image", { input1 := some 40, maxSteps := some 5 }, 0⟩
    (imageFiles sumImage).readBytes call.subject = .ok sumImage ∧ sumImage.length = 20 ∧
      let final := ((Computer.new 5).run sumMemory).final.memory
      final.wordAt 0x10 (by decide) = 40 ∧ final.wordAt 0x12 (by decide) = 12 ∧
        outcome none (runWith {} (imageFiles sumImage) call) =
          (Text.encode (fiveLines 40 12 52 12 52 12 5), .ok (), 0) := by
  intro call
  have found : (imageFiles sumImage).readBytes call.subject = .ok sumImage := by rfl
  obtain ⟨-, memory, made, -, halts⟩ :=
    runWith_patched {} (imageFiles sumImage) call sumImage found (by decide)
  obtain rfl : memory = sumMemory := by
    have same : Memory.ofImage (call.options.patch sumImage) = .ok sumMemory := by rfl
    exact Except.ok.inj (made.symm.trans same)
  have budget : call.options.maxSteps.getD ({} : Settings.Vm).maxSteps = 5 := by rfl
  rw [budget] at halts
  obtain ⟨-, lines, given1, given2⟩ := halts ⟨5, ⟨12, 52, 12⟩⟩ (by rfl)
  have input1 : ((Computer.new 5).run sumMemory).final.memory.wordAt 0x10 (by decide) = 40 :=
    given1 (by decide +kernel)
  have input2 : ((Computer.new 5).run sumMemory).final.memory.wordAt 0x12 (by decide) = 12 :=
    given2 (by decide +kernel)
  have output : ((Computer.new 5).run sumMemory).final.memory.wordAt 0x0E (by decide) = 52 := by
    decide +kernel
  have registers : ((Computer.new 5).run sumMemory).final.registers = ⟨12, 52, 12⟩ := by
    decide +kernel
  have steps : ((Computer.new 5).run sumMemory).executed.length = 5 := by
    decide +kernel
  rw [input1, input2, output, registers, steps] at lines
  exact ⟨found, by decide, input1, input2, lines⟩

end PocketTools.Command.Vm
