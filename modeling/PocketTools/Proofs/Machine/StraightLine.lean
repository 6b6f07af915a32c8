import PocketTools.Proofs.Machine.Budget

/-!
# Straight-line programs

A straight-line program is a list of loads, stores, additions and subtractions on the two
general registers. What it means is the fold of the effects of its lines
(`Line.effect`), in which there is no program counter and code is no data. Laid out in
memory from address 0, with a halt after it, it computes that meaning if no store falls
into the code (`run_assembled`). Loads may read the code.
-/

namespace PocketTools.Machine

/-- A register that is not the program counter. -/
inductive General where
  | r1
  | r2
  deriving DecidableEq, Repr

/-- The address of a word that lies in memory as a whole. -/
abbrev WordAddress := Fin 19

/-- **A line of a straight-line program.** -/
inductive Line where
  | load (target : General) (address : WordAddress)
  | store (source : General) (address : WordAddress)
  | add (target source : General)
  | sub (target source : General)
  deriving DecidableEq, Repr

/-- What the lines work on: the general registers and memory. -/
structure Workspace where
  r1 : UInt16
  r2 : UInt16
  memory : Memory

namespace Workspace

/-- The value of a register. -/
def get (w : Workspace) : General → UInt16
  | .r1 => w.r1
  | .r2 => w.r2

/-- The workspace with another value in a register. -/
def set (w : Workspace) (register : General) (value : UInt16) : Workspace :=
  match register with
  | .r1 => { w with r1 := value }
  | .r2 => { w with r2 := value }

/-- The machine with the workspace and the program counter on a place. -/
def standing (w : Workspace) (place : Nat) : State :=
  ⟨⟨UInt16.ofNat place, w.r1, w.r2⟩, w.memory⟩

end Workspace

theorem WordAddress.room (address : WordAddress) : address.val + 1 < memorySize :=
  Nat.succ_lt_succ address.isLt

/-- **The effect of a line.** -/
def Line.effect (w : Workspace) : Line → Workspace
  | .load target address => w.set target (w.memory.wordAt address address.room)
  | .store source address =>
      { w with memory := w.memory.setWordAt address (w.get source) address.room }
  | .add target source => w.set target (w.get target + w.get source)
  | .sub target source => w.set target (w.get target - w.get source)

/-- The byte that names a register. -/
def General.byte : General → UInt8
  | .r1 => 1
  | .r2 => 2

/-- The three bytes of a line. -/
def Line.encode : Line → List UInt8
  | .load target address => [0x01, target.byte, UInt8.ofNat address]
  | .store source address => [0x02, source.byte, UInt8.ofNat address]
  | .add target source => [0x03, target.byte, source.byte]
  | .sub target source => [0x04, target.byte, source.byte]

/-- The image that a program makes: its code, a halt, and the remaining bytes. -/
def assemble (program : List Line) (rest : List UInt8) : List UInt8 :=
  program.flatMap Line.encode ++ 0xFF :: rest

/-- The line stores nothing in front of a place. -/
def Line.StoresFrom (place : Nat) : Line → Prop
  | .store _ address => place ≤ address
  | .load .. | .add .. | .sub .. => True

instance (place : Nat) : (line : Line) → Decidable (line.StoresFrom place)
  | .store _ address => inferInstanceAs (Decidable (place ≤ address.val))
  | .load .. | .add .. | .sub .. => inferInstanceAs (Decidable True)

/-! ## The code in memory -/

/-- Every line is coded in three bytes. -/
theorem Line.length_encode (line : Line) : line.encode.length = 3 := by
  cases line <;> rfl

theorem length_flatMap_encode (program : List Line) :
    (program.flatMap Line.encode).length = 3 * program.length := by
  induction program with
  | nil => rfl
  | cons line program ih =>
      rw [List.flatMap_cons, List.length_append, line.length_encode, ih, List.length_cons]
      omega

/-- The bytes of the `i`-th line stand together, after those of the lines before it. -/
theorem getElem?_flatMap_encode {program : List Line} {i k : Nat} {line : Line}
    (found : program[i]? = some line) (part : k < 3) :
    (program.flatMap Line.encode)[3 * i + k]? = line.encode[k]? := by
  induction program generalizing i with
  | nil => cases found
  | cons first program ih =>
      have size := first.length_encode
      rw [List.flatMap_cons]
      cases i with
      | zero =>
          rw [List.getElem?_cons_zero] at found
          cases found
          rw [Nat.mul_zero, Nat.zero_add, List.getElem?_append_left (size ▸ part)]
      | succ i =>
          rw [List.getElem?_append_right (by omega), size,
            show 3 * (i + 1) + k - 3 = 3 * i + k by omega]
          exact ih found

namespace Memory

variable {memory : Memory} {program : List Line} {rest : List UInt8}

theorem getElem?_image (memory : Memory) (q : Nat) : memory.image[q]? = memory.bytes[q]? := by
  rw [image, Vector.getElem?_toList]

/-- The bytes of a line in a memory with the program. -/
theorem getElem?_of_line (laid : memory.image = assemble program rest) {i k : Nat} {line : Line}
    (found : program[i]? = some line) (part : k < 3) :
    memory.bytes[3 * i + k]? = line.encode[k]? := by
  obtain ⟨inside, -⟩ := List.getElem?_eq_some_iff.mp found
  rw [← getElem?_image, laid, assemble, List.getElem?_append_left]
  · exact getElem?_flatMap_encode found part
  · rw [length_flatMap_encode]
    omega

/-- A program that is laid out leaves room for the halt behind it. -/
theorem code_lt (laid : memory.image = assemble program rest) :
    3 * program.length < memorySize := by
  have size : memory.image.length = memorySize := Vector.length_toList
  rw [← size, laid, assemble, List.length_append, length_flatMap_encode, List.length_cons]
  omega

/-- The halt behind the lines. -/
theorem getElem?_of_halt (laid : memory.image = assemble program rest) :
    memory.bytes[3 * program.length]? = some 0xFF := by
  rw [← getElem?_image, laid, assemble, ← length_flatMap_encode, List.getElem?_append_right
    (Nat.le_refl _), Nat.sub_self, List.getElem?_cons_zero]

end Memory

/-! ## One line -/

/-- The register that the machine knows a general register as. -/
def General.register : General → Register
  | .r1 => .r1
  | .r2 => .r2

/-- The instruction that the machine executes for a line. -/
def Line.instruction : Line → Instruction
  | .load target address => .loadWord target.register (UInt8.ofNat address)
  | .store source address => .storeWord source.register (UInt8.ofNat address)
  | .add target source => .add target.register source.register
  | .sub target source => .sub target.register source.register

namespace Workspace

variable {w : Workspace} {p : Nat}

theorem place_standing (fits : p < UInt16.size) : (w.standing p).place = p :=
  UInt16.toNat_ofNat_of_lt' fits

@[simp] theorem seek_standing (w : Workspace) (p q : Nat) :
    (w.standing p).seek q = w.standing q :=
  rfl

@[simp] theorem advance_standing (w : Workspace) (p : Nat) :
    (w.standing p).advance = w.standing (p + 1) :=
  State.advance_seek (w.standing p) p

@[simp] theorem memory_standing (w : Workspace) (p : Nat) : (w.standing p).memory = w.memory :=
  rfl

@[simp] theorem get_standing (w : Workspace) (p : Nat) (register : General) :
    (w.standing p).registers.get register.register = w.get register := by
  cases register <;> rfl

@[simp] theorem put_standing (w : Workspace) (p : Nat) (register : General) (value : UInt16) :
    (w.standing p).put register.register value = (w.set register value).standing p := by
  cases register <;> rfl

@[simp] theorem withMemory_standing (w : Workspace) (p : Nat) (memory : Memory) :
    State.mk (w.standing p).registers memory =
      ({ w with memory := memory } : Workspace).standing p :=
  rfl

end Workspace

namespace Memory

variable {memory : Memory} {p : Nat}

/-- The byte of a general register is read as that register. -/
theorem fetchRegister_of_general {register : General}
    (found : memory.bytes[p]? = some register.byte) :
    memory.fetchRegister p = .ok register.register := by
  rw [fetchRegister, fetch_eq_ok_iff.mpr found]
  cases register <;> rfl

/-- A line in memory is decoded as its instruction. -/
theorem instructionAt_of_line {line : Line}
    (code : ∀ k < 3, memory.bytes[p + k]? = line.encode[k]?) :
    memory.instructionAt p = .ok line.instruction := by
  have known : memory.fetch p = .ok line.instruction.opcode.byte := by
    rw [fetch_eq_ok_iff, ← Nat.add_zero p, code 0 (by decide)]
    cases line <;> rfl
  have first := code 1 (by decide)
  have second := code 2 (by decide)
  rw [instructionAt_of_opcode known]
  cases line with
  | load register address | store register address =>
      change (do let register ← memory.fetchRegister (p + 1); _) = _
      rw [fetchRegister_of_general first]
      change (do let address ← memory.fetch (p + 2); _) = _
      rw [fetch_eq_ok_iff.mpr second]
      rfl
  | add target source | sub target source =>
      change (do let target ← memory.fetchRegister (p + 1); _) = _
      rw [fetchRegister_of_general first]
      change (do let source ← memory.fetchRegister (p + 2); _) = _
      rw [fetchRegister_of_general second]
      rfl

end Memory

/-- The address of a word fits into an operand. -/
theorem WordAddress.toNat_ofNat (address : WordAddress) :
    (UInt8.ofNat address.val).toNat = address :=
  UInt8.toNat_ofNat_of_lt' (Nat.lt_trans address.isLt (by decide))

/-- **One line.** The machine on the code of a line does what the line says, and stands on
the byte after the line. -/
theorem Line.cycle_eq (line : Line) {w : Workspace} {p : Nat} (inside : p < memorySize)
    (code : ∀ k < 3, w.memory.bytes[p + k]? = line.encode[k]?) :
    (w.standing p).cycle = .next ((line.effect w).standing (p + 3)) := by
  have fits : p < UInt16.size := Nat.lt_trans inside (by decide)
  have count : line.instruction.opcode.operandCount = 2 := by cases line <;> rfl
  rw [State.cycle_eq_referenceStep, State.referenceStep, Workspace.place_standing fits,
    Workspace.memory_standing, Memory.instructionAt_of_line code]
  simp only [count, Workspace.seek_standing]
  cases line with
  | load target address =>
      have loaded : w.memory.readWord (UInt8.ofNat address.val).toUInt64 =
          .ok (w.memory.wordAt address address.room) := by
        have place : (UInt8.ofNat address.val).toUInt64.toNat = address :=
          (UInt8.toNat_toUInt64 _).trans address.toNat_ofNat
        rw [Memory.readWord_of_lt (place.symm ▸ address.room)]
        simp only [place]
      simp only [instruction, Instruction.perform, effect, Workspace.memory_standing, loaded,
        Workspace.put_standing, Workspace.advance_standing]
  | store source address =>
      have stored : w.memory.writeWord (UInt8.ofNat address.val).toUInt64 (w.get source) =
          .ok (w.memory.setWordAt address (w.get source) address.room) := by
        rw [Memory.writeWord_operand]
        simp only [address.toNat_ofNat, address.room, ↓reduceDIte]
      simp only [instruction, Instruction.perform, effect, Workspace.memory_standing,
        Workspace.get_standing, stored, Workspace.withMemory_standing, Workspace.advance_standing]
  | add target source | sub target source =>
      simp only [instruction, Instruction.perform, effect, Workspace.get_standing,
        Workspace.put_standing, Workspace.advance_standing]

/-- A halt leaves the machine where it stands. -/
theorem Workspace.cycle_halt {w : Workspace} {p : Nat} (inside : p < memorySize)
    (code : w.memory.bytes[p]? = some 0xFF) :
    (w.standing p).cycle = .halted (w.standing p) := by
  have fits : p < UInt16.size := Nat.lt_trans inside (by decide)
  have known : w.memory.fetch p = .ok Opcode.halt.byte := Memory.fetch_eq_ok_iff.mpr code
  have decoded : w.memory.instructionAt p = .ok .halt := Memory.instructionAt_of_opcode known
  rw [State.cycle_eq_referenceStep, State.referenceStep, place_standing fits, memory_standing,
    decoded]
  rfl

/-- The frame of a line: it changes nothing in front of its store. -/
theorem Line.getElem?_effect {line : Line} {first q : Nat} (clear : line.StoresFrom first)
    (before : q < first) (w : Workspace) :
    (line.effect w).memory.bytes[q]? = w.memory.bytes[q]? := by
  cases line with
  | store source address =>
      have apart : q < address.val := Nat.lt_of_lt_of_le before clear
      rw [effect, Memory.getElem?_setWordAt, if_neg (by omega), if_neg (by omega)]
  | load target address => cases target <;> rfl
  | add target source | sub target source => cases target <;> rfl

/-! ## A program -/

/-- What the first `n` lines of a program come to, from zero registers. -/
def workspaceAfter (program : List Line) (memory : Memory) (n : Nat) : Workspace :=
  (program.take n).foldl Line.effect ⟨0, 0, memory⟩

section Program

variable {program : List Line} {rest : List UInt8} {memory : Memory} {n : Nat}

/-- The workspace after one line more is what that line makes of it. -/
theorem workspaceAfter_succ {line : Line} (found : program[n]? = some line) :
    workspaceAfter program memory (n + 1) = line.effect (workspaceAfter program memory n) := by
  rw [workspaceAfter, List.take_add_one, found, List.foldl_append]
  rfl

/-- The code stays as it was while the program runs. -/
theorem getElem?_workspaceAfter {first q : Nat}
    (clear : ∀ line ∈ program, line.StoresFrom first) (before : q < first)
    (within : n ≤ program.length) :
    (workspaceAfter program memory n).memory.bytes[q]? = memory.bytes[q]? := by
  induction n with
  | zero => rfl
  | succ n ih =>
      have found : program[n]? = some program[n] := List.getElem?_eq_getElem within
      rw [workspaceAfter_succ found,
        Line.getElem?_effect (clear _ (List.getElem_mem within)) before]
      exact ih (Nat.le_of_succ_le within)

/-- **The machine follows the program**: after `n` instructions it has what `n` lines come
to, and stands on the next line. -/
theorem after_eq_standing (laid : memory.image = assemble program rest)
    (clear : ∀ line ∈ program, line.StoresFrom (3 * program.length + 1))
    (within : n ≤ program.length) :
    memory.start.after n = some ((workspaceAfter program memory n).standing (3 * n)) := by
  have code := Memory.code_lt laid
  induction n with
  | zero => rfl
  | succ n ih =>
      have found : program[n]? = some program[n] := List.getElem?_eq_getElem within
      rw [State.after_succ_of_after (ih (Nat.le_of_succ_le within)), State.next?_eq_some_iff,
        workspaceAfter_succ found]
      apply Line.cycle_eq
      · omega
      · intro k part
        rw [← Memory.getElem?_of_line laid found part]
        apply getElem?_workspaceAfter clear _ (Nat.le_of_succ_le within)
        omega

/-- Behind the last line the machine halts. -/
theorem stopsAt_halt (laid : memory.image = assemble program rest)
    (clear : ∀ line ∈ program, line.StoresFrom (3 * program.length + 1)) :
    let final := (workspaceAfter program memory program.length).standing (3 * program.length)
    memory.start.StopsAt (program.length + 1) (.ok ⟨program.length + 1, final.registers⟩)
      final := by
  intro final
  apply State.StopsAt.halted (after_eq_standing laid clear (Nat.le_refl _))
  apply Workspace.cycle_halt (Memory.code_lt laid)
  rw [getElem?_workspaceAfter clear (Nat.lt_succ_self _) (Nat.le_refl _)]
  exact Memory.getElem?_of_halt laid

end Program

/-- **A straight-line program computes what its lines mean.** Lay a program out from address
0 with a halt and any bytes behind it, and let no store fall into the code. Under every
budget that reaches the halt the run ends there, with the registers and the memory that the
effects of the lines come to in order. Every smaller budget is exceeded. The code is the
same in the end. -/
theorem run_assembled (program : List Line) (rest : List UInt8)
    (fits : 3 * program.length + 1 + rest.length = 20)
    (clear : ∀ line ∈ program, line.StoresFrom (3 * program.length + 1)) :
    ∃ memory, Memory.ofImage (assemble program rest) = .ok memory ∧
      let final := program.foldl Line.effect ⟨0, 0, memory⟩
      let registers : Registers := ⟨UInt16.ofNat (3 * program.length), final.r1, final.r2⟩
      (∀ computer : Computer, program.length + 1 ≤ computer.limit.toNat →
        (computer.run memory).result = .ok ⟨program.length + 1, registers⟩ ∧
        (computer.run memory).final = ⟨registers, final.memory⟩) ∧
      (∀ computer : Computer, computer.limit.toNat ≤ program.length →
        (computer.run memory).result = .error (.stepLimitExceeded computer.limit)) ∧
      ∀ q ≤ 3 * program.length, final.memory.bytes[q]? = (assemble program rest)[q]? := by
  have size : (assemble program rest).length = 20 := by
    rw [assemble, List.length_append, length_flatMap_encode, List.length_cons]
    omega
  obtain ⟨memory, made⟩ := Memory.exists_ofImage size
  have laid : memory.image = assemble program rest := Memory.ofImage_eq_ok_iff.mp made
  have whole : program.foldl Line.effect ⟨0, 0, memory⟩ =
      workspaceAfter program memory program.length := by
    rw [workspaceAfter, List.take_length]
  have stops := stopsAt_halt laid clear
  refine ⟨memory, made, ?_, ?_, ?_⟩
  · intro computer enough
    rw [computer.run_eq_runWithin, Memory.runWithin_of_stopsAt stops enough, whole]
    exact ⟨rfl, rfl⟩
  · intro computer short
    have reached := stops.isSome_after_iff.mpr (Nat.lt_succ_of_le short)
    obtain ⟨t, reached⟩ := Option.isSome_iff_exists.mp reached
    rw [Computer.run_of_after reached]
  · intro q code
    rw [whole, getElem?_workspaceAfter clear (Nat.lt_succ_of_le code) (Nat.le_refl _),
      ← Memory.getElem?_image, laid]

/-- A program that reads a word of its own code, stores across the inputs, and wraps around. -/
def acrossInputs : List Line :=
  [.load .r1 0x10, .load .r2 0x00, .add .r1 .r2, .store .r1 0x11, .sub .r2 .r1]

/-- The budget of six instructions reaches the halt. -/
theorem run_assembled_acrossInputs :
    3 * acrossInputs.length + 1 + [0x28, 0, 2, 0].length = 20 ∧
    (∀ line ∈ acrossInputs, line.StoresFrom (3 * acrossInputs.length + 1)) ∧
    ∃ memory, Memory.ofImage (assemble acrossInputs [0x28, 0, 2, 0]) = .ok memory ∧
      ((Computer.new 6).run memory).result = .ok ⟨6, ⟨15, 0x0129, 0xFFD8⟩⟩ := by
  refine ⟨by decide, by decide, ?_⟩
  obtain ⟨memory, made, enough, -⟩ :=
    run_assembled acrossInputs [0x28, 0, 2, 0] (by decide) (by decide)
  obtain ⟨result, -⟩ := enough (Computer.new 6) (by decide)
  refine ⟨memory, made, result.trans ?_⟩
  rw [Memory.ofImage, dif_pos (by decide)] at made
  cases made
  rfl

end PocketTools.Machine
