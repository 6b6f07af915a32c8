import PocketTools.Proofs.Settings.Sources
import PocketTools.Proofs.Text.Decimal
import PocketTools.Proofs.Text.Trimmed

/-!
# Overriding by one environment after another

Which texts are settings is said without the readers: a mode is its word in letters of any
case, and a budget is a decimal number of 64 bits, both with blanks around them
(`GivesMode`, `GivesSteps`). Settings that one environment after another has overridden
have the value that the latest of them gives (`Latest`), and a fault changes nothing
(`overridden_last_given`).
-/

namespace PocketTools.Settings

/-- The variable for the mode holds one. -/
def GivesMode (environment : Environment) (mode : OverflowMode) : Prop :=
  ∃ s word, environment "ARCHTOOLS_OVERFLOW" = some s ∧ Text.Surrounds s word ∧
    Text.lowerAscii word = mode.word

/-- The variable for the budget holds one. -/
def GivesSteps (environment : Environment) (steps : UInt64) : Prop :=
  ∃ s number, environment "ARCHTOOLS_VM_MAX_STEPS" = some s ∧ Text.Surrounds s number ∧
    Text.Decimal number.toList steps.toNat

/-- A variable is unset, or holds nothing but blanks. -/
def Silent (environment : Environment) (key : String) : Prop :=
  ∀ s, environment key = some s → ∀ c ∈ s.toList, Text.isBlank c

/-- **The latest value.** It is the value that the last environment with one gives, and the
default if none gives any. -/
inductive Latest {α : Type} (gives : Environment → α → Prop) (default : α) :
    List Environment → α → Prop where
  | never {environments : List Environment}
      (none : ∀ environment ∈ environments, ∀ a, ¬ gives environment a) :
      Latest gives default environments default
  | given {earlier later : List Environment} {environment : Environment} {a : α}
      (value : gives environment a) (since : ∀ other ∈ later, ∀ b, ¬ gives other b) :
      Latest gives default (earlier ++ environment :: later) a

/-- The settings of all tools after one environment after another. -/
def Tools.overridden (environments : List Environment) : Tools :=
  environments.foldl (fun tools environment => (tools.override environment).tools) {}

/-! ## What a variable gives -/

section Variable

variable {α : Type} {environment : Environment} {key : String}
  {read : String → Except ValueFault α} {gives : Environment → α → Prop} {a : α}

/-- An environment is silent about a key if the key sets nothing. -/
theorem silent_iff : Silent environment key ↔ setting? environment key read = .ok none := by
  rw [setting?]
  cases found : environment key with
  | none =>
      refine ⟨fun _ => rfl, fun _ s held => ?_⟩
      rw [found] at held
      cases held
  | some s =>
      have silent : Silent environment key ↔ Text.trim s = "" := by
        rw [Text.trim_eq_empty_iff, Silent, found]
        exact ⟨fun all => all s rfl, fun all _ held => Option.some.inj held ▸ all⟩
      rw [silent]
      simp only
      by_cases blank : Text.trim s = ""
      · simp only [blank, ↓reduceIte]
      · simp only [blank, ↓reduceIte, false_iff]
        cases read s <;> simp only [reduceCtorEq, not_false_eq_true, Except.ok.injEq]

/-- A variable gives what is read from it, if nothing is read from blanks. -/
theorem setting?_eq_some_iff (filled : ∀ s a, read s = .ok a → Text.trim s ≠ "") :
    setting? environment key read = .ok (some a) ↔
      ∃ s, environment key = some s ∧ read s = .ok a := by
  rw [setting?]
  cases found : environment key with
  | none => simp only [reduceCtorEq, false_and, exists_false, Except.ok.injEq]
  | some s =>
      simp only [Option.some.injEq, exists_eq_left']
      by_cases blank : Text.trim s = ""
      · simp only [blank, ↓reduceIte, Except.ok.injEq, reduceCtorEq, false_iff]
        exact fun reads => filled s a reads blank
      · simp only [blank, ↓reduceIte]
        cases read s <;> simp only [reduceCtorEq, Except.ok.injEq, Option.some.injEq]

/-- A fault names the variable. -/
theorem setting?_eq_error {fault : Fault} (fails : setting? environment key read = .error fault) :
    ∃ cause, fault = .badVariable key cause := by
  obtain ⟨given, inVariable⟩ := exists_variableSays environment key read
  rw [setting?_eq inVariable] at fails
  cases given with
  | ok value => cases fails
  | error cause =>
      cases fails
      exact ⟨cause, rfl⟩

end Variable

/-- A mode is read from its word, with blanks around it and in letters of any case. -/
theorem readMode_eq_ok_iff {s : String} {mode : OverflowMode} :
    readMode s = .ok mode ↔ Text.lowerAscii (Text.trim s) = mode.word := by
  rw [← OverflowMode.ofWord?_eq_some_iff, readMode]
  cases OverflowMode.ofWord? (Text.lowerAscii (Text.trim s)) <;> simp

/-- A budget is read from a decimal numeral of a word, with blanks around it. -/
theorem readSteps_eq_ok_iff {s : String} {steps : UInt64} :
    readSteps s = .ok steps ↔ Text.Decimal (Text.trim s).toList steps.toNat := by
  rw [← Text.readUnsigned_eq_ok_iff, readSteps]
  cases Text.readUnsigned (Text.trim s) <;> simp

/-- An environment gives the mode that its variable sets. -/
theorem givesMode_iff {environment : Environment} {mode : OverflowMode} :
    GivesMode environment mode ↔
      setting? environment overflowVariable readMode = .ok (some mode) := by
  have filled : ∀ s mode, readMode s = .ok mode → Text.trim s ≠ "" := by
    intro s mode reads blank
    rw [readMode_eq_ok_iff, blank] at reads
    cases mode <;> exact absurd reads (by decide)
  rw [setting?_eq_some_iff filled, GivesMode]
  simp only [readMode_eq_ok_iff, ← Text.trim_eq_iff, exists_and_left, exists_eq_left']
  rfl

theorem givesSteps_iff {environment : Environment} {steps : UInt64} :
    GivesSteps environment steps ↔
      setting? environment maxStepsVariable readSteps = .ok (some steps) := by
  have filled : ∀ s steps, readSteps s = .ok steps → Text.trim s ≠ "" := by
    intro s steps reads blank
    rw [readSteps_eq_ok_iff, blank] at reads
    rw [Text.decimal_unsigned_iff (by simp)] at reads
    exact reads.1 rfl
  rw [setting?_eq_some_iff filled, GivesSteps]
  simp only [readSteps_eq_ok_iff, ← Text.trim_eq_iff, exists_and_left, exists_eq_left']
  rfl

/-! ## One environment -/

/-- **Overriding one value** by a variable: it becomes what the variable gives, and stays as
it was if that gives nothing. Only what is neither a value nor blank is a fault. -/
inductive Overrides {α : Type} (gives : Environment → α → Prop) (key : String)
    (environment : Environment) (before : α) : Option Fault → α → Prop where
  | given {a : α} (value : gives environment a) : Overrides gives key environment before none a
  | silent (silent : Silent environment key) (nothing : ∀ a, ¬ gives environment a) :
      Overrides gives key environment before none before
  | invalid {cause : ValueFault} (loud : ¬ Silent environment key)
      (nothing : ∀ a, ¬ gives environment a) :
      Overrides gives key environment before (some (.badVariable key cause)) before

/-- Settings with one value, overridden by the variable for it. -/
theorem overrides_attempt {α σ : Type} {gives : Environment → α → Prop} {key : String}
    {read : String → Except ValueFault α} {environment : Environment}
    {override : σ → Except Fault σ} {make : α → σ} {value : σ → α}
    (given_iff : ∀ a, gives environment a ↔ setting? environment key read = .ok (some a))
    (shape : ∀ settings, override settings =
      (setting? environment key read).map fun given => given.elim settings make)
    (made : ∀ a, value (make a) = a) (before : σ) :
    let step := attempt before (override before)
    Overrides gives key environment (value before) step.1 (value step.2) := by
  rw [shape]
  cases said : setting? environment key read with
  | error fault =>
      obtain ⟨cause, rfl⟩ := setting?_eq_error said
      refine .invalid (fun silent => ?_) fun a gives => ?_
      · rw [silent_iff.mp silent] at said
        cases said
      · rw [(given_iff a).mp gives] at said
        cases said
  | ok given =>
      cases given with
      | some a =>
          change Overrides _ _ _ _ none (value (make a))
          rw [made]
          exact .given ((given_iff a).mpr said)
      | none =>
          refine .silent (silent_iff.mpr said) fun a gives => ?_
          rw [(given_iff a).mp gives] at said
          cases said

/-- The mode is overridden by its variable. -/
theorem Tools.overrides_mode (tools : Tools) (environment : Environment) :
    Overrides GivesMode overflowVariable environment tools.binary.overflow
      (tools.override environment).binaryFault
      (tools.override environment).tools.binary.overflow :=
  overrides_attempt (fun _ => givesMode_iff) (Binary.override_eq environment) (fun _ => rfl)
    tools.binary

theorem Tools.overrides_steps (tools : Tools) (environment : Environment) :
    Overrides GivesSteps maxStepsVariable environment tools.vm.maxSteps
      (tools.override environment).vmFault (tools.override environment).tools.vm.maxSteps :=
  overrides_attempt (fun _ => givesSteps_iff) (Vm.override_eq environment) (fun _ => rfl) tools.vm

/-- What becomes of the converter's settings depends on them and on one variable. -/
theorem Tools.override_binary_congr {tools tools' : Tools} {environment environment' : Environment}
    (same : tools.binary = tools'.binary)
    (agree : environment overflowVariable = environment' overflowVariable) :
    (tools.override environment).binaryFault = (tools'.override environment').binaryFault ∧
      (tools.override environment).tools.binary = (tools'.override environment').tools.binary := by
  simp only [Tools.override, same, Binary.override_congr agree, and_self]

/-- What becomes of the computer's settings depends on them and on one variable. -/
theorem Tools.override_vm_congr {tools tools' : Tools} {environment environment' : Environment}
    (same : tools.vm = tools'.vm)
    (agree : environment maxStepsVariable = environment' maxStepsVariable) :
    (tools.override environment).vmFault = (tools'.override environment').vmFault ∧
      (tools.override environment).tools.vm = (tools'.override environment').tools.vm := by
  simp only [Tools.override, same, Vm.override_congr agree, and_self]

/-! ## One environment after another -/

section Latest

variable {α : Type} {gives : Environment → α → Prop} {key : String} {default before after : α}
  {earlier : List Environment} {environment : Environment} {fault : Option Fault}

/-- An environment that gives nothing leaves the latest value in place. -/
theorem Latest.append (latest : Latest gives default earlier before)
    (nothing : ∀ a, ¬ gives environment a) :
    Latest gives default (earlier ++ [environment]) before := by
  cases latest with
  | never none =>
      refine .never fun other mem => ?_
      rcases List.mem_append.mp mem with inEarlier | last
      · exact none other inEarlier
      · rw [List.mem_singleton.mp last]
        exact nothing
  | given value since =>
      rw [List.append_assoc, List.cons_append]
      refine .given value fun other mem => ?_
      rcases List.mem_append.mp mem with inLater | last
      · exact since other inLater
      · rw [List.mem_singleton.mp last]
        exact nothing

/-- What was given last before an environment, overridden by it, is what is given last with it. -/
theorem Overrides.latest (step : Overrides gives key environment before fault after)
    (latest : Latest gives default earlier before) :
    Latest gives default (earlier ++ [environment]) after := by
  cases step with
  | given value => exact .given value (by simp)
  | silent _ nothing => exact latest.append nothing
  | invalid _ nothing => exact latest.append nothing

/-- An environment is at fault unless it is silent or gives a value. -/
theorem Overrides.fault_eq_none_iff (step : Overrides gives key environment before fault after) :
    fault = none ↔ Silent environment key ∨ ∃ a, gives environment a := by
  cases step with
  | given value => exact ⟨fun _ => .inr ⟨_, value⟩, fun _ => rfl⟩
  | silent silent => exact ⟨fun _ => .inl silent, fun _ => rfl⟩
  | invalid loud nothing =>
      refine ⟨by rintro ⟨⟩, ?_⟩
      rintro (silent | ⟨a, value⟩)
      · exact (loud silent).elim
      · exact (nothing a value).elim

/-- A fault names the variable, and leaves the setting as it was. -/
theorem Overrides.of_fault {f : Fault}
    (step : Overrides gives key environment before (some f) after) :
    (∃ cause, f = .badVariable key cause) ∧ after = before := by
  cases step with
  | invalid => exact ⟨⟨_, rfl⟩, rfl⟩

end Latest

/-- The last environment overrides what the others left. -/
theorem Tools.overridden_append (earlier : List Environment) (environment : Environment) :
    Tools.overridden (earlier ++ [environment]) =
      ((Tools.overridden earlier).override environment).tools := by
  rw [Tools.overridden, List.foldl_append]
  rfl

/-- Environments one after the other leave each setting with the value that was given last. -/
theorem Tools.latest_overridden (environments : List Environment) :
    Latest GivesMode .wrap environments (Tools.overridden environments).binary.overflow ∧
      Latest GivesSteps 10000 environments (Tools.overridden environments).vm.maxSteps := by
  induction environments using List.reverseRecOn with
  | nil => exact ⟨.never (by simp), .never (by simp)⟩
  | append_singleton earlier environment ih =>
      rw [Tools.overridden_append]
      exact ⟨(Tools.overrides_mode _ _).latest ih.1, (Tools.overrides_steps _ _).latest ih.2⟩

/-- **What a step does to one tool's settings.** It leaves them with the latest value so far;
it succeeds if its environment's variable is silent or gives a value, and otherwise names the
variable and leaves everything as it was. -/
structure Settles {α β : Type} (gives : Environment → β → Prop) (default : β) (key : String)
    (environments : List Environment) (environment : Environment) (setting : α → β)
    (before after : α) (fault : Option Fault) : Prop where
  latest : Latest gives default environments (setting after)
  succeeds_iff : fault = none ↔ Silent environment key ∨ ∃ b, gives environment b
  of_fault : ∀ f, fault = some f → (∃ cause, f = .badVariable key cause) ∧ after = before

/-- **The latest value wins, and a fault changes nothing.** After any environments, overriding
by one more leaves each tool's settings with the latest value that any of them gives. It
fails on a value that cannot be read only, and then leaves those settings alone. What becomes
of one tool's settings depends on nothing but those settings and the one variable for them. -/
theorem overridden_last_given (earlier : List Environment) (environment : Environment) :
    let before := Tools.overridden earlier
    let step := before.override environment
    step.tools = Tools.overridden (earlier ++ [environment]) ∧
      Settles GivesMode .wrap "ARCHTOOLS_OVERFLOW" (earlier ++ [environment]) environment
        Binary.overflow before.binary step.tools.binary step.binaryFault ∧
      Settles GivesSteps 10000 "ARCHTOOLS_VM_MAX_STEPS" (earlier ++ [environment]) environment
        Vm.maxSteps before.vm step.tools.vm step.vmFault ∧
      (∀ (tools : Tools) (other : Environment), tools.binary = before.binary →
        other "ARCHTOOLS_OVERFLOW" = environment "ARCHTOOLS_OVERFLOW" →
        (tools.override other).binaryFault = step.binaryFault ∧
          (tools.override other).tools.binary = step.tools.binary) ∧
      (∀ (tools : Tools) (other : Environment), tools.vm = before.vm →
        other "ARCHTOOLS_VM_MAX_STEPS" = environment "ARCHTOOLS_VM_MAX_STEPS" →
        (tools.override other).vmFault = step.vmFault ∧
          (tools.override other).tools.vm = step.tools.vm) := by
  intro before step
  have stepped : step.tools = Tools.overridden (earlier ++ [environment]) :=
    (Tools.overridden_append earlier environment).symm
  have latest := Tools.latest_overridden (earlier ++ [environment])
  rw [← stepped] at latest
  have mode := Tools.overrides_mode before environment
  have steps := Tools.overrides_steps before environment
  refine ⟨stepped, ⟨latest.1, mode.fault_eq_none_iff, ?_⟩,
    ⟨latest.2, steps.fault_eq_none_iff, ?_⟩, ?_, ?_⟩
  · intro f fails
    rw [fails] at mode
    exact ⟨mode.of_fault.1, congrArg Binary.mk mode.of_fault.2⟩
  · intro f fails
    rw [fails] at steps
    exact ⟨steps.of_fault.1, congrArg Vm.mk steps.of_fault.2⟩
  · exact fun tools other same agree => Tools.override_binary_congr same agree
  · exact fun tools other same agree => Tools.override_vm_congr same agree

example : (Tools.overridden [fun _ => some "\u2003Reject\n", fun _ => some "sideways",
    fun _ => some " ", fun _ => none]).binary.overflow = .reject := by
  decide +kernel

end PocketTools.Settings
