import PocketTools.Text.Utf8

/-! # Reading command lines

A tool takes one subject and options. Flags stand alone; settings take a value,
after an equals sign or as the next argument. A value is judged only when the
next flag, setting or subject begins or the arguments end, so of two faults the
one met first in that order is reported. Help and version win as soon as they
are met.
-/

namespace PocketTools.Command

/-- An argument as the operating system gives it. -/
abbrev Argument := List UInt8

/-- Why a command line is not understood. -/
inductive UsageFault where
  | unknownArgument
  | invalidValue
  | valueValidation
  | invalidUtf8
  | tooManyValues
  | argumentConflict
  | missingRequiredArgument
  deriving DecidableEq, Repr

/-- The wording of each cause. -/
def UsageFault.message : UsageFault → String
  | .unknownArgument => "unexpected argument"
  | .invalidValue => "missing or invalid value"
  | .valueValidation => "value out of range or not a number"
  | .invalidUtf8 => "argument is not UTF-8"
  | .tooManyValues => "a flag takes no value"
  | .argumentConflict => "an option is given twice"
  | .missingRequiredArgument => "a required argument is missing"

/-- Why a command line calls for no run of the tool. -/
inductive Stop where
  | help
  | version
  | usage (fault : UsageFault)
  deriving DecidableEq, Repr

/-- The exit status of a command line that calls for no run. -/
def Stop.status : Stop → UInt8
  | .help => 0
  | .version => 0
  | .usage _ => 2

/-- What a command line calls for: a subject of type `σ`, options of type `ο`,
and how often more detail in the log was asked for. -/
structure Invocation (σ ο : Type) where
  subject : σ
  options : ο
  verbosity : UInt8
  deriving DecidableEq, Repr

/-- What a command line of a tool can hold. -/
structure Grammar (σ ο : Type) where
  /-- The options of a command line that gives none. -/
  options : ο
  /-- The long flags of the tool, with what each does to the options. -/
  flags : List (String × (ο → Except UsageFault ο)) := []
  /-- The settings of the tool, with what a value does to the options. -/
  settings : List (String × (Argument → ο → Except UsageFault ο)) := []
  /-- The reading of the subject. -/
  subject : Argument → Except UsageFault σ
  /-- Whether a subject may look like an option that is not known. -/
  hyphenated : Bool := false

/-- What is left to judge. -/
inductive Pending (σ ο : Type) where
  | nothing
  /-- A setting whose value is still to come. -/
  | awaited (set : Argument → ο → Except UsageFault ο)
  /-- A setting with its value. -/
  | setting (set : Argument → ο → Except UsageFault ο) (value : Argument)
  /-- The subject. -/
  | subject (value : Argument)

/-- How far a command line has been read. -/
structure Progress (σ ο : Type) where
  subject : Option σ
  options : ο
  verbosity : UInt8
  pending : Pending σ ο
  /-- Whether the subject has been met. -/
  subjectMet : Bool

namespace Grammar

variable {σ ο : Type}

/-- A command line none of which has been read. -/
def start (grammar : Grammar σ ο) : Progress σ ο :=
  ⟨none, grammar.options, 0, .nothing, false⟩

/-- Judges what is left to judge. -/
def settle (grammar : Grammar σ ο) (progress : Progress σ ο) :
    Except UsageFault (Progress σ ο) :=
  match progress.pending with
  | .nothing => .ok progress
  | .awaited _ => .error .invalidValue
  | .setting set value => do
      return { progress with options := ← set value progress.options, pending := .nothing }
  | .subject value => do
      return { progress with subject := some (← grammar.subject value), pending := .nothing }

/-- Judges what is left to judge, and carries a fault on as a stop. -/
def settled (grammar : Grammar σ ο) (progress : Progress σ ο) : Except Stop (Progress σ ο) :=
  (grammar.settle progress).mapError .usage

/-- The progress with one more request for detail, of at most 255. -/
def raise (progress : Progress σ ο) : Progress σ ο :=
  { progress with
    verbosity := if progress.verbosity = 255 then 255 else progress.verbosity + 1 }

/-- Takes an argument as the subject, whatever is awaited. -/
def takeSubject (grammar : Grammar σ ο) (argument : Argument) (progress : Progress σ ο) :
    Except Stop (Progress σ ο) :=
  if progress.subjectMet then .error (.usage .unknownArgument)
  else do
    let progress ← grammar.settled progress
    return { progress with pending := .subject argument, subjectMet := true }

/-- Takes an argument as the value that is awaited, or else as the subject. -/
def takeValue (grammar : Grammar σ ο) (argument : Argument) (progress : Progress σ ο) :
    Except Stop (Progress σ ο) :=
  match progress.pending with
  | .awaited set => .ok { progress with pending := .setting set argument }
  | _ => grammar.takeSubject argument progress

/-- Whether an argument that is no known option can still be the subject. -/
def admitsHyphen (grammar : Grammar σ ο) (progress : Progress σ ο) : Bool :=
  grammar.hyphenated && !progress.subjectMet

/-- Acts on a flag that is given without a value. -/
def takeFlag (grammar : Grammar σ ο) (act : Progress σ ο → Except Stop (Progress σ ο))
    (value : Option Argument) (progress : Progress σ ο) : Except Stop (Progress σ ο) :=
  match value with
  | some _ => .error (.usage .tooManyValues)
  | none => do act (← grammar.settled progress)

/-- Takes an option by its long name. `whole` is the argument, `name` the name
in it and `value` what follows the equals sign, if there is one. -/
def takeLong (grammar : Grammar σ ο) (whole name : Argument) (value : Option Argument)
    (progress : Progress σ ο) : Except Stop (Progress σ ο) :=
  match Text.decode? name with
  | none => .error (.usage .unknownArgument)
  | some "help" => grammar.takeFlag (fun _ => .error .help) value progress
  | some "version" => grammar.takeFlag (fun _ => .error .version) value progress
  | some "verbose" => grammar.takeFlag (fun progress => .ok (raise progress)) value progress
  | some name =>
      match grammar.flags.lookup name, grammar.settings.lookup name, value with
      | some act, _, _ =>
          grammar.takeFlag (fun progress => do
            let options ← (act progress.options).mapError .usage
            return { progress with options := options }) value progress
      | none, some set, some value => do
          let progress ← grammar.settled progress
          let options ← (set value progress.options).mapError .usage
          return { progress with options := options }
      | none, some set, none => do
          let progress ← grammar.settled progress
          return { progress with pending := .awaited set }
      | none, none, _ =>
          if grammar.admitsHyphen progress then grammar.takeValue whole progress
          else .error (.usage .unknownArgument)

/-- Whether a byte is the letter of a short flag. -/
def isShortFlag (b : UInt8) : Bool :=
  b == 0x76 || b == 0x68 || b == 0x56

/-- Takes a cluster of short flags one by one. -/
def takeShorts (grammar : Grammar σ ο) : List UInt8 → Progress σ ο →
    Except Stop (Progress σ ο)
  | [], progress => .ok progress
  | b :: rest, progress =>
      if b == 0x76 then do
        let progress ← grammar.settled progress
        grammar.takeShorts rest (raise progress)
      else if b == 0x68 then do
        let _ ← grammar.settled progress
        .error .help
      else if b == 0x56 then do
        let _ ← grammar.settled progress
        .error .version
      else .error (.usage .unknownArgument)

/-- The part of an argument after its first equals sign, if it has one. -/
def afterEquals (argument : Argument) : Option Argument :=
  match argument.dropWhile (· != 0x3D) with
  | [] => none
  | _ :: value => some value

/-- Takes one argument before any `--`. -/
def take (grammar : Grammar σ ο) (argument : Argument) (progress : Progress σ ο) :
    Except Stop (Progress σ ο) :=
  match argument with
  | 0x2D :: 0x2D :: long =>
      grammar.takeLong argument (long.takeWhile (· != 0x3D)) (afterEquals long) progress
  | 0x2D :: b :: shorts =>
      if grammar.admitsHyphen progress && !(b :: shorts).all isShortFlag then
        grammar.takeValue argument progress
      else grammar.takeShorts (b :: shorts) progress
  | _ => grammar.takeValue argument progress

/-- Takes arguments in order. After `--` each is the subject. -/
def takeAll (grammar : Grammar σ ο) : (trailing : Bool) → List Argument → Progress σ ο →
    Except Stop (Progress σ ο)
  | _, [], progress => .ok progress
  | true, argument :: rest, progress => do
      grammar.takeAll true rest (← grammar.takeSubject argument progress)
  | false, argument :: rest, progress =>
      if argument = [0x2D, 0x2D] then grammar.takeAll true rest progress
      else do grammar.takeAll false rest (← grammar.take argument progress)

/-- What a command line calls for. -/
def read (grammar : Grammar σ ο) (arguments : List Argument) :
    Except Stop (Invocation σ ο) := do
  let progress ← grammar.settled (← grammar.takeAll false arguments grammar.start)
  match progress.subject with
  | some subject => return ⟨subject, progress.options, progress.verbosity⟩
  | none => .error (.usage .missingRequiredArgument)

end Grammar

end PocketTools.Command
