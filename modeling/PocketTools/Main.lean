import PocketTools.Command.Process

/-! # The program

The first argument names a tool and the others are its command line. The few
paths and variables that a tool can ask about are looked up beforehand.
-/

namespace PocketTools

open Command Files

/-- The fault behind a failure of the operating system. -/
def faultOfError : IO.Error → Files.Fault
  | .noFileOrDirectory .. => .missing
  | .inappropriateType _ code text =>
      if code = 20 then .throughFile
      else if code = 21 then .directory
      else .reported .other text
  | .permissionDenied _ _ text => .reported .permissionDenied text
  | .interrupted _ _ text => .reported .interrupted text
  | error => .reported .other (toString error)

/-- What comes of opening a path on the disk. -/
def openPath (path : Path) : IO (Except Files.Fault Stream) := do
  try
    let bytes ← IO.FS.readBinFile path.display
    return .ok [.chunk bytes.data.toList]
  catch error =>
    match faultOfError error with
    | .directory => return .ok [.failure .directory]
    | fault => return .error fault

/-- Whether what came of opening a path shows that there is something. -/
def isThere : Except Files.Fault Stream → Bool
  | .error .missing => false
  | .error .throughFile => false
  | _ => true

/-- The world as far as some paths and variables go. -/
def lookUp (paths : List Path) (keys : List String) : IO World := do
  let found ← paths.mapM fun path => return (path, ← openPath path)
  let values ← keys.mapM fun key => return (key, ← IO.getEnv key)
  let opened (path : Path) := (found.lookup path).getD (.error .missing)
  return {
    files := { exists? := fun path => isThere (opened path), openFile := opened }
    environment := fun key => (values.lookup key).join }

/-- The paths that a call reads. -/
def pathsOf : Call → List Path
  | .binconvert _ => [Settings.file]
  | .linecount call => [call.subject]
  | .strlen _ => []
  | .vm call => [Settings.file, call.subject]

/-- Runs a tool on a command line. -/
def runTool (tool : Tool) (arguments : List Argument) : IO UInt32 := do
  let paths :=
    match tool.read arguments with
    | .ok call => pathsOf call
    | .error _ => []
  let world ← lookUp paths
    [Settings.overflowVariable, Settings.maxStepsVariable, filterVariable]
  let output := tool.output world arguments
  let stdout ← IO.getStdout
  try
    stdout.write ⟨output.stdout.toArray⟩
    stdout.flush
    IO.eprint output.stderr
    if let .error (.usage fault) := tool.read arguments then
      IO.eprintln s!"error: {fault.message}"
    return output.status.toUInt32
  catch error =>
    let failure := Failure.output (faultOfError error)
    IO.eprintln failure.message
    return failure.status.toUInt32

end PocketTools

open PocketTools in
/-- Runs the tool that the first argument names. -/
def main (arguments : List String) : IO UInt32 := do
  match arguments with
  | [] =>
      IO.eprintln s!"usage: TOOL [ARGUMENT]..., TOOL being one of {toolNames}"
      return 2
  | name :: rest =>
      match Command.Tool.ofName? name with
      | some tool => runTool tool (rest.map Text.encode)
      | none =>
          IO.eprintln s!"no such tool: {name}"
          return 2
where
  /-- The names of the tools. -/
  toolNames : String := ", ".intercalate (Command.Tool.all.map Command.Tool.name)
