import PocketTools.Journal.Transcript
import PocketTools.Settings.Section
import PocketTools.Settings.Variables
import PocketTools.Toml.Marked

/-! # Loading settings

A tool loads its own section of the settings file and then takes the
environment's overrides. What stands under other keys of the file cannot make
that fail, as long as the file is a TOML document and its tables that are marked
as date-times are ones. A file that does not exist gives the defaults.
-/

namespace PocketTools.Settings

open Files Journal

/-- The settings file of the tools. -/
def file : Path := Path.ofString "archtools.toml"

/-- The text of a file; none if the path does not exist. -/
def readIfPresent (fs : FileSystem) (path : Path) : Except Fault (Option String) :=
  if fs.exists? path then
    match fs.readText path with
    | .ok text => .ok (some text)
    | .error cause => .error (.unreadable path cause)
  else .ok none

/-- The table of a settings file as `parse` reads its text; none if the path
does not exist. -/
def readTable (parse : String → Option Toml.Table) (fs : FileSystem) (path : Path) :
    Except Fault (Option Toml.Table) :=
  match readIfPresent fs path with
  | .error fault => .error fault
  | .ok none => .ok none
  | .ok (some text) =>
      match parse text with
      | some table => .ok (some table)
      | none => .error .malformed

/-- What a section of a settings file gives, or the defaults. -/
def loadSection {α : Type} (fs : FileSystem) (path : Path) (name : String)
    (ofValue? : Toml.Value → Option α) (default : α) : Transcript Fault α := do
  let table ← Transcript.ofExcept (readTable Toml.parseResolved fs path)
  match table.bind (·.lookup name) with
  | none => return default
  | some value =>
      match ofValue? value with
      | none => Transcript.ofExcept (.error .malformed)
      | some settings =>
          Transcript.note [.loadedSection path name]
          return settings

/-- The converter's settings from a file and the environment. -/
def loadBinary (fs : FileSystem) (environment : Environment) (path : Path) :
    Transcript Fault Binary := do
  let settings ← loadSection fs path "binary" (Binary.ofValue? .alone) {}
  Transcript.ofExcept (settings.override environment)

/-- The computer's settings from a file and the environment. -/
def loadVm (fs : FileSystem) (environment : Environment) (path : Path) :
    Transcript Fault Vm := do
  let settings ← loadSection fs path "vm" (Vm.ofValue? .alone) {}
  Transcript.ofExcept (settings.override environment)

/-- The settings of all tools from a file, whatever the environment. -/
def loadTools (fs : FileSystem) (path : Path) : Transcript Fault Tools := do
  match ← Transcript.ofExcept (readTable Toml.parse fs path) with
  | none => return {}
  | some table =>
      match Tools.ofTable? table with
      | none => Transcript.ofExcept (.error .malformed)
      | some tools =>
          Transcript.note [.loadedSettings path]
          return tools

end PocketTools.Settings
