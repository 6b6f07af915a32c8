import PocketTools.Command.Binconvert
import PocketTools.Command.Linecount
import PocketTools.Command.Strlen
import PocketTools.Command.Vm

/-! # The four tools -/

namespace PocketTools.Command

open Journal

/-- A tool. -/
inductive Tool where
  | binconvert
  | linecount
  | strlen
  | vm
  deriving DecidableEq, Repr

/-- Every tool. -/
def Tool.all : List Tool :=
  [.binconvert, .linecount, .strlen, .vm]

/-- A tool with what its command line calls for. -/
inductive Call where
  | binconvert (call : Invocation String Binconvert.Options)
  | linecount (call : Invocation Files.Path Unit)
  | strlen (call : Invocation String Strlen.Options)
  | vm (call : Invocation Files.Path Vm.Options)
  deriving Repr

/-- The help page of a tool. -/
def Tool.help : Tool → HelpPage
  | .binconvert => Binconvert.help
  | .linecount => Linecount.help
  | .strlen => Strlen.help
  | .vm => Vm.help

/-- The name of a tool. -/
def Tool.name (tool : Tool) : String :=
  tool.help.tool

/-- The tool with a name. -/
def Tool.ofName? (name : String) : Option Tool :=
  Tool.all.find? fun tool => tool.name == name

/-- What a command line of a tool calls for. -/
def Tool.read (tool : Tool) (arguments : List Argument) : Except Stop Call :=
  match tool with
  | .binconvert => Call.binconvert <$> Binconvert.grammar.read arguments
  | .linecount => Call.linecount <$> Linecount.grammar.read arguments
  | .strlen => Call.strlen <$> Strlen.grammar.read arguments
  | .vm => Call.vm <$> Vm.grammar.read arguments

/-- What a stop prints on the output. -/
def Tool.stopText (tool : Tool) : Stop → String
  | .help => tool.help.render
  | .version => tool.help.version
  | .usage _ => ""

/-- How often more detail in the log was asked for. -/
def Call.verbosity : Call → UInt8
  | .binconvert call => call.verbosity
  | .linecount call => call.verbosity
  | .strlen call => call.verbosity
  | .vm call => call.verbosity

/-- Runs a tool. -/
def Call.run (world : World) : Call → Transcript Failure Unit
  | .binconvert call => Binconvert.run world call
  | .linecount call => Linecount.run world call
  | .strlen call => Strlen.run call
  | .vm call => Vm.run world call

end PocketTools.Command
