/-! # Why input or output failed

A fault has a kind, which answers show by name, and a text.
-/

namespace PocketTools.Files

/-- The kinds of input and output failures. -/
inductive Kind where
  | notFound | permissionDenied | connectionRefused | connectionReset | hostUnreachable
  | networkUnreachable | connectionAborted | notConnected | addrInUse | addrNotAvailable
  | networkDown | brokenPipe | alreadyExists | wouldBlock | notADirectory | isADirectory
  | directoryNotEmpty | readOnlyFilesystem | filesystemLoop | staleNetworkFileHandle
  | invalidInput | invalidData | timedOut | writeZero | storageFull | notSeekable
  | quotaExceeded | fileTooLarge | resourceBusy | executableFileBusy | deadlock
  | crossesDevices | tooManyLinks | invalidFilename | argumentListTooLong | interrupted
  | unsupported | unexpectedEof | outOfMemory | inProgress | other | uncategorized
  deriving DecidableEq, Repr, Inhabited

/-- Every kind. -/
def Kind.all : List Kind :=
  [.notFound, .permissionDenied, .connectionRefused, .connectionReset, .hostUnreachable,
    .networkUnreachable, .connectionAborted, .notConnected, .addrInUse, .addrNotAvailable,
    .networkDown, .brokenPipe, .alreadyExists, .wouldBlock, .notADirectory, .isADirectory,
    .directoryNotEmpty, .readOnlyFilesystem, .filesystemLoop, .staleNetworkFileHandle,
    .invalidInput, .invalidData, .timedOut, .writeZero, .storageFull, .notSeekable,
    .quotaExceeded, .fileTooLarge, .resourceBusy, .executableFileBusy, .deadlock,
    .crossesDevices, .tooManyLinks, .invalidFilename, .argumentListTooLong, .interrupted,
    .unsupported, .unexpectedEof, .outOfMemory, .inProgress, .other, .uncategorized]

/-- The name under which a kind is shown. -/
def Kind.name : Kind → String
  | .notFound => "NotFound"
  | .permissionDenied => "PermissionDenied"
  | .connectionRefused => "ConnectionRefused"
  | .connectionReset => "ConnectionReset"
  | .hostUnreachable => "HostUnreachable"
  | .networkUnreachable => "NetworkUnreachable"
  | .connectionAborted => "ConnectionAborted"
  | .notConnected => "NotConnected"
  | .addrInUse => "AddrInUse"
  | .addrNotAvailable => "AddrNotAvailable"
  | .networkDown => "NetworkDown"
  | .brokenPipe => "BrokenPipe"
  | .alreadyExists => "AlreadyExists"
  | .wouldBlock => "WouldBlock"
  | .notADirectory => "NotADirectory"
  | .isADirectory => "IsADirectory"
  | .directoryNotEmpty => "DirectoryNotEmpty"
  | .readOnlyFilesystem => "ReadOnlyFilesystem"
  | .filesystemLoop => "FilesystemLoop"
  | .staleNetworkFileHandle => "StaleNetworkFileHandle"
  | .invalidInput => "InvalidInput"
  | .invalidData => "InvalidData"
  | .timedOut => "TimedOut"
  | .writeZero => "WriteZero"
  | .storageFull => "StorageFull"
  | .notSeekable => "NotSeekable"
  | .quotaExceeded => "QuotaExceeded"
  | .fileTooLarge => "FileTooLarge"
  | .resourceBusy => "ResourceBusy"
  | .executableFileBusy => "ExecutableFileBusy"
  | .deadlock => "Deadlock"
  | .crossesDevices => "CrossesDevices"
  | .tooManyLinks => "TooManyLinks"
  | .invalidFilename => "InvalidFilename"
  | .argumentListTooLong => "ArgumentListTooLong"
  | .interrupted => "Interrupted"
  | .unsupported => "Unsupported"
  | .unexpectedEof => "UnexpectedEof"
  | .outOfMemory => "OutOfMemory"
  | .inProgress => "InProgress"
  | .other => "Other"
  | .uncategorized => "Uncategorized"

/-- The kind with a given name. -/
def Kind.ofName? (name : String) : Option Kind :=
  Kind.all.find? fun kind => kind.name == name

/-- Why an operation on files or streams failed. -/
inductive Fault where
  /-- Nothing has that name. -/
  | missing
  /-- A regular file stands where the path goes on. -/
  | throughFile
  /-- A directory was to be read as a file. -/
  | directory
  /-- A part of the path is longer than a file name can be. -/
  | nameTooLong
  /-- The path holds a zero byte. -/
  | zeroInName
  /-- The contents were to be text and are not UTF-8. -/
  | notText
  /-- An output with limited room has taken all it can. -/
  | sinkFull
  /-- A failure that a source reports itself. -/
  | reported (kind : Kind) (text : String)
  deriving DecidableEq, Repr

/-- The kind of a fault. -/
def Fault.kind : Fault → Kind
  | .missing => .notFound
  | .throughFile => .notADirectory
  | .directory => .isADirectory
  | .nameTooLong => .invalidFilename
  | .zeroInName => .invalidInput
  | .notText => .invalidData
  | .sinkFull => .other
  | .reported kind _ => kind

/-- The number of a fault that the operating system raises. -/
def Fault.systemCode? : Fault → Option Nat
  | .missing => some 2
  | .throughFile => some 20
  | .directory => some 21
  | .nameTooLong => some 36
  | _ => none

/-- The cause in words. -/
def Fault.text : Fault → String
  | .missing => "No such file or directory"
  | .throughFile => "Not a directory"
  | .directory => "Is a directory"
  | .nameTooLong => "File name too long"
  | .zeroInName => "file name contained an unexpected NUL byte"
  | .notText => "stream did not contain valid UTF-8"
  | .sinkFull => "sink full"
  | .reported _ text => text

/-- The wording of a fault: the cause, with its number if the operating system
raised it. -/
def Fault.message (fault : Fault) : String :=
  match fault.systemCode? with
  | some code => s!"{fault.text} (os error {code})"
  | none => fault.text

end PocketTools.Files
