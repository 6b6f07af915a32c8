import PocketTools.Settings.Variables

/-! # What a tool can see of the world -/

namespace PocketTools.Command

/-- The files and the environment that a tool runs in. -/
structure World where
  files : Files.FileSystem
  environment : Settings.Environment

end PocketTools.Command
