/-! # Help pages

A page tells what a tool is for, how it is called, and what it takes. Names
stand in a column as wide as the longest of their section.
-/

namespace PocketTools.Command

/-- A name or an option as it is written, and what it means. -/
structure HelpRow where
  left : String
  right : String

/-- A page of help. -/
structure HelpPage where
  tool : String
  purpose : String
  subject : HelpRow
  options : List HelpRow

/-- The rows of a section, one a line. -/
def renderRows (rows : List HelpRow) : String :=
  let width := (rows.map (·.left.length)).foldl max 0
  String.join <| rows.map fun row =>
    let fill := String.ofList (List.replicate (width - row.left.length) ' ')
    "  " ++ row.left ++ fill ++ "  " ++ row.right ++ "\n"

/-- The options that every tool has. -/
def commonOptions : List HelpRow :=
  [⟨"-v, --verbose...",
      "Increase log verbosity (-v debug, -vv trace). `RUST_LOG` takes precedence"⟩,
    ⟨"-h, --help", "Print help"⟩,
    ⟨"-V, --version", "Print version"⟩]

/-- The text of a page. -/
def HelpPage.render (page : HelpPage) : String :=
  page.purpose ++ "\n\n" ++
    "Usage: " ++ page.tool ++ " [OPTIONS] " ++ page.subject.left ++ "\n\n" ++
    "Arguments:\n" ++ renderRows [page.subject] ++ "\n" ++
    "Options:\n" ++ renderRows (page.options ++ commonOptions)

/-- The version of the tools. -/
def versionNumber : String := "0.1.0"

/-- The text that tells a tool's version. -/
def HelpPage.version (page : HelpPage) : String :=
  page.tool ++ " " ++ versionNumber ++ "\n"

end PocketTools.Command
