import PocketTools.Files.Tree
import PocketTools.Main
import PocketTools.Proofs.Machine.Reference
import PocketTools.Proofs.Machine.Budget
import PocketTools.Proofs.Machine.Recurrence
import PocketTools.Proofs.Machine.Footprint
import PocketTools.Proofs.Machine.Noninterference
import PocketTools.Proofs.Journal.Room
import PocketTools.Proofs.Settings.Sources
import PocketTools.Proofs.Settings.SameSection
import PocketTools.Proofs.Command.Answers
import PocketTools.Proofs.Command.Precedence
import PocketTools.Proofs.Command.Truncation
import PocketTools.Proofs.Numeral.Classification
import PocketTools.Proofs.Command.Separation
import PocketTools.Proofs.Machine.StraightLine
import PocketTools.Proofs.Machine.Performed
import PocketTools.Proofs.Settings.Overrides
import PocketTools.Proofs.Command.Inputs
import PocketTools.Proofs.Numeral.Positional
import PocketTools.Proofs.Settings.WholeFile
import PocketTools.Proofs.Command.Endings
import PocketTools.Proofs.Toml.Integers
import PocketTools.Proofs.Settings.ForeignBudget
import PocketTools.Proofs.Newlines.Buffered
import PocketTools.Proofs.Machine.LastStore
import PocketTools.Proofs.Machine.Begun
import PocketTools.Proofs.Length
import PocketTools.Proofs.Numeral.Shortest
import PocketTools.Proofs.Settings.Validated
import PocketTools.Proofs.Toml.Ranged
import PocketTools.Proofs.Settings.Saved
import PocketTools.Proofs.Machine.Overlaps
import PocketTools.Proofs.Machine.WordFaults
import PocketTools.Proofs.Machine.Counter
