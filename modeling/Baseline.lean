import Baseline.Console
import Baseline.Fault
import Baseline.Json.Float
import Baseline.Main
import Baseline.Session
import Baseline.Shell
import Baseline.Store.Access
import Baseline.Unresolved
import Baseline.Proofs.Json.Equivalence
import Baseline.Proofs.Json.UniqueReading
import Baseline.Proofs.Json.Lines
import Baseline.Proofs.Store.Table
import Baseline.Proofs.Compare.Reading
import Baseline.Proofs.Action
import Baseline.Proofs.Compare.Comparison
import Baseline.Proofs.Compare.History
import Baseline.Proofs.Location
import Baseline.Proofs.Store.WellFormed
import Baseline.Proofs.Scan.Walk
import Baseline.Proofs.Scan.Cycles
import Baseline.Proofs.Scan.Linkless
import Baseline.Proofs.Scan.Chains
import Baseline.Proofs.Scan.Aliases
import Baseline.Proofs.Scan.DepthLimit
import Baseline.Proofs.Artifact
import Baseline.Proofs.Pairing
import Baseline.Proofs.Scan.Visible
import Baseline.Proofs.Compare.All
import Baseline.Proofs.Compare.Altered
import Baseline.Proofs.Compare.Separation
import Baseline.Proofs.Compare.Again
import Baseline.Proofs.Compare.Twice
import Baseline.Proofs.Compare.Order
import Baseline.Proofs.Verdict
import Baseline.Proofs.Accounting
import Baseline.Proofs.Suite.Inputs
import Baseline.Proofs.Suite.Folder
import Baseline.Proofs.Suite.Harm
import Baseline.Proofs.Suite.Again
import Baseline.Proofs.Suite.Transcript
import Baseline.Proofs.Expected.Sharing
import Baseline.Proofs.Expected.FirstEntry
import Baseline.Proofs.Token.Scanning
import Baseline.Proofs.Token.Grammar
import Baseline.Proofs.Token.Tiling
import Baseline.Proofs.Token.LongestMatch
import Baseline.Proofs.Tree.Reading
import Baseline.Proofs.Tree.Walk
import Baseline.Proofs.Tree.Pruning
import Baseline.Proofs.Tree.Openings
import Baseline.Proofs.Tree.Nesting
import Baseline.Proofs.Unicode.WordTail
import Baseline.Proofs.Token.Bracketing
import Baseline.Proofs.Tree.Delimiters
import Baseline.Proofs.Tree.Snapshot
import Baseline.Proofs.Tree.Spans
import Baseline.Proofs.Bytewise.Delimited
import Baseline.Proofs.Bytewise.Located
import Baseline.Proofs.Bytewise.Lines
import Baseline.Proofs.LineEndings.Delimited
import Baseline.Proofs.LineEndings.Tokens
import Baseline.Proofs.Store.Answers
import Baseline.Proofs.Store.Housed
import Baseline.Proofs.Store.Changes
import Baseline.Proofs.Store.Removal
import Baseline.Proofs.Store.Operations
import Baseline.Proofs.Store.Faulty
import Baseline.Proofs.Text.Recorded
import Baseline.Proofs.Text.EndedLines
import Baseline.Proofs.Text.LineColumn
import Baseline.Proofs.LineReading
import Baseline.Proofs.Disk.LineReading
import Baseline.Proofs.Compare.Effects
import Baseline.Proofs.Compare.Frame
import Baseline.Proofs.Compare.Kept
import Baseline.Proofs.Compare.Mirror
import Baseline.Proofs.Compare.LineBreaks
import Baseline.Proofs.Compare.Sparing
import Baseline.Proofs.Compare.Tally
import Baseline.Proofs.Compare.Recovery
import Baseline.Proofs.Suite.Fatal
import Baseline.Proofs.Summary
