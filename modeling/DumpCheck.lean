import DumpCheck.Main
import DumpCheck.Proofs.RowMatch
import DumpCheck.Proofs.Scan
import DumpCheck.Proofs.Position
import DumpCheck.Proofs.Dump
import DumpCheck.Proofs.Table
import DumpCheck.Proofs.Coverage
import DumpCheck.Proofs.Blocks
import DumpCheck.Proofs.RowOrder
import DumpCheck.Proofs.ChangedRow
import DumpCheck.Proofs.Append
import DumpCheck.Proofs.Extension
import DumpCheck.Proofs.LayoutAgreement
import DumpCheck.Proofs.Symmetry
import DumpCheck.Proofs.EventLog
import DumpCheck.Proofs.LetterCase
import DumpCheck.Proofs.Outcome
import DumpCheck.Proofs.Limits
import DumpCheck.Proofs.Labels
import DumpCheck.Proofs.JsonText
import DumpCheck.Proofs.Lowercase
import DumpCheck.Proofs.OneLine
import DumpCheck.Proofs.Reports
import DumpCheck.Proofs.CommandLine
import DumpCheck.Proofs.ConfigFile
import DumpCheck.Proofs.Paths
import DumpCheck.Proofs.Precedence
import DumpCheck.Proofs.HeaderColumns
import DumpCheck.Proofs.RowDifference
import DumpCheck.Proofs.TrailingLayout
import DumpCheck.Proofs.Spellings
import DumpCheck.Proofs.TextLines
import DumpCheck.Proofs.LineBudget
