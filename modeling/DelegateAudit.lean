import DelegateAudit.Abi
import DelegateAudit.Artifact
import DelegateAudit.Bytecode
import DelegateAudit.Bytes
import DelegateAudit.Check
import DelegateAudit.CommandLine.Check
import DelegateAudit.CommandLine.Help
import DelegateAudit.CommandLine.Options
import DelegateAudit.CommandLine.Outcome
import DelegateAudit.CommandLine.Placeholder
import DelegateAudit.CommandLine.Scan
import DelegateAudit.Console
import DelegateAudit.Disassembler
import DelegateAudit.Evidence
import DelegateAudit.Fault
import DelegateAudit.FileTree
import DelegateAudit.Glob
import DelegateAudit.Json.Reader
import DelegateAudit.Json.Value
import DelegateAudit.Json.Writer
import DelegateAudit.Keccak
import DelegateAudit.Limits
import DelegateAudit.Listing
import DelegateAudit.Main
import DelegateAudit.Number.Binary64
import DelegateAudit.Number.Reader
import DelegateAudit.Number.Shortest
import DelegateAudit.Path
import DelegateAudit.Pattern.Parser
import DelegateAudit.Pattern.Search
import DelegateAudit.Pattern.Syntax
import DelegateAudit.Process
import DelegateAudit.Record
import DelegateAudit.Report
import DelegateAudit.Risk
import DelegateAudit.Rules
import DelegateAudit.Run
import DelegateAudit.Scan
import DelegateAudit.Settings
import DelegateAudit.Source
import DelegateAudit.Text.Basic
import DelegateAudit.Text.Blank
import DelegateAudit.Text.Case
import DelegateAudit.Text.Cluster
import DelegateAudit.Text.Digit
import DelegateAudit.Text.Paragraph
import DelegateAudit.Text.Printable
import DelegateAudit.Text.Quoted
import DelegateAudit.Text.Ranges
import DelegateAudit.Text.Utf8
import DelegateAudit.Text.Width
import DelegateAudit.Text.Word
import DelegateAudit.VariableFile
import DelegateAudit.Proofs.Hex
import DelegateAudit.Proofs.Stripping
import DelegateAudit.Proofs.Evidence
import DelegateAudit.Proofs.Modes
import DelegateAudit.Proofs.FilesBelow
import DelegateAudit.Proofs.Listing
import DelegateAudit.Proofs.Sources
import DelegateAudit.Proofs.Surface
import DelegateAudit.Proofs.StrictScan
import DelegateAudit.Proofs.Quoting
import DelegateAudit.Proofs.Parameters
import DelegateAudit.Proofs.Accounting
import DelegateAudit.Proofs.CheckReport
import DelegateAudit.Proofs.Shape
import DelegateAudit.Proofs.ProperTree
import DelegateAudit.Proofs.Isolation
import DelegateAudit.Proofs.MoreSigns
import DelegateAudit.Proofs.NothingFound
import DelegateAudit.Proofs.RuleFiles
import DelegateAudit.Proofs.JsonReport
import DelegateAudit.Proofs.Reduction
import DelegateAudit.Proofs.Streaming
import DelegateAudit.Proofs.ExitStatus
import DelegateAudit.Proofs.SideBytes
import DelegateAudit.Proofs.Independence
import DelegateAudit.Proofs.Restripping
import DelegateAudit.Proofs.SurfaceUnion
import DelegateAudit.Proofs.PathOrder
import DelegateAudit.Proofs.Namesakes
import DelegateAudit.Proofs.Signatures
import DelegateAudit.Proofs.Overriding
import DelegateAudit.Proofs.ArtifactList
import DelegateAudit.Proofs.Layouts
import DelegateAudit.Proofs.Decorations
import DelegateAudit.Proofs.FirstOccurrences
import DelegateAudit.Proofs.ImportHits
import DelegateAudit.Proofs.Matching
import DelegateAudit.Proofs.StandardPatterns
import DelegateAudit.Proofs.WrittenJson
import DelegateAudit.Proofs.SourceOrder
import DelegateAudit.Proofs.LetterCase
import DelegateAudit.Proofs.WholeWord
import DelegateAudit.Proofs.TailSearch
import DelegateAudit.Proofs.ReportBody
