import Commonplace.Text
import Commonplace.Text.Cut
import Commonplace.Text.Within
import Commonplace.Text.Hidden
import Commonplace.Text.Shown
import Commonplace.Text.Alphabetic
import Commonplace.Text.Numeric
import Commonplace.Fields
import Commonplace.Json.Fault
import Commonplace.Json.Quoted
import Commonplace.Json.Numeral
import Commonplace.Json.Skip
import Commonplace.Decimal.Shortest
import Commonplace.FileTree.Failure
import Commonplace.FileTree
import Commonplace.Fault
import Commonplace.Saying
import Commonplace.Instruction
import Commonplace.Book
import Commonplace.Outcome
import Commonplace.Settings
import Commonplace.Settings.Reader
import Commonplace.Settings.Stored
import Commonplace.Pattern.Escape
import Commonplace.Pattern.Brackets
import Commonplace.Pattern
import Commonplace.Journal
import Commonplace.Journal.Filter
import Commonplace.Journal.Account
import Commonplace.CommandLine.Arguments
import Commonplace.CommandLine.Help
import Commonplace.CommandLine.Report
import Commonplace.Main
import Commonplace.Proofs.Blanks
import Commonplace.Proofs.Marks
import Commonplace.Proofs.NamedValues
import Commonplace.Proofs.Overriding
import Commonplace.Proofs.Reading
import Commonplace.Proofs.AddLine
import Commonplace.Proofs.RemoveLine
import Commonplace.Proofs.Making
import Commonplace.Proofs.Verdict
import Commonplace.Proofs.History
import Commonplace.Proofs.Omission
import Commonplace.Proofs.Layout
import Commonplace.Proofs.Replay
import Commonplace.Proofs.Spelling
import Commonplace.Proofs.GivenSettings
import Commonplace.Proofs.JsonLines
import Commonplace.Proofs.KeptSettings
import Commonplace.Proofs.Output
import Commonplace.Proofs.IdleLines
import Commonplace.Proofs.LineForms
import Commonplace.Proofs.RawValues
import Commonplace.Proofs.Session
import Commonplace.Proofs.Batches
import Commonplace.Proofs.Questions
import Commonplace.Proofs.Subsumption
import Commonplace.Proofs.Encoding
import Commonplace.Proofs.Containment
import Commonplace.Proofs.WholeFile
import Commonplace.Proofs.Filters
import Commonplace.Proofs.Answers
import Commonplace.Proofs.Requirements
import Commonplace.Proofs.TextLines
import Commonplace.Proofs.Boundaries
