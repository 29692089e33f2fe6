import FormGate.Command.Arguments
import FormGate.Command.Check
import FormGate.Command.Lint
import FormGate.Command.Path
import FormGate.Command.Request
import FormGate.Command.Run
import FormGate.Command.Script
import FormGate.Config.Basic
import FormGate.Config.Schema
import FormGate.Console.Line
import FormGate.Console.Phrase
import FormGate.Console.Table
import FormGate.Console.Wrap
import FormGate.Diagnostic.Basic
import FormGate.Diagnostic.Channel
import FormGate.Diagnostic.Collector
import FormGate.Diagnostic.Encoding
import FormGate.Diagnostic.Failure
import FormGate.Document.Basic
import FormGate.Document.Feedback
import FormGate.Document.Value
import FormGate.Engine.Basic
import FormGate.Field.Basic
import FormGate.Form.Encoding
import FormGate.Form.Outcome
import FormGate.Host.Call
import FormGate.Json.Basic
import FormGate.Json.Binary64
import FormGate.Json.Reader
import FormGate.Json.Writer
import FormGate.Main
import FormGate.Markup.Attribute
import FormGate.Markup.Character
import FormGate.Markup.Doctype
import FormGate.Markup.EntityTable
import FormGate.Markup.Forest
import FormGate.Markup.Mark
import FormGate.Markup.NameTable
import FormGate.Markup.Namespace
import FormGate.Markup.Page
import FormGate.Markup.Reference
import FormGate.Markup.Token
import FormGate.Markup.Writer
import FormGate.Pass.Basic
import FormGate.Pass.Field
import FormGate.Pass.Form
import FormGate.Rule.Basic
import FormGate.Rule.Catalog
import FormGate.Rule.Email
import FormGate.Rule.Fault
import FormGate.Rule.Judgement
import FormGate.Rule.Number
import FormGate.Rule.Reader
import FormGate.Rule.Token
import FormGate.Text.Blank
import FormGate.Text.Columns
import FormGate.Text.Digit
import FormGate.Text.Emoji
import FormGate.Text.Emoji.Table
import FormGate.Text.LetterCase
import FormGate.Text.LetterCase.Table
import FormGate.Text.Numeral
import FormGate.Text.Printable
import FormGate.Text.Quoted
import FormGate.Trigger.Basic
import FormGate.Trigger.Handler
import FormGate.Trigger.World
import FormGate.Proofs.Document.Edit
import FormGate.Proofs.Trigger.Course
import FormGate.Proofs.Trigger.Gate
import FormGate.Proofs.Trigger.Diagram
import FormGate.Proofs.Markup.Forest
import FormGate.Proofs.Markup.Label
import FormGate.Proofs.Document.WellFormed
import FormGate.Proofs.Document.Reading
import FormGate.Proofs.Trigger.Prevention
import FormGate.Proofs.Markup.Frame
import FormGate.Proofs.Document.Head
import FormGate.Proofs.Document.Classes
import FormGate.Proofs.Pass.Effect
import FormGate.Proofs.Pass.Field
import FormGate.Proofs.Document.Outline
import FormGate.Proofs.Pass.Ready
import FormGate.Proofs.Document.Value
import FormGate.Proofs.Pass.Feedback
import FormGate.Proofs.Pass.Turn
import FormGate.Proofs.Pass.Others
import FormGate.Proofs.Pass.Controls
import FormGate.Proofs.Pass.Consistency
import FormGate.Proofs.Diagnostic.Window
import FormGate.Proofs.Pass.Result
import FormGate.Proofs.Trigger.Quiet
import FormGate.Proofs.Trigger.Contract
import FormGate.Proofs.Pass.Reports
import FormGate.Proofs.Rule.Normal
import FormGate.Proofs.Document.Numbers
import FormGate.Proofs.Document.Root
import FormGate.Proofs.Pass.Judging
import FormGate.Proofs.Pass.Revision
import FormGate.Proofs.Pass.Revised
import FormGate.Proofs.Pass.Reread
import FormGate.Proofs.Pass.Order
import FormGate.Proofs.Pass.CleanPage
import FormGate.Proofs.Pass.Aligned
import FormGate.Proofs.Pass.TurnRevision
import FormGate.Proofs.Pass.KeptElements
import FormGate.Proofs.Pass.PassRevision
import FormGate.Proofs.Pass.Sorted
import FormGate.Proofs.Pass.Stable
import FormGate.Proofs.Trigger.Blur
import FormGate.Proofs.Diagnostic.Retention
import FormGate.Proofs.Document.Relabel
import FormGate.Proofs.Document.Attribute
import FormGate.Proofs.Rule.Spelling
import FormGate.Proofs.Pass.Applicable
import FormGate.Proofs.Pass.OldElements
import FormGate.Proofs.Pass.Guard
import FormGate.Proofs.Config.Accepted
import FormGate.Proofs.Trigger.Survival
import FormGate.Proofs.Document.Embedding
import FormGate.Proofs.Document.Extract
import FormGate.Proofs.Pass.Confined
import FormGate.Proofs.Pass.Returns
import FormGate.Proofs.Pass.Isolation
import FormGate.Proofs.Trigger.Refusal
import FormGate.Proofs.Document.Labels
import FormGate.Proofs.Markup.Names
import FormGate.Proofs.Pass.Writable
import FormGate.Proofs.Command.Script
import FormGate.Proofs.Command.Execution
import FormGate.Proofs.Command.Conclusion
import FormGate.Proofs.Json.Scalars
import FormGate.Proofs.Json.RoundTrip
import FormGate.Proofs.Command.Report
import FormGate.Proofs.Command.Verdict
import FormGate.Proofs.Rule.Grammar
import FormGate.Proofs.Pass.Warnings
import FormGate.Proofs.Command.Lint
import FormGate.Proofs.Markup.Lexing
import FormGate.Proofs.Markup.Tokens
import FormGate.Proofs.Markup.Marks
import FormGate.Proofs.Markup.Written
import FormGate.Proofs.Markup.Misc
import FormGate.Proofs.Document.Subset
import FormGate.Proofs.Document.Rooted
import FormGate.Proofs.Document.Plain
import FormGate.Proofs.Trigger.RoundTrip
import FormGate.Proofs.Trigger.OptIn
import FormGate.Proofs.Pass.WriteBack
import FormGate.Proofs.Pass.Presented
import FormGate.Proofs.Rule.Token
import FormGate.Proofs.Pass.NormalForm
import FormGate.Proofs.Pass.Settled
import FormGate.Proofs.Pass.Relined
import FormGate.Proofs.Pass.Latest
import FormGate.Proofs.Rule.Concatenation
import FormGate.Proofs.Rule.Usable
import FormGate.Proofs.Pass.Mismatch
import FormGate.Proofs.Markup.Replaced
import FormGate.Proofs.Markup.ReplacedTags
import FormGate.Proofs.Markup.Parts
import FormGate.Proofs.Markup.PageParts
import FormGate.Proofs.Markup.Tagged
import FormGate.Proofs.Markup.Untyped
import FormGate.Proofs.Markup.Sections
import FormGate.Proofs.Diagnostic.Errors
import FormGate.Proofs.Document.Removal
import FormGate.Proofs.Document.Access
import FormGate.Proofs.Rule.Address
import FormGate.Proofs.Rule.Registration
import FormGate.Proofs.Diagnostic.Attribution
import FormGate.Proofs.Config.Usable
