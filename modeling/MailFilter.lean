import MailFilter.Calendar
import MailFilter.Decimal.Double
import MailFilter.Decimal.Numeral
import MailFilter.Decimal.Shortest
import MailFilter.Disk.Basic
import MailFilter.Disk.Path
import MailFilter.Failure
import MailFilter.Filter.ActionLine
import MailFilter.Filter.Basic
import MailFilter.Filter.Clause
import MailFilter.Filter.Document
import MailFilter.Filter.Record
import MailFilter.Filter.Source
import MailFilter.Journal
import MailFilter.Json.Reader
import MailFilter.Main
import MailFilter.Platform
import MailFilter.Proofs.Ordering
import MailFilter.Proofs.Pieces
import MailFilter.Proofs.Reading
import MailFilter.Run.Basic
import MailFilter.Run.Batch
import MailFilter.Run.CommandLine
import MailFilter.Run.Config
import MailFilter.Run.Convert
import MailFilter.Run.Help
import MailFilter.Sieve.Check
import MailFilter.Sieve.Combine
import MailFilter.Sieve.Command
import MailFilter.Sieve.Field
import MailFilter.Sieve.Quote
import MailFilter.Sieve.Script
import MailFilter.Sieve.Test
import MailFilter.Sieve.Token
import MailFilter.Text.Base64
import MailFilter.Text.Basic
import MailFilter.Text.Blank
import MailFilter.Text.Case
import MailFilter.Text.CaseTable
import MailFilter.Text.Charset
import MailFilter.Text.Digit
import MailFilter.Text.Feed
import MailFilter.Text.LowerCase
import MailFilter.Text.PrintableTable
import MailFilter.Text.Quoted
import MailFilter.Text.Utf8
import MailFilter.Value.Basic
import MailFilter.Value.Display
import MailFilter.Value.Members
import MailFilter.Yaml.Document
import MailFilter.Yaml.Fault
import MailFilter.Yaml.Merge
import MailFilter.Yaml.Node
import MailFilter.Yaml.Object
import MailFilter.Yaml.Scalar
import MailFilter.Yaml.Supply
import MailFilter.Yaml.Tag
import MailFilter.Yaml.Token.Basic
import MailFilter.Yaml.Token.Cursor
import MailFilter.Yaml.Token.Name
import MailFilter.Yaml.Token.Scalar
import MailFilter.Yaml.Token.Stream
import MailFilter.Proofs.EntryTokens
import MailFilter.Proofs.Declarations
import MailFilter.Proofs.Combination
import MailFilter.Proofs.Soundness
import MailFilter.Proofs.Fidelity
import MailFilter.Proofs.SourceText
import MailFilter.Proofs.Execution
import MailFilter.Proofs.Splicing
import MailFilter.Proofs.Trimming
import MailFilter.Proofs.Extensions
import MailFilter.Proofs.Clauses
import MailFilter.Proofs.Printing
import MailFilter.Proofs.Layout
import MailFilter.Proofs.Effects
import MailFilter.Proofs.Places
import MailFilter.Proofs.Loading
import MailFilter.Proofs.Storing
import MailFilter.Proofs.Drafts
import MailFilter.Proofs.Batches
import MailFilter.Proofs.Confinement
import MailFilter.Proofs.Commands
import MailFilter.Proofs.Publication
import MailFilter.Proofs.Agreement
import MailFilter.Proofs.Independence
import MailFilter.Proofs.Wildcards
import MailFilter.Proofs.Anchors
import MailFilter.Proofs.Nesting
import MailFilter.Proofs.Truncation
import MailFilter.Proofs.Reachable
import MailFilter.Proofs.Conservation
import MailFilter.Proofs.Acceptance
import MailFilter.Proofs.JoinSearch
import MailFilter.Proofs.NormalForm
import MailFilter.Proofs.Records
import MailFilter.Proofs.Configuration
import MailFilter.Proofs.Quotation
