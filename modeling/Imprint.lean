import Imprint.Buffer
import Imprint.BuildNumber
import Imprint.Command.Invocation
import Imprint.Command.Line
import Imprint.Command.Request
import Imprint.Command.Usage
import Imprint.Date
import Imprint.Decimal
import Imprint.Document.Numeral
import Imprint.Document.Printer
import Imprint.Document.Problem
import Imprint.Document.Quotation
import Imprint.Document.Reader
import Imprint.Document.Skipping
import Imprint.Files.Access
import Imprint.Files.Error
import Imprint.Files.Path
import Imprint.Files.Tree
import Imprint.Imprinting
import Imprint.Job
import Imprint.Job.Events
import Imprint.LineCount
import Imprint.Log.Event
import Imprint.Log.Filter
import Imprint.Log.Pattern
import Imprint.Log.Pattern.Expression
import Imprint.Log.Pattern.Mode
import Imprint.Log.Pattern.OpenSet
import Imprint.Log.Pattern.Sign
import Imprint.Log.Rule
import Imprint.Main
import Imprint.Metadata
import Imprint.Proofs.Buffer.Delivery
import Imprint.Proofs.Buffer.Written
import Imprint.Proofs.BuildNumber.Canonical
import Imprint.Proofs.Command.Arrangement
import Imprint.Proofs.Command.DryRun
import Imprint.Proofs.Command.Errand
import Imprint.Proofs.Command.Switches
import Imprint.Proofs.Date.Reading
import Imprint.Proofs.Document.Forms
import Imprint.Proofs.Document.Members
import Imprint.Proofs.Document.Quotation
import Imprint.Proofs.Document.RoundTrip
import Imprint.Proofs.Document.Spelling
import Imprint.Proofs.Document.Truncation
import Imprint.Proofs.Document.Values
import Imprint.Proofs.Files.Apart
import Imprint.Proofs.Files.Kept
import Imprint.Proofs.Imprinting.Again
import Imprint.Proofs.Imprinting.Chain
import Imprint.Proofs.Imprinting.Declared
import Imprint.Proofs.Imprinting.Gathered
import Imprint.Proofs.Imprinting.Lines
import Imprint.Proofs.Imprinting.Version
import Imprint.Proofs.Imprinting.Whole
import Imprint.Proofs.Job.Apart
import Imprint.Proofs.Job.BuildDate
import Imprint.Proofs.Job.Concurrent
import Imprint.Proofs.Job.Lines
import Imprint.Proofs.Job.OwnLog
import Imprint.Proofs.Job.Release
import Imprint.Proofs.Job.Steps
import Imprint.Proofs.Job.Version
import Imprint.Proofs.LineCount.Chunks
import Imprint.Proofs.LineCount.Pieces
import Imprint.Proofs.Metadata.Gathered
import Imprint.Proofs.Metadata.Opening
import Imprint.Proofs.Metadata.Order
import Imprint.Proofs.Summary.Lines
import Imprint.Proofs.Text.Lines
import Imprint.Proofs.Text.Lossy
import Imprint.Proofs.Text.Phrase
import Imprint.Proofs.Text.Spacing
import Imprint.Proofs.Toolchain.Release
import Imprint.Summary
import Imprint.Text
import Imprint.Text.Alphabetic
import Imprint.Text.Alphanumeric
import Imprint.Text.Ranges
import Imprint.Text.Shown
import Imprint.Text.Terminal
import Imprint.Text.Unseen
import Imprint.Text.Utf8
import Imprint.Text.Words
import Imprint.Toolchain.Ending
import Imprint.Toolchain.Launch
import Imprint.Toolchain.Release
import Imprint.Toolchain.Script
