import CiFront.Cli.Directory
import CiFront.Cli.Report
import CiFront.Icon.Size
import CiFront.Json.Reader
import CiFront.Log.Line
import CiFront.Main
import CiFront.Parameter.Form
import CiFront.Proofs.Bundle.History
import CiFront.Proofs.Cli.Environment
import CiFront.Proofs.Config.Loading
import CiFront.Proofs.Icon.Description
import CiFront.Proofs.Icon.Naming
import CiFront.Proofs.Icon.Path
import CiFront.Proofs.Icon.Rebuilding
import CiFront.Proofs.Job.Construction
import CiFront.Proofs.Job.File
import CiFront.Proofs.Job.Logging
import CiFront.Proofs.Job.Reading
import CiFront.Proofs.Job.Replay
import CiFront.Proofs.Job.Secrecy
import CiFront.Proofs.Locale.Order
import CiFront.Proofs.Locale.Parts
import CiFront.Proofs.Locale.Spelling
import CiFront.Proofs.Locale.Tag
import CiFront.Proofs.Number.Numeral
import CiFront.Proofs.Parameter.Form
import CiFront.Proofs.Parameter.Integer
import CiFront.Proofs.Parameter.Json
import CiFront.Proofs.Parameter.RefusedForms
import CiFront.Proofs.Parameter.Validity
import CiFront.Proofs.Properties.BadEscapes
import CiFront.Proofs.Properties.Blocks
import CiFront.Proofs.Properties.BrokenLines
import CiFront.Proofs.Properties.CodeUnits
import CiFront.Proofs.Properties.Continuation
import CiFront.Proofs.Properties.Entries
import CiFront.Proofs.Properties.PhysicalLines
import CiFront.Proofs.Properties.Pieces
import CiFront.Proofs.Properties.Spelling
import CiFront.Proofs.Properties.Writing
import CiFront.Proofs.Template.Grammar
import CiFront.Proofs.Template.Quoting
import CiFront.Proofs.Text.Case
import CiFront.Proofs.Text.Hex
import CiFront.Proofs.Text.Lines
import CiFront.Proofs.Text.Quoted
import CiFront.Proofs.Text.Strip
