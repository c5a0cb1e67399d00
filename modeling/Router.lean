import Router.Binary
import Router.CommandLine.Arguments
import Router.CommandLine.Report
import Router.CommandLine.Run
import Router.Decimal
import Router.Event
import Router.Json.Cursor
import Router.Json.Number
import Router.Json.Read
import Router.Json.Text
import Router.Json.Value
import Router.Main
import Router.Method
import Router.Params
import Router.Pattern
import Router.Proofs.Binary
import Router.Proofs.CommandLine.Arguments
import Router.Proofs.CommandLine.Resolve
import Router.Proofs.CommandLine.Switch
import Router.Proofs.CommandLine.Which
import Router.Proofs.CommandLine.Writes
import Router.Proofs.Json.Consumes
import Router.Proofs.Json.Enclosed
import Router.Proofs.Json.Extent
import Router.Proofs.Json.Numerals
import Router.Proofs.Json.Range
import Router.Proofs.Json.Skipping
import Router.Proofs.Json.Spelling
import Router.Proofs.Json.Strings
import Router.Proofs.Json.TreeExtent
import Router.Proofs.Params
import Router.Proofs.Pattern.Extraction
import Router.Proofs.Pattern.Meaning
import Router.Proofs.Pattern.Reading
import Router.Proofs.Pattern.Written
import Router.Proofs.Percent.Escapes
import Router.Proofs.Percent.Spelling
import Router.Proofs.Registry.Accepts
import Router.Proofs.Registry.FinalSlash
import Router.Proofs.Registry.Search
import Router.Proofs.Registry.Shelves
import Router.Proofs.Registry.Steps
import Router.Proofs.Route.Mismatch
import Router.Proofs.Route.Named
import Router.Proofs.Scan.Cut
import Router.Proofs.Scan.Heads
import Router.Proofs.Scan.Loop
import Router.Proofs.Scan.Reads
import Router.Proofs.Scan.Turns
import Router.Proofs.Table.Refusals
import Router.Proofs.Table.Rows
import Router.Proofs.Table.Spelling
import Router.Proofs.Template.Canonical
import Router.Proofs.Template.Fill
import Router.Proofs.Template.Pieces
import Router.Proofs.Template.Tokens
import Router.Proofs.Text
import Router.Registry
import Router.Route
import Router.Table
import Router.Template.Scan
import Router.Template.Token
import Router.Text
import Router.Text.Case.Table
import Router.Text.Visible.Table
