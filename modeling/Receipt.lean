import Receipt.Barcode
import Receipt.Barcode.CheckDigit
import Receipt.Barcode.Symbology
import Receipt.Bytes
import Receipt.CodePage
import Receipt.CodePage.Basic
import Receipt.CodePage.Label
import Receipt.CodePage.Upper
import Receipt.CodePage.Upper.Iso8859
import Receipt.CodePage.Upper.Windows
import Receipt.Command
import Receipt.CommandLine.Help
import Receipt.CommandLine.Request
import Receipt.CommandLine.Run
import Receipt.CommandLine.Words
import Receipt.Failure
import Receipt.FileStore
import Receipt.FileStore.Content
import Receipt.FileStore.Path
import Receipt.FileStore.Places
import Receipt.Job
import Receipt.Json
import Receipt.Json.Number
import Receipt.Json.Reader
import Receipt.Log
import Receipt.Main
import Receipt.Markup.Column
import Receipt.Markup.Content
import Receipt.Markup.Document
import Receipt.Markup.Element
import Receipt.Markup.Formatting
import Receipt.Markup.Line
import Receipt.Markup.Opening
import Receipt.Markup.Padding
import Receipt.Markup.Piece
import Receipt.Markup.Segment
import Receipt.Markup.Tag
import Receipt.Number.Binary
import Receipt.Number.Decimal
import Receipt.Number.Digits
import Receipt.Number.Shortest
import Receipt.Number.Word64
import Receipt.Picture
import Receipt.Picture.Fit
import Receipt.Picture.Format
import Receipt.Picture.Ppm
import Receipt.Picture.Resample
import Receipt.Picture.Shading
import Receipt.Profile
import Receipt.Profile.Json
import Receipt.Profile.Name
import Receipt.Proofs.CodePage
import Receipt.Proofs.Markup.Column
import Receipt.Proofs.Markup.Document
import Receipt.Proofs.Markup.Grid
import Receipt.Proofs.Markup.Line
import Receipt.Proofs.Printer.Marks
import Receipt.Proofs.Printer.Paper
import Receipt.Proofs.Printer.Reader
import Receipt.Proofs.Raster.Dots
import Receipt.Proofs.Result
import Receipt.Proofs.Session.Changes
import Receipt.Proofs.Session.History
import Receipt.Proofs.Session.Outputs
import Receipt.Proofs.Session.Plan
import Receipt.Proofs.Session.PrintJob
import Receipt.Proofs.Session.Printed
import Receipt.Proofs.Session.Printout
import Receipt.Proofs.Session.Registers
import Receipt.Proofs.Sink.Recorder
import Receipt.Proofs.Sink.Transcript
import Receipt.Qr.Codewords
import Receipt.Qr.Layout
import Receipt.Qr.Mask
import Receipt.Qr.Matrix
import Receipt.Qr.Native
import Receipt.Qr.ReedSolomon
import Receipt.Qr.Segment
import Receipt.Qr.Symbol
import Receipt.Qr.Version
import Receipt.Raster
import Receipt.Raster.Dots
import Receipt.Raster.Strip
import Receipt.Session
import Receipt.Sink
import Receipt.Sink.Device
import Receipt.Sink.Memory
import Receipt.Style
import Receipt.Style.Stack
import Receipt.Text.Bands
import Receipt.Text.Blank
import Receipt.Text.Hex
import Receipt.Text.Lowercase
import Receipt.Text.Lowercase.Cased
import Receipt.Text.Lowercase.Runs
import Receipt.Text.Quoted
import Receipt.Text.Quoted.Glyphless
import Receipt.Proofs.Session.Failures
import Receipt.Proofs.Session.CutShort
import Receipt.Proofs.Session.Afresh
import Receipt.Proofs.Text
import Receipt.Proofs.Markup.Content
import Receipt.Proofs.Raster.Rows
import Receipt.Proofs.Raster.Envelope
import Receipt.Proofs.Session.ImageMarkup
import Receipt.Proofs.Markup.Joined
import Receipt.Proofs.Markup.Fit
import Receipt.Proofs.Session.Unconnected
import Receipt.Proofs.FileStore
import Receipt.Proofs.Sink.Device
import Receipt.Proofs.Session.Delivery
import Receipt.Proofs.CommandLine.Words
import Receipt.Proofs.CommandLine.Destinations
import Receipt.Proofs.Markup.Segments
import Receipt.Proofs.Markup.Pieces
import Receipt.Proofs.Markup.ContentLine
import Receipt.Proofs.Markup.Placement
import Receipt.Proofs.Markup.Stacks
import Receipt.Proofs.Markup.Balance
import Receipt.Proofs.Text.Lowercase
import Receipt.Proofs.Markup.Tag
import Receipt.Proofs.Markup.Questions
import Receipt.Proofs.Markup.Payload
import Receipt.Proofs.Number.Rounding
import Receipt.Proofs.Number.Order
import Receipt.Proofs.Profile
import Receipt.Proofs.Barcode
import Receipt.Proofs.Barcode.CheckDigit
import Receipt.Proofs.Barcode.Completion
import Receipt.Proofs.Bytes
import Receipt.Proofs.Barcode.Command
import Receipt.Proofs.Qr.Native
import Receipt.Proofs.Qr.Scaling
import Receipt.Proofs.Markup.Image
import Receipt.Proofs.Picture.Shading
import Receipt.Proofs.Barcode.Detection
import Receipt.Proofs.CodePage.Lossless
import Receipt.Proofs.Markup.Newlines
import Receipt.Proofs.Qr.Fitting
