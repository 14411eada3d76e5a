import JetPlot.Decimal.Basic
import JetPlot.Decimal.Shortest
import JetPlot.Decimal.Style
import JetPlot.Decimal.Reader
import JetPlot.Text.Blank
import JetPlot.Text.Digit
import JetPlot.Text.UpperCase
import JetPlot.Text.Lines
import JetPlot.Geometry.Hypot
import JetPlot.Geometry.Sine
import JetPlot.Geometry.Point
import JetPlot.Geometry.Box
import JetPlot.Log
import JetPlot.Program.Command
import JetPlot.Program.Basic
import JetPlot.Program.Line
import JetPlot.Program.Template
import JetPlot.Program.Reading
import JetPlot.Program.Demo
import JetPlot.Toolpath.Basic
import JetPlot.Toolpath.Arc
import JetPlot.Toolpath.Trace
import JetPlot.Viewport
import JetPlot.Options
import JetPlot.Svg
import JetPlot.Report
import JetPlot.Json.Value
import JetPlot.Json.Number
import JetPlot.Json.Reader
import JetPlot.Json.Record
import JetPlot.Program.Json
import JetPlot.Toolpath.Json
import JetPlot.Toml.Value
import JetPlot.Toml.Text
import JetPlot.Toml.Number
import JetPlot.Toml.Reader
import JetPlot.Text.Hex
import JetPlot.Files.Path
import JetPlot.Files.Tree
import JetPlot.Settings.Format
import JetPlot.Settings.Codec
import JetPlot.Settings.Store
import JetPlot.CommandLine.Arguments
import JetPlot.CommandLine.Run
import JetPlot.Main
import JetPlot.Proofs.Toolpath.Blocks
import JetPlot.Proofs.Toolpath.Run
import JetPlot.Proofs.Toolpath.Segmentation
import JetPlot.Proofs.Toolpath.Accounts
import JetPlot.Proofs.Reading.Fates
import JetPlot.Proofs.Reading.Shutter
import JetPlot.Proofs.Toolpath.Splitting
import JetPlot.Proofs.Toolpath.Points
import JetPlot.Proofs.Reading.Commands
import JetPlot.Proofs.Double.Value
import JetPlot.Proofs.Double.Rounding
import JetPlot.Proofs.Double.Arithmetic
import JetPlot.Proofs.Double.Middle
import JetPlot.Proofs.Double.Equality
import JetPlot.Proofs.Decimal.Numeral
import JetPlot.Proofs.Decimal.Nearest
import JetPlot.Proofs.Decimal.Roundtrip
import JetPlot.Proofs.Viewport.Hull
import JetPlot.Proofs.Viewport.Drawn
import JetPlot.Proofs.Viewport.Proper
import JetPlot.Proofs.Svg.Pieces
import JetPlot.Proofs.Svg.Finite
import JetPlot.Proofs.Reading.Joining
import JetPlot.Proofs.Toolpath.Erasure
import JetPlot.Proofs.Toolpath.Printing
import JetPlot.Proofs.Svg.Unseen
import JetPlot.Proofs.Svg.Ignored
import JetPlot.Proofs.Reading.WellFormed
import JetPlot.Proofs.Reading.Template
import JetPlot.Proofs.Reading.Roundtrip
import JetPlot.Proofs.Svg.Decoding
import JetPlot.Proofs.Json.Scalars
import JetPlot.Proofs.Json.Layout
import JetPlot.Proofs.Json.Records
import JetPlot.Proofs.Json.Programs
import JetPlot.Proofs.Files.Writing
import JetPlot.Proofs.Geometry.Sine
import JetPlot.Proofs.Settings.Store
import JetPlot.Proofs.Settings.Refusal
import JetPlot.Proofs.Settings.Range
import JetPlot.Proofs.Settings.Given
import JetPlot.Proofs.CommandLine.Delivery
import JetPlot.Proofs.CommandLine.Precedence
import JetPlot.Proofs.Toml.Numbers
import JetPlot.Proofs.Toml.Documents
import JetPlot.Proofs.Settings.Roundtrip
import JetPlot.Proofs.Settings.Whole
import JetPlot.Proofs.Settings.Partial
import JetPlot.Proofs.Text.LetterCase
import JetPlot.Proofs.Reading.LetterCase
import JetPlot.Proofs.Toolpath.Radii
import JetPlot.Proofs.Reading.Backtracking
import JetPlot.Proofs.Reading.Occurrence
import JetPlot.Proofs.Reading.Tokens
import JetPlot.Proofs.Svg.Markup
import JetPlot.Proofs.Double.Zeros
import JetPlot.Proofs.Reading.Precedence
import JetPlot.Proofs.Reading.Layout
import JetPlot.Proofs.Log.Markers
import JetPlot.Proofs.Log.Agreement
import JetPlot.Proofs.Toolpath.Continuing
import JetPlot.Proofs.Viewport.PointSet
import JetPlot.Proofs.Viewport.Size
