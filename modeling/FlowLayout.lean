import FlowLayout.Chart.Basic
import FlowLayout.Chart.Flowchart
import FlowLayout.Chart.Kind
import FlowLayout.Chart.Style
import FlowLayout.Cli.Args
import FlowLayout.Cli.Host
import FlowLayout.Cli.Log
import FlowLayout.Cli.Run
import FlowLayout.Data.SortedMap
import FlowLayout.Decimal.Notation
import FlowLayout.Decimal.Shortest
import FlowLayout.Drawing
import FlowLayout.Geometry.Scalar
import FlowLayout.Geometry.Plane
import FlowLayout.Json.Reader
import FlowLayout.Json.Writer
import FlowLayout.Layout.Route
import FlowLayout.Layout.Graph
import FlowLayout.Layout.Complexity
import FlowLayout.Layout.Config
import FlowLayout.Layout.Config.Value
import FlowLayout.Layout.Config.Text
import FlowLayout.Layout.Coordinates
import FlowLayout.Layout.Ordering
import FlowLayout.Layout.Pipeline
import FlowLayout.Layout.Routing
import FlowLayout.Main
import FlowLayout.Proofs.Graph
import FlowLayout.Report.Drawing
import FlowLayout.Report.Layout
import FlowLayout.Syntax.Builder
import FlowLayout.Syntax.Document
import FlowLayout.Syntax.Line
import FlowLayout.Syntax.Statement
import FlowLayout.Text.Alphanumeric
import FlowLayout.Text.Blank
import FlowLayout.Text.Escape
import FlowLayout.Text.Grapheme
import FlowLayout.Toml.Basic
import FlowLayout.Toml.Document
import FlowLayout.Toml.Grammar
import FlowLayout.Toml.Scan
import FlowLayout.Toml.Table
import FlowLayout.Proofs.BackEdges
import FlowLayout.Proofs.Layering
import FlowLayout.Proofs.Ordering
import FlowLayout.Proofs.Pipeline
import FlowLayout.Proofs.Grammar
import FlowLayout.Proofs.Builder
import FlowLayout.Proofs.Drawing
import FlowLayout.Proofs.StatementText
import FlowLayout.Proofs.Exact
import FlowLayout.Proofs.Crossing
import FlowLayout.Proofs.Placement
import FlowLayout.Proofs.Clearance
import FlowLayout.Proofs.Cycles
import FlowLayout.Proofs.Growth
import FlowLayout.Proofs.Reading
import FlowLayout.Proofs.Lockstep
import FlowLayout.Proofs.Styling
import FlowLayout.Proofs.Indexes
import FlowLayout.Proofs.Passes
import FlowLayout.Proofs.Anchors
import FlowLayout.Proofs.Overlay
import FlowLayout.Proofs.Reflection
import FlowLayout.Proofs.Interning
import FlowLayout.Proofs.LineText
import FlowLayout.Proofs.ParallelRoutes
import FlowLayout.Proofs.Settings
import FlowLayout.Proofs.Inversions
import FlowLayout.Proofs.Touching
import FlowLayout.Proofs.Transpose
import FlowLayout.Proofs.Canvas
