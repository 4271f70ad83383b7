import FlowLayout.Drawing
import FlowLayout.Decimal.Notation
import FlowLayout.Json.Reader
/-!
# Diagnostic records

A run of the command line reports what it does as records: a level, the part of the program
that speaks, a message, and named values. A record is one line of the error stream: the level
right-aligned in five columns, the speaker, a colon, the message (with the characters that
could drive a terminal escaped, see `Text.logEscape`), then `name=value` for each
value. Counts are decimal, flags `true` or `false`, words quoted, and measures are binary32
values widened to binary64 and written with the fewest digits, positionally from `1e-4` to
below `1e16` and with an exponent outside.

Which records a run makes is fixed here: reading a flowchart reports its counts; a layout
reports each stage (and, at the finest level, the crossings after every reduction pass); the
drawing step reports a flowchart laid out or a text passed through.
-/

namespace FlowLayout.Cli

open FlowLayout.Decimal

/-- How much a record matters, from errors to the finest tracing. -/
inductive Level where
  | error
  | warn
  | info
  | debug
  | trace
  deriving DecidableEq

/-- The rank of a level: a record is shown when its rank is at most the threshold's. -/
def Level.rank : Level → Nat
  | .error => 1
  | .warn => 2
  | .info => 3
  | .debug => 4
  | .trace => 5

/-- The level in five columns. -/
def Level.tag : Level → String
  | .error => "ERROR"
  | .warn => " WARN"
  | .info => " INFO"
  | .debug => "DEBUG"
  | .trace => "TRACE"

/-- Measures in records: binary64 with the fewest digits. -/
def measureNotation : Notation where
  lowestPositional := some (-4)
  highestPositional := some 15
  pointZero := true
  plusInExponent := false
  nan := "NaN"
  infinity := "inf"

/-- A value named in a record. -/
inductive Field where
  | count (n : Nat)
  | flag (b : Bool)
  | word (s : String)
  | measure (x : Float32)

/-- The text of a value. -/
def Field.text : Field → String
  | .count n => toString n
  | .flag b => if b then "true" else "false"
  | .word s => Text.debugQuote s
  | .measure x => measureNotation.double x.toFloat

/-- A diagnostic record. -/
structure Record where
  level : Level
  speaker : String
  message : String
  fields : List (String × Field) := []

/-- The line of a record. -/
def Record.line (r : Record) : String :=
  r.level.tag ++ " " ++ r.speaker ++ ": " ++ Text.logEscape r.message ++
    String.join (r.fields.map fun (k, v) => " " ++ k ++ "=" ++ v.text)

/-! ### What the library reports -/

/-- The record of reading a diagram: the counts of a flowchart. -/
def parseRecords (r : ParseResult) : List Record :=
  match r.diagram with
  | .flowchart c =>
    [{ level := .debug, speaker := "sc_parser::flowchart", message := "flowchart parsed",
       fields := [("nodes", .count c.nodes.length), ("edges", .count c.edges.length)] }]
  | .unsupported _ _ => []

/-- The records of a layout run, stage by stage. -/
def layoutRecords (t : TracedLayout Float32) : List Record :=
  let s := t.layout.stats
  let debug := fun (message : String) (fields : List (String × Field)) =>
    ({ level := .debug, speaker := "sc_layout", message, fields } : Record)
  [debug "cycle breaking" [("node_count", .count s.nodeCount), ("edge_count", .count s.edgeCount),
      ("back_edges", .count s.backEdgeCount)],
    debug "layer assignment" [("layers", .count s.layerCount),
      ("seeded", .flag s.seededLayering)]] ++
  t.passCrossings.zipIdx.map (fun (crossings, pass) =>
    { level := .trace, speaker := "sc_layout::ordering", message := "crossing minimization pass",
      fields := [("pass", .count pass), ("crossings", .count crossings)] }) ++
  [debug "crossing minimization" [("before", .count s.crossingsBefore),
      ("after", .count s.crossingsAfter), ("passes", .count s.crossingPasses),
      ("swaps", .count s.transposeSwaps)],
    debug "complexity analysis" [("class", .word t.layout.complexity.cls.name),
      ("node_width", .measure t.layout.spacing.nodeWidth),
      ("node_spacing", .measure t.layout.spacing.nodeSpacing)],
    debug "coordinate assignment" [("width", .measure t.layout.canvas.width),
      ("height", .measure t.layout.canvas.height)],
    debug "edge routing" [("routed", .count t.layout.routedEdges.length),
      ("detoured_edges", .count s.detouredEdges), ("unresolved_edges", .count s.unresolvedEdges)]]

/-- The records of drawing a parsed diagram: reading, then the layout of a flowchart or the
passing through of another text. -/
def drawingRecords (parsed : ParseResult) (d : Drawing Float32) : List Record :=
  parseRecords parsed ++
  match d.run with
  | some t =>
    layoutRecords t ++
    [{ level := .debug, speaker := "sc_engine", message := "flowchart laid out",
       fields := [("nodes", .count d.nodes.length), ("edges", .count d.edges.length),
         ("warnings", .count d.warnings.length)] }]
  | none =>
    [{ level := .debug, speaker := "sc_engine", message := "unsupported diagram passed through",
       fields := [("kind", .word d.detectedKind.name)] }]

end FlowLayout.Cli
