import FlowLayout.Syntax.Builder
import FlowLayout.Syntax.Line
/-!
# Reading a diagram text

`parseDiagram` reads a text whose kind is flowchart statement by statement and keeps every
other text verbatim; it never fails. Problems become warnings, numbered by line (from 1).

The first significant line is the header: its first statement names the direction (the
first direction token after the keyword; top-down when there is none), and its further
statements are read like any other. Subgraph openings and closings are only counted: a
closing without an opening is reported, and openings left at the end are reported once. A
text of another kind carries the single warning `Empty input` when it is blank.
-/

namespace FlowLayout.Syntax

/-- The state of reading a flowchart: the chart so far, whether the header was seen, and how
many subgraphs are open. -/
structure Reading where
  builder : Builder := {}
  seenHeader : Bool := false
  openSubgraphs : Nat := 0

/-- The line prefix of a warning. -/
def linePrefix (n : Nat) : String := "Line " ++ toString n ++ ": "

/-- Adds a node mention and its class. -/
def internRef (b : Builder) (r : NodeRef) : Option Nat × Builder :=
  match b.intern r.id r.label r.shape with
  | (none, b) => (none, b)
  | (some i, b) =>
    match r.cls with
    | some c => (some i, (b.addClass r.id c).2)
    | none => (some i, b)

/-- Adds the targets and edges of a chain after its head at index `previous`; the colour goes
to the last edge. -/
def lowerLinks (previous : Nat) (color : Option String) :
    List (Link × NodeRef) → Builder → Builder
  | [], b => b
  | (lk, target) :: rest, b =>
    match internRef b target with
    | (none, b) => b
    | (some current, b) =>
      let edgeColor := if rest.isEmpty then color else none
      lowerLinks current color rest (b.pushEdge previous current lk.style lk.label edgeColor)

/-- Adds a graph statement. -/
def lowerStatement (b : Builder) : Statement → Builder
  | .node n => (internRef b n).2
  | .chain head links color =>
    match internRef b head with
    | (none, b) => b
    | (some i, b) => lowerLinks i color links b

/-- Applies a styling directive. -/
def applyDirective (line : Nat) (b : Builder) : Directive → Builder
  | .style node decls => b.setNodeStyle node decls
  | .linkStyle targets decls => targets.foldl (fun b t =>
      match t with
      | .defaultStyle => b.setDefaultLinkStyle decls
      | .index i => b.setLinkStyle i decls
      | .invalid text => b.warn (linePrefix line ++ "invalid linkStyle edge index: " ++ text))
      b
  | .classDef names decls => names.foldl (fun b n => b.defineClass n decls) b
  | .assignClass nodes name => nodes.foldl (fun b n =>
      match b.addClass n name with
      | (true, b) => b
      | (false, b) =>
        b.warn (linePrefix line ++ "class directive references unknown node: " ++ n)) b
  | .incomplete kind => b.warn (linePrefix line ++ kind.incompleteMessage)

/-- Reads one statement of line `line`. -/
def readStatement (line : Nat) (st : Reading) (raw : String) : Reading :=
  let statement := Text.trim raw
  if statement.isEmpty then st
  else match Item.ofStatement statement with
    | .openSubgraph => { st with openSubgraphs := st.openSubgraphs + 1 }
    | .closeSubgraph =>
      if st.openSubgraphs == 0 then
        let w := linePrefix line ++ "encountered 'end' without matching 'subgraph'"
        { st with builder := st.builder.warn w }
      else { st with openSubgraphs := st.openSubgraphs - 1 }
    | .localDirection => st
    | .directive d => { st with builder := applyDirective line st.builder d }
    | .graph s => { st with builder := lowerStatement st.builder s }
    | .unsupported =>
      let w := linePrefix line ++ "unsupported flowchart syntax: " ++ statement
      { st with builder := st.builder.warn w }

/-- Reads line number `line`. -/
def readLine (st : Reading) (line : Nat) (text : String) : Reading :=
  let trimmed := Text.trim text
  if trimmed.isEmpty || isCommentLine trimmed then st
  else
    let uncommented := withoutComment trimmed
    if uncommented.isEmpty then st
    else
      let statements := statementsOf uncommented
      let (st, statements) :=
        if st.seenHeader then (st, statements)
        else
          let header := statements.headD ""
          ({ st with
              builder := { chart := { direction := (headerDirection header).getD .topDown } }
              seenHeader := true }, statements.drop 1)
      statements.foldl (readStatement line) st

/-- Reads numbered lines. -/
def readLines (st : Reading) : Nat → List String → Reading
  | _, [] => st
  | n, l :: rest => readLines (readLine st n l) (n + 1) rest

/-- A flowchart text read into a chart and its warnings. -/
def parseFlowchart (input : String) : Flowchart × List String :=
  let st := readLines {} 1 (Text.lines input)
  let b := if st.openSubgraphs > 0 then
      st.builder.warn ("Flowchart ended with " ++ toString st.openSubgraphs ++
        " unclosed subgraph block(s)")
    else st.builder
  b.finish

end FlowLayout.Syntax

namespace FlowLayout

/-- A diagram read from text, with warnings. -/
structure ParseResult where
  diagram : Diagram
  warnings : List String

/-- Reads a diagram text: flowcharts statement by statement, other kinds verbatim. -/
def parseDiagram (input : String) : ParseResult :=
  match DiagramKind.detect input with
  | .flowchart =>
    let (chart, warnings) := Syntax.parseFlowchart input
    { diagram := .flowchart chart, warnings }
  | kind =>
    { diagram := .unsupported kind input
      warnings := if Text.isAllBlank input then ["Empty input"] else [] }

end FlowLayout
