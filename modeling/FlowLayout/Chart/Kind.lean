import FlowLayout.Text.Blank
/-!
# Diagram kinds

A diagram text names its language with the first word of its first significant line: the
first line that, trimmed, is neither empty nor a `%%` comment. The word ends at a blank or a
semicolon. `DiagramKind.detect` maps that word to a kind; a text without a significant line,
or with a word no language uses, is of unknown kind.
-/

namespace FlowLayout

/-- The diagram languages told apart by their opening keyword. -/
inductive DiagramKind where
  | flowchart
  | sequence
  | classes
  | state
  | er
  | gantt
  | pie
  | journey
  | mindmap
  | timeline
  | quadrantChart
  | requirement
  | gitGraph
  | xyChart
  | unknown
  deriving DecidableEq, Repr, Inhabited

namespace DiagramKind

/-- The short name, as summaries write it. -/
def name : DiagramKind → String
  | .flowchart => "flowchart"
  | .sequence => "sequence"
  | .classes => "class"
  | .state => "state"
  | .er => "er"
  | .gantt => "gantt"
  | .pie => "pie"
  | .journey => "journey"
  | .mindmap => "mindmap"
  | .timeline => "timeline"
  | .quadrantChart => "quadrantChart"
  | .requirement => "requirementDiagram"
  | .gitGraph => "gitGraph"
  | .xyChart => "xyChart"
  | .unknown => "unknown"

/-- The name of the kind in full data dumps. -/
def label : DiagramKind → String
  | .flowchart => "Flowchart"
  | .sequence => "Sequence"
  | .classes => "Class"
  | .state => "State"
  | .er => "Er"
  | .gantt => "Gantt"
  | .pie => "Pie"
  | .journey => "Journey"
  | .mindmap => "Mindmap"
  | .timeline => "Timeline"
  | .quadrantChart => "QuadrantChart"
  | .requirement => "Requirement"
  | .gitGraph => "GitGraph"
  | .xyChart => "XyChart"
  | .unknown => "Unknown"

/-- The kind an opening keyword names. -/
def ofKeyword : String → DiagramKind
  | "graph" | "flowchart" => .flowchart
  | "sequenceDiagram" => .sequence
  | "classDiagram" | "classDiagram-v2" => .classes
  | "stateDiagram" | "stateDiagram-v2" => .state
  | "erDiagram" => .er
  | "gantt" => .gantt
  | "pie" => .pie
  | "journey" => .journey
  | "mindmap" => .mindmap
  | "timeline" => .timeline
  | "quadrantChart" => .quadrantChart
  | "requirementDiagram" => .requirement
  | "gitGraph" => .gitGraph
  | "xychart-beta" | "xychart" => .xyChart
  | _ => .unknown

end DiagramKind

/-- Whether a trimmed line is a comment. -/
def isCommentLine (line : String) : Bool := line.startsWith "%%"

/-- The first line that, trimmed, is neither empty nor a comment; trimmed. -/
def firstSignificantLine (input : String) : Option String :=
  ((Text.lines input).map Text.trim).find? fun l => !l.isEmpty && !isCommentLine l

/-- The first word of a line: the characters before the first blank or semicolon. -/
def openingWord (line : String) : String :=
  String.ofList (line.toList.takeWhile fun c => !Text.isBlank c && c != ';')

/-- The kind of a diagram text, from the opening word of its first significant line. -/
def DiagramKind.detect (input : String) : DiagramKind :=
  match firstSignificantLine input with
  | none => .unknown
  | some line => DiagramKind.ofKeyword (openingWord line)

end FlowLayout
