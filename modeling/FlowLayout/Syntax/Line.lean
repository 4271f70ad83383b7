import FlowLayout.Chart.Style
import FlowLayout.Syntax.Statement
/-!
# Lines, statements and directives

A line of a flowchart is trimmed; a line that then starts with `%%` is a comment, and a `%%`
later in the line starts a comment that runs to its end. The rest is cut at semicolons into
statements. Neither cut applies inside double quotes or inside brackets, parentheses or
braces; the nesting depth never drops below zero.

A statement is one of: the opening of a subgraph (`subgraph …`), its closing (`end`), a local
`direction …` (ignored), a styling directive, or a graph statement. A keyword counts only when
the statement equals it or continues with a blank after it. Directives:

* `style ID DECLS` gives node `ID` a style;
* `linkStyle TARGETS DECLS` styles edges, where the comma-separated targets are edge indexes
  or `default`;
* `classDef NAMES DECLS` defines the comma-separated classes;
* `class IDS NAME` attaches a class to the comma-separated nodes.

The word after the keyword runs to the first blank; what follows, trimmed, is the rest. A
directive without both parts is incomplete.
-/

namespace FlowLayout.Syntax

/-- Cuts at semicolons outside quotes and brackets; `current` is the piece read so far,
reversed. -/
def splitStatements (inQuote : Bool) (depth : Nat) (current : List Char) :
    List Char → List (List Char)
  | [] => [current.reverse]
  | c :: rest =>
    if inQuote then splitStatements (c != '"') depth (c :: current) rest
    else if c == '"' then splitStatements true depth (c :: current) rest
    else if c == '[' || c == '(' || c == '{' then
      splitStatements false (depth + 1) (c :: current) rest
    else if c == ']' || c == ')' || c == '}' then
      splitStatements false (depth - 1) (c :: current) rest
    else if c == ';' && depth == 0 then current.reverse :: splitStatements false depth [] rest
    else splitStatements false depth (c :: current) rest

/-- The line up to a `%%` outside quotes and brackets, blanks at its end removed; the whole
line when there is none. -/
def stripComment (inQuote : Bool) (depth : Nat) (before : List Char) :
    List Char → List Char
  | [] => before.reverse
  | c :: rest =>
    if inQuote then stripComment (c != '"') depth (c :: before) rest
    else if c == '"' then stripComment true depth (c :: before) rest
    else if c == '[' || c == '(' || c == '{' then stripComment false (depth + 1) (c :: before) rest
    else if c == ']' || c == ')' || c == '}' then stripComment false (depth - 1) (c :: before) rest
    else if c == '%' && depth == 0 && rest.head? == some '%' then
      Text.dropBlankEnd before.reverse
    else stripComment false depth (c :: before) rest

/-- The statements of a line. -/
def statementsOf (line : String) : List String :=
  (splitStatements false 0 [] line.toList).map String.ofList

/-- A line without its trailing comment. -/
def withoutComment (line : String) : String := String.ofList (stripComment false 0 [] line.toList)

/-- The rest of a statement after a keyword that the statement equals or that a blank
follows. -/
def afterKeyword (statement keyword : String) : Option String :=
  if keyword.toList.isPrefixOf statement.toList then
    let rest := statement.toList.drop keyword.length
    match rest with
    | [] => some ""
    | c :: _ => if Text.isBlank c then some (String.ofList rest) else none
  else none

/-- The first word and the trimmed rest, both non-empty. -/
def splitHead (rest : String) : Option (String × String) :=
  let cs := Text.trimChars rest.toList
  match cs.span (fun c => !Text.isBlank c) with
  | (_, []) => none
  | (head, tail) =>
    let tail := Text.trimChars tail
    if head.isEmpty || tail.isEmpty then none
    else some (String.ofList head, String.ofList tail)

/-- Comma-separated items, trimmed, without empty ones. -/
def commaItems (s : String) : List String :=
  ((s.splitOn ",").map Text.trim).filter (!·.isEmpty)

/-- An edge index in decimal, with an optional `+`, below `2^64`. -/
def parseIndex (s : String) : Option Nat :=
  let digits := match s.toList with
    | '+' :: ds => ds
    | ds => ds
  if digits.isEmpty || !digits.all Char.isDigit then none
  else
    let n := digits.foldl (fun n d => n * 10 + (d.toNat - 48)) 0
    if n < Nat.pow 2 64 then some n else none

/-- What a `linkStyle` target names. -/
inductive LinkTarget where
  | defaultStyle
  | index (i : Nat)
  | invalid (text : String)
  deriving DecidableEq, Repr

/-- A target of `linkStyle`. -/
def LinkTarget.ofText (t : String) : LinkTarget :=
  if t == "default" then .defaultStyle
  else match parseIndex t with
    | some i => .index i
    | none => .invalid t

/-- The four styling directives. -/
inductive DirectiveKind where
  | style
  | linkStyle
  | classDef
  | assignClass
  deriving DecidableEq, Repr

/-- A styling directive, read. -/
inductive Directive where
  | style (node : String) (declarations : Style)
  | linkStyle (targets : List LinkTarget) (declarations : Style)
  | classDef (names : List String) (declarations : Style)
  | assignClass (nodes : List String) (name : String)
  | incomplete (kind : DirectiveKind)

/-- The warning for an incomplete directive. -/
def DirectiveKind.incompleteMessage : DirectiveKind → String
  | .style => "style directive needs a node id and properties"
  | .linkStyle => "linkStyle directive needs edge indexes and properties"
  | .classDef => "classDef directive needs a class name and properties"
  | .assignClass => "class directive needs node ids and a class name"

/-- The directive a statement is, if it is one. -/
def Directive.ofStatement? (statement : String) : Option Directive :=
  match afterKeyword statement "style" with
  | some rest => some <| match splitHead rest with
    | some (node, decls) => .style node (Style.parseDeclarations decls)
    | none => .incomplete .style
  | none =>
  match afterKeyword statement "linkStyle" with
  | some rest => some <| match splitHead rest with
    | some (targets, decls) =>
      .linkStyle ((commaItems targets).map LinkTarget.ofText) (Style.parseDeclarations decls)
    | none => .incomplete .linkStyle
  | none =>
  match afterKeyword statement "classDef" with
  | some rest => some <| match splitHead rest with
    | some (names, decls) => .classDef (commaItems names) (Style.parseDeclarations decls)
    | none => .incomplete .classDef
  | none =>
  match afterKeyword statement "class" with
  | some rest => some <| match splitHead rest with
    | some (nodes, name) => .assignClass (commaItems nodes) name
    | none => .incomplete .assignClass
  | none => none

/-- What a statement is. -/
inductive Item where
  | openSubgraph
  | closeSubgraph
  | localDirection
  | directive (d : Directive)
  | graph (s : Statement)
  | unsupported

/-- Classifies a trimmed, non-empty statement. -/
def Item.ofStatement (statement : String) : Item :=
  if (afterKeyword statement "subgraph").isSome then .openSubgraph
  else if statement == "end" then .closeSubgraph
  else if (afterKeyword statement "direction").isSome then .localDirection
  else match Directive.ofStatement? statement with
    | some d => .directive d
    | none => match Statement.parse? statement with
      | some s => .graph s
      | none => .unsupported

/-- The direction a header names: the first direction token after its first word. -/
def headerDirection (header : String) : Option Direction :=
  ((Text.words header).drop 1).firstM Direction.ofToken

end FlowLayout.Syntax
