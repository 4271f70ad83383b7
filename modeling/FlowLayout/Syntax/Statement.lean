import FlowLayout.Chart.Basic
import FlowLayout.Text.Alphanumeric
/-!
# The statement grammar

One statement (a piece of a line between semicolons) is either a lone node reference or a
chain `node link node link node …`. The grammar is read in the ordered-choice style: each
alternative is tried from the same place, the first that succeeds is taken and never
revisited, and repetition takes as many items as succeed.

* An id is a word of alphanumeric or `_` characters, then any number of further words each
  joined by one `-` or `.`; so `a-b` is one id while `a-->b` stops before the arrow.
* A node reference is an id, then optionally a label in one of eleven delimiter pairs, then
  optionally `:::class`. Pairs are tried longest first: `([ ])`, `[[ ]]`, `[( )]`, `(( ))`,
  `{{ }}`, `[/ /]`, `[/ \]`, `> ]`, `[ ]`, `( )`, `{ }`. A label is either a quoted text
  (blanks around the quotes allowed) or all text up to the first closing delimiter.
* A link is `--`…`>` (solid), `==`…`>` (thick), `-.`…`->` (dotted), or one of those with a
  label inside: `-- text -->`, `-. text .->`, `== text ==>`. A `|text|` after the link
  replaces its label.
* In a chain, a `:::name` after the last node, or else the last node's own class, becomes the
  colour of the last edge.

Parsers here take a character list and return what they read with the rest, or nothing.
-/

namespace FlowLayout.Syntax

/-- A node as a statement mentions it. -/
structure NodeRef where
  id : String
  label : Option String := none
  shape : NodeShape := .rectangle
  cls : Option String := none
  deriving DecidableEq, Repr

/-- A link between two node references. -/
structure Link where
  style : EdgeStyle
  label : Option String := none
  deriving DecidableEq, Repr

/-- A statement of the graph grammar. -/
inductive Statement where
  | node (n : NodeRef)
  | chain (head : NodeRef) (links : List (Link × NodeRef)) (color : Option String)
  deriving DecidableEq, Repr

/-- Space or tab. -/
def isInlineBlank (c : Char) : Bool := c == ' ' || c == '\t'

/-- The input after spaces and tabs. -/
def skipInline (s : List Char) : List Char := s.dropWhile isInlineBlank

/-- Characters of an id's words. -/
def isWordChar (c : Char) : Bool := Text.isAlphanumeric c || c == '_'

/-- Characters of a class name. -/
def isClassChar (c : Char) : Bool := Text.isAlphanumeric c || c == '_' || c == '-' || c == '#'

/-- The rest of the input after the literal, if it starts with it. -/
def expect (lit : String) (s : List Char) : Option (List Char) :=
  if lit.toList.isPrefixOf s then some (s.drop lit.length) else none

/-- The rest of an id after a word character: more word characters, or a joiner directly
followed by a word character. -/
def idTail : List Char → List Char × List Char
  | [] => ([], [])
  | c :: rest =>
    if isWordChar c then
      let (t, r) := idTail rest
      (c :: t, r)
    else if c == '-' || c == '.' then
      match rest with
      | d :: rest' =>
        if isWordChar d then
          let (t, r) := idTail rest'
          (c :: d :: t, r)
        else ([], c :: rest)
      | [] => ([], [c])
    else ([], c :: rest)

/-- An id. -/
def identifier : List Char → Option (List Char × List Char)
  | c :: rest =>
    if isWordChar c then
      let (t, r) := idTail rest
      some (c :: t, r)
    else none
  | [] => none

/-- The text before the first occurrence of `pat`, and the input after that occurrence. -/
def breakAt (pat : List Char) : List Char → Option (List Char × List Char)
  | [] => none
  | c :: rest =>
    if pat.isPrefixOf (c :: rest) then some ([], (c :: rest).drop pat.length)
    else (breakAt pat rest).map fun p => (c :: p.1, p.2)

/-- The text before the first occurrence of `stop` (or all of it), and the rest from there. -/
def takeUntil (stop : List Char) : List Char → List Char × List Char
  | [] => ([], [])
  | c :: rest =>
    if stop.isPrefixOf (c :: rest) then ([], c :: rest)
    else
      let (t, r) := takeUntil stop rest
      (c :: t, r)

/-- A quoted label: blanks, a quoted text, blanks, then the closing delimiter. -/
def quotedLabel (close : String) (s : List Char) : Option (List Char × List Char) := do
  let s ← expect "\"" (skipInline s)
  let (content, s) := s.span (· != '"')
  let s ← expect "\"" s
  let s ← expect close (skipInline s)
  return (content, s)

/-- A label between delimiters: quoted, or everything up to the first closing delimiter. -/
def shapedLabel (opening close : String) (s : List Char) : Option (List Char × List Char) := do
  let s ← expect opening s
  quotedLabel close s <|> breakAt close.toList s

/-- The delimiter pairs and their shapes, in the order they are tried. -/
def delimiters : List (String × String × NodeShape) :=
  [("([", "])", .stadium), ("[[", "]]", .subroutine), ("[(", ")]", .cylinder),
    ("((", "))", .circle), ("\x7b\x7b", "\x7d\x7d", .hexagon), ("[/", "/]", .parallelogram),
    ("[/", "\\]", .trapezoid), (">", "]", .asymmetric), ("[", "]", .rectangle),
    ("(", ")", .roundedRect), ("\x7b", "\x7d", .rhombus)]

/-- The first delimiter pair that reads a label. -/
def shapeAndLabel (s : List Char) : Option ((List Char × NodeShape) × List Char) :=
  delimiters.firstM fun (o, c, shape) =>
    (shapedLabel o c s).map fun (l, r) => ((l, shape), r)

/-- `:::name`. -/
def classSuffix (s : List Char) : Option (List Char × List Char) := do
  let s ← expect ":::" s
  let (name, r) := s.span isClassChar
  if name.isEmpty then none else some (name, r)

/-- A node reference. -/
def nodeRef (s : List Char) : Option (NodeRef × List Char) := do
  let (id, s) ← identifier s
  let (shaped, s) := match shapeAndLabel s with
    | some (p, r) => (some p, r)
    | none => (none, s)
  let (cls, s) := match classSuffix s with
    | some (c, r) => (some (String.ofList c), r)
    | none => (none, s)
  let (label, shape) := match shaped with
    | some (l, sh) => (some (String.ofList l), sh)
    | none => (none, .rectangle)
  return ({ id := String.ofList id, label, shape, cls }, s)

/-- `--`, more dashes, `>`. -/
def solidArrow (s : List Char) : Option (List Char) := do
  let s ← expect "--" s
  expect ">" (s.dropWhile (· == '-'))

/-- `==`, more equals signs, `>`. -/
def thickArrow (s : List Char) : Option (List Char) := do
  let s ← expect "==" s
  expect ">" (s.dropWhile (· == '='))

/-- `-.`, more dots, `->`. -/
def dottedArrow (s : List Char) : Option (List Char) := do
  let s ← expect "-." s
  expect "->" (s.dropWhile (· == '.'))

/-- One or more dots, then `->`. -/
def dottedClose (s : List Char) : Option (List Char) := do
  let s ← expect "." s
  expect "->" (s.dropWhile (· == '.'))

/-- At least one character of label text before `stop`. -/
def inlineText (stop : String) (s : List Char) : Option (List Char × List Char) :=
  let (t, r) := takeUntil stop.toList s
  if t.isEmpty then none else some (t, r)

/-- A link with its label text between an opening, a stop word and a closing arrow. -/
def labeledLink (opening stop : String) (close : List Char → Option (List Char))
    (style : EdgeStyle) (s : List Char) : Option (Link × List Char) := do
  let s ← expect opening s
  let (text, s) ← inlineText stop (skipInline s)
  let s ← close s
  return ({ style, label := some (String.ofList text) }, s)

/-- A link, trying plain arrows first and labelled ones after. -/
def link (s : List Char) : Option (Link × List Char) :=
  ((solidArrow s).map fun r => ({ style := .solid }, r)) <|>
  ((thickArrow s).map fun r => ({ style := .thick }, r)) <|>
  ((dottedArrow s).map fun r => ({ style := .dotted }, r)) <|>
  labeledLink "--" "--" solidArrow .solid s <|>
  labeledLink "-." ".-" dottedClose .dotted s <|>
  labeledLink "==" "==" thickArrow .thick s

/-- `|text|`. -/
def pipeLabel (s : List Char) : Option (List Char × List Char) := do
  let s ← expect "|" s
  let (text, s) := s.span (· != '|')
  let s ← expect "|" s
  return (text, s)

/-- A link and the node it leads to. -/
def segment (s : List Char) : Option ((Link × NodeRef) × List Char) := do
  let (lk, s) ← link (skipInline s)
  let s := skipInline s
  let (pipe, s) := match pipeLabel s with
    | some (p, r) => (some (String.ofList p), r)
    | none => (none, s)
  let (target, s) ← nodeRef (skipInline s)
  let lk := match pipe with
    | some p => { lk with label := some p }
    | none => lk
  return ((lk, target), s)

/-- As many segments as succeed; each consumes input, so `fuel` at least the input's length
lets every one be read. -/
def segments : Nat → List Char → List (Link × NodeRef) × List Char
  | 0, s => ([], s)
  | fuel + 1, s =>
    match segment s with
    | some (seg, r) =>
      let (more, r') := segments fuel r
      (seg :: more, r')
    | none => ([], s)

/-- The colour of a chain's last edge, and its segments with the class that became the colour
taken off the last node. -/
def chainColor (links : List (Link × NodeRef)) (tail : Option String) :
    List (Link × NodeRef) × Option String :=
  match tail with
  | some c => (links, some c)
  | none =>
    match links.getLast? with
    | some (lk, last) =>
      (links.dropLast ++ [(lk, { last with cls := none })], last.cls)
    | none => (links, none)

/-- A chain filling the whole statement. -/
def readChain (s : List Char) : Option Statement := do
  let (head, s) ← nodeRef s
  let (links, s) := segments (s.length + 1) s
  if links.isEmpty then none
  let (tail, s) := match classSuffix (skipInline s) with
    | some (c, r) => (some (String.ofList c), r)
    | none => (none, s)
  if !(skipInline s).isEmpty then none
  let (links, color) := chainColor links tail
  return .chain head links color

/-- A lone node reference filling the whole statement. -/
def readStandalone (s : List Char) : Option Statement := do
  let (n, s) ← nodeRef s
  if (skipInline s).isEmpty then some (.node n) else none

/-- A whole statement. -/
def Statement.parse? (s : String) : Option Statement :=
  readChain s.toList <|> readStandalone s.toList

end FlowLayout.Syntax
