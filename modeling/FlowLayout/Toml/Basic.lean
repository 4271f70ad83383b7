/-!
# TOML documents

A TOML document is a table: its keys keep the order in which they were first written, and
each holds a value, a table, or an array of tables. Values are integers, floats, booleans,
strings, date-times (kept as their text), arrays and inline tables.

Every key and value remembers the byte range it was written at, so that a complaint about it
can point into the document. A table also remembers how it came about: an `implicit` table was
only named on the way to another one, and a `dotted` one was made by a dotted key. The rules
that say which tables may be reopened read these flags.
-/

namespace FlowLayout.Toml

/-- A range of byte offsets in the document text, the end excluded. -/
structure Span where
  start : Nat
  stop : Nat
  deriving Inhabited, BEq

/-- A key as written: its name, its text in the document (with quotes, if quoted), and its
place. -/
structure Key where
  name : String
  raw : String
  span : Span
  deriving Inhabited

/-- A value written after `=`. -/
inductive Value where
  | integer (i : Int)
  | float (x : Float)
  | boolean (b : Bool)
  | string (s : String)
  | datetime (text : String)
  | array (items : List Value)
  | inlineTable (entries : List (String × Value)) (dotted : Bool)
  deriving Inhabited

/-- The name of a value's type, as complaints spell it. -/
def Value.typeName : Value → String
  | .integer _ => "integer"
  | .float _ => "float"
  | .boolean _ => "boolean"
  | .string _ => "string"
  | .datetime _ => "datetime"
  | .array _ => "array"
  | .inlineTable _ _ => "inline table"

/-- How a table came about. -/
structure TableShape where
  implicit : Bool
  dotted : Bool
  deriving Inhabited

/-- The shape of a table opened by a header, and of the document root. -/
def TableShape.explicit : TableShape := ⟨false, false⟩

/-- What a key of a table holds. -/
inductive Item where
  | value (v : Value) (span : Span)
  | table (entries : List (Key × Item)) (shape : TableShape) (span : Option Span)
  | tables (list : List (List (Key × Item)))
  deriving Inhabited

/-- The entries of a table, in the order their keys were first written. -/
abbrev Entries := List (Key × Item)

/-- A document: the entries of its root table. -/
abbrev Document := Entries

/-- Why the tables of a document do not fit together. -/
inductive Clash where
  /-- A key defined twice; `table` is the header path of the table it was defined in, when
  the complaint names one. -/
  | duplicateKey (key : String) (table : Option (List String))
  /-- A dotted key or header that goes through a value which is not a table. -/
  | extendWrongType (path : List String) (actual : String)

/-- The wording of a clash. -/
def Clash.message : Clash → String
  | .duplicateKey key none => "duplicate key `" ++ key ++ "`"
  | .duplicateKey key (some []) => "duplicate key `" ++ key ++ "` in document root"
  | .duplicateKey key (some path) =>
    "duplicate key `" ++ key ++ "` in table `" ++ ".".intercalate path ++ "`"
  | .extendWrongType path actual =>
    "dotted key `" ++ ".".intercalate path ++ "` attempted to extend non-table type (" ++
      actual ++ ")"

/-- Something a scanner expected to see. -/
inductive Expectation where
  | char (c : Char)
  | literal (s : String)
  | description (s : String)

/-- The wording of an expectation: characters and literals in backquotes, a newline by name. -/
def Expectation.text : Expectation → String
  | .char '\n' => "newline"
  | .char c => if c == Char.ofNat 96 then "'" ++ String.singleton c ++ "'"
    else "`" ++ String.singleton c ++ "`"
  | .literal s => "`" ++ s ++ "`"
  | .description s => s

/-- What a scanner says when it fails: the names of what it was reading and what it expected,
innermost first, and a cause found beneath them. -/
structure Complaint where
  labels : List String := []
  expected : List Expectation := []
  cause : Option String := none

namespace Complaint

/-- Adds the name of what was being read. -/
def label (c : Complaint) (name : String) : Complaint := { c with labels := c.labels ++ [name] }

/-- Adds something that was expected. -/
def expect (c : Complaint) (e : Expectation) : Complaint :=
  { c with expected := c.expected ++ [e] }

/-- The wording of a complaint: the innermost name as `invalid …`, then what was expected,
then the cause, each on a line of its own. -/
def message (c : Complaint) : String :=
  let parts :=
    (match c.labels.head? with
      | some l => ["invalid " ++ l]
      | none => []) ++
    (if c.expected.isEmpty then []
      else ["expected " ++ ", ".intercalate (c.expected.map Expectation.text)]) ++
    (match c.cause with
      | some m => [m]
      | none => [])
  "\n".intercalate parts

end Complaint

end FlowLayout.Toml
