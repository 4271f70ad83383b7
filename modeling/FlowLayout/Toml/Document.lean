import FlowLayout.Toml.Grammar
/-!
# Reading a TOML document

`Document.parse` reads a document: its lines are scanned into events, and the events are
assembled into the root table. A clash of tables stops the reading at the line that caused
it, ahead of any failure of a later line; a clash found when the last table is put in place
has no place in the text.

An `Error` is a message with perhaps a byte range. Its report names the line and column of
the range's start, shows that line, and marks the range under it with carets, at least one;
the column counts characters, except at a character of several bytes, where it counts bytes.
-/

namespace FlowLayout.Toml

/-- A complaint about a document, perhaps at a range of its text. -/
structure Error where
  message : String
  span : Option Span

/-- The number of bytes of the character that a leading byte starts. -/
def leadWidth (b : UInt8) : Nat :=
  if b < 0x80 then 1 else if b < 0xE0 then 2 else if b < 0xF0 then 3 else 4

/-- The error of a failed scan: the character at its offset (all of its bytes), nothing at the
end of the text. -/
def Failure.toError (f : Failure) (bytes : ByteArray) : Error :=
  let stop := if h : f.offset < bytes.size then f.offset + leadWidth bytes[f.offset] else f.offset
  ⟨f.complaint.message, some ⟨f.offset, stop⟩⟩

/-- Applies the events in order; a clash is reported at the start of its line, one under a
header with the header named. -/
def applyEvents (bytes : ByteArray) : Assembly → List Event → Except Error Assembly
  | a, [] => pure a
  | a, e :: rest =>
    match a.apply e with
    | .ok a => applyEvents bytes a rest
    | .error clash =>
      let (start, labels) := match e with
        | .keyval start .. => (start, [])
        | .header start .. => (start, ["table header"])
      throw ((Failure.mk start { labels, cause := some clash.message } true).toError bytes)

/-- Reads a document. -/
def Document.parse (text : String) : Except Error Document := do
  let bytes := text.toUTF8
  let cs := text.toList
  -- a byte order mark at the start is skipped
  let start : Cursor := match cs with
    | c :: rest => if c.toNat == 0xfeff then ⟨rest, 3⟩ else ⟨cs, 0⟩
    | [] => ⟨cs, 0⟩
  let start := match blanks start with
    | .ok ((), c) => c
    | .error _ => start
  let (events, failure) := documentLines (value nestingLimit) (cs.length + 1) start []
  let a ← applyEvents bytes {} events
  if let some f := failure then throw (f.toError bytes)
  match a.finish with
  | .ok a => pure a.root
  | .error clash => throw ⟨clash.message, none⟩

/-! ### Reports -/

/-- Whether a byte continues a character. -/
def isContinuation (b : UInt8) : Bool := b &&& 0xc0 == 0x80

/-- The line (from zero) and column (from zero) of a byte offset. -/
def position (bytes : List UInt8) (index : Nat) : Nat × Nat :=
  if bytes.isEmpty then (0, index)
  else
    let safe := min index (bytes.length - 1)
    let beyond := index - safe
    let before := bytes.take safe
    let lineStart := match (before.zipIdx.filter (·.1 == 10)).getLast? with
      | some (_, nl) => nl + 1
      | none => 0
    let line := (before.take lineStart).count 10
    let lineBytes := (bytes.drop lineStart).take (safe + 1 - lineStart)
    let complete := match bytes.drop (safe + 1) with
      | [] => true
      | b :: _ => !isContinuation b
    let column :=
      if complete then (lineBytes.filter (fun b => !isContinuation b)).length - 1
      else safe - lineStart
    (line, column + beyond)

/-- `n` copies of a character. -/
def repeatChar (n : Nat) (c : Char) : String := String.ofList (List.replicate n c)

/-- The report of an error in a document's text. -/
def Error.report (e : Error) (text : String) : String :=
  match e.span with
  | none => e.message ++ "\n"
  | some span =>
    let (line, column) := position text.toUTF8.toList span.start
    let lineNumber := toString (line + 1)
    let gutter := lineNumber.length
    let content := ((text.splitOn "\n").drop line).head?.getD ""
    let highlight := min (span.stop - span.start) (content.utf8ByteSize - column)
    "TOML parse error at line " ++ lineNumber ++ ", column " ++ toString (column + 1) ++ "\n" ++
      repeatChar (gutter + 1) ' ' ++ "|\n" ++
      lineNumber ++ " | " ++ content ++ "\n" ++
      repeatChar (gutter + 1) ' ' ++ "|" ++ repeatChar (column + 1) ' ' ++
      repeatChar (max highlight 1) '^' ++ "\n" ++
      e.message ++ "\n"

end FlowLayout.Toml
