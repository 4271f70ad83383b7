import FlowLayout.Layout.Config.Value
import FlowLayout.Json.Reader
import FlowLayout.Toml.Document
/-!
# Settings from JSON and TOML text

Settings are read straight from JSON text, decoding while reading, so that a fault is reported
where it stands: a wrong type just after the offending datum, an unknown or repeated name just
after the name, a syntax fault where it was noticed. The accepted data are those of
`LayoutConfig.fromValue`, except that members are read in text order and a name given twice
is refused. Settings from TOML text follow.
-/

namespace FlowLayout

open Json

/-- One setting read from the text. -/
def ConfigField.readText (f : ConfigField) : Reader (SettingValue Float32) := do
  let expected := if f.isCount then "usize" else "f32"
  let number ← match ← skipBlank with
    | none => failAhead .eofWhileParsingValue
    | some '-' => bump; readNumber false
    | some c =>
      if c.isDigit then readNumber true
      else failData (.invalidType (← foundAhead) expected)
  if f.isCount then
    match number with
    | .unsigned n => return .count n
    | .signed i => failData (.invalidValue (.signed i) expected)
    | .double x => failData (.invalidType (.float x) expected)
    | .single x => failData (.invalidType (.float x.toFloat) expected)
  else return .number number.toSingle

/-- Settings from an array of settings in field order; the fields left over keep `c`. -/
def readConfigItems : List ConfigField → Bool → LayoutConfig Float32 →
    Reader (LayoutConfig Float32)
  | [], _, c => pure c
  | f :: rest, first, c => do
    if ← nextItem first then
      let v ← f.readText
      readConfigItems rest false (c.setField f v)
    else pure c

/-- Settings from the members of an object; `seen` holds the names read. Each step reads a
member, so `fuel` above the text's length is never used up. -/
def readConfigMembers : Nat → Bool → List ConfigField → LayoutConfig Float32 →
    Reader (LayoutConfig Float32)
  | 0, _, _, c => pure c
  | fuel + 1, first, seen, c => do
    match ← nextKey first with
    | none => pure c
    | some k =>
      match ConfigField.ofKey? k with
      | none => failData (.unknownField k configKeys)
      | some f =>
        if seen.contains f then failData (.duplicateField f.key)
        else
          readColon
          let v ← f.readText
          readConfigMembers fuel false (f :: seen) (c.setField f v)

/-- Settings from JSON text, without range checks. -/
def LayoutConfig.readJsonText (s : String) : Except Error (LayoutConfig Float32) :=
  let start := Cursor.ofString s
  let read : Reader (LayoutConfig Float32) := do
    let c ← match ← skipBlank with
      | none => failAhead .eofWhileParsingValue
      | some '[' =>
        bump
        let c ← readConfigItems ConfigField.all true LayoutConfig.default
        closeArray
        pure c
      | some '{' =>
        bump
        let c ← readConfigMembers start.fuel true [] LayoutConfig.default
        closeObject
        pure c
      | some _ => failData (.invalidType (← foundAhead) configTypeName)
    readEnd
    return c
  read.run' start

end FlowLayout

/-!
## Settings from TOML text

Settings are the keys of the document's root table, read in the order they were written;
missing ones keep their defaults, and the first key that names no setting is refused at the
key. A count takes a non-negative integer; a number takes an integer or a float, rounded to
binary32. Anything else is refused at the value, or at the key of a table: tables and
date-times count as maps, arrays and arrays of tables as sequences. Floats in complaints are
written positionally, with a `.0` when they have no fraction.
-/

namespace FlowLayout

open Json Toml Decimal

/-- What kind of datum a TOML value is, for complaints. -/
def Toml.Value.found : Toml.Value → Found
  | .integer i => .signed i
  | .float x => .float x
  | .boolean b => .bool b
  | .string s => .str s
  | .datetime _ => .map
  | .array _ => .seq
  | .inlineTable _ _ => .map

/-- Floats in complaints about TOML settings. -/
def tomlFloatNotation : Notation := { plainNotation with pointZero := true }

/-- A complaint about TOML settings at a range of the text. -/
def tomlMismatch (m : Mismatch) (span : Span) : Toml.Error :=
  ⟨m.message tomlFloatNotation.double, some span⟩

/-- One setting read from what its key holds. -/
def ConfigField.readItem (f : ConfigField) (key : Key) : Item →
    Except Toml.Error (SettingValue Float32)
  | .value v span =>
    if f.isCount then
      match v with
      | .integer i =>
        if 0 ≤ i then pure (.count i.toNat)
        else throw (tomlMismatch (.invalidValue (.signed i) "usize") span)
      | other => throw (tomlMismatch (.invalidType other.found "usize") span)
    else
      match v with
      | .integer i => pure (.number (Number.signed i).toSingle)
      | .float x => pure (.number x.toFloat32)
      | other => throw (tomlMismatch (.invalidType other.found "f32") span)
  | .table _ _ span =>
    throw (tomlMismatch (.invalidType .map (if f.isCount then "usize" else "f32"))
      (span.getD key.span))
  | .tables _ =>
    throw (tomlMismatch (.invalidType .seq (if f.isCount then "usize" else "f32")) key.span)

/-- Settings from a TOML document, without range checks. -/
def LayoutConfig.fromToml (doc : Document) : Except Toml.Error (LayoutConfig Float32) :=
  doc.foldlM (fun c (key, item) =>
    match ConfigField.ofKey? key.name with
    | none => throw (tomlMismatch (.unknownField key.name configKeys) key.span)
    | some f => c.setField f <$> f.readItem key item) LayoutConfig.default

/-- Settings from TOML text, without range checks; a failure is the report of the error. -/
def LayoutConfig.readTomlText (text : String) : Except String (LayoutConfig Float32) :=
  match Document.parse text >>= LayoutConfig.fromToml with
  | .ok c => .ok c
  | .error e => .error (e.report text)

end FlowLayout
