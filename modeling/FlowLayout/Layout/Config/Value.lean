import FlowLayout.Layout.Config
import FlowLayout.Json.Reader
import FlowLayout.Json.Writer
import FlowLayout.Data.SortedMap
import FlowLayout.Geometry.Scalar
/-!
# Settings from a JSON value

Settings are read from an object of named settings or from an array of settings in field
order; missing settings keep their defaults, and an unknown name is refused. An object is
read in name order, and a name given twice counts once, with its last value. An array longer
than the nine settings is refused after its settings are read.

A count takes a non-negative integer; a negative integer is a wrong value and any other datum
a wrong type. A number takes any JSON number, rounded to binary32 (so `1e39` becomes
infinity). The last section words the errors of reading settings.
-/

namespace FlowLayout

open Json

/-- What kind of datum a JSON value is, for complaints. -/
def Json.Value.found : Value → Found
  | .null => .null
  | .bool b => .bool b
  | .num (.unsigned n) => .unsigned n
  | .num (.signed i) => .signed i
  | .num (.double x) => .float x
  | .num (.single x) => .float x.toFloat
  | .str s => .str s
  | .arr _ => .seq
  | .obj _ => .map

/-- A JSON number rounded to binary32. -/
def Json.Number.toSingle : Number → Float32
  | .unsigned n => Float32.ofNat n
  | .signed i => if i < 0 then -(Float32.ofNat i.natAbs) else Float32.ofNat i.natAbs
  | .double x => x.toFloat32
  | .single x => x

/-- The name a data format gives the settings record. -/
def configTypeName : String := "struct LayoutConfig"

/-- The names of all settings, in data order. -/
def configKeys : List String := ConfigField.all.map (·.key)

/-- A count from a JSON value. -/
def readCount : Value → Except Mismatch Nat
  | .num (.unsigned n) => pure n
  | .num (.signed i) => throw (.invalidValue (.signed i) "usize")
  | v => throw (.invalidType v.found "usize")

/-- A number from a JSON value. -/
def readSingle : Value → Except Mismatch Float32
  | .num n => pure n.toSingle
  | v => throw (.invalidType v.found "f32")

/-- Sets one setting. -/
def LayoutConfig.setField (c : LayoutConfig Float32) : ConfigField → SettingValue Float32 →
    LayoutConfig Float32
  | .crossingPasses, .count n => { c with crossingPasses := n }
  | .transposeRounds, .count n => { c with transposeRounds := n }
  | .detourAttempts, .count n => { c with detourAttempts := n }
  | .targetWidth, .number x => { c with targetWidth := x }
  | .margin, .number x => { c with margin := x }
  | .obstaclePadding, .number x => { c with obstaclePadding := x }
  | .detourStep, .number x => { c with detourStep := x }
  | .curveFactor, .number x => { c with curveFactor := x }
  | .stubLength, .number x => { c with stubLength := x }
  | _, _ => c

/-- One setting read from a JSON value. -/
def ConfigField.readValue (f : ConfigField) (v : Value) : Except Mismatch (SettingValue Float32) :=
  if f.isCount then SettingValue.count <$> readCount v else SettingValue.number <$> readSingle v

/-- Settings from a JSON value, without range checks. -/
def LayoutConfig.fromValue (v : Value) : Except Mismatch (LayoutConfig Float32) :=
  match v with
  | .obj members =>
    let byName : SortedMap String Value := members.foldl (fun m (k, x) => m.insert k x) {}
    byName.entries.foldlM (fun c (k, x) =>
      match ConfigField.ofKey? k with
      | none => throw (.unknownField k configKeys)
      | some f => do return c.setField f (← f.readValue x)) LayoutConfig.default
  | .arr items => do
    let c ← (ConfigField.all.zip (List.range 9)).foldlM (fun c (f, i) =>
      match items[i]? with
      | some x => do return c.setField f (← f.readValue x)
      | none => pure c) LayoutConfig.default
    if items.length > 9 then throw (.invalidLength items.length "fewer elements in array")
    else pure c
  | v => throw (.invalidType v.found configTypeName)

end FlowLayout

/-!
## Settings errors

Reading settings fails in one of three ways: the JSON is malformed or does not fit, the TOML
is malformed or does not fit, or a setting is out of range. Out-of-range numbers are written
in plain positional decimal with the fewest digits that read back, without a trailing `.0`,
and NaN and the infinities as `NaN`, `inf` and `-inf`.
-/

namespace FlowLayout

open FlowLayout.Decimal

/-- Numbers in range complaints: always positional, no `.0`. -/
def plainNotation : Notation where
  lowestPositional := none
  highestPositional := none
  pointZero := false
  plusInExponent := false
  nan := "NaN"
  infinity := "inf"

/-- The text of a setting's value. -/
def SettingValue.text : SettingValue Float32 → String
  | .count n => toString n
  | .number x => plainNotation.single x

/-- Why settings could not be read. -/
inductive ConfigError where
  | json (e : Json.Error)
  | toml (text : String)
  | outOfRange (o : OutOfRange Float32)

/-- The wording of a settings error. -/
def ConfigError.message : ConfigError → String
  | .json e => "invalid layout config JSON: " ++ e.message
  | .toml text => "invalid layout config TOML: " ++ text
  | .outOfRange o =>
    "layout config field `" ++ o.field.key ++ "` must be " ++ o.requirement.text ++ ", got " ++
      o.value.text

/-- Checked settings: the settings, or the first one out of range. -/
def LayoutConfig.validate (c : LayoutConfig Float32) : Except ConfigError (LayoutConfig Float32) :=
  match c.check with
  | some o => throw (.outOfRange o)
  | none => pure c

end FlowLayout
