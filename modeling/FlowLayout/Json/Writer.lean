import FlowLayout.Decimal.Notation
/-!
# JSON values and their text

The first section says what a JSON value is; the rest writes one.

`Value.compact` writes a value on one line with no blanks; `Value.pretty` puts every array
item and object member on a line of its own, indented two spaces per level, with `": "`
after a name, and writes empty arrays and objects as `[]` and `{}`.

Strings escape the quote, the backslash and every control character below U+0020: the usual
short escapes where JSON has one, `\u00xx` with lowercase hex digits otherwise. Numbers are
the shortest decimals that read back to the same binary value, spelled by `numberNotation`
(binary64) or `singleNotation` (binary32);
a NaN or infinity is written `null`.
-/

/-!
## JSON values

A JSON value as this library reads and writes it. Numbers keep the reading a JSON reader gives
them: a whole numeral that fits 64 bits stays an integer (`unsigned`, or `signed` when
negative), every other numeral is a binary64 value, and numbers produced from binary32 data
keep that precision so that they print with the digits that data needs. Objects keep their
members in order, repeated names included; `Value.get?` answers with the last member of a name,
as a reader that overwrites would.
-/

namespace FlowLayout.Json

/-- A JSON number. -/
inductive Number where
  | unsigned (n : Nat)
  | signed (i : Int)
  | double (x : Float)
  | single (x : Float32)

/-- A JSON value; an object is its list of members in order. -/
inductive Value where
  | null
  | bool (b : Bool)
  | num (n : Number)
  | str (s : String)
  | arr (items : List Value)
  | obj (members : List (String × Value))

namespace Value

/-- A natural number. -/
def nat (n : Nat) : Value := .num (.unsigned n)

/-- A binary32 number. -/
def f32 (x : Float32) : Value := .num (.single x)

/-- A binary64 number. -/
def f64 (x : Float) : Value := .num (.double x)

/-- `null` or the value an option holds. -/
def opt {α : Type} (f : α → Value) : Option α → Value
  | none => .null
  | some a => f a

/-- A list of strings. -/
def strs (xs : List String) : Value := .arr (xs.map .str)

/-- The last member named `k` of an object. -/
def get? (v : Value) (k : String) : Option Value :=
  match v with
  | .obj members => (members.reverse.find? (·.1 == k)).map (·.2)
  | _ => none

end Value

/-- The last member named `k` in a member list. -/
def lookup (members : List (String × Value)) (k : String) : Option Value :=
  (members.reverse.find? (·.1 == k)).map (·.2)

end FlowLayout.Json

namespace FlowLayout.Json

open FlowLayout.Decimal

/-- Binary64 numbers are written positionally while the leading digit stands between `10^-5`
and `10^15`, with an exponent such as `e+19` or `e-7` beyond, and integral values keep `.0`. -/
def numberNotation : Notation where
  lowestPositional := some (-5)
  highestPositional := some 15
  pointZero := true
  plusInExponent := true
  nan := "null"
  infinity := "null"

/-- Binary32 numbers carry fewer digits, so their positional range is narrower at the top and
wider at the bottom: the leading digit stands between `10^-6` and `10^12` (`0.000005`,
`123456790000.0`, but `1e+13` and `1e-7`). -/
def singleNotation : Notation :=
  { numberNotation with lowestPositional := some (-6), highestPositional := some 12 }

/-- The lowercase hex digit of `n < 16`. -/
def hexDigit (n : Nat) : Char :=
  if n < 10 then Char.ofNat (48 + n) else Char.ofNat (87 + n)

/-- One character of a string body, escaped. -/
def escapeChar (c : Char) : String :=
  match c with
  | '"' => "\\\""
  | '\\' => "\\\\"
  | '\n' => "\\n"
  | '\r' => "\\r"
  | '\t' => "\\t"
  | '\x08' => "\\b"
  | '\x0c' => "\\f"
  | c =>
    if c.toNat < 0x20 then
      "\\u00" ++ String.singleton (hexDigit (c.toNat / 16)) ++
        String.singleton (hexDigit (c.toNat % 16))
    else String.singleton c

/-- A string literal. -/
def quote (s : String) : String :=
  "\"" ++ String.join (s.toList.map escapeChar) ++ "\""

/-- The text of a number. -/
def Number.text : Number → String
  | .unsigned n => toString n
  | .signed i => toString i
  | .double x => if x.isNaN || x.isInf then "null" else numberNotation.double x
  | .single x => if x.isNaN || x.isInf then "null" else singleNotation.single x

mutual

/-- The value on one line. -/
def Value.compact : Value → String
  | .null => "null"
  | .bool b => if b then "true" else "false"
  | .num n => n.text
  | .str s => quote s
  | .arr items => "[" ++ compactItems items ++ "]"
  | .obj members => "\x7b" ++ compactMembers members ++ "\x7d"

/-- Array items, comma-separated. -/
def compactItems : List Value → String
  | [] => ""
  | [v] => v.compact
  | v :: rest => v.compact ++ "," ++ compactItems rest

/-- Object members, comma-separated. -/
def compactMembers : List (String × Value) → String
  | [] => ""
  | [(k, v)] => quote k ++ ":" ++ v.compact
  | (k, v) :: rest => quote k ++ ":" ++ v.compact ++ "," ++ compactMembers rest

end

/-- Two spaces per level. -/
def indent (level : Nat) : String := String.ofList (List.replicate (2 * level) ' ')

mutual

/-- The value laid out over lines, its nested lines at `level + 1`. -/
def Value.prettyAt (level : Nat) : Value → String
  | .arr [] => "[]"
  | .obj [] => "\x7b\x7d"
  | .arr items => "[\n" ++ prettyItems (level + 1) items ++ "\n" ++ indent level ++ "]"
  | .obj members => "\x7b\n" ++ prettyMembers (level + 1) members ++ "\n" ++ indent level ++ "\x7d"
  | v => v.compact

/-- Array items, one per line. -/
def prettyItems (level : Nat) : List Value → String
  | [] => ""
  | [v] => indent level ++ v.prettyAt level
  | v :: rest => indent level ++ v.prettyAt level ++ ",\n" ++ prettyItems level rest

/-- Object members, one per line. -/
def prettyMembers (level : Nat) : List (String × Value) → String
  | [] => ""
  | [(k, v)] => indent level ++ quote k ++ ": " ++ v.prettyAt level
  | (k, v) :: rest =>
    indent level ++ quote k ++ ": " ++ v.prettyAt level ++ ",\n" ++ prettyMembers level rest

end

/-- The value laid out over lines, two spaces per level. -/
def Value.pretty (v : Value) : String := v.prettyAt 0

end FlowLayout.Json
