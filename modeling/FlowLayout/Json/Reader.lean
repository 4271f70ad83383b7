import FlowLayout.Decimal.Notation
import FlowLayout.Text.Escape
import FlowLayout.Json.Writer
/-!
# Reading JSON

A reader walks the text once, left to right, and stops at the first fault. A fault carries
the line and column where it was noticed; the column counts bytes from the line's start.
The text is read a byte at a time, so a fault noticed on the first byte of a character of
several bytes stands one byte into it: some faults are noticed where the reader stands
(`Cursor.here`), others on the byte after (`Cursor.ahead`), and a `\u` escape always takes
four bytes (`Cursor.afterBytes`).

Numbers follow the integer-first rule: a numeral without fraction or exponent that fits in
64 unsigned bits is an `unsigned` integer, a negative one that fits in 64 signed bits is a
`signed` integer, and every other numeral is a binary64 value, built from at most nineteen
leading digits and a power of ten, and refused when that overflows. Nesting deeper than 127
arrays and objects is refused.

The primitives (`skipBlank`, `readString`, `readNumber`, `foundAhead`) are shared with typed
readers that decode while they read, so that a fault in the data is reported where it
stands in the text; the first section words the complaints of such readers about data of the
wrong shape.
-/

/-!
## Data of the wrong shape

When a typed reader meets data that does not fit the type it expects, it says what it found
and what it expected: ``invalid type: integer `3`, expected struct LayoutConfig``. `Found`
names the kinds of data a reader can meet, `Mismatch` the four complaints, and
`Mismatch.message` their wording. Floating-point values are spelled by a notation that the
data format chooses.
-/

namespace FlowLayout.Json

open FlowLayout.Decimal

/-- A piece of data as a typed reader met it. -/
inductive Found where
  | bool (b : Bool)
  | unsigned (n : Nat)
  | signed (i : Int)
  | float (x : Float)
  | str (s : String)
  | null
  | seq
  | map

/-- A complaint of a typed reader. -/
inductive Mismatch where
  | invalidType (found : Found) (expected : String)
  | invalidValue (found : Found) (expected : String)
  | invalidLength (length : Nat) (expected : String)
  | unknownField (name : String) (fields : List String)
  | duplicateField (name : String)
  | missingField (name : String)

/-- What was found, in words; `float` spells floating-point values. -/
def Found.describe (float : Float → String) : Found → String
  | .bool b => "boolean `" ++ (if b then "true" else "false") ++ "`"
  | .unsigned n => "integer `" ++ toString n ++ "`"
  | .signed i => "integer `" ++ toString i ++ "`"
  | .float x => "floating point `" ++ float x ++ "`"
  | .str s => "string " ++ Text.debugQuote s
  | .null => "null"
  | .seq => "sequence"
  | .map => "map"

/-- Names in backquotes, joined by commas. -/
def quotedList (names : List String) : String :=
  ", ".intercalate (names.map fun n => "`" ++ n ++ "`")

/-- The wording of a complaint; `float` spells floating-point values. -/
def Mismatch.message (float : Float → String) : Mismatch → String
  | .invalidType found expected =>
    "invalid type: " ++ found.describe float ++ ", expected " ++ expected
  | .invalidValue found expected =>
    "invalid value: " ++ found.describe float ++ ", expected " ++ expected
  | .invalidLength n expected => "invalid length " ++ toString n ++ ", expected " ++ expected
  | .unknownField name [] => "unknown field `" ++ name ++ "`, there are no fields"
  | .unknownField name fields =>
    "unknown field `" ++ name ++ "`, expected " ++
      (match fields with
       | [f] => "`" ++ f ++ "`"
       | [f, g] => "`" ++ f ++ "` or `" ++ g ++ "`"
       | _ => "one of " ++ quotedList fields)
  | .duplicateField name => "duplicate field `" ++ name ++ "`"
  | .missingField name => "missing field `" ++ name ++ "`"

end FlowLayout.Json

namespace FlowLayout.Json

/-- A line (from 1) and a byte column (from 0). -/
structure Position where
  line : Nat
  column : Nat

/-- What can be wrong with a text. -/
inductive Problem where
  | eofWhileParsingValue
  | eofWhileParsingList
  | eofWhileParsingObject
  | eofWhileParsingString
  | expectedColon
  | expectedListCommaOrEnd
  | expectedObjectCommaOrEnd
  | expectedSomeIdent
  | expectedSomeValue
  | invalidEscape
  | invalidNumber
  | numberOutOfRange
  | controlCharacterWhileParsingString
  | keyMustBeAString
  | loneLeadingSurrogateInHexEscape
  | trailingComma
  | trailingCharacters
  | unexpectedEndOfHexEscape
  | recursionLimitExceeded
  | data (m : Mismatch)

/-- The wording of a problem. -/
def Problem.message : Problem → String
  | .eofWhileParsingValue => "EOF while parsing a value"
  | .eofWhileParsingList => "EOF while parsing a list"
  | .eofWhileParsingObject => "EOF while parsing an object"
  | .eofWhileParsingString => "EOF while parsing a string"
  | .expectedColon => "expected `:`"
  | .expectedListCommaOrEnd => "expected `,` or `]`"
  | .expectedObjectCommaOrEnd => "expected `,` or `\x7d`"
  | .expectedSomeIdent => "expected ident"
  | .expectedSomeValue => "expected value"
  | .invalidEscape => "invalid escape"
  | .invalidNumber => "invalid number"
  | .numberOutOfRange => "number out of range"
  | .controlCharacterWhileParsingString =>
    "control character (\\u0000-\\u001F) found while parsing a string"
  | .keyMustBeAString => "key must be a string"
  | .loneLeadingSurrogateInHexEscape => "lone leading surrogate in hex escape"
  | .trailingComma => "trailing comma"
  | .trailingCharacters => "trailing characters"
  | .unexpectedEndOfHexEscape => "unexpected end of hex escape"
  | .recursionLimitExceeded => "recursion limit exceeded"
  | .data m => m.message numberNotation.double

/-- A problem and, when it was met in a text, where. -/
structure Error where
  problem : Problem
  position : Option Position

/-- The problem's wording, followed by ` at line L column C` when it has a position. -/
def Error.message (e : Error) : String :=
  match e.position with
  | some p => e.problem.message ++ " at line " ++ toString p.line ++ " column " ++
      toString p.column
  | none => e.problem.message

/-- Where a reader stands: the characters still to read, the byte offset reached, the line
number and the byte offset at which that line starts. -/
structure Cursor where
  rest : List Char
  offset : Nat
  line : Nat
  lineStart : Nat

namespace Cursor

/-- The start of a text. -/
def ofString (s : String) : Cursor := ⟨s.toList, 0, 1, 0⟩

/-- Past one character. -/
def bump (c : Cursor) : Cursor :=
  match c.rest with
  | [] => c
  | ch :: rest =>
    let offset := c.offset + ch.utf8Size
    if ch == '\n' then ⟨rest, offset, c.line + 1, offset⟩ else { c with rest, offset }

/-- Past `n` characters. -/
def bumpN : Nat → Cursor → Cursor
  | 0, c => c
  | n + 1, c => bumpN n c.bump

/-- The position of the offset reached. -/
def here (c : Cursor) : Position := ⟨c.line, c.offset - c.lineStart⟩

/-- The position one byte further, where the next character has been looked at. -/
def ahead (c : Cursor) : Position :=
  match c.rest with
  | [] => c.here
  | '\n' :: _ => ⟨c.line + 1, 0⟩
  | _ => ⟨c.line, c.offset + 1 - c.lineStart⟩

/-- The position `n` bytes further, which may fall inside a character. -/
def afterBytes (c : Cursor) : Nat → Position
  | 0 => c.here
  | n + 1 =>
    match c.rest with
    | [] => c.here
    | ch :: _ =>
      if ch.utf8Size ≤ n + 1 then c.bump.afterBytes (n + 1 - ch.utf8Size)
      else ⟨c.line, c.offset + (n + 1) - c.lineStart⟩
termination_by n => n
decreasing_by have := ch.utf8Size_pos; omega

end Cursor

/-- Reading from a cursor, failing with an `Error`. -/
abbrev Reader := StateT Cursor (Except Error)

/-- The next character, not consumed. -/
def peekChar : Reader (Option Char) := do return (← get).rest.head?

/-- Consumes one character. -/
def bump : Reader Unit := modify Cursor.bump

/-- Consumes and returns the next character. -/
def nextChar : Reader (Option Char) := do
  let c ← peekChar
  bump
  return c

/-- Fails at the offset reached. -/
def failHere {α : Type} (p : Problem) : Reader α := do
  throw ⟨p, some (← get).here⟩

/-- Fails one byte further. -/
def failAhead {α : Type} (p : Problem) : Reader α := do
  throw ⟨p, some (← get).ahead⟩

/-- The JSON blanks: space, line feed, tab and carriage return. -/
def isBlank (c : Char) : Bool := c == ' ' || c == '\n' || c == '\t' || c == '\r'

/-- Skips blanks and returns the next character. -/
def skipBlank : Reader (Option Char) := do
  let c ← get
  set (c.bumpN (c.rest.takeWhile isBlank).length)
  peekChar

/-- Reads the rest of a literal word, one expected character at a time. -/
def readIdent : List Char → Reader Unit
  | [] => pure ()
  | e :: rest => do
    match ← peekChar with
    | none => failHere .eofWhileParsingValue
    | some c => if c == e then bump; readIdent rest else failAhead .expectedSomeIdent

/-! ### Strings -/

/-- The value of a hex digit. -/
def hexValue (c : Char) : Option Nat :=
  if '0' ≤ c && c ≤ '9' then some (c.toNat - 48)
  else if 'a' ≤ c && c ≤ 'f' then some (c.toNat - 87)
  else if 'A' ≤ c && c ≤ 'F' then some (c.toNat - 55)
  else none

/-- Reads four hex digits. -/
def readHex4 : Reader Nat := do
  let c ← get
  let four := c.rest.take 4
  if (four.map Char.utf8Size).foldl (· + ·) 0 < 4 then
    set (c.bumpN c.rest.length)
    failHere .eofWhileParsingString
  else
    match four.mapM hexValue with
    | some [a, b, d, e] =>
      set (c.bumpN 4)
      return ((a * 16 + b) * 16 + d) * 16 + e
    | _ => throw ⟨.invalidEscape, some (c.afterBytes 4)⟩

/-- The character after `\u`: a code point outside the surrogates, or a leading surrogate
followed by `\u` and a trailing one. -/
def readUnicodeEscape : Reader Char := do
  let n ← readHex4
  if 0xDC00 ≤ n && n ≤ 0xDFFF then failHere .loneLeadingSurrogateInHexEscape
  else if n < 0xD800 || n > 0xDBFF then return Char.ofNat n
  else
    match ← peekChar with
    | none => failHere .eofWhileParsingString
    | some '\\' =>
      bump
      match ← peekChar with
      | none => failHere .eofWhileParsingString
      | some 'u' =>
        bump
        let m ← readHex4
        if m < 0xDC00 || m > 0xDFFF then failHere .loneLeadingSurrogateInHexEscape
        else return Char.ofNat (((n - 0xD800) * 0x400 + (m - 0xDC00)) + 0x10000)
      | some _ => failAhead .unexpectedEndOfHexEscape
    | some _ => failAhead .unexpectedEndOfHexEscape

/-- The character an escape stands for, after the backslash. -/
def readEscape : Reader Char := do
  match ← peekChar with
  | none => failHere .eofWhileParsingString
  | some c =>
    let plain : Option Char := match c with
      | '"' => some '"'
      | '\\' => some '\\'
      | '/' => some '/'
      | 'b' => some '\x08'
      | 'f' => some '\x0c'
      | 'n' => some '\n'
      | 'r' => some '\r'
      | 't' => some '\t'
      | _ => none
    match plain with
    | some e => bump; return e
    | none => if c == 'u' then bump; readUnicodeEscape else failAhead .invalidEscape

/-- Reads a string body up to and including the closing quote; `fuel` bounds the steps,
and each step consumes a character. -/
def readStringBody : Nat → List Char → Reader String
  | 0, _ => failHere .eofWhileParsingString
  | fuel + 1, acc => do
    let c ← get
    let plain := c.rest.takeWhile fun ch => ch != '"' && ch != '\\' && ch.toNat ≥ 0x20
    set (c.bumpN plain.length)
    let acc := plain.reverse ++ acc
    match ← nextChar with
    | none => failHere .eofWhileParsingString
    | some '"' => return String.ofList acc.reverse
    | some '\\' =>
      let e ← readEscape
      readStringBody fuel (e :: acc)
    | some _ => failHere .controlCharacterWhileParsingString

/-- Reads a string after its opening quote. -/
def readString : Reader String := do
  readStringBody ((← get).rest.length + 1) []

/-! ### Numbers -/

/-- The binary64 value nearest to `n`: the leading 64 bits, with a sticky bit standing for
the rest, rounded once. -/
def natToDouble (n : Nat) : Float :=
  if n < Nat.pow 2 64 then n.toUInt64.toFloat
  else
    let s := n.log2 - 63
    let top := n >>> s
    let sticky := if top <<< s == n then 0 else 1
    (top ||| sticky).toUInt64.toFloat.scaleB s

/-- `10^i` rounded to binary64, for `i ≤ 308`. -/
def powTen (i : Nat) : Float := natToDouble (Nat.pow 10 i)

/-- `significand · 10^exponent` as binary64: the significand rounded, then multiplied or
divided by one rounded power of ten; exponents below `-308` divide by `1e308` first. Fails
when the product overflows. -/
def scaleByTen (significand : Nat) (exponent : Int) : Option Float :=
  let rec go : Nat → Float → Int → Option Float
    | 0, f, _ => some f
    | fuel + 1, f, e =>
      if e.natAbs ≤ 308 then
        if 0 ≤ e then
          let g := f * powTen e.natAbs
          if g.isInf then none else some g
        else some (f / powTen e.natAbs)
      else if f == 0 then some f
      else if 0 ≤ e then none
      else go fuel (f / powTen 308) (e + 308)
  go 64 (natToDouble significand) exponent

/-- The largest 64-bit unsigned value. -/
def maxU64 : Nat := Nat.pow 2 64 - 1

/-- Whether `a · 10 + d` exceeds `bound`. -/
def overflows (a d bound : Nat) : Bool := a ≥ bound / 10 && (a > bound / 10 || d > bound % 10)

/-- The digits at the front of the input, consumed. -/
def takeDigits : Reader (List Char) := do
  let c ← get
  let ds := c.rest.takeWhile Char.isDigit
  set (c.bumpN ds.length)
  return ds

/-- The value of a digit string. -/
def digitsValue (ds : List Char) : Nat := ds.foldl (fun n d => n * 10 + (d.toNat - 48)) 0

/-- A signed binary64 result. -/
def signedDouble (positive : Bool) (f : Float) : Float := if positive then f else -f

/-- The binary64 value of `significand · 10^exponent`, or the out-of-range fault. -/
def finishFloat (positive : Bool) (significand : Nat) (exponent : Int) : Reader Float :=
  match scaleByTen significand exponent with
  | some f => return signedDouble positive f
  | none => failHere .numberOutOfRange

/-- The largest 32-bit signed value, the bound of an exponent. -/
def maxI32 : Nat := Nat.pow 2 31 - 1

/-- How many of the digits `ds` an exponent that has reached `acc` takes before one would
take it beyond 32 signed bits: `some k` when the digit after the first `k` overflows. -/
def exponentOverflowAt (acc : Nat) : List Char → Option Nat
  | [] => none
  | d :: rest =>
    let v := d.toNat - 48
    if overflows acc v maxI32 then some 0
    else (exponentOverflowAt (acc * 10 + v) rest).map (· + 1)

/-- Reads an exponent after `e` or `E` (not yet consumed). -/
def readExponent (positive : Bool) (significand : Nat) (start : Int) : Reader Float := do
  bump
  let positiveExp ← do
    match ← peekChar with
    | some '+' => bump; pure true
    | some '-' => bump; pure false
    | _ => pure true
  match ← peekChar with
  | none => failHere .eofWhileParsingValue
  | some c =>
    if !c.isDigit then failAhead .invalidNumber
    else
      bump
      let after ← get
      let ds := after.rest.takeWhile Char.isDigit
      match exponentOverflowAt (c.toNat - 48) ds with
      | some k =>
        -- the exponent leaves 32 bits at the digit after the first `k`: out of range for a
        -- nonzero significand and a positive exponent, zero otherwise
        if significand != 0 && positiveExp then
          set (after.bumpN (k + 1))
          failHere .numberOutOfRange
        else
          set (after.bumpN ds.length)
          return signedDouble positive 0
      | none =>
        set (after.bumpN ds.length)
        let exp := digitsValue (c :: ds)
        let e : Int := if positiveExp then start + exp else start - exp
        finishFloat positive significand e

/-- Reads the fraction after a point (not yet consumed). Digits beyond what 64 bits hold
are dropped. -/
def readFraction (positive : Bool) (significand : Nat) (start : Int) : Reader Float := do
  bump
  let ds ← takeDigits
  if ds.isEmpty then
    match ← peekChar with
    | some _ => failAhead .invalidNumber
    | none => failAhead .eofWhileParsingValue
  else
    let (sig, used) := ds.foldl (fun (acc : Nat × Nat × Bool) d =>
      let (s, n, full) := acc
      let v := d.toNat - 48
      if full || overflows s v maxU64 then (s, n, true) else (s * 10 + v, n + 1, false))
      (significand, 0, false) |>.map id (fun p => p.1)
    let e := start - used
    match ← peekChar with
    | some 'e' | some 'E' => readExponent positive sig e
    | _ => finishFloat positive sig e

/-- Reads what follows the integer digits: a fraction, an exponent or nothing. -/
def readNumberTail (positive : Bool) (significand : Nat) (start : Int) (isInteger : Bool) :
    Reader Number := do
  match ← peekChar with
  | some '.' => return .double (← readFraction positive significand start)
  | some 'e' | some 'E' => return .double (← readExponent positive significand start)
  | _ =>
    if !isInteger then return .double (← finishFloat positive significand start)
    else if positive then return .unsigned significand
    else if significand == 0 || significand > Nat.pow 2 63 then
      return .double (signedDouble false (natToDouble significand))
    else return .signed (-(significand : Int))

/-- Reads a number whose sign has been consumed. -/
def readNumber (positive : Bool) : Reader Number := do
  match ← peekChar with
  | none => failHere .eofWhileParsingValue
  | some '0' =>
    bump
    match ← peekChar with
    | some d => if d.isDigit then failAhead .invalidNumber else readNumberTail positive 0 0 true
    | none => readNumberTail positive 0 0 true
  | some c =>
    if !c.isDigit then failAhead .invalidNumber
    else
      bump
      let ds ← get
      let digits := c :: ds.rest.takeWhile Char.isDigit
      -- the longest prefix that fits 64 bits; further digits only scale
      let (sig, used, _) := digits.foldl (fun (acc : Nat × Nat × Bool) d =>
        let (s, n, full) := acc
        let v := d.toNat - 48
        if full || (n > 0 && overflows s v maxU64) then (s, n, true)
        else (s * 10 + v, n + 1, false)) (0, 0, false)
      set (ds.bumpN (digits.length - 1))
      let extra := digits.length - used
      readNumberTail positive sig extra (extra == 0)

/-- The kind of data starting at the next character, consumed when it is a scalar, for a
complaint about its type; a fault in it is reported instead. -/
def foundAhead : Reader Found := do
  match ← peekChar with
  | some 'n' => bump; readIdent "ull".toList; return .null
  | some 't' => bump; readIdent "rue".toList; return .bool true
  | some 'f' => bump; readIdent "alse".toList; return .bool false
  | some '-' =>
    bump
    return match ← readNumber false with
      | .unsigned n => .unsigned n
      | .signed i => .signed i
      | .double x => .float x
      | .single x => .float x.toFloat
  | some '"' => bump; return .str (← readString)
  | some '[' => return .seq
  | some '{' => return .map
  | some c =>
    if c.isDigit then
      return match ← readNumber true with
        | .unsigned n => .unsigned n
        | .signed i => .signed i
        | .double x => .float x
        | .single x => .float x.toFloat
    else failAhead .expectedSomeValue
  | none => failAhead .expectedSomeValue

/-- Fails with a data complaint at the offset reached. -/
def failData {α : Type} (m : Mismatch) : Reader α := failHere (.data m)

/-! ### Values -/

/-- After the items of an array: the closing bracket, or the fault that stands there. -/
def closeArray : Reader Unit := do
  match ← skipBlank with
  | some ']' => bump
  | some ',' =>
    bump
    match ← skipBlank with
    | some ']' => failAhead .trailingComma
    | _ => failAhead .trailingCharacters
  | some _ => failAhead .trailingCharacters
  | none => failAhead .eofWhileParsingList

/-- After the members of an object: the closing brace, or the fault that stands there. -/
def closeObject : Reader Unit := do
  match ← skipBlank with
  | some '}' => bump
  | some ',' => failAhead .trailingComma
  | some _ => failAhead .trailingCharacters
  | none => failAhead .eofWhileParsingObject

/-- Whether another item follows in an array: skips the comma, and returns false at the
closing bracket (not consumed). -/
def nextItem (first : Bool) : Reader Bool := do
  let peek : Option (Option Char) ← do
    match ← skipBlank with
    | some ']' => pure none
    | some c =>
      if first then pure (some (some c))
      else if c == ',' then do bump; pure (some (← skipBlank))
      else failAhead .expectedListCommaOrEnd
    | none => failAhead .eofWhileParsingList
  match peek with
  | none => return false
  | some (some ']') => failAhead .trailingComma
  | some (some _) => return true
  | some none => failAhead .eofWhileParsingValue

/-- Reads the next member name of an object, or returns none at the closing brace (not
consumed). -/
def nextKey (first : Bool) : Reader (Option String) := do
  let peek : Option (Option Char) ← do
    match ← skipBlank with
    | some '}' => pure none
    | some c =>
      if first then pure (some (some c))
      else if c == ',' then do bump; pure (some (← skipBlank))
      else failAhead .expectedObjectCommaOrEnd
    | none => failAhead .eofWhileParsingObject
  match peek with
  | none => return none
  | some (some '"') => bump; return some (← readString)
  | some (some '}') => failAhead .trailingComma
  | some (some _) => failAhead .keyMustBeAString
  | some none => failAhead .eofWhileParsingValue

/-- The colon after a member name. -/
def readColon : Reader Unit := do
  match ← skipBlank with
  | some ':' => bump
  | some _ => failAhead .expectedColon
  | none => failAhead .eofWhileParsingObject

/-- Enters an array or object: refused when `depth` levels are already open. -/
def enter (depth : Nat) : Reader Unit := do
  if depth ≤ 1 then failAhead .recursionLimitExceeded else bump

mutual

/-- Reads one value; `depth` is how many more levels may open, `fuel` bounds the steps. -/
def readValue : Nat → Nat → Reader Value
  | 0, _ => failHere .eofWhileParsingValue
  | fuel + 1, depth => do
    match ← skipBlank with
    | none => failAhead .eofWhileParsingValue
    | some 'n' => bump; readIdent "ull".toList; return .null
    | some 't' => bump; readIdent "rue".toList; return .bool true
    | some 'f' => bump; readIdent "alse".toList; return .bool false
    | some '-' => bump; return .num (← readNumber false)
    | some '"' => bump; return .str (← readString)
    | some '[' =>
      enter depth
      let items ← readItems fuel (depth - 1) true []
      closeArray
      return .arr items
    | some '{' =>
      enter depth
      let members ← readMembers fuel (depth - 1) true []
      closeObject
      return .obj members
    | some c =>
      if c.isDigit then return .num (← readNumber true) else failAhead .expectedSomeValue

/-- Reads array items up to the closing bracket (not consumed). -/
def readItems : Nat → Nat → Bool → List Value → Reader (List Value)
  | 0, _, _, _ => failHere .eofWhileParsingList
  | fuel + 1, depth, first, acc => do
    if ← nextItem first then
      let v ← readValue fuel depth
      readItems fuel depth false (v :: acc)
    else return acc.reverse

/-- Reads object members up to the closing brace (not consumed). -/
def readMembers : Nat → Nat → Bool → List (String × Value) → Reader (List (String × Value))
  | 0, _, _, _ => failHere .eofWhileParsingObject
  | fuel + 1, depth, first, acc => do
    match ← nextKey first with
    | none => return acc.reverse
    | some k =>
      readColon
      let v ← readValue fuel depth
      readMembers fuel depth false ((k, v) :: acc)

end

/-- After a complete value only blanks may follow. -/
def readEnd : Reader Unit := do
  match ← skipBlank with
  | some _ => failAhead .trailingCharacters
  | none => pure ()

/-- Enough steps for any value of the text: every step consumes a character or ends. -/
def Cursor.fuel (c : Cursor) : Nat := 2 * c.rest.length + 4

/-- Reads a whole text as one JSON value. -/
def Value.parse (s : String) : Except Error Value :=
  let c := Cursor.ofString s
  (do let v ← readValue c.fuel 128; readEnd; return v).run' c

end FlowLayout.Json
