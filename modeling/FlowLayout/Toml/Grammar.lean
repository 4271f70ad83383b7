import FlowLayout.Toml.Scan
import FlowLayout.Toml.Table
import FlowLayout.Decimal.Notation
/-!
# The grammar of TOML

Scanners for the parts of a TOML document: blanks and comments, the four kinds of strings,
keys, integers in four bases, floats, date-times, arrays and inline tables, and the lines of
a document, each read into an `Event`.

Where the text leaves a choice, the first construct that applies is taken: a value that starts
with a digit is a date-time if it can be one, else a float, else an integer. Once a construct
has shown itself (a quote, a `0x`, a decimal point) its failures are committed. Failures name
the construct being read and what was expected there; a float that overflows or an integer
outside 64 bits is refused after it has been read.
-/

namespace FlowLayout.Toml

open Scan

/-! ### Blanks, comments and line ends -/

/-- Spaces and tabs. -/
def blanks : Scan Unit := do
  let _ ← takeWhile isSpaceOrTab

/-- A comment, from `#` to the end of the line. -/
def comment : Scan Unit := do
  char '#'
  let _ ← takeWhile isCommentChar

/-- A line feed, alone or after a carriage return. -/
def newline : Scan Unit := do
  match ← peek? with
  | some '\n' => advance
  | some '\r' => literal "\r\n"
  | _ => fail

/-- A line end, or the end of the text. -/
def lineEnd : Scan Unit := do
  match ← peek? with
  | none => pure ()
  | _ => newline

/-- The rest of a line after a value or header: blanks, perhaps a comment, and the line end. -/
def lineTrailing : Scan Unit :=
  expecting (.char '#') <| expecting (.char '\n') do
    blanks
    if (← peek?) == some '#' then comment
    lineEnd

/-- Blanks, comments and line ends, as they may stand between the items of an array. -/
def gaps : Scan Unit := fun c => go (c.rest.length + 1) c
where
  go : Nat → Scan Unit
    | 0 => pure ()
    | fuel + 1 => do
      blanks
      match ← peek? with
      | some '#' => comment; newline; go fuel
      | some '\n' | some '\r' => newline; go fuel
      | _ => pure ()

/-! ### Strings -/

/-- The code point of an escape with `n` hexadecimal digits; a surrogate or a number
beyond the last code point is refused at the start of the digits. -/
def hexEscape (n : Nat) : Scan Char := do
  let start ← here
  let c ← get
  let digits := (c.rest.takeWhile isHexDigit).take n
  if digits.length < n then failAt start {} false
  else
    set (⟨c.rest.drop n, c.offset + n⟩ : Cursor)
    let code := digitsValue 16 digits
    if code < 0xd800 || (0xdfff < code && code ≤ 0x10ffff) then pure (Char.ofNat code)
    else failAt start { cause := some "value is out of range" } false

/-- The character that an escape sequence after a backslash stands for. -/
def escapeChar : Scan Char := do
  match ← peek? with
  | none => fail
  | some ch =>
    advance
    match ch with
    | 'b' => pure '\x08'
    | 'f' => pure '\x0c'
    | 'n' => pure '\n'
    | 'r' => pure '\r'
    | 't' => pure '\t'
    | '\\' => pure '\\'
    | '"' => pure '"'
    | 'u' => commit (labelled "unicode 4-digit hex code" (hexEscape 4))
    | 'U' => commit (labelled "unicode 8-digit hex code" (hexEscape 8))
    | _ =>
      let expected := ['b', 'f', 'n', 'r', 't', 'u', 'U', '\\', '"'].map Expectation.char
      commit (fail { labels := ["escape sequence"], expected })

/-- A run of plain characters of a basic string, or one escape. -/
def basicPiece : Scan String := do
  match ← peek? with
  | some '\\' => advance; return String.singleton (← escapeChar)
  | _ =>
    let s ← takeWhile isBasicChar
    if s.isEmpty then fail else pure s

/-- A basic string: `"…"` with escapes. -/
def basicString : Scan String := do
  char '"'
  let pieces ← manyAll basicPiece
  commit (labelled "basic string" (char '"'))
  pure (String.join pieces)

/-- A literal string: `'…'`, taken as written. -/
def literalString : Scan String := labelled "literal string" do
  char '\''
  let s ← takeWhile isLiteralChar
  commit (char '\'')
  pure s

/-- The number of quote characters `q` at the start of a list. -/
def quoteRun (q : Char) (cs : List Char) : Nat := (cs.takeWhile (· == q)).length

/-- A backslash at the end of a line, with the blanks and line ends after it. -/
def lineContinuation : Scan Unit := do
  char '\\'
  blanks
  newline
  let _ ← manyAll (do
    match ← peek? with
    | some ' ' | some '\t' => advance
    | _ => newline)

/-- A piece of the body of a multi-line basic string. -/
def multiBasicPiece : Scan String := do
  match ← peek? with
  | some '\\' =>
    match ← optional lineContinuation with
    | some _ => pure ""
    | none => advance; return String.singleton (← escapeChar)
  | some '\n' | some '\r' => newline; pure "\n"
  | _ =>
    let s ← takeWhile isBasicChar
    if s.isEmpty then fail else pure s

/-- A piece of the body of a multi-line literal string. -/
def multiLiteralPiece : Scan String := do
  match ← peek? with
  | some '\n' | some '\r' => newline; pure "\n"
  | _ =>
    let s ← takeWhile isLiteralChar
    if s.isEmpty then fail else pure s

/-- The body of a multi-line string delimited by three `q`: pieces, and runs of one or two
`q` that more of the body follows; up to two `q` may stand right before the closing three.
When `keepQuotes`, a run of one or two `q` before some other character is read even if no
piece can follow it, so that the closing delimiter is then missed after the run. -/
def multiBody (q : Char) (keepQuotes : Bool) (piece : Scan String) : Nat → Scan String
  | 0 => pure ""
  | fuel + 1 => do
    match ← optional piece with
    | some s => return s ++ (← multiBody q keepQuotes piece fuel)
    | none =>
      let c ← get
      let run := quoteRun q c.rest
      if run == 0 then pure ""
      else if run < 3 then
        let quotes := String.ofList (List.replicate run q)
        if (c.rest.drop run).isEmpty then pure ""
        else if keepQuotes then
          literal quotes
          match ← optional piece with
          | some s => return quotes ++ s ++ (← multiBody q keepQuotes piece fuel)
          | none => pure ""
        else
          let attempt : Scan String := do
            literal quotes
            piece
          match ← optional attempt with
          | some s => return quotes ++ s ++ (← multiBody q keepQuotes piece fuel)
          | none => pure ""
      else
        let extra := min (run - 3) 2
        let quotes := String.ofList (List.replicate extra q)
        literal quotes
        pure quotes

/-- A multi-line string delimited by three `q`; a line end right after the opening is
dropped. -/
def multiString (q : Char) (keepQuotes : Bool) (name : String) (piece : Scan String) :
    Scan String :=
  labelled name do
    let delimiter := String.ofList [q, q, q]
    literal delimiter
    let _ ← optional newline
    let body ← commit (fun c => multiBody q keepQuotes piece (c.rest.length + 1) c)
    commit (literal delimiter)
    pure body

/-- Any string value. -/
def stringValue : Scan String := do
  if ← startsWith "\"\"\"" then multiString '"' true "multiline basic string" multiBasicPiece
  else if ← startsWith "\"" then basicString
  else if ← startsWith "'''" then multiString '\'' false "multiline literal string" multiLiteralPiece
  else literalString

/-! ### Keys -/

/-- One part of a key: bare, or quoted. -/
def simpleKey : Scan Key := do
  let start ← here
  let (raw, name) ← taken do
    match ← peek? with
    | some '"' => basicString
    | some '\'' => literalString
    | _ =>
      let s ← takeWhile isBareKeyChar
      if s.isEmpty then fail else pure s
  pure ⟨name, raw, ⟨start, start + raw.utf8ByteSize⟩⟩

/-- How many parts a dotted key may have, one less than this. -/
def keyPartLimit : Nat := 80

/-- A key: parts joined by dots, with blanks around each part; a key of too many parts is
refused where it starts. -/
def keyPath : Scan (Key × List Key) := do
  let start ← here
  let (first, more) ← labelled "key" do
    blanks
    let first ← simpleKey
    blanks
    let more ← manyAll do
      char '.'
      blanks
      let k ← simpleKey
      blanks
      pure k
    pure (first, more)
  if more.length + 1 ≥ keyPartLimit then
    failAt start { cause := some "recursion limit exceeded" } false
  else pure (first, more)

/-- The parts of a key: all but the last, and the last. -/
def splitKey (first : Key) (more : List Key) : List Key × Key :=
  match more.getLast? with
  | none => ([], first)
  | some last => (first :: more.dropLast, last)

/-! ### Numbers -/

/-- Digits of a kind with single underscores between them. -/
def digitRun (isDigitOf : Char → Bool) : Scan Unit := do
  let _ ← satisfy isDigitOf
  let _ ← manyAll do
    match ← peek? with
    | some '_' =>
      advance
      let _ ← commit (expecting (.description "digit") (satisfy isDigitOf))
    | _ =>
      let _ ← satisfy isDigitOf
  pure ()

/-- A decimal integer: a sign, and `0` or digits not starting with `0`. -/
def decimalInteger : Scan String := labelled "integer" do
  let (text, _) ← taken do
    match ← peek? with
    | some '+' | some '-' => advance
    | _ => pure ()
    match ← peek? with
    | some '0' => advance
    | some c => if '1' ≤ c && c ≤ '9' then digitRun Char.isDigit else fail
    | none => fail
  pure text

/-- The bounds of 64-bit integers. -/
def int64Max : Int := Int.pow 2 63 - 1

/-- The bounds of 64-bit integers. -/
def int64Min : Int := -(Int.pow 2 63)

/-- The complaint of an integer outside 64 bits. -/
def outOfRangeCause (i : Int) : Complaint :=
  { cause := some (if i > 0 then "number too large to fit in target type"
      else "number too small to fit in target type") }

/-- The value of a decimal integer text. -/
def decimalTextValue (text : String) : Int :=
  let cs := text.toList.filter (· != '_')
  match cs with
  | '-' :: ds => -(digitsValue 10 ds : Int)
  | '+' :: ds => digitsValue 10 ds
  | ds => digitsValue 10 ds

/-- An integer in base 16, 8 or 2 after its prefix. -/
def prefixedInteger (pfx name : String) (isDigitOf : Char → Bool) (base : Nat) : Scan Int := do
  let start ← here
  let (text, _) ← labelled name do
    literal pfx
    commit (taken (digitRun isDigitOf))
  let n := digitsValue base (text.toList.filter (· != '_'))
  if (n : Int) > int64Max then failAt start (outOfRangeCause n) true else pure n

/-- An integer in any of the four bases. -/
def integer : Scan Int := do
  if ← startsWith "0x" then commit (prefixedInteger "0x" "hexadecimal integer" isHexDigit 16)
  else if ← startsWith "0o" then commit (prefixedInteger "0o" "octal integer" isOctDigit 8)
  else if ← startsWith "0b" then commit (prefixedInteger "0b" "binary integer" isBinDigit 2)
  else
    let start ← here
    let text ← decimalInteger
    let i := decimalTextValue text
    if i > int64Max || i < int64Min then failAt start (outOfRangeCause i) true else pure i

/-- The exponent part of a float. -/
def exponentPart : Scan Unit := do
  let _ ← satisfy fun c => c == 'e' || c == 'E'
  match ← peek? with
  | some '+' | some '-' => advance
  | _ => pure ()
  commit (digitRun Char.isDigit)

/-- The fraction part of a float. -/
def fractionPart : Scan Unit := do
  char '.'
  commit (expecting (.description "digit") (digitRun Char.isDigit))

/-- The text of a decimal float: an integer part, then an exponent, or a fraction and perhaps
an exponent. -/
def floatText : Scan String := do
  let (text, _) ← taken do
    let _ ← decimalInteger
    match ← optional exponentPart with
    | some _ => pure ()
    | none =>
      fractionPart
      let _ ← optional exponentPart
  pure text

/-- The value of a decimal float text. -/
def floatTextValue (text : String) : Float :=
  let cs := text.toList.filter (· != '_')
  let (negative, cs) := match cs with
    | '-' :: r => (true, r)
    | '+' :: r => (false, r)
    | r => (false, r)
  let whole := cs.takeWhile Char.isDigit
  let afterWhole := cs.drop whole.length
  let fraction := match afterWhole with
    | '.' :: r => r.takeWhile Char.isDigit
    | _ => []
  let afterFraction := match afterWhole with
    | '.' :: r => r.drop fraction.length
    | r => r
  let exponent : Int := match afterFraction with
    | _ :: '-' :: ds => -(digitsValue 10 ds : Int)
    | _ :: '+' :: ds => digitsValue 10 ds
    | _ :: ds => digitsValue 10 ds
    | [] => 0
  let magnitude := Decimal.nearestDouble (digitsValue 10 (whole ++ fraction))
    (exponent - fraction.length)
  if negative then -magnitude else magnitude

/-- `inf` or `nan`, perhaps signed. -/
def specialFloat : Scan Float := do
  let negative ← match ← peek? with
    | some '+' => do advance; pure false
    | some '-' => do advance; pure true
    | _ => pure false
  if ← startsWith "inf" then
    literal "inf"
    pure (if negative then -(1.0 / 0.0) else 1.0 / 0.0)
  else if ← startsWith "nan" then
    literal "nan"
    pure (if negative then -(0.0 / 0.0) else 0.0 / 0.0)
  else fail

/-- A float; one that overflows to positive infinity is refused. -/
def float : Scan Float := labelled "floating-point number" do
  let start ← here
  match ← optional floatText with
  | some text =>
    let x := floatTextValue text
    if x.isInf && x > 0 then failAt start {} true else pure x
  | none => specialFloat

/-! ### Date-times -/

/-- Exactly `n` digits, as a number in `[lo, hi]`. -/
def boundedDigits (n lo hi : Nat) : Scan Nat := do
  let start ← here
  let c ← get
  let ds := (c.rest.takeWhile Char.isDigit).take n
  if ds.length < n then fail
  else
    set (⟨c.rest.drop n, c.offset + n⟩ : Cursor)
    let v := digitsValue 10 ds
    if lo ≤ v && v ≤ hi then pure v
    else failAt start { cause := some "value is out of range" } false

/-- A time of day: hours, minutes, seconds, and perhaps a fraction of a second. -/
def partialTime : Scan Unit := do
  let _ ← boundedDigits 2 0 23
  char ':'
  commit do
    let _ ← boundedDigits 2 0 59
    char ':'
    let _ ← boundedDigits 2 0 60
    let _ ← optional do
      char '.'
      let ds ← takeWhile Char.isDigit
      if ds.isEmpty then fail
  pure ()

/-- A time offset: `Z`, or a signed hour and minute. -/
def timeOffset : Scan Unit := labelled "time offset" do
  match ← peek? with
  | some 'Z' | some 'z' => advance
  | some '+' | some '-' =>
    advance
    commit do
      let _ ← boundedDigits 2 0 23
      char ':'
      let _ ← boundedDigits 2 0 59
  | _ => fail

/-- The number of days of a month in the Gregorian calendar. -/
def daysInMonth (year month : Nat) : Nat :=
  if month == 2 then
    if year % 4 == 0 && (year % 100 != 0 || year % 400 == 0) then 29 else 28
  else if month == 4 || month == 6 || month == 9 || month == 11 then 30
  else 31

/-- A date: year, month and day; a day past the end of its month is out of range. -/
def fullDate : Scan Unit := do
  let year ← boundedDigits 4 0 9999
  char '-'
  commit do
    let month ← boundedDigits 2 1 12
    char '-'
    let dayStart ← here
    let day ← boundedDigits 2 1 31
    if day > daysInMonth year month then
      failAt dayStart { cause := some "value is out of range" } true

/-- The time after a date, with perhaps an offset. -/
def timeAfterDate : Scan Unit := do
  let _ ← satisfy fun c => c == 'T' || c == 't' || c == ' '
  partialTime
  let _ ← optional timeOffset

/-- A date, with perhaps a time and an offset, or a time alone. -/
def dateTime : Scan String := do
  let (text, _) ← taken do
    let dated : Scan Unit := labelled "date-time" do
      fullDate
      let _ ← optional timeAfterDate
    match ← optional dated with
    | some _ => pure ()
    | none => labelled "time" partialTime
  pure text

/-! ### Values -/

/-- A value that starts with a sign or a digit. -/
def numeric : Scan Value := do
  match ← optional dateTime with
  | some text => pure (.datetime text)
  | none =>
    match ← optional float with
    | some x => pure (.float x)
    | none => .integer <$> integer

/-- The failure of a bare word where a value should be: strings must be quoted. -/
def unquoted {α : Type} (p : Scan α) : Scan α :=
  expecting (.char '\'') (expecting (.char '"') (labelled "string" p))

/-- A value that is neither an array nor an inline table. -/
def scalar (c : Char) : Scan Value :=
  match c with
  | '"' | '\'' => .string <$> stringValue
  | '+' | '-' => numeric
  | '_' => expecting (.description "leading digit") (.integer <$> integer)
  | '.' => expecting (.description "leading digit") (.float <$> float)
  | 't' => unquoted (do commit (literal "true"); pure (.boolean true))
  | 'f' => unquoted (do commit (literal "false"); pure (.boolean false))
  | 'i' => unquoted (do literal "inf"; pure (.float (1.0 / 0.0)))
  | 'n' => unquoted (do literal "nan"; pure (.float (0.0 / 0.0)))
  | _ => if c.isDigit then numeric else unquoted (fail {})

/-- Adds a key, reached by a dotted path, to the entries of an inline table whose `dotted`
flag is given. `dottedPath` says whether the whole path had dots. -/
def insertInline (key : Key) (v : Value) (dottedPath : Bool) :
    List Key → List Key → List (String × Value) → Bool → Except Clash (List (String × Value))
  | _, [], entries, dotted =>
    if dotted != dottedPath then throw (.duplicateKey key.name none)
    else if entries.any (·.1 == key.name) then throw (.duplicateKey key.name none)
    else pure (entries ++ [(key.name, v)])
  | walked, k :: rest, entries, _ =>
    let here := walked ++ [k]
    match entries.find? (·.1 == k.name) with
    | none => do
      let sub ← insertInline key v dottedPath here rest [] true
      pure (entries ++ [(k.name, .inlineTable sub true)])
    | some (_, .inlineTable sub d) => do
      if !d then throw (.duplicateKey k.name none)
      let sub' ← insertInline key v dottedPath here rest sub d
      pure (entries.map fun (n, x) => if n == k.name then (n, .inlineTable sub' d) else (n, x))
    | some (_, other) => throw (.extendWrongType (pathNames here) other.typeName)

/-- The entries of an inline table from its key-value pairs. -/
def inlineEntries (pairs : List ((List Key × Key) × Value)) :
    Except Clash (List (String × Value)) :=
  pairs.foldlM (fun entries ((parents, key), v) =>
    insertInline key v (!parents.isEmpty) [] parents entries false) []

/-- An array, its items read by `item`. -/
def array (item : Scan Value) : Scan Value := do
  char '['
  let element : Scan Value := do
    gaps
    let v ← item
    gaps
    pure v
  let items ← commit do
    let items ← match ← optional element with
      | none => pure []
      | some first =>
        let more ← manyAll do
          char ','
          element
        let _ ← optional (char ',')
        pure (first :: more)
    gaps
    pure items
  commit (expecting (.char ']') (labelled "array" (char ']')))
  pure (.array items)

/-- An inline table, its values read by `item`. -/
def inlineTable (item : Scan Value) : Scan Value := do
  char '{'
  let start ← here
  let pair : Scan ((List Key × Key) × Value) := do
    let (first, more) ← keyPath
    commit do
      expecting (.char '=') (expecting (.char '.') (char '='))
      blanks
      let v ← item
      blanks
      pure (splitKey first more, v)
  let pairs ← commit do
    let pairs ← match ← optional pair with
      | none => pure []
      | some first =>
        let more ← manyAll do
          char ','
          pair
        pure (first :: more)
    blanks
    pure pairs
  let entries ← match inlineEntries pairs with
    | .ok entries => pure entries
    | .error clash => failAt start { cause := some clash.message } true
  commit (expecting (.char '}') (labelled "inline table" (char '}')))
  pure (.inlineTable entries false)

/-- The failure of an array or inline table nested too deep, where it opens. -/
def tooDeep {α : Type} : Scan α :=
  commit (fail { cause := some "recursion limit exceeded" })

/-- A value in which arrays and inline tables may open `room` more levels. -/
def value : Nat → Scan Value
  | 0 => do
    match ← peek? with
    | none => fail
    | some '[' | some '{' => tooDeep
    | some c => scalar c
  | room + 1 => do
    match ← peek? with
    | none => fail
    | some '[' => array (value room)
    | some '{' => inlineTable (value room)
    | some c => scalar c

/-- How many levels of arrays and inline tables a value may hold. The reader bounds its own
recursion, so the 80th level fails with `recursion limit exceeded`; the room left also makes
`value` structurally recursive. -/
def nestingLimit : Nat := 79

/-! ### Lines -/

/-- A line `key = value`. -/
def keyValueLine (item : Scan Value) : Scan Event := do
  let start ← here
  let (first, more) ← keyPath
  commit do
    expecting (.char '=') (expecting (.char '.') (char '='))
    blanks
    let vstart ← here
    let v ← item
    let vstop ← here
    lineTrailing
    let (parents, key) := splitKey first more
    pure (.keyval start parents key v ⟨vstart, vstop⟩)

/-- A line `[header]` or `[[header]]`. -/
def headerLine : Scan Event := labelled "table header" do
  let start ← here
  -- a lone bracket at the end cannot tell a table from an array of tables
  if (← get).rest == ['['] then fail
  let isArray ← startsWith "[["
  let close := if isArray then "]]" else "]"
  literal (if isArray then "[[" else "[")
  let (first, more) ← commit keyPath
  commit (expecting (.literal close) (expecting (.char '.') (literal close)))
  let stop ← here
  commit lineTrailing
  pure (.header start (first :: more) ⟨start, stop⟩ isArray)

/-- The lines of a document from the cursor on, at most `fuel` of them: the events read, and
the failure that ended the reading, if one did. -/
def documentLines (item : Scan Value) : Nat → Cursor → List Event → List Event × Option Failure
  | 0, _, acc => (acc.reverse, none)
  | fuel + 1, c, acc =>
    match c.rest with
    | [] => (acc.reverse, none)
    | ch :: _ =>
      let line : Scan (Option Event) := match ch with
        | '#' => do commit (do comment; lineEnd); pure none
        | '[' => some <$> commit headerLine
        | '\n' | '\r' => do newline; pure none
        | _ => some <$> commit (keyValueLine item)
      match (do let e ← line; blanks; pure e : Scan (Option Event)) c with
      | .ok (e, c') => documentLines item fuel c' (match e with | some e => e :: acc | none => acc)
      | .error f =>
        -- a line that does not begin anything leaves text where the end should be
        (acc.reverse, some (if f.committed then f else ⟨c.offset, {}, true⟩))

end FlowLayout.Toml
