import FlowLayout.Toml.Basic
/-!
# Scanning TOML text

A scanner reads characters from a `Cursor` and either succeeds, moving the cursor on, or
fails with a `Failure` at a byte offset. A failure is *committed* when the text has already
shown which construct it must be: alternatives are tried only after failures that are not
committed, and `optional` and `manyAll` give up quietly only on those.

A failure keeps the offset at which it arose; readers that check a value after reading it
report their failure at the start of what they read.
-/

namespace FlowLayout.Toml

/-- A place in the text: the characters not yet read and the byte offset of the first. -/
structure Cursor where
  rest : List Char
  offset : Nat

/-- A failed scan: where, what it says, and whether alternatives are ruled out. -/
structure Failure where
  offset : Nat
  complaint : Complaint
  committed : Bool

/-- Scanners of TOML text. -/
abbrev Scan := StateT Cursor (Except Failure)

namespace Scan

/-- The next character, if any. -/
def peek? : Scan (Option Char) := fun c => .ok (c.rest.head?, c)

/-- Whether the text goes on with `s`. -/
def startsWith (s : String) : Scan Bool := fun c => .ok (s.toList.isPrefixOf c.rest, c)

/-- The current byte offset. -/
def here : Scan Nat := fun c => .ok (c.offset, c)

/-- Moves past one character. -/
def advance : Scan Unit := fun c =>
  match c.rest with
  | [] => .ok ((), c)
  | ch :: r => .ok ((), ⟨r, c.offset + ch.utf8Size⟩)

/-- Fails here without committing. -/
def fail {α : Type} (complaint : Complaint := {}) : Scan α := fun c =>
  .error ⟨c.offset, complaint, false⟩

/-- Fails at an offset. -/
def failAt {α : Type} (offset : Nat) (complaint : Complaint) (committed : Bool) : Scan α :=
  fun _ => .error ⟨offset, complaint, committed⟩

/-- Commits the failures of a scanner. -/
def commit {α : Type} (p : Scan α) : Scan α := fun c =>
  match p c with
  | .error f => .error { f with committed := true }
  | r => r

/-- Names what a scanner reads, in its failures. -/
def labelled {α : Type} (name : String) (p : Scan α) : Scan α := fun c =>
  match p c with
  | .error f => .error { f with complaint := f.complaint.label name }
  | r => r

/-- Adds what was expected to the failures of a scanner. -/
def expecting {α : Type} (e : Expectation) (p : Scan α) : Scan α := fun c =>
  match p c with
  | .error f => .error { f with complaint := f.complaint.expect e }
  | r => r

/-- A scanner that may not apply: `none`, with the cursor left in place, after a failure
that is not committed. -/
def optional {α : Type} (p : Scan α) : Scan (Option α) := fun c =>
  match p c with
  | .ok (a, c') => .ok (some a, c')
  | .error f => if f.committed then .error f else .ok (none, c)

/-- Applies a scanner as long as it applies, at most `fuel` times. -/
def many {α : Type} (p : Scan α) : Nat → Scan (List α)
  | 0 => pure []
  | fuel + 1 => do
    match ← optional p with
    | none => pure []
    | some a => return a :: (← many p fuel)

/-- Applies a scanner as long as it applies; a scanner that always reads a character stops
at the end of the text. -/
def manyAll {α : Type} (p : Scan α) : Scan (List α) := fun c => many p (c.rest.length + 1) c

/-- The bytes of some characters. -/
def byteSize (cs : List Char) : Nat := cs.foldl (fun n ch => n + ch.utf8Size) 0

/-- Reads one character that satisfies `p`. -/
def satisfy (p : Char → Bool) : Scan Char := fun c =>
  match c.rest with
  | ch :: r => if p ch then .ok (ch, ⟨r, c.offset + ch.utf8Size⟩) else .error ⟨c.offset, {}, false⟩
  | [] => .error ⟨c.offset, {}, false⟩

/-- Reads one given character. -/
def char (ch : Char) : Scan Unit := do
  let _ ← satisfy (· == ch)

/-- Reads a given text, or fails where it starts. -/
def literal (s : String) : Scan Unit := fun c =>
  if s.toList.isPrefixOf c.rest then .ok ((), ⟨c.rest.drop s.length, c.offset + s.utf8ByteSize⟩)
  else .error ⟨c.offset, {}, false⟩

/-- Reads the longest run of characters that satisfy `p`. -/
def takeWhile (p : Char → Bool) : Scan String := fun c =>
  let run := c.rest.takeWhile p
  .ok (String.ofList run, ⟨c.rest.dropWhile p, c.offset + byteSize run⟩)

/-- The text a scanner reads, with its result. -/
def taken {α : Type} (p : Scan α) : Scan (String × α) := fun c =>
  match p c with
  | .ok (a, c') => .ok ((String.ofList (c.rest.take (c.rest.length - c'.rest.length)), a), c')
  | .error f => .error f

end Scan

/-! ### Character classes -/

/-- Blanks inside a line: space and tab. -/
def isSpaceOrTab (c : Char) : Bool := c == ' ' || c == '\t'

/-- Characters of a bare key. -/
def isBareKeyChar (c : Char) : Bool := c.isAlphanum || c == '-' || c == '_'

/-- Characters allowed in a comment. -/
def isCommentChar (c : Char) : Bool :=
  c == '\t' || (0x20 ≤ c.toNat && c.toNat ≤ 0x7e) || 0x80 ≤ c.toNat

/-- Characters that stand for themselves in a basic string. -/
def isBasicChar (c : Char) : Bool :=
  isSpaceOrTab c || c.toNat == 0x21 || (0x23 ≤ c.toNat && c.toNat ≤ 0x5b) ||
    (0x5d ≤ c.toNat && c.toNat ≤ 0x7e) || 0x80 ≤ c.toNat

/-- Characters of a literal string. -/
def isLiteralChar (c : Char) : Bool :=
  c == '\t' || (0x20 ≤ c.toNat && c.toNat ≤ 0x26) || (0x28 ≤ c.toNat && c.toNat ≤ 0x7e) ||
    0x80 ≤ c.toNat

/-- Hexadecimal digits. -/
def isHexDigit (c : Char) : Bool :=
  c.isDigit || ('a' ≤ c && c ≤ 'f') || ('A' ≤ c && c ≤ 'F')

/-- Octal digits. -/
def isOctDigit (c : Char) : Bool := '0' ≤ c && c ≤ '7'

/-- Binary digits. -/
def isBinDigit (c : Char) : Bool := c == '0' || c == '1'

/-- The value of a digit in base 16 or below. -/
def digitValue (c : Char) : Nat :=
  if c.isDigit then c.toNat - '0'.toNat
  else if 'a' ≤ c && c ≤ 'f' then c.toNat - 'a'.toNat + 10
  else c.toNat - 'A'.toNat + 10

/-- The number that digits spell in a base. -/
def digitsValue (base : Nat) (cs : List Char) : Nat :=
  cs.foldl (fun n c => n * base + digitValue c) 0

end FlowLayout.Toml
