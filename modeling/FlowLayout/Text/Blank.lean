/-!
# Blank characters, trimming and lines

A blank is a character of the Unicode `White_Space` property: the five ASCII controls from
tab to carriage return, the space, NEL, the no-break space, the Ogham space mark, the eleven
spaces from en quad to hair space, the line and paragraph separators, the narrow no-break
space, the medium mathematical space and the ideographic space. The byte-order mark is not
blank.

`trim` removes blanks at both ends. `lines` cuts a text at each line feed, drops one carriage
return at the end of each piece, and yields no empty piece after a final line feed.
-/

namespace FlowLayout.Text

/-- The 25 code points of `White_Space`. -/
def isBlank (c : Char) : Bool :=
  let n := c.toNat
  (0x09 ≤ n && n ≤ 0x0D) || n == 0x20 || n == 0x85 || n == 0xA0 || n == 0x1680 ||
  (0x2000 ≤ n && n ≤ 0x200A) || n == 0x2028 || n == 0x2029 || n == 0x202F ||
  n == 0x205F || n == 0x3000

/-- Blanks removed from the end of a character list. -/
def dropBlankEnd (cs : List Char) : List Char := (cs.reverse.dropWhile isBlank).reverse

/-- Blanks removed from both ends of a character list. -/
def trimChars (cs : List Char) : List Char := dropBlankEnd (cs.dropWhile isBlank)

/-- Blanks removed from both ends. -/
def trim (s : String) : String := String.ofList (trimChars s.toList)

/-- Blanks removed from the start. -/
def trimStart (s : String) : String := String.ofList (s.toList.dropWhile isBlank)

/-- Blanks removed from the end. -/
def trimEnd (s : String) : String := String.ofList (dropBlankEnd s.toList)

/-- Whether a text holds blanks only. -/
def isAllBlank (s : String) : Bool := s.toList.all isBlank

/-- A piece of a line without its carriage return. -/
def stripReturn (cs : List Char) : List Char :=
  match cs.reverse with
  | '\r' :: rest => rest.reverse
  | _ => cs

/-- The pieces of a character list between line feeds; `current` holds the piece read so far,
reversed. -/
def splitLines : List Char → List Char → List (List Char)
  | [], [] => []
  | [], current => [stripReturn current.reverse]
  | '\n' :: rest, current => stripReturn current.reverse :: splitLines rest []
  | c :: rest, current => splitLines rest (c :: current)

/-- The lines of a text. -/
def lines (s : String) : List String := (splitLines s.toList []).map String.ofList

/-- The pieces between blanks, without empty ones. -/
def words (s : String) : List String :=
  let rec go : List Char → List Char → List String
    | [], [] => []
    | [], cur => [String.ofList cur.reverse]
    | c :: rest, cur =>
      if isBlank c then
        if cur.isEmpty then go rest [] else String.ofList cur.reverse :: go rest []
      else go rest (c :: cur)
  go s.toList []

end FlowLayout.Text
