import FlowLayout.Data.SortedMap
import FlowLayout.Text.Blank
/-!
# Styles

A style holds the visual properties that styling directives set: fill, stroke, stroke width
and text colour by name, and any other property in `extra`, sorted by name.

`Style.parseDeclarations` reads a list `name:value,name:value`. A comma inside parentheses
(`rgb(1,2,3)`) does not split declarations; the parenthesis depth never drops below zero. A
declaration without a colon, or whose name or value is empty after trimming, is skipped; one
or more semicolons at the end of a value are dropped. A later declaration of a property wins.

`Style.overlay base top` puts `top` over `base`: every property that `top` sets wins.
-/

namespace FlowLayout

/-- Visual properties of a node or an edge. -/
structure Style where
  fill : Option String := none
  stroke : Option String := none
  strokeWidth : Option String := none
  textColor : Option String := none
  extra : SortedMap String String := {}

namespace Style

/-- The style that sets nothing. -/
def empty : Style := {}

instance : Inhabited Style := ⟨empty⟩

/-- The style with property `name` set to `value`. -/
def set (s : Style) (name value : String) : Style :=
  match name with
  | "fill" => { s with fill := some value }
  | "stroke" => { s with stroke := some value }
  | "stroke-width" => { s with strokeWidth := some value }
  | "color" => { s with textColor := some value }
  | other => { s with extra := s.extra.insert other value }

/-- `top` over `base`: properties set in `top` win. -/
def overlay (base top : Style) : Style where
  fill := top.fill <|> base.fill
  stroke := top.stroke <|> base.stroke
  strokeWidth := top.strokeWidth <|> base.strokeWidth
  textColor := top.textColor <|> base.textColor
  extra := top.extra.entries.foldl (fun m e => m.insert e.1 e.2) base.extra

/-- Whether the style sets nothing. -/
def isEmpty (s : Style) : Bool :=
  s.fill.isNone && s.stroke.isNone && s.strokeWidth.isNone && s.textColor.isNone &&
    s.extra.isEmpty

end Style

/-- Splits at commas outside parentheses. `depth` counts open parentheses, never below
zero; `current` holds the piece read so far, reversed. -/
def splitDeclarations (depth : Nat) (current : List Char) : List Char → List (List Char)
  | [] => [current.reverse]
  | c :: rest =>
    if c == '(' then splitDeclarations (depth + 1) (c :: current) rest
    else if c == ')' then splitDeclarations (depth - 1) (c :: current) rest
    else if c == ',' && depth == 0 then current.reverse :: splitDeclarations depth [] rest
    else splitDeclarations depth (c :: current) rest

/-- A declaration's name and value: the text before and after its first colon, trimmed, with
trailing semicolons dropped from the value; none when there is no colon or either part is
empty. -/
def declaration (d : List Char) : Option (String × String) :=
  match d.span (· != ':') with
  | (_, []) => none
  | (name, _ :: value) =>
    let name := Text.trimChars name
    let value := Text.trimChars ((Text.trimChars value).reverse.dropWhile (· == ';')).reverse
    if name.isEmpty || value.isEmpty then none
    else some (String.ofList name, String.ofList value)

/-- The style a declaration list sets. -/
def Style.parseDeclarations (input : String) : Style :=
  (splitDeclarations 0 [] input.toList).foldl (fun s d =>
    match declaration d with
    | some (name, value) => s.set name value
    | none => s) {}

end FlowLayout
