import FlowLayout.Decimal.Shortest
/-!
# Spelling a decimal

A `Notation` records the decisions a number format makes once the digits are known: which
magnitudes are written positionally and which with an exponent, whether an integral value
keeps a `.0`, whether a non-negative exponent carries `+`, and the words for NaN and the
infinities. `Notation.render` spells shortest digits under such a record; `single` and
`double` spell binary32 and binary64 values. The way back, from a decimal to the nearest
binary64 value, closes the module.
-/

namespace FlowLayout.Decimal

/-- The choices that turn digits into text. A value whose leading digit stands at decimal
exponent `X` is written positionally when `lowestPositional ≤ X ≤ highestPositional` (a
missing bound is no bound), and as `d.ddd` `e` `X` otherwise. -/
structure Notation where
  lowestPositional : Option Int
  highestPositional : Option Int
  pointZero : Bool
  plusInExponent : Bool
  nan : String
  infinity : String

/-- `n` zero digits. -/
def zeros (n : Nat) : String := String.ofList (List.replicate n '0')

namespace Notation

/-- Whether a leading-digit exponent is written positionally. -/
def positional (f : Notation) (x : Int) : Bool :=
  (match f.lowestPositional with | some lo => lo ≤ x | none => true) &&
  (match f.highestPositional with | some hi => x ≤ hi | none => true)

/-- The digits `s` times `10^k`, written without exponent. -/
def positionalText (f : Notation) (s : String) (k : Int) : String :=
  if 0 ≤ k then
    s ++ zeros k.toNat ++ (if f.pointZero then ".0" else "")
  else
    let cs := s.toList
    let point : Int := cs.length + k
    if 0 < point then
      String.ofList (cs.take point.toNat) ++ "." ++ String.ofList (cs.drop point.toNat)
    else "0." ++ zeros (-point).toNat ++ s

/-- The digits `s` times `10^k`, written as one digit, the rest after a point, and the
exponent of the leading digit. -/
def scientificText (f : Notation) (s : String) (k : Int) : String :=
  let cs := s.toList
  let x : Int := k + cs.length - 1
  let mantissa := match cs with
    | [] => "0"
    | [c] => String.singleton c
    | c :: rest => String.singleton c ++ "." ++ String.ofList rest
  let sign := if x < 0 then "-" else if f.plusInExponent then "+" else ""
  mantissa ++ "e" ++ sign ++ toString x.natAbs

/-- The text of a decoded value under the notation. -/
def render (f : Notation) (d : Decoded) : String :=
  match d with
  | .nan => f.nan
  | .infinite negative => (if negative then "-" else "") ++ f.infinity
  | .finite negative _ _ _ =>
    let sign := if negative then "-" else ""
    match d.shortest with
    | none => f.nan
    | some ⟨0, _⟩ => sign ++ "0" ++ (if f.pointZero then ".0" else "")
    | some ⟨digits, k⟩ =>
      let s := toString digits
      let x : Int := k + s.length - 1
      sign ++ (if f.positional x then f.positionalText s k else f.scientificText s k)

/-- A binary32 value under the notation. -/
def single (f : Notation) (x : Float32) : String := f.render (decodeSingle x)

/-- A binary64 value under the notation. -/
def double (f : Notation) (x : Float) : String := f.render (decodeDouble x)

end Notation

end FlowLayout.Decimal

/-!
## The binary64 value nearest to a decimal

`nearestDouble m e` is the binary64 value nearest to `m · 10^e`, a tie going to the even
significand, and infinity when that value is too large. It works in exact natural-number
arithmetic: the decimal is a fraction `p / q`; its binary exponent `b` fixes the grid of the
result (53 significant bits, or the subnormal grid below `2^-1022`); the fraction is divided
onto that grid and rounded once by the remainder. Decimals far outside the range of binary64
are settled before any large power is formed.
-/

namespace FlowLayout.Decimal

/-- The number of decimal digits of a positive number. -/
def decimalLength (m : Nat) : Nat := (Nat.toDigits 10 m).length

/-- `⌊log₂ (p / q)⌋` for positive `p` and `q`. -/
def binaryExponent (p q : Nat) : Int :=
  let guess : Int := (p.log2 : Int) - q.log2
  -- `guess` is the exponent or one above it
  if guess ≥ 0 then
    if p ≥ q <<< guess.toNat then guess else guess - 1
  else
    if p <<< (-guess).toNat ≥ q then guess else guess - 1

/-- `n / d` rounded to the nearest natural number, a tie going to the even one. -/
def roundHalfEven (n d : Nat) : Nat :=
  let quotient := n / d
  let twice := 2 * (n % d)
  if twice > d then quotient + 1
  else if twice == d && quotient % 2 == 1 then quotient + 1
  else quotient

/-- The binary64 value nearest to `p / q`, for positive `p` and `q`. -/
def nearestFraction (p q : Nat) : Float :=
  let b := binaryExponent p q
  let e : Int := max (b - 52) (-1074)
  let significand :=
    if e ≥ 0 then roundHalfEven p (q <<< e.toNat) else roundHalfEven (p <<< (-e).toNat) q
  significand.toUInt64.toFloat.scaleB e

/-- The binary64 value nearest to `m · 10^e`. -/
def nearestDouble (m : Nat) (e : Int) : Float :=
  if m == 0 then 0.0
  else
    let length : Int := decimalLength m
    if length + e > 310 then 1.0 / 0.0
    else if length + e < -330 then 0.0
    else if e ≥ 0 then nearestFraction (m * Nat.pow 10 e.toNat) 1
    else nearestFraction m (Nat.pow 10 (-e).toNat)

end FlowLayout.Decimal
