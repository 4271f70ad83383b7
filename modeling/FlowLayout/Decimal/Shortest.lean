/-!
# Shortest decimal digits of a binary floating-point value

A finite binary value `m · 2^e` stands for every real number that rounds to it under
round-to-nearest-even: an interval around it whose two ends belong to it exactly when `m` is
even. `Decoded.shortest` finds the fewest significant decimal digits of a number inside that
interval and, among those, the one nearest the value; an exact tie goes to the even digit
string. All comparisons are exact products of natural numbers, so the result is the same on
every machine.

The result is a `Digits` value `d · 10^k` whose digit string `d` has no trailing zero.
-/

namespace FlowLayout.Decimal

/-- An IEEE 754 binary interchange format, by the widths of its stored fraction and of its
biased exponent. -/
structure BinaryFormat where
  fractionBits : Nat
  exponentBits : Nat

/-- binary32: 23 fraction bits and 8 exponent bits. -/
def BinaryFormat.single : BinaryFormat := ⟨23, 8⟩

/-- binary64: 52 fraction bits and 11 exponent bits. -/
def BinaryFormat.double : BinaryFormat := ⟨52, 11⟩

/-- What a bit pattern encodes. A finite value is `(-1)^negative · mantissa · 2^exponent`;
`narrowBelow` says that the gap to the next value below is half the gap above, which
happens exactly at a power of two above the smallest normal exponent. -/
inductive Decoded where
  | nan
  | infinite (negative : Bool)
  | finite (negative : Bool) (mantissa : Nat) (exponent : Int) (narrowBelow : Bool)
  deriving Repr, BEq

/-- Splits a bit pattern of the format into sign, biased exponent and fraction. -/
def BinaryFormat.decode (f : BinaryFormat) (bits : Nat) : Decoded :=
  let unit := Nat.pow 2 f.fractionBits
  let fraction := bits % unit
  let biased := bits / unit % Nat.pow 2 f.exponentBits
  let negative := bits / Nat.pow 2 (f.fractionBits + f.exponentBits) % 2 == 1
  let bias : Int := Int.pow 2 (f.exponentBits - 1) - 1
  if biased == Nat.pow 2 f.exponentBits - 1 then
    if fraction == 0 then .infinite negative else .nan
  else if biased == 0 then
    .finite negative fraction (1 - bias - f.fractionBits) false
  else
    .finite negative (fraction + unit) (biased - bias - f.fractionBits)
      (fraction == 0 && biased > 1)

/-- A decimal `digits · 10^exponent`. -/
structure Digits where
  digits : Nat
  exponent : Int
  deriving Repr, BEq, DecidableEq

/-- Compares `c · 10^k` with `x · 2^t` exactly. -/
def compareScaled (c : Nat) (k : Int) (x : Nat) (t : Int) : Ordering :=
  compare (c * Nat.pow 10 k.toNat * Nat.pow 2 (-t).toNat)
    (x * Nat.pow 10 (-k).toNat * Nat.pow 2 t.toNat)

/-- `⌊x · 2^t / 10^k⌋`. -/
def floorScaled (x : Nat) (t : Int) (k : Int) : Nat :=
  x * Nat.pow 2 t.toNat * Nat.pow 10 (-k).toNat / (Nat.pow 2 (-t).toNat * Nat.pow 10 k.toNat)

/-- Removes trailing zero digits, raising the exponent to keep the value. The digit string
loses one digit per step, so `fuel` digits' worth of steps suffice. -/
def Digits.trim : Nat → Digits → Digits
  | 0, d => d
  | fuel + 1, d =>
    if d.digits != 0 && d.digits % 10 == 0 then
      Digits.trim fuel ⟨d.digits / 10, d.exponent + 1⟩
    else d

/-- The largest `E` with `10^E ≤ x · 2^t`, for `x > 0`: an estimate from the binary
exponent, corrected by exact comparisons. -/
def decimalExponent (x : Nat) (t : Int) : Int :=
  let estimate : Int := ((Nat.log2 x : Int) + t) * 30103 / 100000
  let up := (List.range 4).foldl (fun e _ =>
    if compareScaled 1 (e + 1) x t != .gt then e + 1 else e) estimate
  (List.range 4).foldl (fun e _ =>
    if compareScaled 1 e x t == .gt then e - 1 else e) up

namespace Decoded

/-- Whether `c · 10^k` lies in the interval `[lo · 2^t, hi · 2^t]` of reals that round to the
value; the ends count when `closed`. -/
def admits (lo hi : Nat) (t : Int) (closed : Bool) (c : Nat) (k : Int) : Bool :=
  let below := compareScaled c k lo t
  let above := compareScaled c k hi t
  (below == .gt || (closed && below == .eq)) && (above == .lt || (closed && above == .eq))

/-- The nearer of `a · 10^k` and `(a+1) · 10^k` to `v · 2^t` among those admitted, the even
one on a tie. -/
def pick (v : Nat) (t : Int) (k : Int) (a : Nat) (okLow okHigh : Bool) : Option Nat :=
  match okLow, okHigh with
  | false, false => none
  | true, false => some a
  | false, true => some (a + 1)
  | true, true =>
    match compareScaled (2 * a + 1) k (2 * v) t with
    | .lt => some (a + 1)
    | .gt => some a
    | .eq => some (if a % 2 == 0 then a else a + 1)

/-- Tries `n, n+1, …` significant digits, `fuel` counts at most, for the value `v · 2^t`
whose rounding interval is `[lo · 2^t, hi · 2^t]`; `top` is the decimal exponent of the
leading digit. -/
def search (v lo hi : Nat) (t : Int) (closed : Bool) (top : Int) :
    Nat → Nat → Option Digits
  | 0, _ => none
  | fuel + 1, n =>
    let k := top - n + 1
    let a := floorScaled v t k
    match pick v t k a (admits lo hi t closed a k) (admits lo hi t closed (a + 1) k) with
    | some c => some ⟨c, k⟩
    | none => search v lo hi t closed top fuel (n + 1)

/-- Shortest digits of the magnitude of a finite value; `none` for NaN and infinities. Zero
gives `⟨0, 0⟩`. -/
def shortest : Decoded → Option Digits
  | .finite _ 0 _ _ => some ⟨0, 0⟩
  | .finite _ m e narrow =>
    -- quarter units of the last place: the value is 4m, the interval ends 4m ± 2
    -- (4m - 1 below a power of two)
    let t := e - 2
    let v := 4 * m
    let lo := if narrow then v - 1 else v - 2
    let hi := v + 2
    let top := decimalExponent v t
    (search v lo hi t (m % 2 == 0) top 40 1).map (Digits.trim 40)
  | _ => none

end Decoded

/-- The bits of a binary32 value, decoded. -/
def decodeSingle (x : Float32) : Decoded :=
  BinaryFormat.single.decode x.toBits.toNat

/-- The bits of a binary64 value, decoded. -/
def decodeDouble (x : Float) : Decoded :=
  BinaryFormat.double.decode x.toBits.toNat

end FlowLayout.Decimal
