/-!
# Binary floating point, exactly

A finite double is `m · 2^e` with an integer mantissa `m`; this module reads a `Float` as
such a pair from its bits and, the other way, finds the double nearest to a positive
rational `num / den`, a tie going to the even mantissa. All arithmetic is exact on `Nat`
and `Int`, so both directions are ordinary functions that proofs can unfold.

The layout of the bits is that of IEEE 754 binary64: a sign bit, eleven exponent bits and
fifty-two fraction bits; exponent bits `0` mean a subnormal number, `2047` infinity or NaN.
-/

namespace Catalog.Decimal

/-- A finite double without its sign: the value `mantissa · 2^exponent`. The flag
`narrowBelow` is set when the mantissa is the least of its binade, so that the next double
below lies at half the usual distance. -/
structure Binary where
  mantissa : Nat
  exponent : Int
  narrowBelow : Bool
  deriving Repr, BEq

/-- The sign bit of a double. -/
def signBit (f : Float) : Bool :=
  f.toBits.toNat >>> 63 == 1

/-- Whether a double is finite (neither infinite nor NaN). -/
def isFiniteBits (f : Float) : Bool :=
  (f.toBits.toNat >>> 52) % 2048 != 2047

/-- The magnitude of a finite double as mantissa and exponent. -/
def Binary.ofFloat (f : Float) : Binary :=
  let bits := f.toBits.toNat
  let exp := (bits >>> 52) % 2048
  let frac := bits % Nat.pow 2 52
  if exp = 0 then ⟨frac, -1074, false⟩
  else ⟨frac + Nat.pow 2 52, (exp : Int) - 1075, frac = 0 && exp > 1⟩

/-- The exact value `num / den` of the rational `n · 2^e`, as a pair of naturals. -/
def ratOfPow2 (n : Nat) (e : Int) : Nat × Nat :=
  if e ≥ 0 then (n * Nat.pow 2 e.toNat, 1) else (n, Nat.pow 2 (-e).toNat)

/-- `⌊num · 2^(-e) / den⌋` and whether a remainder is left, as a comparison of twice the
remainder with the divisor: `.lt`, `.eq` or `.gt` than half a unit. -/
def scaledQuotient (num den : Nat) (e : Int) : Nat × Ordering :=
  let (a, b) :=
    if e ≤ 0 then (num * Nat.pow 2 (-e).toNat, den) else (num, den * Nat.pow 2 e.toNat)
  let q := a / b
  let r := a % b
  (q, compare (2 * r) b)

/-- The binary exponent `e` with `2^52 ≤ num / den / 2^e < 2^53`, searched from an estimate
by at most a few steps; subnormal values take the least exponent `-1074`. -/
def binaryExponent (num den : Nat) : Int :=
  let start : Int := (Nat.log2 num : Int) - (Nat.log2 den : Int) - 52
  let fits (e : Int) : Bool :=
    let q := (scaledQuotient num den e).1
    Nat.pow 2 52 ≤ q && q < Nat.pow 2 53
  let e := [start - 1, start, start + 1, start + 2].find? fits |>.getD start
  max e (-1074)

/-- The bits of the double nearest to `num / den` (both positive), a tie going to the even
mantissa; a value beyond the largest double gives the bits of infinity. -/
def nearestBits (num den : Nat) : Nat :=
  let e := binaryExponent num den
  let (q, half) := scaledQuotient num den e
  let up := half == .gt || (half == .eq && q % 2 == 1)
  let q := if up then q + 1 else q
  let (q, e) := if q = Nat.pow 2 53 then (Nat.pow 2 52, e + 1) else (q, e)
  if e > 971 then 0x7FF0000000000000
  else if q < Nat.pow 2 52 then q
  else (e + 1075).toNat * Nat.pow 2 52 + (q - Nat.pow 2 52)

/-- The double nearest to `num / den`, negated when `negative` holds. -/
def nearestFloat (negative : Bool) (num den : Nat) : Float :=
  let bits := if num = 0 then 0 else nearestBits num den
  Float.ofBits (UInt64.ofNat (if negative then bits + Nat.pow 2 63 else bits))

end Catalog.Decimal
