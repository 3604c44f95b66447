import Catalog.Decimal.Binary

/-!
# Shortest decimal form of a double

Every double `v > 0` owns the interval of reals that round to it: half the distance to each
neighbour on either side, the ends included when its mantissa is even. The shortest
decimal form of `v` is the decimal with the fewest significant digits inside that interval;
of two such decimals the one nearer to `v` is taken, and of two equally near the one with
the even last digit. Such a decimal is always found with at most seventeen digits, and on
a grid of `p` significant digits only the two grid points around `v` need a test: if any
point of the grid lies in the interval, so does one of these two.

The result is a pair `(digits, exponent)` with value `digits · 10^exponent` and no trailing
zero in `digits`.
-/

namespace Catalog.Decimal

/-- The number of decimal digits of a positive natural number (`0` has none). -/
def digitCount (n : Nat) : Nat :=
  if h : n = 0 then 0 else digitCount (n / 10) + 1
termination_by n
decreasing_by omega

/-- `⌊log₁₀ (num / den)⌋` for positive `num` and `den`. -/
def decimalMagnitude (num den : Nat) : Int :=
  if num ≥ den then (digitCount (num / den) : Int) - 1
  else -(digitCount ((den + num - 1) / num - 1) : Int)

/-- Drop the trailing zeros of `digits`, raising the exponent to match. -/
def stripZeros (digits : Nat) (exponent : Int) : Nat × Int :=
  if h : digits ≠ 0 ∧ digits % 10 = 0 then stripZeros (digits / 10) (exponent + 1)
  else (digits, exponent)
termination_by digits
decreasing_by omega

/-- The exact value `d · 10^k` as a pair of naturals `(num, den)`. -/
def ratOfPow10 (d : Nat) (k : Int) : Nat × Nat :=
  if k ≥ 0 then (d * Nat.pow 10 k.toNat, 1) else (d, Nat.pow 10 (-k).toNat)

/-- Compare the rationals `a.1 / a.2` and `b.1 / b.2`. -/
def compareRat (a b : Nat × Nat) : Ordering :=
  compare (a.1 * b.2) (b.1 * a.2)

/-- The decimals of `p` significant digits nearest to `v` that lie in the rounding
interval of `b`, nearest first: `none` when neither grid neighbour of `v` does. -/
def candidateAt (b : Binary) (p : Nat) : Option (Nat × Int) :=
  let v := ratOfPow2 b.mantissa b.exponent
  let high := ratOfPow2 (4 * b.mantissa + 2) (b.exponent - 2)
  let low := ratOfPow2 (4 * b.mantissa - (if b.narrowBelow then 1 else 2)) (b.exponent - 2)
  let closed := b.mantissa % 2 == 0
  let inside (c : Nat × Nat) : Bool :=
    match compareRat low c, compareRat c high with
    | .lt, .lt => true
    | .eq, .lt => closed
    | .lt, .eq => closed
    | _, _ => false
  let k := decimalMagnitude v.1 v.2 - (p : Int) + 1
  -- v / 10^k as sn / sd, and the grid points below and above it
  let (sn, sd) :=
    if k ≥ 0 then (v.1, v.2 * Nat.pow 10 k.toNat) else (v.1 * Nat.pow 10 (-k).toNat, v.2)
  let below := sn / sd
  let above := if sn % sd = 0 then below else below + 1
  let inBelow := inside (ratOfPow10 below k)
  let inAbove := inside (ratOfPow10 above k)
  if inBelow && inAbove then
    -- nearer of the two; on a tie the even one
    match compare (2 * (sn - below * sd)) sd with
    | .lt => some (below, k)
    | .gt => some (above, k)
    | .eq => some (if below % 2 = 0 then below else above, k)
  else if inBelow then some (below, k)
  else if inAbove then some (above, k)
  else none

/-- The shortest decimal form of a positive finite double, as `(digits, exponent)`. -/
def shortest (b : Binary) : Nat × Int :=
  match (List.range 17).findSome? (fun i => candidateAt b (i + 1)) with
  | some (d, k) => stripZeros d k
  | none => stripZeros b.mantissa 0

end Catalog.Decimal
