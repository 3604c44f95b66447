import Catalog.Decimal.Shortest

/-!
# Values of the store

A cell of the store holds one of five kinds of value: nothing (`null`), a signed 64-bit
integer, a double, a text or a byte string. This module gives the rules that every part of
the store shares about them.

* **Numbers in text.** A text is a number when, between optional blanks, it holds an
  optional sign, digits with at most one point among them (at least one digit in all) and
  optionally an exponent `e` or `E` with an optional sign and at least one digit. Written
  without point and exponent, and inside the 64-bit range, it is an integer; otherwise it
  is the double nearest to it. Arithmetic reads only the longest such prefix of a text,
  and a text with no number in front counts as `0`.
* **Affinity.** A column's declared type gives it an affinity, by the first of these rules
  that applies to the type's name with ASCII letters in any case: a name containing `INT`
  is integer; one containing `CHAR`, `CLOB` or `TEXT` is text; one containing `BLOB`, or no
  name at all, is blob; one containing `REAL`, `FLOA` or `DOUB` is real; any other name is
  numeric. A value stored in a column is converted by its affinity: text affinity writes
  numbers as text; numeric and integer affinity read numbers out of text and turn a double
  that is a whole number in the 64-bit range into an integer; real affinity turns every
  number into a double; blob affinity changes nothing.
* **Doubles as text** have fifteen significant digits, rounded half up, with trailing zeros
  dropped but one digit kept after the point; the exponent form `d.ddde+XX` is used when
  the decimal exponent is below `-4` or at least `15`.
* **Order.** `null` comes first, then numbers by their exact value (an integer and a double
  are compared exactly, not after a conversion), then texts by the collation, then byte
  strings bytewise.
-/

namespace Catalog.Sql

open Catalog.Decimal

/-- A value of one cell of the store. -/
inductive Value where
  | null
  | integer (n : Int)
  | real (x : Float)
  | text (s : String)
  | blob (bytes : List UInt8)
  deriving Inhabited

/-- The least integer a cell holds. -/
def minInt : Int := -9223372036854775808

/-- The greatest integer a cell holds. -/
def maxInt : Int := 9223372036854775807

/-- Whether an integer fits a cell. -/
def fitsInt (n : Int) : Bool :=
  decide (minInt ≤ n) && decide (n ≤ maxInt)

/-- The blanks allowed around a number written as text. -/
def isNumberBlank (c : Char) : Bool :=
  c = ' ' || c = '\t' || c = '\n' || c = '\x0b' || c = '\x0c' || c = '\r'

/-- Whether `needle` occurs in `hay` as a contiguous part. -/
def hasInfix (needle : List Char) : List Char → Bool
  | [] => needle.isEmpty
  | c :: cs => needle.isPrefixOf (c :: cs) || hasInfix needle cs

/-! ## Doubles -/

/-- Positive infinity. -/
def infinity : Float :=
  Float.ofBits 0x7FF0000000000000

/-- The double nearest to an integer. -/
def floatOfInt (n : Int) : Float :=
  nearestFloat (decide (n < 0)) n.natAbs 1

/-- The exact value of a finite double as `num / 2^k`. -/
def exactRatio (x : Float) : Int × Nat :=
  let b := Binary.ofFloat x
  let m : Int := if signBit x then -(b.mantissa : Int) else b.mantissa
  if b.exponent ≥ 0 then (m * (Nat.pow 2 b.exponent.toNat : Nat), 1)
  else (m, Nat.pow 2 (-b.exponent).toNat)

/-- Whether a double is infinite or not a number. -/
def isSpecial (x : Float) : Bool :=
  !isFiniteBits x

/-- The integer a finite double equals, if it is a whole number. -/
def wholeOf? (x : Float) : Option Int :=
  if isSpecial x then none else
  let (num, den) := exactRatio x
  if num % (den : Int) = 0 then some (num / (den : Int)) else none

/-- A double cut to an integer toward zero, held inside the 64-bit range. -/
def truncate (x : Float) : Int :=
  if x != x then 0
  else if isSpecial x then (if signBit x then minInt else maxInt)
  else
    let (num, den) := exactRatio x
    let q := Int.tdiv num (den : Int)
    if q < minInt then minInt else if q > maxInt then maxInt else q

/-- Order an integer against a double by exact value. -/
def compareIntReal (n : Int) (x : Float) : Ordering :=
  if isSpecial x then (if signBit x then .gt else .lt)
  else
    let (num, den) := exactRatio x
    compare (n * (den : Int)) num

/-- The fifteen significant digits of a positive double, rounded half up, and the decimal
exponent of the first of them. -/
def fifteenDigits (num den : Nat) : Nat × Int :=
  let mag := decimalMagnitude num den
  let k := mag - 14
  let (a, c) := if k ≥ 0 then (num, den * Nat.pow 10 k.toNat) else (num * Nat.pow 10 (-k).toNat, den)
  let q := a / c
  let d := if 2 * (a % c) ≥ c then q + 1 else q
  if d = Nat.pow 10 15 then (Nat.pow 10 14, mag + 1) else (d, mag)

/-- The text of a double, as described in the module header. -/
def realText (x : Float) : String :=
  if x != x then "NaN"
  else if isSpecial x then (if signBit x then "-Inf" else "Inf")
  else
    let b := Binary.ofFloat x
    if b.mantissa = 0 then "0.0" else
    let sign := if signBit x then "-" else ""
    let (num, den) := ratOfPow2 b.mantissa b.exponent
    let (d, mag) := fifteenDigits num den
    let ds := (toString d).toList
    if mag < -4 || mag ≥ 15 then
      let rest := (ds.drop 1).reverse.dropWhile (· = '0') |>.reverse
      let rest := if rest.isEmpty then ['0'] else rest
      let e := mag.natAbs
      let eText := (if e < 10 then "0" else "") ++ toString e
      sign ++ String.ofList (ds.take 1 ++ '.' :: rest) ++ "e" ++ (if mag < 0 then "-" else "+")
        ++ eText
    else if mag ≥ 0 then
      let whole := ds.take (mag.toNat + 1)
      let frac := (ds.drop (mag.toNat + 1)).reverse.dropWhile (· = '0') |>.reverse
      sign ++ String.ofList (whole ++ '.' :: (if frac.isEmpty then ['0'] else frac))
    else
      let frac := ds.reverse.dropWhile (· = '0') |>.reverse
      sign ++ "0." ++ String.ofList (List.replicate ((-mag).toNat - 1) '0' ++ frac)

/-! ## Numbers in text -/

/-- A decimal number read from text: the value `digits · 10^scale` with its sign, and
whether it was written without a point or an exponent. -/
structure Numeral where
  negative : Bool
  digits : Nat
  scale : Int
  integral : Bool
  deriving Repr

/-- Read the digits at the start of a text onto `acc`, with how many were read. -/
def readDigits (acc count : Nat) : List Char → Nat × Nat × List Char
  | c :: cs => if c.isDigit then readDigits (acc * 10 + (c.toNat - 48)) (count + 1) cs
    else (acc, count, c :: cs)
  | [] => (acc, count, [])

/-- Read an exponent's digits, held below a bound past which every value is the same. -/
def readExponent (acc : Nat) : List Char → Nat × Nat × List Char
  | c :: cs => if c.isDigit then
      let (v, n, r) := readExponent (min 100000 (acc * 10 + (c.toNat - 48))) cs
      (v, n + 1, r)
    else (acc, 0, c :: cs)
  | [] => (acc, 0, [])

/-- The exponent part at the start of a text, if one is written there in full. -/
def scanExponent : List Char → Option (Int × List Char)
  | e :: rest =>
    if e = 'e' || e = 'E' then
      let (neg, r) := match rest with
        | '-' :: t => (true, t)
        | '+' :: t => (false, t)
        | t => (false, t)
      let (v, n, r) := readExponent 0 r
      if n = 0 then none else some (if neg then -(v : Int) else v, r)
    else none
  | [] => none

/-- The numeral at the start of a text and the text after it; `none` when no digit starts
it. -/
def Numeral.scan (cs : List Char) : Option (Numeral × List Char) :=
  let (neg, cs) := match cs with
    | '-' :: r => (true, r)
    | '+' :: r => (false, r)
    | r => (false, r)
  let (whole, nw, cs) := readDigits 0 0 cs
  let (digits, nf, cs, point) := match cs with
    | '.' :: r => let (f, n, r) := readDigits whole 0 r; (f, n, r, true)
    | r => (whole, 0, r, false)
  if nw + nf = 0 then none else
  match scanExponent cs with
  | some (e, r) => some (⟨neg, digits, e - nf, false⟩, r)
  | none => some (⟨neg, digits, -(nf : Int), !point⟩, cs)

/-- The double nearest to a numeral; far beyond the range of doubles it is infinite or
zero. -/
def Numeral.toFloat (n : Numeral) : Float :=
  if n.digits = 0 then 0.0 else
  let mag := (digitCount n.digits : Int) + n.scale
  if mag > 320 then (if n.negative then -infinity else infinity)
  else if mag < -340 then 0.0
  else
    let (num, den) := ratOfPow10 n.digits n.scale
    nearestFloat n.negative num den

/-- The integer a numeral written without point or exponent stands for. -/
def Numeral.integer (n : Numeral) : Int :=
  if n.negative then -(n.digits : Int) else n.digits

/-- The value of a numeral: an integer when written as one and in range, else a double. -/
def Numeral.value (n : Numeral) : Value :=
  if n.integral && fitsInt n.integer then .integer n.integer else .real n.toFloat

/-- The number a whole text spells, blanks around it allowed. -/
def numberOf? (s : String) : Option Value :=
  match Numeral.scan (s.toList.dropWhile isNumberBlank) with
  | some (n, rest) => if rest.all isNumberBlank then some n.value else none
  | none => none

/-- The number that starts a text after blanks, `0` when none does; a double that is a
small whole number counts as an integer. -/
def leadingNumber (s : String) : Value :=
  match Numeral.scan (s.toList.dropWhile isNumberBlank) with
  | some (n, _) =>
    match n.value with
    | .real x =>
      match wholeOf? x with
      | some i => if -2251799813685248 ≤ i && i < 2251799813685248 then .integer i else .real x
      | none => .real x
    | v => v
  | none => .integer 0

/-- The integer that starts a text after blanks: digits only, held inside the 64-bit
range; `0` when none does. -/
def leadingInteger (s : String) : Int :=
  let cs := s.toList.dropWhile isNumberBlank
  let (neg, cs) := match cs with
    | '-' :: r => (true, r)
    | '+' :: r => (false, r)
    | r => (false, r)
  let (v, _, _) := readDigits 0 0 cs
  let n : Int := if neg then -(v : Int) else v
  if n < minInt then minInt else if n > maxInt then maxInt else n

/-! ## Conversions -/

namespace Value

/-- The name of a value's kind. -/
def typeName : Value → String
  | .null => "null"
  | .integer _ => "integer"
  | .real _ => "real"
  | .text _ => "text"
  | .blob _ => "blob"

/-- Whether a value is `null`. -/
def isNull : Value → Bool
  | .null => true
  | _ => false

/-- The text of a byte string read as UTF-8, each undecodable byte read as U+FFFD. -/
def bytesText (bytes : List UInt8) : String :=
  match String.fromUTF8? (ByteArray.mk bytes.toArray) with
  | some s => s
  | none => String.ofList (bytes.map fun b => if b < 128 then Char.ofNat b.toNat else '�')

/-- The text of a value; `null` has none. -/
def asText? : Value → Option String
  | .null => none
  | .integer n => some (toString n)
  | .real x => some (realText x)
  | .text s => some s
  | .blob b => some (bytesText b)

/-- The text of a value, empty for `null`. -/
def asText (v : Value) : String :=
  v.asText?.getD ""

/-- The number a value stands for in arithmetic. -/
def numeric : Value → Value
  | .null => .null
  | .integer n => .integer n
  | .real x => .real x
  | .text s => leadingNumber s
  | .blob b => leadingNumber (bytesText b)

/-- The integer a value stands for: doubles cut toward zero, texts read by their leading
digits, `null` as `0`. -/
def asInteger : Value → Int
  | .null => 0
  | .integer n => n
  | .real x => truncate x
  | .text s => leadingInteger s
  | .blob b => leadingInteger (bytesText b)

/-- The double a value stands for, `null` as `0`. -/
def asReal : Value → Float
  | .null => 0.0
  | .integer n => floatOfInt n
  | .real x => x
  | v => match v.numeric with
    | .integer n => floatOfInt n
    | .real x => x
    | _ => 0.0

/-- The truth of a value: `none` for `null`, else whether its number is not zero. -/
def truth? : Value → Option Bool
  | .null => none
  | .integer n => some (n != 0)
  | .real x => some (x != 0.0)
  | v => some (v.asReal != 0.0)

/-- A double as a cell holds it under numeric affinity: an integer when it is a whole
number strictly inside the 64-bit range. -/
def ofRealTryInt (x : Float) : Value :=
  match wholeOf? x with
  | some i => if minInt < i && i < maxInt then .integer i else .real x
  | none => .real x

end Value

/-- How a column converts the values stored in it. -/
inductive Affinity where
  | blob
  | text
  | numeric
  | integer
  | real
  deriving Repr, DecidableEq, Inhabited

/-- The affinity of a declared column type, as described in the module header. -/
def Affinity.ofType (declared : String) : Affinity :=
  let u := declared.toList.map Char.toUpper
  let has (w : String) := hasInfix w.toList u
  if has "INT" then .integer
  else if has "CHAR" || has "CLOB" || has "TEXT" then .text
  else if has "BLOB" || u.isEmpty then .blob
  else if has "REAL" || has "FLOA" || has "DOUB" then .real
  else .numeric

/-- Whether an affinity is one of the number affinities. -/
def Affinity.isNumeric : Affinity → Bool
  | .numeric | .integer | .real => true
  | _ => false

/-- A value converted by an affinity, as described in the module header. -/
def Value.withAffinity : Affinity → Value → Value
  | .blob, v => v
  | .text, .integer n => .text (toString n)
  | .text, .real x => .text (realText x)
  | .text, v => v
  | .real, .integer n => .real (floatOfInt n)
  | .real, .text s =>
    match numberOf? s with
    | some (.integer n) => .real (floatOfInt n)
    | some v => v
    | none => .text s
  | .real, v => v
  | _, .text s =>
    match numberOf? s with
    | some (.real x) => Value.ofRealTryInt x
    | some v => v
    | none => .text s
  | _, .real x => Value.ofRealTryInt x
  | _, v => v

/-! ## Order -/

/-- How two texts are ordered: by code points, by code points with ASCII letters folded to
one case, or by code points with trailing spaces ignored. -/
inductive Collation where
  | binary
  | nocase
  | rtrim
  deriving Repr, DecidableEq, Inhabited

/-- The collation of a name, ignoring the case of ASCII letters. -/
def Collation.ofName? (name : String) : Option Collation :=
  match String.ofList (name.toList.map Char.toUpper) with
  | "BINARY" => some .binary
  | "NOCASE" => some .nocase
  | "RTRIM" => some .rtrim
  | _ => none

/-- Order two texts under a collation. -/
def Collation.compare : Collation → String → String → Ordering
  | .binary, a, b => Ord.compare a b
  | .nocase, a, b =>
    Ord.compare (String.ofList (a.toList.map Char.toLower)) (String.ofList (b.toList.map Char.toLower))
  | .rtrim, a, b =>
    let cut (s : String) := String.ofList (s.toList.reverse.dropWhile (· = ' ')).reverse
    Ord.compare (cut a) (cut b)

/-- Order two byte strings bytewise, a prefix first. -/
def compareBytes : List UInt8 → List UInt8 → Ordering
  | [], [] => .eq
  | [], _ :: _ => .lt
  | _ :: _, [] => .gt
  | a :: as, b :: bs => match Ord.compare a.toNat b.toNat with
    | .eq => compareBytes as bs
    | o => o

namespace Value

/-- The place of a value's kind in the order of kinds. -/
def rank : Value → Nat
  | .null => 0
  | .integer _ => 1
  | .real _ => 1
  | .text _ => 2
  | .blob _ => 3

/-- Order two values, as described in the module header. -/
def compareWith (coll : Collation) : Value → Value → Ordering
  | .integer a, .integer b => Ord.compare a b
  | .integer a, .real y => compareIntReal a y
  | .real x, .integer b => (compareIntReal b x).swap
  | .real x, .real y => if x < y then .lt else if x == y then .eq else .gt
  | .text a, .text b => coll.compare a b
  | .blob a, .blob b => compareBytes a b
  | a, b => Ord.compare a.rank b.rank

/-- Whether two values are the same under a collation (`null` is the same as `null`). -/
def same (coll : Collation) (a b : Value) : Bool :=
  compareWith coll a b == .eq

end Value

end Catalog.Sql
