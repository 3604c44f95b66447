import Catalog.Json.Value
import Catalog.Decimal.Binary
import Catalog.Json.Write

/-!
# Reading JSON text

A reader for JSON text. Numbers are read in two roundings, which does not always give the
nearest double:

* an integer without fraction or exponent stays an integer when it fits: a non-negative one
  up to `2^64 - 1`, a negative one down to `-2^63`; `-0` and integers beyond these bounds
  become doubles;
* otherwise the decimal digits are gathered into a 64-bit significand `s`: an integer digit
  that no longer fits, and every integer digit after it, raises the decimal exponent `k`;
  a fraction digit that still fits is appended and lowers `k`, and the fraction digits from
  the first one that does not fit on are ignored. The value is the double
  `s` times (or divided by) the double nearest to `10^|k|`, each step rounded to the nearest
  double; an exponent below `-308` divides by `10^308` first, repeatedly. A result beyond
  the largest double is an error.
-/

namespace Catalog.Json

open Catalog.Decimal

/-- Characters that JSON allows between tokens. -/
def isSpace (c : Char) : Bool :=
  c = ' ' || c = '\t' || c = '\n' || c = '\r'

/-- The value of a hexadecimal digit. -/
def hexValue (c : Char) : Option Nat :=
  if c.isDigit then some (c.toNat - '0'.toNat)
  else if 'a' ≤ c && c ≤ 'f' then some (c.toNat - 'a'.toNat + 10)
  else if 'A' ≤ c && c ≤ 'F' then some (c.toNat - 'A'.toNat + 10)
  else none

/-- Four hexadecimal digits as a number. -/
def hex4 (a b c d : Char) : Option Nat := do
  let a ← hexValue a
  let b ← hexValue b
  let c ← hexValue c
  let d ← hexValue d
  pure (((a * 16 + b) * 16 + c) * 16 + d)

/-- The double nearest to a non-negative rational value `num / den`. -/
def roundRat (num den : Nat) : Float :=
  nearestFloat false num den

/-- The exact value of a non-negative finite double, as `(num, den)`. -/
def ratOfFloat (f : Float) : Nat × Nat :=
  let b := Binary.ofFloat f
  ratOfPow2 b.mantissa b.exponent

/-- The double nearest to the product of two non-negative doubles. -/
def mulRound (a b : Float) : Float :=
  let (n1, d1) := ratOfFloat a
  let (n2, d2) := ratOfFloat b
  roundRat (n1 * n2) (d1 * d2)

/-- The double nearest to the quotient of two non-negative doubles (`b` positive). -/
def divRound (a b : Float) : Float :=
  let (n1, d1) := ratOfFloat a
  let (n2, d2) := ratOfFloat b
  roundRat (n1 * d2) (d1 * n2)

/-- The double nearest to `10^k`. -/
def pow10Float (k : Nat) : Float :=
  roundRat (Nat.pow 10 k) 1

/-- Whether a double is zero. -/
def isZeroFloat (f : Float) : Bool :=
  f.toBits.toNat % Nat.pow 2 63 == 0

/-- Whether a double is infinite. -/
def isInfiniteFloat (f : Float) : Bool :=
  f.toBits.toNat % Nat.pow 2 63 == 0x7FF0000000000000

/-- The double for significand `s` and decimal exponent `k`; `none` when it overflows. Each
division by `10^308` brings a small value nearer to zero, and after four of them every
double is zero, so four rounds settle every input. -/
def scaleByTen (s : Nat) (k : Int) : Option Float :=
  go 4 (roundRat s 1) k
where
  /-- Apply the power of ten, dividing by `10^308` first while the exponent is below
  `-308`. -/
  go : Nat → Float → Int → Option Float
    | fuel, f, k =>
      if k.natAbs ≤ 308 then
        if k ≥ 0 then
          let r := mulRound f (pow10Float k.toNat)
          if isInfiniteFloat r then none else some r
        else some (divRound f (pow10Float k.natAbs))
      else if isZeroFloat f then some f
      else if k ≥ 0 then none
      else
        match fuel with
        | 0 => some (roundRat 0 1)
        | fuel + 1 => go fuel (divRound f (pow10Float 308)) (k + 308)

/-- Negate a double by its sign bit. -/
def negateFloat (f : Float) : Float :=
  Float.ofBits (UInt64.ofNat ((f.toBits.toNat + Nat.pow 2 63) % Nat.pow 2 64))

/-- The greatest 64-bit unsigned value. -/
def u64Max : Nat := Nat.pow 2 64 - 1

/-- Whether `s * 10 + d` would exceed the greatest 64-bit unsigned value. -/
def overflows (s d : Nat) : Bool :=
  s * 10 + d > u64Max

/-- Digits gathered into a 64-bit significand: the significand, the number of digits that no
longer fit, the number of digits read, and the rest of the text. -/
def gatherDigits : Nat → Nat → Nat → List Char → Nat × Nat × Nat × List Char
  | s, dropped, n, c :: rest =>
    if c.isDigit then
      let d := c.toNat - '0'.toNat
      if dropped > 0 || overflows s d then gatherDigits s (dropped + 1) (n + 1) rest
      else gatherDigits (s * 10 + d) dropped (n + 1) rest
    else (s, dropped, n, c :: rest)
  | s, dropped, n, [] => (s, dropped, n, [])

/-- A failure to read JSON text: the message, and the number of bytes of the text that
follow the point the failure is reported at. -/
structure ReadError where
  message : String
  after : Nat
  deriving Inhabited

/-- The UTF-8 length of some characters. -/
def byteLength (cs : List Char) : Nat :=
  cs.foldl (fun n c => n + c.utf8Size) 0

/-- A failure reported at the first byte of `cs`: that byte counts as read. At the end of
the text there is no such byte, and the failure stands at the end. -/
def failAt (message : String) (cs : List Char) : ReadError :=
  ⟨message, byteLength cs - 1⟩

/-- A failure reported just before `cs`, after all that precedes it was read. -/
def failBefore (message : String) (cs : List Char) : ReadError :=
  ⟨message, byteLength cs⟩

/-- The line (from one) and the column (bytes since the start of that line) of the byte
offset `i` of a text. -/
def lineColumn (cs : List Char) (i : Nat) : Nat × Nat :=
  let step (acc : Nat × Nat × Nat) (c : Char) : Nat × Nat × Nat :=
    let (offset, line, lineStart) := acc
    if offset < i && c = '\n' then (offset + 1, line + 1, offset + 1)
    else (offset + c.utf8Size, line, lineStart)
  let (_, line, lineStart) := cs.foldl step (0, 1, 0)
  (line, i - lineStart)

/-- The message of a failure to read the text `cs`, with its line and column. -/
def ReadError.describe (e : ReadError) (cs : List Char) : String :=
  let (line, column) := lineColumn cs (byteLength cs - e.after)
  e.message ++ " at line " ++ toString line ++ " column " ++ toString column

/-- Leading digits as a natural number, read while the value stays below `2^31`: the value,
the number of digits read and the rest, or the rest after the digit that would reach
`2^31`. -/
def readExponent : Nat → List Char → Sum (Nat × List Char) (Nat × List Char)
  | x, c :: rest =>
    if c.isDigit then
      let y := x * 10 + (c.toNat - '0'.toNat)
      if y > 2147483647 then .inr (x, rest) else readExponent y rest
    else .inl (x, c :: rest)
  | x, [] => .inl (x, [])

/-- The sign of a double that is zero, positive or negative. -/
def signedZero (negative : Bool) : Float :=
  if negative then negateFloat (roundRat 0 1) else roundRat 0 1

/-- Read a number whose sign has been read already. -/
def readNumber (negative : Bool) (cs : List Char) : Except ReadError (Json × List Char) := do
  -- the integer part: one zero, or digits not starting with zero
  let (s, dropped, rest) ← match cs with
    | '0' :: rest =>
      match rest with
      | c :: _ => if c.isDigit then throw (failAt "invalid number" rest) else pure (0, 0, rest)
      | [] => pure (0, 0, rest)
    | c :: more =>
      if c.isDigit then
        let (s, dropped, _, rest) := gatherDigits 0 0 0 cs
        pure (s, dropped, rest)
      else throw (failAt "invalid number" (c :: more))
    | [] => throw (failAt "EOF while parsing a value" [])
  -- the fraction: digits that still fit extend the significand and lower the exponent
  let (s, k, fractional, rest) ← match rest with
    | '.' :: more =>
      let (s', dropped', count, more') := gatherDigits s 0 0 more
      if count = 0 then
        match more with
        | [] => throw (failAt "EOF while parsing a value" [])
        | _ => throw (failAt "invalid number" more)
      else pure (s', (dropped : Int) - ((count - dropped' : Nat) : Int), true, more')
    | _ => pure (s, (dropped : Int), dropped > 0, rest)
  -- the exponent, whose digits beyond `2^31` end in zero or in an error
  let exponentPart : Except ReadError (Option (Int × List Char) ⊕ Float × List Char) :=
    match rest with
    | e :: more =>
      if e = 'e' || e = 'E' then
        let (expNegative, more) := match more with
          | '+' :: m => (false, m)
          | '-' :: m => (true, m)
          | m => (false, m)
        match more with
        | [] => throw (failAt "EOF while parsing a value" [])
        | d :: _ =>
          if !d.isDigit then throw (failAt "invalid number" more)
          else
            match readExponent 0 more with
            | .inl (x, more) => pure (.inl (some (if expNegative then k - x else k + x, more)))
            | .inr (_, more) =>
              if s ≠ 0 && !expNegative then throw (failBefore "number out of range" more)
              else pure (.inr (signedZero negative, more.dropWhile Char.isDigit))
      else pure (.inl none)
    | [] => pure (.inl none)
  match ← exponentPart with
  | .inr (f, more) => pure (.float f, more)
  | .inl (some (k, more)) =>
    match scaleByTen s k with
    | some f => pure (.float (if negative then negateFloat f else f), more)
    | none => throw (failBefore "number out of range" more)
  | .inl none =>
    if !fractional then
      if negative then
        if 1 ≤ s && s ≤ Nat.pow 2 63 then pure (.int (-(s : Int)), rest)
        else pure (.float (negateFloat (roundRat s 1)), rest)
      else pure (.int s, rest)
    else
      match scaleByTen s k with
      | some f => pure (.float (if negative then negateFloat f else f), rest)
      | none => throw (failBefore "number out of range" rest)

/-- Four hexadecimal digits at the front of `cs`: their value and the rest. Fewer than four
bytes left is the end of the text; a character that is not a hexadecimal digit is an invalid
escape. -/
def readHex4 (cs : List Char) : Except ReadError (Nat × List Char) :=
  if byteLength cs < 4 then throw (failAt "EOF while parsing a string" [])
  else
    let digits := cs.take 4
    match digits.find? (fun c => (hexValue c).isNone) with
    | some _ =>
      let bad := cs.dropWhile (fun c => (hexValue c).isSome)
      throw (failAt "invalid escape" bad)
    | none =>
      match digits with
      | [a, b, c, d] =>
        match hex4 a b c d with
        | some n => pure (n, cs.drop 4)
        | none => throw (failAt "invalid escape" cs)
      | _ => throw (failAt "EOF while parsing a string" [])

/-- Read the character of a `\u` escape whose four digits start `cs`: a lone trailing
surrogate, or a leading one not followed by `\u` and a trailing one, is refused. -/
def readUnicodeEscape (cs : List Char) : Except ReadError (Char × List Char) := do
  let (n, rest) ← readHex4 cs
  if 0xDC00 ≤ n && n < 0xE000 then throw (failBefore "lone leading surrogate in hex escape" rest)
  else if n < 0xD800 || 0xDC00 ≤ n then pure (Char.ofNat n, rest)
  else
    match rest with
    | [] => throw (failAt "EOF while parsing a string" [])
    | '\\' :: more =>
      match more with
      | [] => throw (failAt "EOF while parsing a string" [])
      | 'u' :: digits => do
        let (m, rest) ← readHex4 digits
        if 0xDC00 ≤ m && m < 0xE000 then
          pure (Char.ofNat (0x10000 + (n - 0xD800) * 0x400 + (m - 0xDC00)), rest)
        else throw (failBefore "lone leading surrogate in hex escape" rest)
      | _ => throw (failAt "unexpected end of hex escape" more)
    | _ => throw (failAt "unexpected end of hex escape" rest)

/-- Read the rest of a string after its opening quote. -/
def readString (acc : List Char) : List Char → Except ReadError (String × List Char)
  | [] => throw (failAt "EOF while parsing a string" [])
  | '"' :: rest => pure (String.ofList acc.reverse, rest)
  | '\\' :: rest =>
    match rest with
    | [] => throw (failAt "EOF while parsing a string" [])
    | c :: more =>
      let simple : Option Char :=
        if c = '"' then some '"' else if c = '\\' then some '\\' else if c = '/' then some '/'
        else if c = 'b' then some '\x08' else if c = 'f' then some '\x0c'
        else if c = 'n' then some '\n' else if c = 'r' then some '\r'
        else if c = 't' then some '\t' else none
      match simple with
      | some d => readString (d :: acc) more
      | none =>
        if c = 'u' then
          match readUnicodeEscape more with
          | .ok (d, after) =>
            if after.length < more.length then readString (d :: acc) after
            else throw (failAt "invalid escape" more)
          | .error e => throw e
        else throw (failAt "invalid escape" rest)
  | c :: rest =>
    if c.toNat < 0x20 then
      throw (failAt "control character (\\u0000-\\u001F) found while parsing a string" (c :: rest))
    else readString (c :: acc) rest
termination_by cs => cs.length

/-- Read the letters of a word such as `null` after its first letter. -/
def readWord : List Char → List Char → Except ReadError (List Char)
  | [], cs => pure cs
  | _ :: _, [] => throw (failAt "EOF while parsing a value" [])
  | w :: ws, c :: cs => if c = w then readWord ws cs else throw (failAt "expected ident" (c :: cs))

/-- The text after the blanks JSON allows between tokens. -/
def skipSpace (cs : List Char) : List Char :=
  cs.dropWhile isSpace

mutual

/-- Read one value; `depth` is how many more arrays and objects may open, and `fuel` bounds
the number of steps. -/
def readValue : Nat → Nat → List Char → Except ReadError (Json × List Char)
  | 0, _, _ => throw (failAt "recursion limit exceeded" [])
  | fuel + 1, depth, cs =>
    let cs := skipSpace cs
    match cs with
    | 'n' :: rest => do pure (.null, ← readWord ['u', 'l', 'l'] rest)
    | 't' :: rest => do pure (.bool true, ← readWord ['r', 'u', 'e'] rest)
    | 'f' :: rest => do pure (.bool false, ← readWord ['a', 'l', 's', 'e'] rest)
    | '"' :: rest => do
      let (s, rest) ← readString [] rest
      pure (.str s, rest)
    | '[' :: rest =>
      if depth ≤ 1 then throw (failAt "recursion limit exceeded" cs)
      else
        match skipSpace rest with
        | ']' :: more => pure (.arr [], more)
        | [] => throw (failAt "EOF while parsing a list" [])
        | _ => readItems fuel (depth - 1) [] rest
    | '{' :: rest =>
      if depth ≤ 1 then throw (failAt "recursion limit exceeded" cs)
      else
        match skipSpace rest with
        | '}' :: more => pure (.obj [], more)
        | [] => throw (failAt "EOF while parsing an object" [])
        | '"' :: _ => readMembers fuel (depth - 1) [] rest
        | more => throw (failAt "key must be a string" more)
    | '-' :: rest => readNumber true rest
    | c :: rest =>
      if c.isDigit then readNumber false (c :: rest) else throw (failAt "expected value" cs)
    | [] => throw (failAt "EOF while parsing a value" [])

/-- Read the items of an array from its first item on. -/
def readItems : Nat → Nat → List Json → List Char → Except ReadError (Json × List Char)
  | 0, _, _, _ => throw (failAt "recursion limit exceeded" [])
  | fuel + 1, depth, acc, cs => do
    let (v, rest) ← readValue fuel depth cs
    match skipSpace rest with
    | ',' :: more =>
      match skipSpace more with
      | ']' :: _ => throw (failAt "trailing comma" (skipSpace more))
      | [] => throw (failAt "EOF while parsing a value" [])
      | _ => readItems fuel depth (v :: acc) more
    | ']' :: more => pure (.arr (v :: acc).reverse, more)
    | [] => throw (failAt "EOF while parsing a list" [])
    | other => throw (failAt "expected `,` or `]`" other)

/-- Read the members of an object from its first key on. -/
def readMembers : Nat → Nat → List (String × Json) → List Char →
    Except ReadError (Json × List Char)
  | 0, _, _, _ => throw (failAt "recursion limit exceeded" [])
  | fuel + 1, depth, acc, cs =>
    match skipSpace cs with
    | '"' :: rest => do
      let (k, rest) ← readString [] rest
      match skipSpace rest with
      | ':' :: more => do
        let (v, rest) ← readValue fuel depth more
        match skipSpace rest with
        | ',' :: more =>
          match skipSpace more with
          | '"' :: _ => readMembers fuel depth ((k, v) :: acc) more
          | '}' :: _ => throw (failAt "trailing comma" (skipSpace more))
          | [] => throw (failAt "EOF while parsing a value" [])
          | other => throw (failAt "key must be a string" other)
        | '}' :: more => pure (Json.object ((k, v) :: acc).reverse, more)
        | [] => throw (failAt "EOF while parsing an object" [])
        | other => throw (failAt "expected `,` or `\x7d`" other)
      | [] => throw (failAt "EOF while parsing an object" [])
      | other => throw (failAt "expected `:`" other)
    | [] => throw (failAt "EOF while parsing an object" [])
    | other => throw (failAt "key must be a string" other)

end

/-- The nesting depth at which reading gives up: an array or object may hold others down to
127 levels in all. -/
def depthLimit : Nat := 128

/-- Read a whole text as one JSON value; a failure names its line and column. -/
def parse (s : String) : Except String Json :=
  let cs := s.toList
  let read : Except ReadError Json := do
    let (v, rest) ← readValue (2 * cs.length + 2) depthLimit cs
    match skipSpace rest with
    | [] => pure v
    | more => throw (failAt "trailing characters" more)
  match read with
  | .ok v => .ok v
  | .error e => .error (e.describe cs)

/-- A value as storage gives it back: written as its compact text and read from it again.
Integers, strings, and the shape of arrays and objects come back unchanged; a double comes
back as the reading of its shortest text, which the two roundings of the reader may move to
a neighbouring double. -/
def reread (j : Json) : Json :=
  match parse (render j) with
  | .ok v => v
  | .error _ => j

end Catalog.Json
