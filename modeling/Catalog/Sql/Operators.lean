import Catalog.Sql.Value
import Catalog.Sql.Syntax
import Catalog.Data.Word
import Catalog.Error

/-!
# Operators and functions on values

* **Arithmetic** works on the numbers of its operands: a text gives the number at its start
  (an integer when written without point or exponent, `0` when no number starts it), and
  `null` makes the result `null`. Two integers give an integer unless the result leaves the
  64-bit range; then, and whenever a double takes part, the result is a double. Integer
  division cuts toward zero; dividing by zero gives `null`. The remainder takes the integer
  parts of its operands.
* **Bitwise operators** work on 64-bit two's complement integers; a shift by a negative
  amount shifts the other way, and a shift by 64 or more leaves `0` (or `-1` for a negative
  number shifted right).
* **Comparisons** give `1`, `0` or, when an operand is `null`, `null`; `IS` and `IS NOT`
  compare `null` like any value. Before comparing, an affinity may convert the operands:
  numeric affinity reads numbers out of texts, text affinity writes numbers as text.
* **Patterns.** `LIKE` matches `%` to any text and `_` to one character, ASCII letters in
  either case; `GLOB` matches `*`, `?` and character classes `[…]`, case and all.
* **Casts** convert by the affinity of the type named: to text, to an integer (the number a
  text starts with, a double cut toward zero), to a double, to a number, or to bytes.
-/

namespace Catalog.Sql

open Catalog Catalog.Decimal

/-- The number a text starts with for arithmetic, `0` when none does. -/
def arithOfText (s : String) : Value :=
  match Numeral.scan (s.toList.dropWhile isNumberBlank) with
  | none => .integer 0
  | some (n, _) =>
    if n.integral then (if fitsInt n.integer then .integer n.integer else .real n.toFloat)
    else .real n.toFloat

namespace Value

/-- The number of a value in arithmetic. -/
def arith : Value → Value
  | .text s => arithOfText s
  | .blob b => arithOfText (bytesText b)
  | v => v

/-- A value as 64 bits, read as an unsigned number. -/
def bits (v : Value) : Nat :=
  (v.asInteger % (Word.modulus : Int)).toNat

end Value

/-- A double, or `null` when it is not a number. -/
def realResult (x : Float) : Value :=
  if x != x then .null else .real x

/-- The result of an arithmetic operator on two values. -/
def arithmetic (op : BinaryOp) (a b : Value) : Value :=
  if a.isNull || b.isNull then .null else
  match a.arith, b.arith with
  | .integer x, .integer y =>
    let viaReal (r : Float) : Value := realResult r
    match op with
    | .add => if fitsInt (x + y) then .integer (x + y) else viaReal (floatOfInt x + floatOfInt y)
    | .sub => if fitsInt (x - y) then .integer (x - y) else viaReal (floatOfInt x - floatOfInt y)
    | .mul => if fitsInt (x * y) then .integer (x * y) else viaReal (floatOfInt x * floatOfInt y)
    | .div =>
      if y = 0 then .null
      else if fitsInt (Int.tdiv x y) then .integer (Int.tdiv x y)
      else viaReal (floatOfInt x / floatOfInt y)
    | .rem => if y = 0 then .null else .integer (Int.tmod x (if y = -1 then 1 else y))
    | _ => .null
  | x, y =>
    let rx := x.asReal
    let ry := y.asReal
    match op with
    | .add => realResult (rx + ry)
    | .sub => realResult (rx - ry)
    | .mul => realResult (rx * ry)
    | .div => if ry == 0.0 then .null else realResult (rx / ry)
    | .rem =>
      let ix := a.asInteger
      let iy := b.asInteger
      if iy = 0 then .null else .real (floatOfInt (Int.tmod ix (if iy = -1 then 1 else iy)))
    | _ => .null

/-- The result of a bitwise operator on two values. -/
def bitwise (op : BinaryOp) (a b : Value) : Value :=
  if a.isNull || b.isNull then .null else
  let x := a.asInteger
  let y := b.asInteger
  let shift (left : Bool) (n : Nat) : Int :=
    if n ≥ 64 then (if x ≥ 0 || left then 0 else -1)
    else if left then Word.signed (x * (Nat.pow 2 n : Nat))
    else Int.fdiv x (Nat.pow 2 n : Nat)
  match op with
  | .bitAnd => .integer (Word.signed ((a.bits &&& b.bits : Nat) : Int))
  | .bitOr => .integer (Word.signed ((a.bits ||| b.bits : Nat) : Int))
  | .shiftLeft => .integer (if y ≥ 0 then shift true y.toNat else shift false (-y).toNat)
  | .shiftRight => .integer (if y ≥ 0 then shift false y.toNat else shift true (-y).toNat)
  | _ => .null

/-- A truth value as an integer, `null` for unknown. -/
def ofTruth : Option Bool → Value
  | some true => .integer 1
  | some false => .integer 0
  | none => .null

/-- The negation of a truth value. -/
def notValue (v : Value) : Value :=
  ofTruth (v.truth?.map (!·))

/-- Three-valued `AND`. -/
def andValue (a b : Value) : Value :=
  match a.truth?, b.truth? with
  | some false, _ => .integer 0
  | _, some false => .integer 0
  | some true, some true => .integer 1
  | _, _ => .null

/-- Three-valued `OR`. -/
def orValue (a b : Value) : Value :=
  match a.truth?, b.truth? with
  | some true, _ => .integer 1
  | _, some true => .integer 1
  | some false, some false => .integer 0
  | _, _ => .null

/-- Two operands of a comparison, converted by the comparison's affinity: numeric affinity
reads numbers out of texts, text affinity writes numbers as text. -/
def compareOperands (aff : Option Affinity) (a b : Value) : Value × Value :=
  let toNumber (v : Value) : Value := match v with
    | .text s => (numberOf? s).getD v
    | _ => v
  let toText (v : Value) : Value := match v with
    | .integer _ | .real _ => .text v.asText
    | _ => v
  match aff with
  | some af =>
    if af.isNumeric then (toNumber a, toNumber b)
    else if af = .text then (toText a, toText b)
    else (a, b)
  | none => (a, b)

/-- The result of a comparison operator, after the affinity has converted the operands. -/
def comparison (op : BinaryOp) (coll : Collation) (a b : Value) : Value :=
  match op with
  | .is => ofTruth (some (a.same coll b))
  | .isNot => ofTruth (some (!a.same coll b))
  | _ =>
    if a.isNull || b.isNull then .null else
    let o := Value.compareWith coll a b
    match op with
    | .lt => ofTruth (some (o == .lt))
    | .le => ofTruth (some (o != .gt))
    | .gt => ofTruth (some (o == .gt))
    | .ge => ofTruth (some (o != .lt))
    | .eq => ofTruth (some (o == .eq))
    | .ne => ofTruth (some (o != .eq))
    | _ => .null

/-- The concatenation of the texts of two values; `null` when either is. -/
def concatValues (a b : Value) : Value :=
  match a.asText?, b.asText? with
  | some x, some y => .text (x ++ y)
  | _, _ => .null

/-! ## Patterns -/

/-- Whether a text matches a `LIKE` pattern, ASCII letters in either case; `esc` makes the
character after it literal. -/
def likeMatch (esc : Option Char) : List Char → List Char → Bool
  | [], s => s.isEmpty
  | p :: ps, s =>
    if some p = esc then
      match ps, s with
      | q :: qs, c :: cs => q.toLower = c.toLower && likeMatch esc qs cs
      | _, _ => false
    else if p = '%' then
      (List.range (s.length + 1)).any fun k => likeMatch esc ps (s.drop k)
    else if p = '_' then
      match s with
      | _ :: cs => likeMatch esc ps cs
      | [] => false
    else
      match s with
      | c :: cs => p.toLower = c.toLower && likeMatch esc ps cs
      | [] => false

/-- The members of a `GLOB` character class up to its closing `]`: ranges and single
characters, with the rest of the pattern after the class. -/
def globClass : List Char → Option (List (Char × Char) × List Char)
  | [] => none
  | ']' :: rest => some ([], rest)
  | a :: '-' :: b :: rest =>
    if b = ']' then (globClass (']' :: rest)).map fun (cs, r) => ((a, a) :: ('-', '-') :: cs, r)
    else (globClass rest).map fun (cs, r) => ((a, b) :: cs, r)
  | a :: rest => (globClass rest).map fun (cs, r) => ((a, a) :: cs, r)

/-- Whether a text matches a `GLOB` pattern; `fuel` bounds the pattern characters read. -/
def globFrom : Nat → List Char → List Char → Bool
  | 0, _, _ => false
  | _ + 1, [], s => s.isEmpty
  | fuel + 1, '*' :: ps, s => (List.range (s.length + 1)).any fun k => globFrom fuel ps (s.drop k)
  | fuel + 1, '?' :: ps, s =>
    match s with
    | _ :: cs => globFrom fuel ps cs
    | [] => false
  | fuel + 1, '[' :: ps, s =>
    let (negated, body) := match ps with
      | '^' :: r => (true, r)
      | r => (false, r)
    let (first, body) := match body with
      | ']' :: r => ([(']', ']')], r)
      | r => ([], r)
    match globClass body, s with
    | some (members, rest), c :: cs =>
      let hit := (first ++ members).any fun (lo, hi) => lo ≤ c && c ≤ hi
      hit != negated && globFrom fuel rest cs
    | _, _ => false
  | fuel + 1, p :: ps, s =>
    match s with
    | c :: cs => p = c && globFrom fuel ps cs
    | [] => false

/-- Whether a text matches a `GLOB` pattern. -/
def globMatch (pattern s : List Char) : Bool :=
  globFrom (pattern.length + 1) pattern s

/-! ## Casts -/

/-- A value cast to the affinity of a type name. -/
def castValue (type : String) (v : Value) : Value :=
  match v with
  | .null => .null
  | _ =>
    match Affinity.ofType type with
    | .text => .text v.asText
    | .integer => .integer v.asInteger
    | .real => .real v.asReal
    | .numeric =>
      match v with
      | .integer n => .integer n
      | .real x => Value.ofRealTryInt x
      | _ => v.numeric
    | .blob =>
      match v with
      | .blob b => .blob b
      | _ => .blob v.asText.toUTF8.toList

/-! ## Functions of single rows -/

/-- The refusal of a call with the wrong number of arguments. -/
def wrongArguments {α : Type} (name : String) : Except StoreFault α :=
  throw (.refused ("wrong number of arguments to function " ++ name ++ "()"))

/-- The characters of a value's text, or the bytes of a byte string as characters. -/
def Value.chars (v : Value) : List Char :=
  v.asText.toList

/-- The part of a text that `substr` takes: from position `start` (counting from one, or
from the end when negative), `count` characters (backward when negative). -/
def substrRange (len : Int) (start : Int) (count : Option Int) : Nat × Nat :=
  let (p2, negP2) := match count with
    | some c => if c < 0 then (-c, true) else (c, false)
    | none => (len + 1, false)
  let (p1, p2) :=
    if start < 0 then
      let p1 := start + len
      if p1 < 0 then (0, max 0 (p2 + p1)) else (p1, p2)
    else if start > 0 then (start - 1, p2)
    else (0, if p2 > 0 then p2 - 1 else p2)
  let (p1, p2) :=
    if negP2 then
      let q := p1 - p2
      if q < 0 then (0, p2 + q) else (q, p2)
    else (p1, p2)
  (p1.toNat, (max 0 p2).toNat)

/-- Remove the characters of a set from one or both ends of a text. -/
def trimChars (set : List Char) (left right : Bool) (s : List Char) : List Char :=
  let s := if left then s.dropWhile (set.contains ·) else s
  if right then (s.reverse.dropWhile (set.contains ·)).reverse else s

/-- Replace every occurrence of a non-empty text in another. -/
def replaceAll (pat rep : List Char) : Nat → List Char → List Char
  | 0, s => s
  | fuel + 1, s =>
    match s with
    | [] => []
    | c :: cs =>
      if pat.isPrefixOf s then rep ++ replaceAll pat rep fuel (s.drop pat.length)
      else c :: replaceAll pat rep fuel cs

/-- The position of the first occurrence of a text in another, counting from one; `0` when
there is none. -/
def findPosition (needle : List Char) : Nat → List Char → Nat
  | _, [] => if needle.isEmpty then 1 else 0
  | i, c :: cs => if needle.isPrefixOf (c :: cs) then i + 1 else findPosition needle (i + 1) cs

/-- The hexadecimal digits of a byte, upper case. -/
def hexByte (b : UInt8) : String :=
  let d (n : Nat) : Char := if n < 10 then Char.ofNat (48 + n) else Char.ofNat (55 + n)
  String.ofList [d (b.toNat / 16), d (b.toNat % 16)]

/-- The bytes of a value: a byte string's own, or the UTF-8 bytes of its text. -/
def Value.bytes : Value → List UInt8
  | .blob b => b
  | v => v.asText.toUTF8.toList

/-- A value written as a literal of the statement language. -/
def quoteValue : Value → String
  | .null => "NULL"
  | .integer n => toString n
  | .real x => realText x
  | .text s => "'" ++ String.ofList (s.toList.flatMap fun c => if c = '\'' then ['\'', '\''] else [c]) ++ "'"
  | .blob b => "X'" ++ String.join (b.map hexByte) ++ "'"

/-- A double rounded to `digits` places after the point, halves away from zero. -/
def roundReal (x : Float) (digits : Nat) : Float :=
  if isSpecial x then x else
  let (num, den) := exactRatio x
  let scale : Nat := Nat.pow 10 digits
  let a := num.natAbs * scale
  let q := a / den
  let q := if 2 * (a % den) ≥ den then q + 1 else q
  nearestFloat (decide (num < 0)) q scale

/-- The digit `soundex` gives a byte, read as the ASCII character of its low seven bits:
`0` for a vowel, `h`, `w`, `y` and anything but a letter. -/
def soundexCode (b : Nat) : Nat :=
  let c := b % 128
  if c < 64 then 0 else
  match Char.ofNat (if c ≥ 96 then c - 32 else c) with
  | 'B' | 'F' | 'P' | 'V' => 1
  | 'C' | 'G' | 'J' | 'K' | 'Q' | 'S' | 'X' | 'Z' => 2
  | 'D' | 'T' => 3
  | 'L' => 4
  | 'M' | 'N' => 5
  | 'R' => 6
  | _ => 0

/-- The soundex code of the UTF-8 bytes of a text: the first ASCII letter upper-cased, then
the digits of the bytes after it, a digit repeated without a break written once, cut or
padded with `0` to four characters; `?000` when there is no ASCII letter. -/
def soundex (bytes : List Nat) : String :=
  let isLetter (b : Nat) : Bool := (65 ≤ b && b ≤ 90) || (97 ≤ b && b ≤ 122)
  match bytes.dropWhile (!isLetter ·) with
  | [] => "?000"
  | first :: rest =>
    let upper := if 97 ≤ first then first - 32 else first
    let (digits, _) := rest.foldl (fun (acc : List Nat × Nat) b =>
      let (ds, prev) := acc
      let code := soundexCode b
      if ds.length ≥ 3 then acc
      else if code == 0 then (ds, 0)
      else if code == prev then acc
      else (ds ++ [code], code)) ([], soundexCode first)
    String.ofList (Char.ofNat upper :: (digits ++ List.replicate (3 - digits.length) 0).map
      fun d => Char.ofNat (48 + d))

/-- Whether a byte is an ASCII hexadecimal digit, with its value. -/
def hexDigit? (b : Nat) : Option Nat :=
  if 48 ≤ b && b ≤ 57 then some (b - 48)
  else if 65 ≤ b && b ≤ 70 then some (b - 55)
  else if 97 ≤ b && b ≤ 102 then some (b - 87)
  else none

/-- The bytes that pairs of hexadecimal digits spell, with characters of `pass` allowed
between the pairs; `none` for an odd digit or any other character. -/
def unhexChars (pass : List Char) : List Char → Option (List UInt8)
  | [] => some []
  | [c] => if (hexDigit? c.toNat).isSome then none else if pass.contains c then some [] else none
  | c :: d :: rest =>
    match hexDigit? c.toNat with
    | some hi =>
      match hexDigit? d.toNat with
      | some lo => (unhexChars pass rest).map (UInt8.ofNat (hi * 16 + lo) :: ·)
      | none => none
    | none => if pass.contains c then unhexChars pass (d :: rest) else none

/-- The names of the functions of single rows, with the numbers of arguments they take
(`none` for any number of at least the first). -/
def scalarArity : String → Option (Nat × Option Nat)
  | "abs" => some (1, some 1)
  | "length" => some (1, some 1)
  | "octet_length" => some (1, some 1)
  | "lower" => some (1, some 1)
  | "upper" => some (1, some 1)
  | "typeof" => some (1, some 1)
  | "coalesce" => some (2, none)
  | "ifnull" => some (2, some 2)
  | "nullif" => some (2, some 2)
  | "iif" => some (3, some 3)
  | "substr" => some (2, some 3)
  | "substring" => some (2, some 3)
  | "trim" => some (1, some 2)
  | "ltrim" => some (1, some 2)
  | "rtrim" => some (1, some 2)
  | "replace" => some (3, some 3)
  | "instr" => some (2, some 2)
  | "hex" => some (1, some 1)
  | "quote" => some (1, some 1)
  | "round" => some (1, some 2)
  | "char" => some (0, none)
  | "unicode" => some (1, some 1)
  | "sign" => some (1, some 1)
  | "likely" => some (1, some 1)
  | "unlikely" => some (1, some 1)
  | "likelihood" => some (2, some 2)
  | "sqlite_version" => some (0, some 0)
  | "sqlite_source_id" => some (0, some 0)
  | "concat" => some (1, none)
  | "concat_ws" => some (2, none)
  | "soundex" => some (1, some 1)
  | "unhex" => some (1, some 2)
  | "zeroblob" => some (1, some 1)
  | "like" => some (2, some 3)
  | "glob" => some (2, some 2)
  | "max" => some (2, none)
  | "min" => some (2, none)
  | _ => none

/-- A function of single rows applied to its arguments. -/
def callScalar (name : String) (args : List Value) : Except StoreFault Value :=
  let arg (i : Nat) : Value := args.getD i .null
  let anyNull := args.any (·.isNull)
  match name with
  | "abs" =>
    match arg 0 with
    | .null => pure .null
    | .integer n =>
      if n = minInt then throw (.refused "integer overflow") else pure (.integer n.natAbs)
    | v => pure (.real (let x := v.asReal; if x < 0.0 then -x else x))
  | "length" =>
    match arg 0 with
    | .null => pure .null
    | .blob b => pure (.integer b.length)
    | v => pure (.integer v.chars.length)
  | "octet_length" =>
    match arg 0 with
    | .null => pure .null
    | v => pure (.integer v.bytes.length)
  | "lower" => pure (match arg 0 with | .null => .null | v => .text v.asText.toLower)
  | "upper" => pure (match arg 0 with | .null => .null | v => .text v.asText.toUpper)
  | "typeof" => pure (.text (arg 0).typeName)
  | "coalesce" => pure ((args.find? (!·.isNull)).getD .null)
  | "ifnull" => pure ((args.find? (!·.isNull)).getD .null)
  | "nullif" =>
    pure (if !(arg 0).isNull && !(arg 1).isNull && (arg 0).same .binary (arg 1) then .null
      else arg 0)
  | "iif" => pure (if (arg 0).truth? = some true then arg 1 else arg 2)
  | "substr" | "substring" =>
    if (arg 0).isNull || (arg 1).isNull || (args.length = 3 && (arg 2).isNull) then pure .null
    else
      let count := if args.length = 3 then some (arg 2).asInteger else none
      match arg 0 with
      | .blob b =>
        let (s, n) := substrRange b.length (arg 1).asInteger count
        pure (.blob ((b.drop s).take n))
      | v =>
        let cs := v.chars
        let (s, n) := substrRange cs.length (arg 1).asInteger count
        pure (.text (String.ofList ((cs.drop s).take n)))
  | "trim" | "ltrim" | "rtrim" =>
    if anyNull then pure .null else
    let set := if args.length = 2 then (arg 1).chars else [' ']
    let left := name != "rtrim"
    let right := name != "ltrim"
    pure (.text (String.ofList (trimChars set left right (arg 0).chars)))
  | "replace" =>
    if anyNull then pure .null else
    let pat := (arg 1).chars
    if pat.isEmpty then pure (.text (arg 0).asText) else
    let s := (arg 0).chars
    pure (.text (String.ofList (replaceAll pat (arg 2).chars (s.length + 1) s)))
  | "instr" =>
    if anyNull then pure .null else
    pure (.integer (findPosition (arg 1).chars 0 (arg 0).chars))
  | "hex" => pure (.text (String.join ((arg 0).bytes.map hexByte)))
  | "quote" => pure (.text (quoteValue (arg 0)))
  | "round" =>
    if anyNull then pure .null else
    let digits := if args.length = 2 then (arg 1).asInteger else 0
    let digits := if digits < 0 then 0 else if digits > 30 then 30 else digits.toNat
    pure (.real (roundReal (arg 0).asReal digits))
  | "char" =>
    pure (.text (String.ofList (args.map fun v =>
      let n := v.asInteger
      if n < 0 || n > 0x10FFFF then '�' else Char.ofNat n.toNat)))
  | "unicode" =>
    match arg 0 with
    | .null => pure .null
    | v => pure (match v.chars with | c :: _ => .integer c.toNat | [] => .null)
  | "sign" =>
    match (arg 0) with
    | .null => pure .null
    | .integer n => pure (.integer (if n > 0 then 1 else if n < 0 then -1 else 0))
    | .real x => pure (.integer (if x > 0.0 then 1 else if x < 0.0 then -1 else 0))
    | .text s =>
      match numberOf? s with
      | some v => let x := v.asReal; pure (.integer (if x > 0.0 then 1 else if x < 0.0 then -1 else 0))
      | none => pure .null
    | .blob _ => pure .null
  | "likely" | "unlikely" | "likelihood" => pure (arg 0)
  | "sqlite_version" => pure (.text "3.46.0")
  | "sqlite_source_id" =>
    pure (.text "2024-05-23 13:25:27 96c92aba00c8375bc32fafcdf12429c58bd8aabfcadab6683e35bbb9cdebf19e")
  | "soundex" =>
    pure (.text (soundex ((arg 0).asText.toUTF8.toList.map UInt8.toNat)))
  | "unhex" =>
    if anyNull then pure .null else
    let pass := if args.length = 2 then (arg 1).chars else []
    pure (((unhexChars pass (arg 0).chars).map Value.blob).getD .null)
  | "concat" => pure (.text (String.join (args.map Value.asText)))
  | "concat_ws" =>
    match arg 0 with
    | .null => pure .null
    | sep => pure (.text (sep.asText.intercalate ((args.drop 1).filterMap Value.asText?)))
  | "zeroblob" => pure (.blob (List.replicate (max 0 (arg 0).asInteger).toNat 0))
  | "like" =>
    if anyNull then pure .null else
    let esc := if args.length = 3 then (arg 2).chars.head? else none
    pure (ofTruth (some (likeMatch esc (arg 0).chars (arg 1).chars)))
  | "glob" =>
    if anyNull then pure .null else
    pure (ofTruth (some (globMatch (arg 0).chars (arg 1).chars)))
  | "max" =>
    if anyNull then pure .null else
    pure (args.foldl (fun m v => if Value.compareWith .binary v m == .gt then v else m) (arg 0))
  | "min" =>
    if anyNull then pure .null else
    pure (args.foldl (fun m v => if Value.compareWith .binary v m == .lt then v else m) (arg 0))
  | _ => throw (.refused ("no such function: " ++ name))

/-- The aggregate functions, with the numbers of arguments they take. -/
def aggregateArity : String → Option (Nat × Nat)
  | "count" => some (0, 1)
  | "sum" => some (1, 1)
  | "total" => some (1, 1)
  | "avg" => some (1, 1)
  | "min" => some (1, 1)
  | "max" => some (1, 1)
  | "group_concat" => some (1, 2)
  | "string_agg" => some (2, 2)
  | "json_group_array" => some (1, 1)
  | "json_group_object" => some (2, 2)
  | _ => none

/-- Whether a call of a function with this many arguments is an aggregate. -/
def isAggregateCall (name : String) (count : Nat) : Bool :=
  match aggregateArity name with
  | some (lo, hi) => lo ≤ count && count ≤ hi
  | none => false

/-- The number type a value has for an aggregate: a text that spells a number whole is that
number; anything else stays as it is. -/
def numericType (v : Value) : Value :=
  match v with
  | .text s => (numberOf? s).getD v
  | v => v

/-- A running sum as the aggregates keep it: an exact integer while every value is one and
the total stays in range, then a double with a compensation term (Kahan–Babuška–Neumaier),
whose integers beyond 2^52 are added in two parts. `overflow` records an integer total that
left the range, until a double is added. -/
structure RunningSum where
  count : Nat := 0
  approx : Bool := false
  total : Int := 0
  sum : Float := 0.0
  err : Float := 0.0
  overflow : Bool := false

namespace RunningSum

/-- Add a double to the compensated sum. -/
def addReal (r : RunningSum) (x : Float) : RunningSum :=
  let t := r.sum + x
  let err := if r.sum.abs > x.abs then r.err + ((r.sum - t) + x) else r.err + ((x - t) + r.sum)
  { r with sum := t, err }

/-- The bound past which an integer is added to the compensated sum in two parts. -/
def wide : Int := 4503599627370496

/-- Add an integer to the compensated sum. -/
def addInt (r : RunningSum) (n : Int) : RunningSum :=
  if n ≤ -wide || n ≥ wide then
    let small := Int.tmod n 16384
    (r.addReal (floatOfInt (n - small))).addReal (floatOfInt small)
  else r.addReal (floatOfInt n)

/-- Start the compensated sum from the exact total. -/
def start (r : RunningSum) : RunningSum :=
  if r.total ≤ -wide || r.total ≥ wide then
    let small := Int.tmod r.total 16384
    { r with approx := true, sum := floatOfInt (r.total - small), err := floatOfInt small }
  else { r with approx := true, sum := floatOfInt r.total, err := 0.0 }

/-- Add a value; `null` is left out. -/
def add (r : RunningSum) (v : Value) : RunningSum :=
  if v.isNull then r else
  let r := { r with count := r.count + 1 }
  match numericType v, r.approx with
  | .integer n, false =>
    if fitsInt (r.total + n) then { r with total := r.total + n }
    else ({ r.start with overflow := true }).addInt n
  | _, false => r.start.addReal v.asReal
  | .integer n, true => r.addInt n
  | _, true => ({ r with overflow := false }).addReal v.asReal

/-- The double the sum comes to. -/
def real (r : RunningSum) : Float :=
  if r.approx then (if isSpecial r.err then r.sum else r.sum + r.err) else floatOfInt r.total

end RunningSum

/-- The running sum of a list of values. -/
def runningSum (values : List Value) : RunningSum :=
  values.foldl RunningSum.add {}

/-- An aggregate function over the values of its argument in a group (for `count(*)`, one
`1` per row). `group_concat` and `string_agg` put each row's separator from `seps` (a comma
when none are given) before its value, after the first value that is not `null`. -/
def aggregate (name : String) (values : List Value) (seps : List Value) :
    Except StoreFault Value :=
  let present := values.filter (!·.isNull)
  match name with
  | "count" => pure (.integer present.length)
  | "sum" =>
    let r := runningSum values
    if r.count == 0 then pure .null
    else if !r.approx then pure (.integer r.total)
    else if r.overflow then throw (.refused "integer overflow")
    else pure (.real r.real)
  | "total" => pure (.real (runningSum values).real)
  | "avg" =>
    let r := runningSum values
    if r.count == 0 then pure .null else pure (.real (r.real / floatOfInt r.count))
  | "min" =>
    match present with
    | [] => pure .null
    | v :: vs => pure (vs.foldl (fun m x => if Value.compareWith .binary x m == .lt then x else m) v)
  | "max" =>
    match present with
    | [] => pure .null
    | v :: vs => pure (vs.foldl (fun m x => if Value.compareWith .binary x m == .gt then x else m) v)
  | "group_concat" | "string_agg" =>
    let pairs := values.zip (if seps.isEmpty then values.map fun _ => Value.text "," else seps)
    let parts := pairs.filter fun (v, _) => !v.isNull
    match parts with
    | [] => pure .null
    | (v, _) :: more =>
      pure (.text (more.foldl (fun acc (x, sep) => acc ++ sep.asText ++ x.asText) v.asText))
  | _ => throw (.refused ("no such function: " ++ name))

end Catalog.Sql
