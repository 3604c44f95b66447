import Catalog.Json.Value
import Catalog.Decimal.Shortest

/-!
# Writing JSON text

Values are written compactly, with no blank between tokens, and members in their stored
order (sorted by key). A string escapes the quote, the backslash and the control characters
below U+0020; the common ones by their short escapes, the rest as `\u00XX`. A double is
written by its shortest decimal form (`Catalog.Decimal.shortest`), laid out as
`Catalog.Json.floatText` says.
-/

namespace Catalog.Json

open Catalog.Decimal

/-- The hexadecimal digit of a number below sixteen, in lower case. -/
def hexDigit (n : Nat) : Char :=
  if n < 10 then Char.ofNat ('0'.toNat + n) else Char.ofNat ('a'.toNat + n - 10)

/-- The escaped form of one character inside a string. -/
def escapeChar (c : Char) : List Char :=
  if c = '"' then ['\\', '"']
  else if c = '\\' then ['\\', '\\']
  else if c = '\n' then ['\\', 'n']
  else if c = '\r' then ['\\', 'r']
  else if c = '\t' then ['\\', 't']
  else if c = '\x08' then ['\\', 'b']
  else if c = '\x0c' then ['\\', 'f']
  else if c.toNat < 0x20 then
    ['\\', 'u', '0', '0', hexDigit (c.toNat / 16), hexDigit (c.toNat % 16)]
  else [c]

/-- A string as a quoted JSON string. -/
def quote (s : String) : String :=
  String.ofList ('"' :: s.toList.flatMap escapeChar ++ ['"'])

/-- The decimal digits of a natural number. -/
def natDigits (n : Nat) : List Char :=
  (toString n).toList

/-- The text of a finite double. The decimal `d · 10^k` of `n` digits, with `m = n + k` the
position of the decimal point, is laid out

* as an integer with `.0` appended when `0 ≤ k` and `m ≤ 16` (`100.0`);
* with the point inside the digits when `0 < m ≤ 16` (`1.5`);
* with `0.` and `-m` zeros before the digits when `-5 < m ≤ 0` (`0.001`);
* otherwise in scientific form, the point after the first digit unless that is the only
  one, then `e` and the exponent `m - 1` with a minus sign when negative and no plus sign
  (`1e300`, `1.25e-7`).

Zero is `0.0`, and a negative value has a leading minus sign. -/
def floatText (f : Float) : String :=
  let sign := if signBit f then "-" else ""
  let b := Binary.ofFloat f
  if b.mantissa = 0 then sign ++ "0.0" else
  let (d, k) := shortest b
  let ds := natDigits d
  let n : Int := ds.length
  let m := n + k
  let body : List Char :=
    if 0 ≤ k && m ≤ 16 then ds ++ List.replicate k.toNat '0' ++ ['.', '0']
    else if 0 < m && m ≤ 16 then ds.take m.toNat ++ '.' :: ds.drop m.toNat
    else if -5 < m && m ≤ 0 then '0' :: '.' :: List.replicate (-m).toNat '0' ++ ds
    else
      let expText := (toString (m - 1)).toList
      match ds with
      | [c] => c :: 'e' :: expText
      | c :: rest => c :: '.' :: rest ++ 'e' :: expText
      | [] => []
  sign ++ String.ofList body

mutual

/-- The compact text of a value. -/
def render : Json → String
  | .null => "null"
  | .bool true => "true"
  | .bool false => "false"
  | .int n => toString n
  | .float f => if isFiniteBits f then floatText f else "null"
  | .str s => quote s
  | .arr items => "[" ++ renderItems items ++ "]"
  | .obj members => "\x7b" ++ renderMembers members ++ "\x7d"

/-- The items of an array, separated by commas. -/
def renderItems : List Json → String
  | [] => ""
  | [x] => render x
  | x :: rest => render x ++ "," ++ renderItems rest

/-- The members of an object, separated by commas. -/
def renderMembers : List (String × Json) → String
  | [] => ""
  | [(k, v)] => quote k ++ ":" ++ render v
  | (k, v) :: rest => quote k ++ ":" ++ render v ++ "," ++ renderMembers rest

end

end Catalog.Json
