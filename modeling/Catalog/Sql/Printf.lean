import Catalog.Sql.Value

/-!
# Formatted text

`printf(format, …)` (also named `format`) writes its arguments into a text by the
conversions of the format. A conversion is `%`, then flags (`-` left-justify, `+` or a
blank before positive numbers, `#` alternate form, `!` more digits, `0` pad with zeros,
`,` group thousands), a width, a `.` and a precision (either may be `*`, taking the next
argument), an `l` or `ll` that changes nothing, and a letter:

* `d` `i` signed and `u` unsigned decimal, `x` `X` hexadecimal, `o` octal, `p` hexadecimal
  with `0x` under `#`, `r` an ordinal (`1st`, `2nd`, …); the precision is the least number
  of digits;
* `f`, `e` `E` and `g` `G` a double in fixed, exponent or shorter form, with six digits
  after the point unless the precision says otherwise;
* `s` and `z` a text, `q` a text with single quotes doubled, `Q` the same in quotes (or
  `NULL`), `w` a text with double quotes doubled, `c` the first character of a text
  repeated as often as the precision says; the precision cuts the text;
* `%` a percent sign, `n` nothing.

Widths and precisions count bytes of UTF-8. An argument that is missing counts as `null`,
which is `0` for numbers and empty for texts. Any other letter ends the text there.

A double is first written as decimal digits: at most sixteen significant ones (twenty-six
under `!`), rounded half up at the place the conversion asks for.
-/

namespace Catalog.Sql

open Catalog Catalog.Decimal

/-- The flags, width and precision of one conversion. -/
structure Conversion where
  leftJustify : Bool := false
  sign : Option Char := none
  alternate : Bool := false
  moreDigits : Bool := false
  zeroPad : Bool := false
  thousands : Bool := false
  width : Nat := 0
  precision : Option Nat := none
  deriving Inhabited

/-- The arguments not yet used. -/
structure Pending where
  values : List Value

/-- The next argument, `null` when none is left, and the arguments after it. -/
def Pending.next (p : Pending) : Value × Pending :=
  match p.values with
  | v :: vs => (v, ⟨vs⟩)
  | [] => (.null, p)

/-- The value of decimal digits. -/
def digitsValue (ds : List Char) : Nat :=
  ds.foldl (fun n c => n * 10 + (c.toNat - 48)) 0

/-- The letter of a conversion whose flags are read, and the format after it. -/
def readLetter (c : Conversion) (args : Pending) :
    List Char → Conversion × Option Char × List Char × Pending
  | [] => (c, none, [], args)
  | l :: rest => (c, some l, rest, args)

/-- Read the flags, width and precision of a conversion after its `%`: the conversion, the
letter that ends it (none at the end of the format), the format after the letter, and the
arguments left. Every round reads at least one character, so `fuel` past the length of the
format is enough. -/
def readConversion : Nat → Conversion → Pending → List Char →
    Conversion × Option Char × List Char × Pending
  | 0, c, args, cs => readLetter c args cs
  | _ + 1, c, args, [] => (c, none, [], args)
  | fuel + 1, c, args, ch :: rest =>
    match ch with
    | '-' => readConversion fuel { c with leftJustify := true } args rest
    | '+' => readConversion fuel { c with sign := some '+' } args rest
    | ' ' => readConversion fuel { c with sign := some ' ' } args rest
    | '#' => readConversion fuel { c with alternate := true } args rest
    | '!' => readConversion fuel { c with moreDigits := true } args rest
    | '0' => readConversion fuel { c with zeroPad := true } args rest
    | ',' => readConversion fuel { c with thousands := true } args rest
    | 'l' =>
      match rest with
      | 'l' :: more => readLetter c args more
      | _ => readLetter c args rest
    | '*' =>
      let (v, args) := args.next
      let n := v.asInteger
      let c := if n < 0 then { c with leftJustify := true, width := n.natAbs }
        else { c with width := n.toNat }
      match rest with
      | '.' :: _ | 'l' :: _ => readConversion fuel c args rest
      | _ => readLetter c args rest
    | '.' =>
      match rest with
      | '*' :: more =>
        let (v, args) := args.next
        let n := v.asInteger
        let c := { c with precision := if n < 0 then some n.natAbs else some n.toNat }
        match more with
        | 'l' :: _ => readConversion fuel c args more
        | _ => readLetter c args more
      | _ =>
        let ds := rest.takeWhile Char.isDigit
        let more := rest.drop ds.length
        let c := { c with precision := some (digitsValue ds) }
        match more with
        | 'l' :: _ => readConversion fuel c args more
        | _ => readLetter c args more
    | d =>
      if d.isDigit then
        let ds := d :: rest.takeWhile Char.isDigit
        let more := rest.drop (ds.length - 1)
        let c := { c with width := digitsValue ds }
        match more with
        | '.' :: _ | 'l' :: _ => readConversion fuel c args more
        | _ => readLetter c args more
      else (c, some d, rest, args)

/-! ## Numbers -/

/-- A double as decimal digits: its sign, the digits (no trailing zeros), and where the
point stands among them (`point = 1` puts it after the first). -/
structure DecimalDigits where
  negative : Bool
  digits : List Nat
  point : Int

/-- The digits of a natural number. -/
def natDigits (n : Nat) : List Nat :=
  (toString n).toList.map fun c => c.toNat - 48

/-- Round digits to their first `k`: a carry out of the first digit adds a digit in front.
The digits and whether one was added. -/
def roundDigits (ds : List Nat) (k : Nat) : List Nat × Bool :=
  let kept := ds.take k
  if ds.getD k 0 ≥ 5 then
    let n := kept.foldl (fun acc d => acc * 10 + d) 0 + 1
    let out := natDigits n
    if out.length > k then (out, true) else (List.replicate (k - out.length) 0 ++ out, false)
  else (kept, false)

/-- The digits of a finite non-zero double, rounded as a conversion asks: to `round`
significant digits when it is positive, else to `-round` places after the point, and never
to more than `most`. -/
def decimalDigits (x : Float) (round : Int) (most : Nat) : DecimalDigits :=
  let negative := signBit x
  let (num, den) := exactRatio x
  let num := num.natAbs
  let mag := decimalMagnitude num den
  -- nineteen digits, cut: the value times 10^(18 - mag)
  let k : Int := 18 - mag
  let v := if k ≥ 0 then num * Nat.pow 10 k.toNat / den else num / (den * Nat.pow 10 (-k).toNat)
  let ds := natDigits v
  let point : Int := ds.length - k
  let (ds, point, round) :=
    if round ≤ 0 then
      let r := point - round
      if r == 0 && ds.getD 0 0 ≥ 5 then (0 :: ds, point + 1, (1 : Int)) else (ds, point, r)
    else (ds, point, round)
  let (ds, point) :=
    if round > 0 && (round.toNat < ds.length || ds.length > most) then
      let r := min round.toNat most
      let (out, grew) := roundDigits ds r
      (out, if grew then point + 1 else point)
    else (ds, point)
  let ds := (ds.reverse.dropWhile (· == 0)).reverse
  ⟨negative, ds, point⟩

/-- Insert a comma before every third digit from the right of a run of digits. -/
def withThousands (ds : List Char) : List Char :=
  let n := ds.length
  String.toList (String.join ((ds.zip (List.range n)).map fun (d, i) =>
    (if i > 0 && (n - i) % 3 == 0 then "," else "") ++ d.toString))

/-- An integer conversion: the text of the number without its width. -/
def integerText (c : Conversion) (letter : Char) (v : Value) : String :=
  let n := v.asInteger
  let signed := letter == 'd' || letter == 'i' || letter == 'r'
  let (magnitude, sign) : Nat × Option Char :=
    if signed then
      if n < 0 then (n.natAbs, some '-') else (n.toNat, c.sign)
    else ((if n < 0 then n + (Nat.pow 2 64 : Nat) else n).toNat, none)
  let base := match letter with
    | 'x' | 'X' | 'p' => 16
    | 'o' => 8
    | _ => 10
  let alphabet := if letter == 'X' then "0123456789ABCDEF" else "0123456789abcdef"
  let digits := (Nat.toDigits base magnitude).map fun d =>
    alphabet.toList.getD (if d.isDigit then d.toNat - 48 else d.toNat - 87) '0'
  let precision := c.precision.getD 0
  let precision := if c.zeroPad && precision + (if sign.isSome then 1 else 0) < c.width then
      c.width - (if sign.isSome then 1 else 0) else precision
  let digits := List.replicate (precision - digits.length) '0' ++ digits
  let digits := if c.thousands then withThousands digits else digits
  let suffix := if letter == 'r' then
      let last := magnitude % 10
      let x := if last ≥ 4 || (magnitude / 10) % 10 == 1 then 0 else last
      ["th", "st", "nd", "rd"].getD x "th"
    else ""
  let alternate := c.alternate && magnitude != 0
  let pre := match letter, alternate with
    | 'o', true => "0"
    | 'x', true => "0x"
    | 'X', true => "0X"
    | 'p', true => "0x"
    | _, _ => ""
  pre ++ (sign.map Char.toString).getD "" ++ String.ofList digits ++ suffix

/-- A floating conversion (`f`, `e`, `E`, `g` or `G`): the text of the number, and whether
it is already as wide as the zero padding makes it. -/
def floatText (c : Conversion) (letter : Char) (x : Float) : String :=
  let precision := c.precision.getD 6
  let generic := letter == 'g' || letter == 'G'
  let expo := letter == 'e' || letter == 'E'
  let precision := if generic && precision == 0 then 1 else precision
  let round : Int := if generic then precision else if expo then precision + 1 else -(precision : Int)
  let most := if c.moreDigits then 26 else 16
  if x != x then (if c.zeroPad then "null" else "NaN")
  else if isSpecial x && !c.zeroPad then
    if signBit x then "-Inf" else (c.sign.map Char.toString).getD "" ++ "Inf"
  else
  let d : DecimalDigits :=
    if isSpecial x then ⟨signBit x, [9], 1000⟩
    else if x == 0.0 then ⟨false, [0], 1⟩
    else decimalDigits x round most
  let sign : Option Char := if d.negative then some '-' else c.sign
  let exp := d.point - 1
  let precision := if generic && precision > 0 then precision - 1 else precision
  let (useExp, precision, trimZeros) :=
    if generic then
      if exp < -4 || exp > precision then (true, precision, !c.alternate)
      else (false, (precision - exp).toNat, !c.alternate)
    else (expo, precision, c.moreDigits)
  let digitAt (j : Nat) : Char :=
    match d.digits[j]? with
    | some k => Char.ofNat (48 + k)
    | none => '0'
  let e2 : Int := if useExp then 0 else d.point - 1
  let showPoint := precision > 0 || c.alternate || c.moreDigits
  -- the digits before the point
  let (whole, used) : List Char × Nat :=
    if e2 < 0 then (['0'], 0)
    else
      let n := e2.toNat + 1
      let ds := (List.range n).map digitAt
      (if c.thousands then withThousands ds else ds, n)
  -- zeros after the point before the first digit, then digits
  let leading := if e2 + 1 < 0 then min (-(e2 + 1)).toNat precision else 0
  let fraction := List.replicate leading '0' ++
    (List.range (precision - leading)).map fun i => digitAt (used + i)
  let body := whole ++ (if showPoint then '.' :: fraction else fraction)
  let body :=
    if trimZeros && showPoint then
      let t := body.reverse.dropWhile (· == '0')
      match t with
      | '.' :: rest => if c.moreDigits then ('0' :: '.' :: rest).reverse else rest.reverse
      | _ => t.reverse
    else body
  let suffix :=
    if useExp then
      let e := exp.natAbs
      let letterE := if letter == 'E' || letter == 'G' then "E" else "e"
      letterE ++ (if exp < 0 then "-" else "+") ++
        (if e ≥ 100 then toString (e / 100) else "") ++ toString (e % 100 / 10) ++ toString (e % 10)
    else ""
  let text := (sign.map Char.toString).getD "" ++ String.ofList body ++ suffix
  let len := text.utf8ByteSize
  if c.zeroPad && !c.leftJustify && len < c.width then
    let zeros := String.ofList (List.replicate (c.width - len) '0')
    match sign with
    | some s => s.toString ++ zeros ++ String.ofList body ++ suffix
    | none => zeros ++ text
  else text

/-! ## Texts -/

/-- The bytes of a text. -/
def textBytes (s : String) : List UInt8 :=
  s.toUTF8.toList

/-- The first bytes of a text, as many as a precision allows: bytes, or characters under
`!`. -/
def cutText (c : Conversion) (s : String) : String :=
  match c.precision with
  | none => s
  | some p =>
    if c.moreDigits then String.ofList (s.toList.take p)
    else Value.bytesText ((textBytes s).take p)

/-- A text with a quote character doubled. -/
def doubleQuote (q : Char) (s : String) : String :=
  String.join (s.toList.map fun ch => if ch == q then ch.toString ++ ch.toString else ch.toString)

/-- Pad a converted text to a width, on the left unless left-justified. The width counts
bytes, or characters under `!`. -/
def padTo (c : Conversion) (text : String) : String :=
  let len := if c.moreDigits then text.length else text.utf8ByteSize
  if len ≥ c.width then text
  else
    let pad := String.ofList (List.replicate (c.width - len) ' ')
    if c.leftJustify then text ++ pad else pad ++ text

/-- The text of one conversion, or none for a letter that ends the output. -/
def convert (c : Conversion) (letter : Char) (args : Pending) : Option (String × Pending) :=
  match letter with
  | 'd' | 'i' | 'u' | 'x' | 'X' | 'o' | 'p' | 'r' =>
    let (v, args) := args.next
    some (padTo c (integerText c letter v), args)
  | 'f' | 'e' | 'E' | 'g' | 'G' =>
    let (v, args) := args.next
    some (padTo c (floatText c letter v.asReal), args)
  | 's' | 'z' =>
    let (v, args) := args.next
    some (padTo c (cutText c v.asText), args)
  | 'q' | 'Q' | 'w' =>
    let (v, args) := args.next
    let q := if letter == 'w' then '"' else '\''
    let text := match v.asText? with
      | none => if letter == 'Q' then "NULL" else "(NULL)"
      | some s =>
        let body := doubleQuote q (cutText c s)
        if letter == 'Q' then "'" ++ body ++ "'" else body
    some (padTo c text, args)
  | 'c' =>
    let (v, args) := args.next
    let one := match v.asText?.bind (·.toList.head?) with
      | some ch => ch.toString
      | none => ""
    let count := max 1 (c.precision.getD 1)
    some (padTo c (String.join (List.replicate count one)), args)
  | '%' => some (padTo c "%", args)
  | 'n' => some ("", args)
  | _ => none

/-- Write the rest of a format with the arguments left onto the text so far; every round
uses at least one character of the format, so `fuel` past its length is enough. -/
def formatFrom : Nat → String → Pending → List Char → String
  | 0, out, _, _ => out
  | _ + 1, out, _, [] => out
  | fuel + 1, out, args, '%' :: rest =>
    match rest with
    | [] => out ++ "%"
    | _ =>
      let (c, letter, after, args') := readConversion (rest.length + 1) {} args rest
      match letter with
      | none => out
      | some l =>
        match convert c l args' with
        | some (text, args'') => formatFrom fuel (out ++ text) args'' after
        | none => out
  | fuel + 1, out, args, ch :: rest => formatFrom fuel (out.push ch) args rest

/-- `printf`: the format written with the arguments; `null` without a format. -/
def printf (args : List Value) : Value :=
  match args with
  | [] => .null
  | fmt :: rest =>
    match fmt.asText? with
    | none => .null
    | some f => .text (formatFrom (f.length + 1) "" ⟨rest⟩ f.toList)

end Catalog.Sql
