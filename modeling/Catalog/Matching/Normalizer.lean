import Catalog.Text.Blank
import Catalog.Text.Case
import Catalog.Text.Alphanumeric

/-!
# Match keys

A normalizer turns the raw text of a field into the key under which records are matched, or
into nothing when the text holds no usable key.

* `isbn` — the identifier at the start of the text (digits, `X` and hyphens after leading
  blanks, hyphens dropped) becomes an ISBN-13: thirteen digits stand as they are, and ten
  characters whose first nine are digits become `978`, those nine digits and the EAN-13
  check digit.
* `issn` — eight identifier characters whose first seven are digits, written `NNNN-NNNN`.
* `lccn` — blanks removed, cut at the first `/`; a serial number after the first hyphen is
  padded with zeros to six digits when it is all digits, the hyphen dropped; then lower case.
* `controlNumber` — `(PREFIX)NUMBER`: the prefix trimmed and upper-cased, the number trimmed,
  without one leading `ocm`, `ocn` or `on` (any case) and without leading zeros.
* `text` — every character that is not a letter or digit becomes a blank, the text is
  lower-cased, and its words are joined by single blanks.
-/

namespace Catalog.Matching

open Catalog.Text

/-- The ways of turning a field's text into a match key. -/
inductive Normalizer where
  | isbn
  | issn
  | lccn
  | controlNumber
  | text
  deriving Repr, BEq, DecidableEq, Inhabited

/-- Characters that may make up a standard number: digits, `X`, `x` and the hyphen. -/
def isIdentifierChar (c : Char) : Bool :=
  c.isDigit || c = 'X' || c = 'x' || c = '-'

/-- The standard number at the start of a text: after the leading blanks, the longest run
of identifier characters, without hyphens and with `x` in upper case. -/
def identifierChars (raw : List Char) : List Char :=
  ((trimStart raw).takeWhile isIdentifierChar).filter (· ≠ '-') |>.map Char.toUpper

/-- The value of a decimal digit. -/
def digitValue (c : Char) : Nat :=
  c.toNat - '0'.toNat

/-- The EAN-13 check digit of twelve digits: weights 1 and 3 alternate from the first
digit, and the check digit brings the weighted sum to a multiple of ten. -/
def eanCheckDigit (digits : List Char) : Char :=
  let weight (i : Nat) : Nat := if i % 2 = 0 then 1 else 3
  let sum := digits.zipIdx.foldl (fun acc (c, i) => acc + digitValue c * weight i) 0
  Char.ofNat ('0'.toNat + (10 - sum % 10) % 10)

/-- The ISBN-13 key of a text. -/
def isbnKey (raw : List Char) : Option (List Char) :=
  let cs := identifierChars raw
  if cs.length = 13 && cs.all Char.isDigit then some cs
  else if cs.length = 10 && (cs.take 9).all Char.isDigit then
    let stem := ['9', '7', '8'] ++ cs.take 9
    some (stem ++ [eanCheckDigit stem])
  else none

/-- The ISSN key of a text. -/
def issnKey (raw : List Char) : Option (List Char) :=
  let cs := identifierChars raw
  if cs.length = 8 && (cs.take 7).all Char.isDigit then some (cs.take 4 ++ '-' :: cs.drop 4)
  else none

/-- The part of a list before the first element equal to `sep` and the part after it, when
there is one. -/
def splitAtFirst (sep : Char) : List Char → Option (List Char × List Char)
  | [] => none
  | c :: rest =>
    if c = sep then some ([], rest)
    else (splitAtFirst sep rest).map fun (a, b) => (c :: a, b)

/-- Pad a text with zeros in front to at least `width` characters. -/
def padZeros (width : Nat) (cs : List Char) : List Char :=
  List.replicate (width - cs.length) '0' ++ cs

/-- An LCCN without its first hyphen: a serial number after the hyphen is padded with zeros to
six digits when it is all digits. -/
def joinSerial (compact : List Char) : List Char :=
  match splitAtFirst '-' compact with
  | some (pre, serial) =>
    if !serial.isEmpty && serial.all Char.isDigit then pre ++ padZeros 6 serial
    else pre ++ serial
  | none => compact

/-- The LCCN key of a text. -/
def lccnKey (raw : List Char) : Option (List Char) :=
  let compact := (raw.filter (fun c => !isBlank c)).takeWhile (· ≠ '/')
  let key := toLower (joinSerial compact)
  if key.isEmpty then none else some key

/-- Whether a text begins with the given ASCII marker, ignoring ASCII case. -/
def startsWithMarker (cs marker : List Char) : Bool :=
  cs.length ≥ marker.length && (cs.take marker.length).map Char.toLower == marker

/-- The markers that may stand before the number of a control number. -/
def controlMarkers : List (List Char) :=
  [['o', 'c', 'm'], ['o', 'c', 'n'], ['o', 'n']]

/-- The number of a control number: trimmed, without one leading marker and without leading
zeros. -/
def controlDigits (number : List Char) : List Char :=
  let number := trim number
  let number :=
    match controlMarkers.find? (startsWithMarker number) with
    | some marker => trimStart (number.drop marker.length)
    | none => number
  number.dropWhile (· = '0')

/-- The control number key of a text. -/
def controlNumberKey (raw : List Char) : Option (List Char) :=
  match trim raw with
  | '(' :: rest =>
    match splitAtFirst ')' rest with
    | none => none
    | some (pre, number) =>
      let prefixKey := toUpper (trim pre)
      if prefixKey.isEmpty then none else
      let number := controlDigits number
      if number.isEmpty then none else some ('(' :: prefixKey ++ ')' :: number)
  | _ => none

/-- Join words with single blanks. -/
def joinWords : List (List Char) → List Char
  | [] => []
  | [w] => w
  | w :: ws => w ++ ' ' :: joinWords ws

/-- The text key of a text. -/
def textKey (raw : List Char) : Option (List Char) :=
  let cleaned := raw.map fun c => if isAlphanumeric c then c else ' '
  let ws := words (toLower cleaned)
  if ws.isEmpty then none else some (joinWords ws)

/-- The key of a field's text under a normalizer. -/
def Normalizer.apply (n : Normalizer) (raw : String) : Option String :=
  let key := match n with
    | .isbn => isbnKey raw.toList
    | .issn => issnKey raw.toList
    | .lccn => lccnKey raw.toList
    | .controlNumber => controlNumberKey raw.toList
    | .text => textKey raw.toList
  key.map String.ofList

/-- The normalizer of a given name. -/
def Normalizer.ofName? (s : String) : Option Normalizer :=
  if s = "isbn" then some .isbn
  else if s = "issn" then some .issn
  else if s = "lccn" then some .lccn
  else if s = "system_control_number" then some .controlNumber
  else if s = "text" then some .text
  else none

end Catalog.Matching
