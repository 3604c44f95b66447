import Catalog.Config.Toml
import Catalog.Decimal.Binary

/-!
# The words of a TOML document

Blanks, comments, strings, keys and numbers, each read from a position of the document's
characters. A failure says where reading stopped and why, and comes in one of two kinds
(`Miss`): nothing of the kind starts at the position, so that an enclosing reader may end
there instead, or something starts there and is malformed, which ends all reading.

A number is read as the longest prefix that the grammar admits: a date or a time, else a
float (an integer part with a fraction or an exponent, or `inf` and `nan`), else an integer
(with a `0x`, `0o` or `0b` prefix, or decimal). Whatever follows is left to the reader of the
enclosing line, array or table. An underscore must stand between two digits; integers have
64 bits, and a float that rounds to positive infinity is refused.
-/

namespace Catalog.Config

/-- A reader over the document's characters: from a position, a value and the position
after it, or an error. -/
abbrev Reader (α : Type) := Array Char → Nat → Except TomlError (α × Nat)

/-- An error at a position with an empty span. -/
def failAt {α : Type} (i : Nat) (message : String) : Except TomlError α :=
  .error ⟨⟨i, i⟩, message⟩

/-- Why reading stopped. -/
inductive Miss where
  /-- Nothing of the kind starts here. -/
  | absent (e : TomlError)
  /-- Something starts here and is malformed. -/
  | broken (e : TomlError)

/-- The error of a failure. -/
def Miss.error : Miss → TomlError
  | .absent e | .broken e => e

/-- A failure of a reader that has committed to what it reads. -/
def committed {α : Type} (r : Except TomlError α) : Except Miss α :=
  r.mapError .broken

/-! ## Blanks and comments -/

/-- Whether a character may appear in a bare key. -/
def isBareKeyChar (c : Char) : Bool :=
  c.isAlphanum || c = '_' || c = '-'

/-- The position after the characters from `i` that satisfy `p`. -/
def skipWhile (p : Char → Bool) (cs : Array Char) (i : Nat) : Nat :=
  if h : i < cs.size then
    if p cs[i] then skipWhile p cs (i + 1) else i
  else i
termination_by cs.size - i

/-- The position after the blanks (spaces and tabs) from `i`. -/
def skipBlanks (cs : Array Char) (i : Nat) : Nat :=
  skipWhile (fun c => c = ' ' || c = '\t') cs i

/-- Whether a character may stand in a comment: a tab, a printable ASCII character or any
character beyond ASCII. -/
def isCommentChar (c : Char) : Bool :=
  c = '\t' || (0x20 ≤ c.toNat && c.toNat ≤ 0x7E) || c.toNat ≥ 0x80

/-- The position after a comment starting at `i`, if one does. -/
def skipComment (cs : Array Char) (i : Nat) : Nat :=
  if cs[i]? = some '#' then skipWhile isCommentChar cs (i + 1) else i

/-- The position after blanks, comments and line breaks from `i`. -/
def skipSpaceAndLines (cs : Array Char) (i : Nat) : Nat :=
  let j := skipComment cs (skipBlanks cs i)
  if h : j < cs.size then
    if cs[j] = '\n' then
      if h2 : j + 1 > i then skipSpaceAndLines cs (j + 1) else j
    else if cs[j] = '\r' && cs[j + 1]? = some '\n' then
      if h3 : j + 2 > i ∧ j + 2 ≤ cs.size then skipSpaceAndLines cs (j + 2) else j
    else j
  else j
termination_by cs.size - i
decreasing_by all_goals omega

/-- The position after the end of a line from `i`, where only blanks and a comment may
stand before the line break or the end of the document; anything else is an error there. -/
def endOfLine (cs : Array Char) (i : Nat) : Except TomlError Nat :=
  let j := skipComment cs (skipBlanks cs i)
  match cs[j]? with
  | none => .ok j
  | some '\n' => .ok (j + 1)
  | some '\r' => if cs[j + 1]? = some '\n' then .ok (j + 2) else failAt j "expected newline, `#`"
  | some _ => failAt j "expected newline, `#`"

/-- The characters from `i` up to `j`. -/
def slice (cs : Array Char) (i j : Nat) : List Char :=
  ((cs.toList.drop i).take (j - i))

/-! ## Strings -/

/-- The value of a hexadecimal digit. -/
def hexDigitValue (c : Char) : Option Nat :=
  if c.isDigit then some (c.toNat - '0'.toNat)
  else if 'a' ≤ c && c ≤ 'f' then some (c.toNat - 'a'.toNat + 10)
  else if 'A' ≤ c && c ≤ 'F' then some (c.toNat - 'A'.toNat + 10)
  else none

/-- The number written by hexadecimal digits. -/
def hexNumber (ds : List Char) : Option Nat :=
  ds.foldlM (fun acc c => (hexDigitValue c).map (acc * 16 + ·)) 0

/-- Whether a number read from a hex escape is a Unicode scalar value. -/
def isScalarValue (n : Nat) : Bool :=
  n < 0x110000 && !(0xD800 ≤ n && n < 0xE000)

/-- Whether a character is a blank or a line break. -/
def isBlankOrBreak (d : Char) : Bool :=
  d = ' ' || d = '\t' || d = '\n' || d = '\r'

/-- Whether the character at `i` may not stand in a string as it is: a control character
other than the tab, where a multi-line string may hold line breaks. -/
def isForbiddenControl (multi : Bool) (cs : Array Char) (i : Nat) (c : Char) : Bool :=
  let lineBreak := c = '\n' || (c = '\r' && cs[i + 1]? = some '\n')
  (c.toNat < 0x20 && c ≠ '\t' && !(multi && lineBreak)) || c.toNat = 0x7F

/-- The message for an escape that is none of the known ones. -/
def badEscape : String :=
  "invalid escape sequence\nexpected `b`, `f`, `n`, `r`, `t`, `u`, `U`, `\\`, `\"`"

/-- Read the `width` hex digits of a Unicode escape whose letter stands at `i - 1`. -/
def hexEscape (cs : Array Char) (i width : Nat) : Except TomlError Char :=
  let label := "invalid unicode " ++ toString width ++ "-digit hex code"
  let ds := slice cs i (i + width)
  match hexNumber ds with
  | some n =>
    if ds.length ≠ width then failAt i label
    else if isScalarValue n then .ok (Char.ofNat n)
    else failAt i (label ++ "\nvalue is out of range")
  | none => failAt i label

/-- Read the rest of a basic string after its opening quote, up to the closing quote;
`multi` allows line breaks and escaped line ends. -/
def readBasic (multi : Bool) (cs : Array Char) (i : Nat) (acc : List Char) :
    Except TomlError (String × Nat) :=
  let unclosed := if multi then "invalid multiline basic string" else "invalid basic string"
  if h : i < cs.size then
    let c := cs[i]
    if multi && c = '"' && cs[i + 1]? = some '"' && cs[i + 2]? = some '"' then
      -- up to two further quotes belong to the content
      if cs[i + 3]? = some '"' && cs[i + 4]? = some '"' then
        .ok (String.ofList (acc.reverse ++ ['"', '"']), i + 5)
      else if cs[i + 3]? = some '"' then .ok (String.ofList (acc.reverse ++ ['"']), i + 4)
      else .ok (String.ofList acc.reverse, i + 3)
    else if !multi && c = '"' then .ok (String.ofList acc.reverse, i + 1)
    else if c = '\\' then
      match cs[i + 1]? with
      | some 'b' => readBasic multi cs (i + 2) ('\x08' :: acc)
      | some 't' => readBasic multi cs (i + 2) ('\t' :: acc)
      | some 'n' => readBasic multi cs (i + 2) ('\n' :: acc)
      | some 'f' => readBasic multi cs (i + 2) ('\x0c' :: acc)
      | some 'r' => readBasic multi cs (i + 2) ('\r' :: acc)
      | some '"' => readBasic multi cs (i + 2) ('"' :: acc)
      | some '\\' => readBasic multi cs (i + 2) ('\\' :: acc)
      | some 'u' => do
        let ch ← hexEscape cs (i + 2) 4
        readBasic multi cs (i + 6) (ch :: acc)
      | some 'U' => do
        let ch ← hexEscape cs (i + 2) 8
        readBasic multi cs (i + 10) (ch :: acc)
      | some c2 =>
        if multi && (c2 = '\n' || c2 = ' ' || c2 = '\t' || c2 = '\r') then
          -- an escaped line end swallows the following blanks and line breaks
          readBasic multi cs (max (i + 2) (skipWhile isBlankOrBreak cs (i + 1))) acc
        else failAt (i + 2) badEscape
      | none => failAt (i + 1) badEscape
    else if !multi && c = '\n' then failAt i unclosed
    else if isForbiddenControl multi cs i c then failAt i unclosed
    else readBasic multi cs (i + 1) (c :: acc)
  else failAt i unclosed
termination_by cs.size - i
decreasing_by all_goals omega

/-- Read the rest of a literal string after its opening quote. -/
def readLiteral (multi : Bool) (cs : Array Char) (i : Nat) (acc : List Char) :
    Except TomlError (String × Nat) :=
  let unclosed := if multi then "invalid multiline literal string" else "invalid literal string"
  if h : i < cs.size then
    let c := cs[i]
    if multi && c = '\'' && cs[i + 1]? = some '\'' && cs[i + 2]? = some '\'' then
      if cs[i + 3]? = some '\'' && cs[i + 4]? = some '\'' then
        .ok (String.ofList (acc.reverse ++ ['\'', '\'']), i + 5)
      else if cs[i + 3]? = some '\'' then .ok (String.ofList (acc.reverse ++ ['\'']), i + 4)
      else .ok (String.ofList acc.reverse, i + 3)
    else if !multi && c = '\'' then .ok (String.ofList acc.reverse, i + 1)
    else if !multi && c = '\n' then failAt i unclosed
    else if isForbiddenControl multi cs i c then failAt i unclosed
    else readLiteral multi cs (i + 1) (c :: acc)
  else failAt i unclosed
termination_by cs.size - i

/-- The position after the line break that may follow the opening delimiter of a
multi-line string at `i`. -/
def afterOpening (cs : Array Char) (i : Nat) : Nat :=
  if cs[i]? = some '\n' then i + 1
  else if cs[i]? = some '\r' && cs[i + 1]? = some '\n' then i + 2 else i

/-- Read a string starting at its opening quote. -/
def readString : Reader String := fun cs i =>
  if cs[i]? = some '"' then
    if cs[i + 1]? = some '"' && cs[i + 2]? = some '"' then
      readBasic true cs (afterOpening cs (i + 3)) []
    else readBasic false cs (i + 1) []
  else if cs[i + 1]? = some '\'' && cs[i + 2]? = some '\'' then
    readLiteral true cs (afterOpening cs (i + 3)) []
  else readLiteral false cs (i + 1) []

/-! ## Keys -/

/-- Read one part of a key at `i`: a bare key, or a one-line string. -/
def readSimpleKey (cs : Array Char) (i : Nat) : Except Miss (KeyPart × Nat) := do
  let (name, j) ← match cs[i]? with
    | some '"' => committed (readBasic false cs (i + 1) [])
    | some '\'' => committed (readLiteral false cs (i + 1) [])
    | some c =>
      if isBareKeyChar c then
        let j := skipWhile isBareKeyChar cs i
        pure (String.ofList (slice cs i j), j)
      else .error (.absent ⟨⟨i, i⟩, "invalid key"⟩)
    | none => .error (.absent ⟨⟨i, i⟩, "invalid key"⟩)
  pure ({ name, raw := String.ofList (slice cs i j), span := ⟨i, j⟩ }, j)

/-- Read a dotted key at `i`: its parts, and the position after it and the blanks that
follow. A dot that no part follows is not part of the key. -/
def readKey (cs : Array Char) (i : Nat) : Except Miss (List KeyPart × Nat) := do
  let (first, j) ← readSimpleKey cs (skipBlanks cs i)
  go (cs.size + 1) [first] (skipBlanks cs j)
where
  /-- Read further parts while dots follow; `fuel` bounds the number of parts. -/
  go : Nat → List KeyPart → Nat → Except Miss (List KeyPart × Nat)
    | 0, acc, i => .ok (acc.reverse, i)
    | fuel + 1, acc, i =>
      if cs[i]? = some '.' then
        match readSimpleKey cs (skipBlanks cs (i + 1)) with
        | .ok (part, j) => go fuel (part :: acc) (skipBlanks cs j)
        | .error (.absent _) => .ok (acc.reverse, i)
        | .error (.broken e) => .error (.broken e)
      else .ok (acc.reverse, i)

/-! ## Numbers -/

/-- The end of a run of digits from `i` in which an underscore stands only between two
digits: `.ok` the end, or `.error` the position after an underscore that no digit
follows. -/
def digitRun (isDigitOf : Char → Bool) (cs : Array Char) (i : Nat) : Except Nat Nat :=
  if h : i < cs.size then
    if isDigitOf cs[i] then digitRun isDigitOf cs (i + 1)
    else if cs[i] = '_' then
      if (cs[i + 1]?.map isDigitOf).getD false then digitRun isDigitOf cs (i + 2)
      else .error (i + 1)
    else .ok i
  else .ok i
termination_by cs.size - i

/-- Whether the character at `i` is a decimal digit. -/
def digitAt (cs : Array Char) (i : Nat) : Bool :=
  (cs[i]?.map Char.isDigit).getD false

/-- Whether the character at `i` is a sign. -/
def signAt (cs : Array Char) (i : Nat) : Bool :=
  cs[i]? = some '+' || cs[i]? = some '-'

/-- The end of a decimal integer at `i`: a sign, then one zero or digits that do not start
with zero. `none` when no digit follows the sign. -/
def decimalEnd (cs : Array Char) (i : Nat) : Except TomlError (Option Nat) :=
  let k := if signAt cs i then i + 1 else i
  if cs[k]? = some '0' then .ok (some (k + 1))
  else if digitAt cs k then
    match digitRun Char.isDigit cs (k + 1) with
    | .ok e => .ok (some e)
    | .error p => failAt p "invalid integer\nexpected digit"
  else .ok none

/-- The end of digits at `i` that may start with zero: `.ok` the end, or `.error` the
position where a digit is missing and whether it follows an underscore. -/
def digitsEnd (cs : Array Char) (i : Nat) : Except (Nat × Bool) Nat :=
  if digitAt cs i then (digitRun Char.isDigit cs (i + 1)).mapError fun p => (p, true)
  else .error (i, false)

/-- The end of an exponent whose letter stands at `i`. -/
def exponentEnd (cs : Array Char) (i : Nat) : Except TomlError Nat :=
  let k := if signAt cs (i + 1) then i + 2 else i + 1
  match digitsEnd cs k with
  | .ok e => .ok e
  | .error (p, false) => failAt p "invalid floating-point number"
  | .error (p, true) => failAt p "invalid floating-point number\nexpected digit"

/-- The end of the fraction and exponent of a float whose integer part ends at `i`, or
`none` when neither follows. -/
def floatEnd (cs : Array Char) (i : Nat) : Except TomlError (Option Nat) :=
  match cs[i]? with
  | some 'e' | some 'E' => some <$> exponentEnd cs i
  | some '.' =>
    match digitsEnd cs (i + 1) with
    | .error (p, false) => failAt p "invalid floating-point number\nexpected digit"
    | .error (p, true) => failAt p "invalid floating-point number\nexpected digit, digit"
    | .ok e =>
      if cs[e]? = some 'e' || cs[e]? = some 'E' then some <$> exponentEnd cs e
      else .ok (some e)
  | _ => .ok none

/-- The number written by digits in a base. -/
def digitsValue (base : Nat) (ds : List Char) : Nat :=
  ds.foldl (fun acc c => acc * base + ((hexDigitValue c).getD 0)) 0

/-- The double nearest to `m · 10^e`. A value of more than 310 digits before the point is
infinite, and one below `10^-340` is zero, so the exact quotient is formed only for
exponents of moderate size. -/
def scaledDecimal (negative : Bool) (m : Nat) (digits : Nat) (e : Int) : Float :=
  if m = 0 then Decimal.nearestFloat negative 0 1
  else if digits + e > 310 then
    if negative then -(1.0 / 0.0) else 1.0 / 0.0
  else if digits + e < -340 then Decimal.nearestFloat negative 0 1
  else if e ≥ 0 then Decimal.nearestFloat negative (m * Nat.pow 10 e.toNat) 1
  else Decimal.nearestFloat negative m (Nat.pow 10 e.natAbs)

/-- The value of a float's text (the grammar already checked): a sign, integer digits, an
optional fraction and an optional exponent, underscores apart. -/
def floatValue (text : List Char) : Float :=
  let text := text.filter (· ≠ '_')
  let (negative, body) := match text with
    | '-' :: rest => (true, rest)
    | '+' :: rest => (false, rest)
    | _ => (false, text)
  let intDigits := body.takeWhile Char.isDigit
  let rest := body.drop intDigits.length
  let (fracDigits, rest) := match rest with
    | '.' :: more => (more.takeWhile Char.isDigit, more.dropWhile Char.isDigit)
    | _ => ([], rest)
  let expo : Int := match rest with
    | _ :: '-' :: ds => -(digitsValue 10 ds : Int)
    | _ :: '+' :: ds => digitsValue 10 ds
    | _ :: ds => digitsValue 10 ds
    | [] => 0
  let ds := (intDigits ++ fracDigits).dropWhile (· = '0')
  scaledDecimal negative (digitsValue 10 ds) ds.length (expo - fracDigits.length)

/-- The value of the two digits at `i`, if two digits stand there. -/
def twoDigits (cs : Array Char) (i : Nat) : Option Nat :=
  match cs[i]?, cs[i + 1]? with
  | some a, some b =>
    if a.isDigit && b.isDigit then some ((a.toNat - '0'.toNat) * 10 + (b.toNat - '0'.toNat))
    else none
  | _, _ => none

/-- Read a two-digit field of a date or a time at `p`, which must lie in `lo ..= hi`; a fault
is reported at `p` under the name of what is being read. -/
def dateField (cs : Array Char) (p lo hi : Nat) (what : String) : Except Miss Nat :=
  match twoDigits cs p with
  | none => .error (.broken ⟨⟨p, p⟩, "invalid " ++ what⟩)
  | some v =>
    if lo ≤ v && v ≤ hi then .ok v
    else .error (.broken ⟨⟨p, p⟩, "invalid " ++ what ++ "\nvalue is out of range"⟩)

/-- Require a character at `p`, or report a fault there under the name of what is being
read. -/
def dateMark (cs : Array Char) (p : Nat) (c : Char) (what : String) : Except Miss Unit :=
  if cs[p]? = some c then .ok () else .error (.broken ⟨⟨p, p⟩, "invalid " ++ what⟩)

/-- The number of days of a month in the Gregorian calendar. -/
def daysInMonth (year month : Nat) : Nat :=
  if month = 2 then
    if year % 4 = 0 && (year % 100 != 0 || year % 400 = 0) then 29 else 28
  else if month = 4 || month = 6 || month = 9 || month = 11 then 30
  else 31

/-- Whether a time of day starts at `p`: an hour in `00 ..= 23` and a colon. Anything else
is no time at all, so the reader tries the other kinds of value. -/
def timeStarts (cs : Array Char) (p : Nat) : Bool :=
  match twoDigits cs p with
  | some h => h ≤ 23 && cs[p + 2]? = some ':'
  | none => false

/-- Read the rest of a time of day that starts at `p`: minutes, seconds and an optional
fraction. Once the hour and its colon are read the time is committed, so a fault here is
reported under the name of what is being read. The result is the end of the time. -/
def timeEnd (cs : Array Char) (p : Nat) (what : String) : Except Miss Nat := do
  let _ ← dateField cs (p + 3) 0 59 what
  dateMark cs (p + 5) ':' what
  let _ ← dateField cs (p + 6) 0 60 what
  if cs[p + 8]? = some '.' && digitAt cs (p + 9) then pure (skipWhile Char.isDigit cs (p + 9))
  else pure (p + 8)

/-- Read an optional time offset at `p`: `Z`, or a sign, an hour and minutes. The result is
the end of the offset, `p` when there is none. -/
def offsetEnd (cs : Array Char) (p : Nat) : Except Miss Nat :=
  if cs[p]? = some 'Z' || cs[p]? = some 'z' then .ok (p + 1)
  else if signAt cs p then do
    let _ ← dateField cs (p + 1) 0 23 "time offset"
    dateMark cs (p + 3) ':' "time offset"
    let _ ← dateField cs (p + 4) 0 59 "time offset"
    pure (p + 6)
  else .ok p

/-- Read a date, a date with a time, or a time of day at `i`, kept as its text; `none` when
neither a date (four digits and a hyphen) nor a time (an hour and a colon) starts there.

A date is `YYYY-MM-DD` with a month in `01 ..= 12` and a day that the month has. A time
after it follows `T`, `t` or a blank, and may carry an offset; a time of day alone has
none. Once a date or a time has started, a malformed field is a fault of the value. -/
def readDateTime (cs : Array Char) (i : Nat) : Except Miss (Option (Toml × Nat)) := do
  if digitAt cs i && digitAt cs (i + 1) && digitAt cs (i + 2) && digitAt cs (i + 3) &&
      cs[i + 4]? = some '-' then
    let year := digitsValue 10 (slice cs i (i + 4))
    let month ← dateField cs (i + 5) 1 12 "date-time"
    dateMark cs (i + 7) '-' "date-time"
    let day ← dateField cs (i + 8) 1 31 "date-time"
    if day > daysInMonth year month then
      throw (.broken ⟨⟨i + 8, i + 8⟩, "invalid date-time\nvalue is out of range"⟩)
    let j := i + 10
    let e ← if (cs[j]? = some 'T' || cs[j]? = some 't' || cs[j]? = some ' ') &&
        timeStarts cs (j + 1) then do
        offsetEnd cs (← timeEnd cs (j + 1) "date-time")
      else pure j
    pure (some (.datetime (String.ofList (slice cs i e)) ⟨i, e⟩, e))
  else if timeStarts cs i then
    let e ← timeEnd cs i "time"
    pure (some (.datetime (String.ofList (slice cs i e)) ⟨i, e⟩, e))
  else pure none

/-- Read `inf` or `nan` after an optional sign at `i`. -/
def readSpecialFloat (cs : Array Char) (i : Nat) : Option (Toml × Nat) :=
  let negative := cs[i]? = some '-'
  let k := if signAt cs i then i + 1 else i
  if slice cs k (k + 3) = ['i', 'n', 'f'] then
    some (.float (if negative then -(1.0 / 0.0) else 1.0 / 0.0) ⟨i, k + 3⟩, k + 3)
  else if slice cs k (k + 3) = ['n', 'a', 'n'] then
    let nan : Float := 0.0 / 0.0
    some (.float (if negative then -nan else nan) ⟨i, k + 3⟩, k + 3)
  else none

/-- Read an integer with a base prefix at `i`, whose digits start at `i + 2`. -/
def readPrefixed (cs : Array Char) (i : Nat) (base : Nat) (label : String)
    (isDigitOf : Char → Bool) : Except TomlError (Toml × Nat) :=
  if !(cs[i + 2]?.map isDigitOf).getD false then failAt (i + 2) ("invalid " ++ label)
  else
    match digitRun isDigitOf cs (i + 3) with
    | .error p => failAt p ("invalid " ++ label ++ "\nexpected digit")
    | .ok e =>
      let v := digitsValue base ((slice cs (i + 2) e).filter (· ≠ '_'))
      if v < Nat.pow 2 63 then .ok (.int v ⟨i, e⟩, e)
      else failAt i "number too large to fit in target type"

/-- Read a decimal integer whose text spans `i` to `e`, as 64 bits. -/
def readDecimal (cs : Array Char) (i e : Nat) : Except TomlError (Toml × Nat) :=
  let text := (slice cs i e).filter (· ≠ '_')
  let negative := text.head? = some '-'
  let v := digitsValue 10 (text.filter Char.isDigit)
  if negative then
    if v ≤ Nat.pow 2 63 then .ok (.int (-(v : Int)) ⟨i, e⟩, e)
    else failAt i "number too small to fit in target type"
  else if v < Nat.pow 2 63 then .ok (.int v ⟨i, e⟩, e)
  else failAt i "number too large to fit in target type"

/-- Read a number, a date or a time at `i`, where a sign or a digit stands. -/
def readNumber (cs : Array Char) (i : Nat) : Except Miss (Toml × Nat) := do
  if let some r ← readDateTime cs i then return r
  match ← committed (decimalEnd cs i) with
  | none =>
    match readSpecialFloat cs i with
    | some r => pure r
    | none => .error (.absent ⟨⟨i + 1, i + 1⟩, "invalid integer"⟩)
  | some e =>
    match ← committed (floatEnd cs e) with
    | some f =>
      let v := floatValue (slice cs i f)
      if v == 1.0 / 0.0 then .error (.broken ⟨⟨i, i⟩, "invalid floating-point number"⟩)
      else pure (.float v ⟨i, f⟩, f)
    | none =>
      if cs[i]? = some '0' && cs[i + 1]? = some 'x' then
        committed (readPrefixed cs i 16 "hexadecimal integer" (hexDigitValue · |>.isSome))
      else if cs[i]? = some '0' && cs[i + 1]? = some 'o' then
        committed (readPrefixed cs i 8 "octal integer" fun c => '0' ≤ c && c ≤ '7')
      else if cs[i]? = some '0' && cs[i + 1]? = some 'b' then
        committed (readPrefixed cs i 2 "binary integer" fun c => c = '0' || c = '1')
      else committed (readDecimal cs i e)

end Catalog.Config
