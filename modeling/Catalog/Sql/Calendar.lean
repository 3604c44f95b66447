import Catalog.Sql.Printf
import Catalog.Time.Instant

/-!
# Dates and times in SQL

The functions `date`, `time`, `datetime`, `julianday`, `unixepoch`, `strftime` and
`timediff` read a moment from their first argument and change it by the modifiers after it.

A moment is held as a Julian day number in milliseconds (`jd`, counted from noon of
-4713-11-24) or as a calendar date and time of day, each computed from the other when it is
needed. The days from 0000-01-01 to 9999-12-31 are the range: a moment outside it gives
`null`, as does any text that is neither a moment nor a modifier.

A moment is written as `YYYY-MM-DD`, optionally followed (after blanks or a `T`) by a time
of day; as a time of day `HH:MM`, `HH:MM:SS` or `HH:MM:SS.SSS` (on 2000-01-01), with an
optional zone `Z` or `±HH:MM`; as `now`, the clock's reading; or as a number, a Julian day
unless a modifier reads it as seconds since 1970 (`unixepoch`) or by its size (`auto`).

The modifiers add or subtract an amount of seconds, minutes, hours, days, months or years
(`+N days`, the unit's `s` optional), a time of day (`±HH:MM[:SS[.SSS]]`) or a date and time
(`±YYYY-MM-DD[ HH:MM…]`); move to the start of the day, month or year, or to the next given
day of the week (`weekday N`, Sunday being 0); read a number (`unixepoch`, `julianday`,
`auto`, first only); or show fractions of a second (`subsec`). Adding months keeps the day
of the month, rolling into the next month where it is missing (`ceiling`), or back to the
last day of the month (`floor`). The clock's zone is UTC, so `localtime` and `utc` change
nothing.
-/

namespace Catalog.Sql

open Catalog Catalog.Decimal

/-- A moment being computed, as described in the module header. -/
structure Moment where
  jd : Int := 0
  validJD : Bool := false
  year : Int := 0
  month : Int := 0
  day : Int := 0
  validYMD : Bool := false
  hour : Int := 0
  minute : Int := 0
  /-- The seconds of the minute, in milliseconds. -/
  millis : Int := 0
  validHMS : Bool := false
  /-- A number read as the moment, before a modifier says what it counts. -/
  raw : Option Float := none
  /-- The zone's offset from UTC in minutes. -/
  zone : Int := 0
  validZone : Bool := false
  subsec : Bool := false
  /-- How many days `floor` moves back after months were added past a month's end. -/
  floorDays : Int := 0
  error : Bool := false
  deriving Inhabited

namespace Moment

/-- Whether a Julian day number in milliseconds lies in the range of the functions. -/
def validDay (jd : Int) : Bool :=
  0 ≤ jd && jd ≤ 464269060799999

/-- The integer part of a double, toward zero. -/
def cut (x : Float) : Int :=
  truncate x

/-- The Julian day number from the date and time. -/
def computeJD (p : Moment) : Moment :=
  if p.validJD then p else
  let (y, m, d) := if p.validYMD then (p.year, p.month, p.day) else (2000, 1, 1)
  if y < -4713 || y > 9999 || p.raw.isSome then { p with error := true } else
  let (y, m) := if m ≤ 2 then (y - 1, m + 12) else (y, m)
  let a := y.tdiv 100
  let b := 2 - a + a.tdiv 4
  let x1 := (36525 * (y + 4716)).tdiv 100
  let x2 := (306001 * (m + 1)).tdiv 10000
  -- (x1 + x2 + d + b - 1524.5) * 86400000, exactly
  let jd := (x1 + x2 + d + b - 1524) * 86400000 - 43200000
  let p := { p with jd, validJD := true }
  if p.validHMS then
    let jd := p.jd + p.hour * 3600000 + p.minute * 60000 + p.millis
    if p.validZone then
      { p with jd := jd - p.zone * 60000, validYMD := false, validHMS := false,
               validZone := false }
    else { p with jd }
  else p

/-- The calendar date from the Julian day number. -/
def computeYMD (p : Moment) : Moment :=
  if p.validYMD then p
  else if !p.validJD then { p with year := 2000, month := 1, day := 1, validYMD := true }
  else if !validDay p.jd then { p with error := true }
  else
    let z := (p.jd + 43200000) / 86400000
    let a := (4 * z - 7468865).tdiv 146097
    let a := z + 1 + a - a.tdiv 4
    let b := a + 1524
    let c := (20 * b - 2442).tdiv 7305
    let d := (36525 * (c % 32768)).tdiv 100
    let e := ((b - d) * 10000).tdiv 306001
    let x1 := (306001 * e).tdiv 10000
    let day := b - d - x1
    let month := if e < 14 then e - 1 else e - 13
    let year := if month > 2 then c - 4716 else c - 4715
    { p with year, month, day, validYMD := true }

/-- The time of day from the Julian day number. -/
def computeHMS (p : Moment) : Moment :=
  if p.validHMS then p else
  let p := p.computeJD
  let dayMs := (p.jd + 43200000) % 86400000
  let dayMin := dayMs / 60000
  { p with millis := dayMs % 60000, minute := dayMin % 60, hour := dayMin / 60, raw := none,
           validHMS := true }

/-- Both the date and the time of day. -/
def computeAll (p : Moment) : Moment :=
  p.computeYMD.computeHMS

/-- Forget the date, the time of day and the zone, keeping the day number. -/
def clearFields (p : Moment) : Moment :=
  { p with validYMD := false, validHMS := false, zone := 0, validZone := false }

/-- How many days `floor` moves back from the day of the month. -/
def computeFloor (p : Moment) : Moment :=
  let m := p.month
  let n :=
    if p.day ≤ 28 then 0
    else if m == 1 || m == 3 || m == 5 || m == 7 || m == 8 || m == 10 || m == 12 then 0
    else if m != 2 then (if p.day == 31 then 1 else 0)
    else if p.year % 4 != 0 || (p.year % 100 == 0 && p.year % 400 != 0) then p.day - 28
    else p.day - 29
  { p with floorDays := n }

/-- A number read as a moment: a Julian day when it lies in their range. -/
def ofNumber (r : Float) : Moment :=
  let p : Moment := { raw := some r }
  if r ≥ 0.0 && r < 5373484.5 then { p with jd := Moment.cut (r * 86400000.0 + 0.5), validJD := true }
  else p

end Moment

/-! ## Reading moments -/

/-- The maximum of a field of `getDigits`, by its letter. -/
def fieldMax : Char → Nat
  | 'a' => 12
  | 'b' => 14
  | 'c' => 24
  | 'd' => 31
  | 'e' => 59
  | _ => 14712

/-- Read fixed-width fields of digits, each `(width, least, greatest letter, separator)`:
the values read before the first that fails, and the text after the last one read. -/
def readFields : List (Nat × Nat × Char × Option Char) → List Char → List Nat × List Char
  | [], cs => ([], cs)
  | (width, least, most, sep) :: rest, cs =>
    let ds := cs.take width
    if ds.length < width || !ds.all Char.isDigit then ([], cs) else
    let v := digitsValue ds
    let after := cs.drop width
    if v < least || v > fieldMax most then ([], cs) else
    match sep with
    | none => ([v], after)
    | some c =>
      match after with
      | x :: more =>
        if x == c then
          let (vs, r) := readFields rest more
          (v :: vs, r)
        else ([], cs)
      | [] => ([], cs)

/-- Whether a character is a blank, as the calendar reads text. -/
def isCalendarBlank (c : Char) : Bool :=
  c == ' ' || c == '\t' || c == '\n' || c == '\r' || c.toNat == 11 || c.toNat == 12

/-- A zone after a time of day: `Z`, `±HH:MM` or nothing, with blanks around; the moment
with it, or none when text is left. -/
def readZone (p : Moment) (cs : List Char) : Option Moment :=
  let cs := cs.dropWhile isCalendarBlank
  match cs with
  | [] => some { p with zone := 0 }
  | c :: rest =>
    if c == 'Z' || c == 'z' then
      if (rest.dropWhile isCalendarBlank).isEmpty then some { p with zone := 0 } else none
    else if c == '-' || c == '+' then
      match readFields [(2, 0, 'b', some ':'), (2, 0, 'e', none)] rest with
      | ([h, m], after) =>
        if (after.dropWhile isCalendarBlank).isEmpty then
          some { p with zone := (if c == '-' then -1 else 1) * (m + h * 60 : Nat) }
        else none
      | _ => none
    else none

/-- A time of day `HH:MM[:SS[.SSS…]]` with an optional zone. -/
def readTime (p : Moment) (cs : List Char) : Option Moment :=
  match readFields [(2, 0, 'c', some ':'), (2, 0, 'e', none)] cs with
  | ([h, m], after) =>
    let (millis, after) : Int × List Char :=
      match after with
      | ':' :: more =>
        match readFields [(2, 0, 'e', none)] more with
        | ([s], after) =>
          match after with
          | '.' :: d :: frac =>
            if d.isDigit then
              let ds := d :: frac.takeWhile Char.isDigit
              let rest := frac.drop (ds.length - 1)
              -- the fraction rounded half up to milliseconds
              let num := digitsValue ds
              let den := Nat.pow 10 ds.length
              let ms := (2 * num * 1000 + den) / (2 * den)
              ((s * 1000 + ms : Nat), rest)
            else ((s * 1000 : Nat), after)
          | _ => ((s * 1000 : Nat), after)
        | _ => (-1, after)
      | _ => (0, after)
    if millis < 0 then none else
    let p := { p with validJD := false, raw := none, validHMS := true, hour := h, minute := m,
                      millis }
    (readZone p after).map fun q => { q with validZone := q.zone != 0 }
  | _ => none

/-- A date `YYYY-MM-DD` (a `-` in front for years before 0), optionally followed by a time
of day after blanks or a `T`. -/
def readDate (cs : List Char) : Option Moment :=
  let (neg, cs) := match cs with
    | '-' :: rest => (true, rest)
    | rest => (false, rest)
  match readFields [(4, 0, 'f', some '-'), (2, 1, 'a', some '-'), (2, 1, 'd', none)] cs with
  | ([y, m, d], after) =>
    let after := after.dropWhile fun c => isCalendarBlank c || c == 'T'
    let base : Moment := {}
    let timed := if after.isEmpty then some base else readTime base after
    timed.map fun p =>
      let p := { p with validJD := false, validYMD := true, year := if neg then -(y : Int) else y,
                        month := m, day := d }
      if p.validZone then p.computeJD else p
  | _ => none

/-- The moment a text stands for, at the clock's reading `now` (a Julian day in
milliseconds). -/
def readMoment (now : Int) (s : String) : Option Moment :=
  let cs := s.toList
  match readDate cs with
  | some p => some p
  | none =>
    match readTime {} cs with
    | some p => some p
    | none =>
      let lower := s.toLower
      if lower == "now" then some { jd := now, validJD := true }
      else match numberOf? s with
        | some v => some (Moment.ofNumber v.asReal)
        | none =>
          if lower == "subsec" || lower == "subsecond" then
            some { jd := now, validJD := true, subsec := true }
          else none

/-! ## Modifiers -/

/-- The units of an amount, with the largest amount each takes and its length in
seconds. -/
def timeUnits : List (String × Float × Float) :=
  [("second", 4.6427e14, 1.0), ("minute", 7.7379e12, 60.0), ("hour", 1.2897e11, 3600.0),
    ("day", 5373485.0, 86400.0), ("month", 176546.0, 2592000.0), ("year", 14713.0, 31536000.0)]

/-- Months added to a date, the year carried. -/
def addMonths (p : Moment) (k : Int) : Moment :=
  let m := p.month + k
  let x := if m > 0 then (m - 1).tdiv 12 else (m - 12).tdiv 12
  { p with year := p.year + x, month := m - x * 12 }

/-- Apply `±N unit` where `r` is the signed amount and `unit` the name after it. -/
def addAmount (p : Moment) (r : Float) (unit : String) : Option Moment :=
  let n := unit.length
  if n < 3 || n > 10 then none else
  let unit := (if unit.toLower.endsWith "s" then unit.toLower.dropEnd 1 else unit.toLower).toString
  let p := p.computeJD
  let rounder := if r < 0.0 then -0.5 else 0.5
  match timeUnits.find? fun (name, limit, _) => name == unit && r > -limit && r < limit with
  | none => none
  | some (name, _, xform) =>
    let p := { p with floorDays := 0 }
    let (p, r) :=
      if name == "month" then
        let q := (addMonths p.computeAll (Moment.cut r)).computeFloor
        ({ q with validJD := false }, r - floatOfInt (Moment.cut r))
      else if name == "year" then
        let q := p.computeAll
        let q := { q with year := q.year + Moment.cut r }.computeFloor
        ({ q with validJD := false }, r - floatOfInt (Moment.cut r))
      else (p, r)
    let p := p.computeJD
    some { p with jd := p.jd + Moment.cut (r * 1000.0 * xform + rounder) }.clearFields

/-- Apply a modifier that starts with a sign or a digit. -/
def shiftBy (p : Moment) (z : List Char) : Option Moment := do
  let sign := z.head?.getD '+'
  -- the number runs to a colon, a blank, or the dash of a date
  let rec numberEnd : Nat → List Char → Nat
    | n, [] => n
    | n, c :: rest =>
      if c == ':' || isCalendarBlank c then n
      else if c == '-' && n == 5 && (readFields [(4, 0, 'f', none)] (z.drop 1)).1.length == 1 then n
      else if c == '-' && n == 6 && (readFields [(5, 0, 'f', none)] (z.drop 1)).1.length == 1 then n
      else numberEnd (n + 1) rest
  let n := numberEnd 1 (z.drop 1)
  let r ← (numberOf? (String.ofList (z.take n))).map Value.asReal
  let rest := z.drop n
  match rest with
  | '-' :: _ =>
    if sign != '+' && sign != '-' then none
    let body := z.drop 1
    let (fields, after) :=
      if n == 5 then readFields [(4, 0, 'f', some '-'), (2, 0, 'a', some '-'), (2, 0, 'd', none)] body
      else readFields [(5, 0, 'f', some '-'), (2, 0, 'a', some '-'), (2, 0, 'd', none)] body
    let [y, m, d] := fields | none
    if m ≥ 12 || d ≥ 31 then none
    let q := { p.computeAll with validJD := false }
    let (q, dd) : Moment × Int :=
      if sign == '-' then ({ q with year := q.year - y, month := q.month - m }, -(d : Int))
      else ({ q with year := q.year + y, month := q.month + m }, d)
    let q := (addMonths q 0).computeFloor.computeJD
    let q := { q with validHMS := false, validYMD := false, jd := q.jd + dd * 86400000 }
    match after with
    | [] => some q
    | c :: time =>
      if isCalendarBlank c then
        match readFields [(2, 0, 'c', some ':'), (2, 0, 'e', none)] time with
        | ([_, _], _) => shiftTime q sign time
        | _ => none
      else none
  | ':' :: _ => shiftTime p sign (if (z.head?.map Char.isDigit).getD false then z else z.drop 1)
  | _ => addAmount p r (String.ofList (rest.dropWhile isCalendarBlank))
where
  /-- Add or subtract a time of day `HH:MM[:SS[.SSS]]`. -/
  shiftTime (p : Moment) (sign : Char) (time : List Char) : Option Moment := do
    let t ← readTime {} time
    let t := t.computeJD
    let ms := t.jd - 43200000
    let ms := ms - (ms.tdiv 86400000) * 86400000
    let ms := if sign == '-' then -ms else ms
    let p := p.computeJD.clearFields
    some { p with jd := p.jd + ms }

/-- Apply one modifier; `first` tells whether it comes right after the moment. -/
def applyModifier (first : Bool) (p : Moment) (text : String) : Option Moment :=
  let lower := text.toLower
  let z := text.toList
  match z.head? with
  | none => none
  | some c0 =>
  if c0 == '+' || c0 == '-' || c0.isDigit then shiftBy p z
  else if lower == "auto" then
    if !first then none
    else match p.raw with
      | none => some p
      | some s =>
        if p.validJD then some { p with raw := none }
        else if s ≥ -210866760000.0 && s ≤ 253402300799.0 then
          let r := s * 1000.0 + 210866760000000.0
          some { p.clearFields with jd := Moment.cut (r + 0.5), validJD := true, raw := none }
        else none
  else if lower == "ceiling" then
    some { p.computeJD.clearFields with floorDays := 0 }
  else if lower == "floor" then
    let q := p.computeJD
    some { q with jd := q.jd - q.floorDays * 86400000 }.clearFields
  else if lower == "julianday" then
    if !first then none
    else if p.validJD && p.raw.isSome then some { p with raw := none } else none
  else if lower == "localtime" || lower == "utc" then some p
  else if lower == "unixepoch" then
    match p.raw with
    | some s =>
      if !first then none else
      let r := s * 1000.0 + 210866760000000.0
      if r ≥ 0.0 && r < 464269060800000.0 then
        some { p.clearFields with jd := Moment.cut (r + 0.5), validJD := true, raw := none }
      else none
    | none => none
  else if lower.startsWith "weekday " then
    match numberOf? (lower.drop 8).toString with
    | some v =>
      let r := v.asReal
      if r ≥ 0.0 && r < 7.0 && floatOfInt (Moment.cut r) == r then
        let n := Moment.cut r
        let q := { p.computeAll with zone := 0, validJD := false }.computeJD
        let z := ((q.jd + 129600000) / 86400000) % 7
        let z := if z > n then z - 7 else z
        some { q with jd := q.jd + (n - z) * 86400000 }.clearFields
      else none
    | none => none
  else if lower.startsWith "start of " then
    if !p.validJD && !p.validYMD && !p.validHMS then none else
    let q := p.computeYMD
    let q := { q with validHMS := true, hour := 0, minute := 0, millis := 0, raw := none,
                      zone := 0, validJD := false }
    let what := (lower.drop 9).toString
    if what == "month" then some { q with day := 1 }
    else if what == "year" then some { q with month := 1, day := 1 }
    else if what == "day" then some q
    else none
  else if lower == "subsec" || lower == "subsecond" then some { p with subsec := true }
  else none

/-- The moment the arguments of a date function give, or none when they give none. -/
def momentOf (now : Int) (args : List Value) : Option Moment := do
  let p ← match args with
    | [] => some { jd := now, validJD := true }
    | v :: _ =>
      match v with
      | .integer _ | .real _ => some (Moment.ofNumber v.asReal)
      | .null => none
      | _ => readMoment now v.asText
  let mods := args.drop 1
  let (p, _) ← mods.foldlM (fun (p, first) m => do
      let text ← m.asText?
      let q ← applyModifier first p text
      pure (q, false)) (p, true)
  let p := p.computeJD
  if p.error || !Moment.validDay p.jd then none
  else if args.length == 1 && p.validYMD && p.day > 28 then some { p with validYMD := false }
  else some p

/-! ## Writing moments -/

/-- A number with at least two digits. -/
def two (n : Int) : String :=
  (if n < 10 && n ≥ 0 then "0" else "") ++ toString n

/-- The year of a moment with four digits, a `-` in front for years before 0. -/
def yearDigits (y : Int) : String :=
  (if y < 0 then "-" else "") ++ Time.padded 4 (y.natAbs % 10000)

/-- `YYYY-MM-DD`. -/
def Moment.dateText (p : Moment) : String :=
  yearDigits p.year ++ "-" ++ two (p.month % 100) ++ "-" ++ two (p.day % 100)

/-- `HH:MM:SS`, with milliseconds under `subsec`. -/
def Moment.timeText (p : Moment) : String :=
  two p.hour ++ ":" ++ two p.minute ++ ":" ++
    (if p.subsec then
      two (p.millis / 1000) ++ "." ++ Time.padded 3 (p.millis % 1000).toNat
    else two (p.millis / 1000))

/-- The days from the first of January of a moment's year. -/
def Moment.dayOfYear (p : Moment) : Int :=
  let jan := ({ p with validJD := false, month := 1, day := 1 } : Moment).computeJD
  (p.jd - jan.jd + 43200000) / 86400000

/-- The days since the last Monday. -/
def Moment.afterMonday (p : Moment) : Int :=
  ((p.jd + 43200000) / 86400000) % 7

/-- The days since the last Sunday. -/
def Moment.afterSunday (p : Moment) : Int :=
  ((p.jd + 129600000) / 86400000) % 7

/-- The Thursday of a moment's week, whose year is the year of the week. -/
def Moment.thursday (p : Moment) : Moment :=
  ({ p with jd := p.jd + (3 - p.afterMonday) * 86400000, validYMD := false } : Moment).computeYMD

/-- A double with at most sixteen significant digits, as `%.16g` writes it. -/
def sixteenDigits (x : Float) : String :=
  match printf [.text "%.16g", .real x] with
  | .text s => s
  | _ => ""

/-- A double with three digits after the point, as `%.3f` writes it. -/
def threeDecimals (x : Float) : String :=
  match printf [.text "%.3f", .real x] with
  | .text s => s
  | _ => ""

/-- The seconds since 1970 of a moment. -/
def Moment.unixSeconds (p : Moment) : Int :=
  p.jd.tdiv 1000 - 210866760000

/-- `strftime`: a moment written by a format; none for an unknown conversion. -/
def strftimeText (p : Moment) : List Char → Option String
  | [] => some ""
  | '%' :: c :: rest => do
    let piece ← match c with
      | 'd' => some (two p.day)
      | 'e' => some ((if p.day < 10 then " " else "") ++ toString p.day)
      | 'f' =>
        let ms := min p.millis 59999
        some (two (ms / 1000) ++ "." ++ Time.padded 3 (ms % 1000).toNat)
      | 'F' => some (yearDigits p.year ++ "-" ++ two p.month ++ "-" ++ two p.day)
      | 'G' => some (yearDigits p.thursday.year)
      | 'g' => some (two (p.thursday.year % 100))
      | 'H' => some (two p.hour)
      | 'k' => some ((if p.hour < 10 then " " else "") ++ toString p.hour)
      | 'I' | 'l' =>
        let h := if p.hour > 12 then p.hour - 12 else p.hour
        let h := if h == 0 then 12 else h
        some (if c == 'I' then two h else (if h < 10 then " " else "") ++ toString h)
      | 'j' => some (Time.padded 3 (p.dayOfYear + 1).toNat)
      | 'J' => some (sixteenDigits (floatOfInt p.jd / 86400000.0))
      | 'm' => some (two p.month)
      | 'M' => some (two p.minute)
      | 'p' => some (if p.hour ≥ 12 then "PM" else "AM")
      | 'P' => some (if p.hour ≥ 12 then "pm" else "am")
      | 'R' => some (two p.hour ++ ":" ++ two p.minute)
      | 's' =>
        if p.subsec then some (threeDecimals (floatOfInt (p.jd - 210866760000000) / 1000.0))
        else some (toString p.unixSeconds)
      | 'S' => some (two (p.millis / 1000))
      | 'T' => some (two p.hour ++ ":" ++ two p.minute ++ ":" ++ two (p.millis / 1000))
      | 'u' => some (toString (if p.afterSunday == 0 then 7 else p.afterSunday))
      | 'w' => some (toString p.afterSunday)
      | 'U' => some (two ((p.dayOfYear - p.afterSunday + 7) / 7))
      | 'V' => some (two (p.thursday.dayOfYear / 7 + 1))
      | 'W' => some (two ((p.dayOfYear - p.afterMonday + 7) / 7))
      | 'Y' => some (yearDigits p.year)
      | '%' => some "%"
      | _ => none
    let tail ← strftimeText p rest
    pure (piece ++ tail)
  | ['%'] => none
  | c :: rest => (strftimeText p rest).map (c.toString ++ ·)

/-- `timediff`: the years, months, days and time from the second moment to the first, as
`±YYYY-MM-DD HH:MM:SS.SSS`. -/
def timeDiff (a b : Moment) : String :=
  let d1 := a.computeAll
  let d2 := b.computeAll
  let later := d1.jd ≥ d2.jd
  let y := if later then d1.year - d2.year else d2.year - d1.year
  let d2 := if y != 0 then ({ d2 with year := d1.year, validJD := false } : Moment).computeJD else d2
  let m := if later then d1.month - d2.month else d2.month - d1.month
  let (y, m) := if m < 0 then (y - 1, m + 12) else (y, m)
  let d2 := if m != 0 then ({ d2 with month := d1.month, validJD := false } : Moment).computeJD else d2
  let step (s : Int × Int × Moment) : Int × Int × Moment :=
    let (y, m, d2) := s
    let (y, m) := if m - 1 < 0 then (y - 1, 11) else (y, m - 1)
    let d2 :=
      if later then
        if d2.month - 1 < 1 then { d2 with month := 12, year := d2.year - 1 }
        else { d2 with month := d2.month - 1 }
      else
        if d2.month + 1 > 12 then { d2 with month := 1, year := d2.year + 1 }
        else { d2 with month := d2.month + 1 }
    (y, m, ({ d2 with validJD := false } : Moment).computeJD)
  let rec settle : Nat → Int × Int × Moment → Int × Int × Moment
    | 0, s => s
    | n + 1, s =>
      let (_, _, d2) := s
      if (later && d1.jd < d2.jd) || (!later && d1.jd > d2.jd) then settle n (step s) else s
  let (y, m, d2) := settle 24 (y, m, d2)
  let span := if later then d1.jd - d2.jd else d2.jd - d1.jd
  let r := ({ jd := span + 148699540800000, validJD := true } : Moment).computeAll
  (if later then "+" else "-") ++ Time.padded 4 y.natAbs ++ "-" ++ two m ++ "-" ++
    two (r.day - 1) ++ " " ++ two r.hour ++ ":" ++ two r.minute ++ ":" ++
    two (r.millis / 1000) ++ "." ++ Time.padded 3 (r.millis % 1000).toNat

/-- The date and time functions, with the numbers of arguments they take. -/
def calendarArity : String → Option (Nat × Option Nat)
  | "date" | "time" | "datetime" | "julianday" | "unixepoch" => some (0, none)
  | "strftime" => some (0, none)
  | "timediff" => some (2, some 2)
  | _ => none

/-- A date and time function applied to its arguments, at the clock's reading `clock` (in
milliseconds since 1970). -/
def callCalendar (clock : Int) (name : String) (args : List Value) : Value :=
  let now := clock + 210866760000000
  match name with
  | "strftime" =>
    match args with
    | [] => .null
    | fmt :: rest =>
      match fmt.asText?, momentOf now rest with
      | some f, some p => ((strftimeText p.computeAll f.toList).map Value.text).getD .null
      | _, _ => .null
  | "timediff" =>
    match momentOf now (args.take 1), momentOf now (args.drop 1) with
    | some a, some b => .text (timeDiff a b)
    | _, _ => .null
  | _ =>
    match momentOf now args with
    | none => .null
    | some p =>
      let p := p.computeAll
      match name with
      | "date" => .text p.dateText
      | "time" => .text p.timeText
      | "datetime" => .text (p.dateText ++ " " ++ p.timeText)
      | "julianday" => .real (floatOfInt p.jd / 86400000.0)
      | "unixepoch" =>
        if p.subsec then .real (floatOfInt (p.jd - 210866760000000) / 1000.0)
        else .integer p.unixSeconds
      | _ => .null

end Catalog.Sql
