/-!
# Instants

An instant is a number of milliseconds since 1970-01-01T00:00:00 UTC. The calendar reaches
from the year -262143 to the year 262142; an instant outside it is read as the epoch.
`rfc3339` writes an instant with a numeric offset and with milliseconds when there are any;
`rfc3339Seconds` writes whole seconds with the `Z` suffix.
-/

namespace Catalog.Time

/-- The first instant of the calendar: -262143-01-01T00:00:00. -/
def earliest : Int := -8334601228800000

/-- The last instant of the calendar: 262142-12-31T23:59:59.999. -/
def latest : Int := 8210266876799999

/-- An instant given in milliseconds, read as the epoch when outside the calendar. -/
def ofMillis (ms : Int) : Int :=
  if earliest ≤ ms && ms ≤ latest then ms else 0

/-- The civil date `(year, month, day)` of a day number counted from 1970-01-01. -/
def civilOfDays (z : Int) : Int × Nat × Nat :=
  let z := z + 719468
  let era := z / 146097
  let doe := z - era * 146097
  let yoe := (doe - doe / 1460 + doe / 36524 - doe / 146096) / 365
  let y := yoe + era * 400
  let doy := doe - (365 * yoe + yoe / 4 - yoe / 100)
  let mp := (5 * doy + 2) / 153
  let d := doy - (153 * mp + 2) / 5 + 1
  let m := if mp < 10 then mp + 3 else mp - 9
  ((if m ≤ 2 then y + 1 else y), m.toNat, d.toNat)

/-- A number written with at least `width` digits, zeros in front. -/
def padded (width : Nat) (n : Nat) : String :=
  let s := toString n
  String.ofList (List.replicate (width - s.length) '0') ++ s

/-- A year: four digits from 0 to 9999, otherwise a sign and at least four digits. -/
def yearText (y : Int) : String :=
  if 0 ≤ y && y ≤ 9999 then padded 4 y.toNat
  else (if y < 0 then "-" else "+") ++ padded 4 y.natAbs

/-- The date and the time of day of an instant, to the second, without offset. -/
def dateTimeText (ms : Int) : String :=
  let secs := ms.fdiv 1000
  let days := secs.fdiv 86400
  let sod := (secs - days * 86400).toNat
  let (y, m, d) := civilOfDays days
  yearText y ++ "-" ++ padded 2 m ++ "-" ++ padded 2 d ++ "T" ++ padded 2 (sod / 3600) ++ ":" ++
    padded 2 (sod / 60 % 60) ++ ":" ++ padded 2 (sod % 60)

/-- An instant in RFC 3339 form with offset `+00:00`, the milliseconds shown when not zero. -/
def rfc3339 (ms : Int) : String :=
  let ms := ofMillis ms
  let frac := (ms - ms.fdiv 1000 * 1000).toNat
  dateTimeText ms ++ (if frac = 0 then "" else "." ++ padded 3 frac) ++ "+00:00"

/-- An instant in RFC 3339 form in whole seconds with the suffix `Z`. -/
def rfc3339Seconds (ms : Int) : String :=
  dateTimeText (ofMillis ms) ++ "Z"

end Catalog.Time
