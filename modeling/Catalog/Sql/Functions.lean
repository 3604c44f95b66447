import Catalog.Sql.JsonText
import Catalog.Sql.Calendar

/-!
# The functions of single rows

Every function of single rows the dialect knows, with the numbers of arguments each takes:
the core functions on numbers, texts and byte strings, `printf` (also named `format`), the
date and time functions, and the JSON functions. A call of a JSON function passes each
argument with whether a JSON function made it: such an argument is JSON already, where any
other text would be a string.
-/

namespace Catalog.Sql

open Catalog

/-- The numbers of arguments a function of single rows takes (`none` for any number of at
least the first), or `none` for a function the dialect does not know. -/
def functionArity (name : String) : Option (Nat × Option Nat) :=
  match scalarArity name with
  | some a => some a
  | none =>
    if name == "printf" || name == "format" then some (0, none)
    else match calendarArity name with
      | some a => some a
      | none => jsonArity name

/-- Whether a call gives JSON: a call of a function that makes JSON, or `json_extract`
finding an array or an object. -/
def producesJson (e : Expr) (v : Value) : Bool :=
  match e with
  | .call name _ _ =>
    let lname := name.toLower
    jsonMakers.contains lname ||
      (lname == "json_extract" &&
        match v with
        | .text s => s.startsWith "[" || s.startsWith "\x7b"
        | _ => false)
  | _ => false

/-- A function of single rows applied to its arguments, at the clock's reading `clock` (in
milliseconds since 1970). -/
def callFunction (clock : Int) (name : String) (args : List JsonArg) :
    Except StoreFault Value :=
  if name == "printf" || name == "format" then pure (printf (args.map (·.value)))
  else if (calendarArity name).isSome then pure (callCalendar clock name (args.map (·.value)))
  else if (jsonArity name).isSome then callJson name args
  else callScalar name (args.map (·.value))

end Catalog.Sql
