import Catalog.Json.Value
import Catalog.Error

/-!
# Replies of the console

The console answers every request with one JSON object: `{"result": value}` when it
succeeds, `{"error": kind, "message": text}` when the library fails, and the kind
`DriverInput` when the request itself cannot be carried out (a required field is missing,
an operation is unknown). This module holds that envelope and the readers of request
fields, each with the default that an absent field takes.
-/

namespace Catalog.Console

/-- Why a request got no result. -/
inductive Fault where
  /-- The library failed. -/
  | library (e : Error)
  /-- The request cannot be carried out as written. -/
  | request (message : String)
  deriving Inhabited

/-- The outcome of one request or step. -/
abbrev Reply := Except Fault Json

/-- Lift a library outcome into a reply computation. -/
def lift {α : Type} : Outcome α → Except Fault α
  | .ok a => .ok a
  | .error e => .error (.library e)

/-- Refuse a request with a message. -/
def refuse {α : Type} (message : String) : Except Fault α :=
  .error (.request message)

/-- The JSON envelope of a reply. -/
def envelope : Reply → Json
  | .ok v => Json.object [("result", v)]
  | .error (.library e) => Json.object [("error", .str e.kind), ("message", .str e.message)]
  | .error (.request m) => Json.object [("error", .str "DriverInput"), ("message", .str m)]

/-! ## Fields of a request -/

/-- A required string field. -/
def needStr (j : Json) (key : String) : Except Fault String :=
  match j.get? key with
  | some (.str s) => .ok s
  | _ => refuse ("missing string field '" ++ key ++ "'")

/-- A required integer field, a signed 64-bit word. -/
def needInt (j : Json) (key : String) : Except Fault Int :=
  match (j.get? key).bind Json.asI64? with
  | some n => .ok n
  | none => refuse ("missing integer field '" ++ key ++ "'")

/-- A required field of any kind. -/
def needField (j : Json) (key : String) : Except Fault Json :=
  match j.get? key with
  | some (.null) => refuse ("missing field '" ++ key ++ "'")
  | some v => .ok v
  | none => refuse ("missing field '" ++ key ++ "'")

/-- An optional string field. -/
def optStr (j : Json) (key : String) : Option String :=
  match j.get? key with
  | some (.str s) => some s
  | _ => none

/-- A string field with a default. -/
def strOr (j : Json) (key : String) (default : String) : String :=
  (optStr j key).getD default

/-- An optional integer field, a signed 64-bit word; any other value counts as absent. -/
def optInt (j : Json) (key : String) : Option Int :=
  (j.get? key).bind Json.asI64?

/-- An integer field with a default. -/
def intOr (j : Json) (key : String) (default : Int) : Int :=
  (optInt j key).getD default

/-- An optional count field, an unsigned 64-bit word; any other value counts as absent. -/
def optCount (j : Json) (key : String) : Option Nat :=
  (j.get? key).bind Json.asU64?

/-- A count field with a default. -/
def countOr (j : Json) (key : String) (default : Nat) : Nat :=
  (optCount j key).getD default

/-- A boolean field, false when absent. -/
def flag (j : Json) (key : String) : Bool :=
  match j.get? key with
  | some (.bool b) => b
  | _ => false

/-- The items of an array field, none when absent. -/
def items (j : Json) (key : String) : List Json :=
  match j.get? key with
  | some (.arr xs) => xs
  | _ => []

/-- The strings of an array field; other items are dropped. -/
def strList (j : Json) (key : String) : List String :=
  (items j key).filterMap Json.asString?

/-- The integers of an array field that fit a signed 64-bit word; other items are
dropped. -/
def intList (j : Json) (key : String) : List Int :=
  (items j key).filterMap Json.asI64?

/-- The counts of an array field that fit an unsigned 64-bit word; other items are
dropped. -/
def countList (j : Json) (key : String) : List Nat :=
  (items j key).filterMap Json.asU64?

/-- Whether a field is present with a value other than `null`. -/
def has (j : Json) (key : String) : Bool :=
  match j.get? key with
  | some .null => false
  | some _ => true
  | none => false

end Catalog.Console
