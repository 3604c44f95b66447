import Catalog.Data.Word

/-!
# JSON values

The values of the JSON data format, as the library reads and writes them. A number keeps the
kind it was read as: an integer within the 64-bit range stays an integer, and every other
number is a double. Object members are kept sorted by key, each key once, which is the order
in which objects are written.
-/

namespace Catalog

/-- A JSON value. -/
inductive Json where
  | null
  | bool (b : Bool)
  | int (n : Int)
  | float (f : Float)
  | str (s : String)
  | arr (items : List Json)
  | obj (members : List (String × Json))
  deriving Inhabited

namespace Json

/-- Insert a member into members sorted by key; a member of the same key is replaced. -/
def insertMember (k : String) (v : Json) : List (String × Json) → List (String × Json)
  | [] => [(k, v)]
  | (k', v') :: rest =>
    if k < k' then (k, v) :: (k', v') :: rest
    else if k = k' then (k, v) :: rest
    else (k', v') :: insertMember k v rest

/-- The object with the given members, sorted by key; of two members with one key the later
one stays. -/
def object (members : List (String × Json)) : Json :=
  .obj (members.foldl (fun acc m => insertMember m.1 m.2 acc) [])

/-- The member of an object with the given key. -/
def get? (j : Json) (key : String) : Option Json :=
  match j with
  | .obj members => members.lookup key
  | _ => none

/-- The string a value holds, if it is a string. -/
def asString? : Json → Option String
  | .str s => some s
  | _ => none

/-- The integer a value holds, if it is an integer. -/
def asInt? : Json → Option Int
  | .int n => some n
  | _ => none

/-- The integer a value holds, if it is an integer that fits a signed 64-bit word. -/
def asI64? : Json → Option Int
  | .int n => if Word.isSigned n then some n else none
  | _ => none

/-- The integer a value holds, if it is an integer that fits an unsigned 64-bit word. -/
def asU64? : Json → Option Nat
  | .int n => if Word.isUnsigned n then some n.toNat else none
  | _ => none

/-- The items of an array. -/
def asArray? : Json → Option (List Json)
  | .arr items => some items
  | _ => none

/-- The truth value a value holds, if it is a boolean. -/
def asBool? : Json → Option Bool
  | .bool b => some b
  | _ => none

/-- Whether a value is an object. -/
def isObject : Json → Bool
  | .obj _ => true
  | _ => false

/-- A string, or `null` for none. -/
def ofOptString : Option String → Json
  | some s => .str s
  | none => .null

/-- An integer, or `null` for none. -/
def ofOptInt : Option Int → Json
  | some n => .int n
  | none => .null

/-- An array of strings. -/
def ofStrings (xs : List String) : Json :=
  .arr (xs.map .str)

/-- An array of integers. -/
def ofInts (xs : List Int) : Json :=
  .arr (xs.map .int)

end Json

end Catalog
