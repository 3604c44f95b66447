import Catalog.Record.Basic

/-!
# Parsed records

Matching reads a record's payload as a table of fields: the payload's `fields` object maps
each field name (such as `020a`) to a string or an array of strings. A string is one value;
of an array only the strings count; any other value, and a field left without values, is
dropped. A payload without a `fields` object has no fields.
-/

namespace Catalog.Matching

/-- A stored record's id with its fields, sorted by name, each with its values in order. -/
structure ParsedRecord where
  id : Int
  fields : List (String × List String)
  deriving Repr, Inhabited

/-- The string values of one field's JSON value. -/
def fieldValues : Json → List String
  | .str s => [s]
  | .arr items => items.filterMap Json.asString?
  | _ => []

/-- The fields of a payload. -/
def payloadFields (payload : Json) : List (String × List String) :=
  match payload.get? "fields" with
  | some (.obj members) =>
    members.filterMap fun (name, v) =>
      let vs := fieldValues v
      if vs.isEmpty then none else some (name, vs)
  | _ => []

/-- Read a stored record's fields; a record never stored is refused. -/
def ParsedRecord.ofRecord (r : Record) : Outcome ParsedRecord := do
  let id ← r.requireId
  pure ⟨id, payloadFields r.payload⟩

/-- The values of a field, none when the field is absent. -/
def ParsedRecord.values (p : ParsedRecord) (field : String) : List String :=
  (p.fields.lookup field).getD []

/-- Whether the record has no field. -/
def ParsedRecord.isEmpty (p : ParsedRecord) : Bool :=
  p.fields.isEmpty

end Catalog.Matching
