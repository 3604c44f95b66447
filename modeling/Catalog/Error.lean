/-!
# Errors

Every failure of the library is a value of `Catalog.Error`, named for its cause; the text
shown for it is `Catalog.Error.message`. Failures of the record store carry a
`Catalog.StoreFault`, the constraint or statement that the store refused.
-/

namespace Catalog

/-- Why the record store refused a statement. -/
inductive StoreFault where
  /-- A row would repeat the value of these unique columns (`table.column`). -/
  | unique (columns : List String)
  /-- A row would repeat the primary key made of these columns (`table.column`). -/
  | primaryKey (columns : List String)
  /-- A row would leave this column (`table.column`) without a value. -/
  | notNull (column : String)
  /-- A row would break the named check. -/
  | check (name : String)
  /-- A row would refer to a missing row of another table. -/
  | foreignKey
  /-- A row id would be something other than an integer. -/
  | mismatch
  /-- A script has a statement the store cannot read, near the given token. -/
  | syntaxError (near : String)
  /-- A script ends inside a statement. -/
  | incompleteInput
  /-- A script has text that is no token, shown as written. -/
  | unrecognizedToken (text : String)
  /-- A statement names a table that does not exist. -/
  | noSuchTable (name : String)
  /-- A statement names a column that no table in reach has. -/
  | noSuchColumn (name : String)
  /-- A script creates a table that exists already. -/
  | tableExists (name : String)
  /-- A trigger refused the change with `RAISE` and this message. -/
  | raised (message : String)
  /-- A trigger dropped the change of the current row with `RAISE(IGNORE)`; the store
  catches this where the row's change is made, so it never ends a statement. -/
  | ignored
  /-- A value of the wrong type for a column of a strictly typed table. -/
  | wrongType (message : String)
  /-- Any other statement the store refuses, with the store's words for it. -/
  | refused (message : String)
  deriving Repr, BEq, Inhabited

/-- The store's numbered text for a fault. -/
def StoreFault.message : StoreFault → String
  | .unique cols => "(code: 2067) UNIQUE constraint failed: " ++ ", ".intercalate cols
  | .primaryKey cols => "(code: 1555) UNIQUE constraint failed: " ++ ", ".intercalate cols
  | .notNull col => "(code: 1299) NOT NULL constraint failed: " ++ col
  | .check name => "(code: 275) CHECK constraint failed: " ++ name
  | .foreignKey => "(code: 787) FOREIGN KEY constraint failed"
  | .mismatch => "(code: 20) datatype mismatch"
  | .syntaxError near => "(code: 1) near \"" ++ near ++ "\": syntax error"
  | .incompleteInput => "(code: 1) incomplete input"
  | .unrecognizedToken text => "(code: 1) unrecognized token: \"" ++ text ++ "\""
  | .noSuchTable name => "(code: 1) no such table: " ++ name
  | .noSuchColumn name => "(code: 1) no such column: " ++ name
  | .tableExists name => "(code: 1) table " ++ name ++ " already exists"
  | .raised m => "(code: 1811) " ++ m
  | .ignored => "(code: 1811) ignored"
  | .wrongType m => "(code: 3091) " ++ m
  | .refused m => "(code: 1) " ++ m

/-- A failure of the library. -/
inductive Error where
  /-- The record store refused a statement. -/
  | storage (fault : StoreFault)
  /-- Reading or writing a file failed. -/
  | io (message : String)
  /-- The settings are unusable. -/
  | config (message : String)
  /-- A service could not process one record. -/
  | recordProcessing (oaiId : String) (message : String)
  /-- A wait ran out after the given number of milliseconds. -/
  | timeout (millis : Nat)
  /-- A service is running already. -/
  | alreadyRunning (what : String)
  /-- Something looked up is missing. -/
  | notFound (what : String)
  /-- A caller passed a value the library cannot accept. -/
  | invalidInput (message : String)
  /-- A value could not be written or read as text. -/
  | serialization (message : String)
  /-- An invariant of the library failed. -/
  | internal (message : String)
  deriving Repr, BEq

/-- The text shown for a failure. -/
def Error.message : Error → String
  | .storage fault => "Storage error: error returned from database: " ++ fault.message
  | .io m => "IO error: " ++ m
  | .config m => "Configuration error: " ++ m
  | .recordProcessing oai m => "Failed to process record " ++ oai ++ ": " ++ m
  | .timeout ms => "Timed out after " ++ toString ms ++ " ms"
  | .alreadyRunning what => "Service already running: " ++ what
  | .notFound what => "Not found: " ++ what
  | .invalidInput m => "Invalid input: " ++ m
  | .serialization m => "Serialization error: " ++ m
  | .internal m => "Internal error: " ++ m

/-- The name of the kind of a failure. -/
def Error.kind : Error → String
  | .storage _ => "Storage"
  | .io _ => "Io"
  | .config _ => "Config"
  | .recordProcessing _ _ => "RecordProcessing"
  | .timeout _ => "Timeout"
  | .alreadyRunning _ => "AlreadyRunning"
  | .notFound _ => "NotFound"
  | .invalidInput _ => "InvalidInput"
  | .serialization _ => "Serialization"
  | .internal _ => "Internal"

/-- A computation that may fail with a library error. -/
abbrev Outcome (α : Type) := Except Error α

end Catalog
