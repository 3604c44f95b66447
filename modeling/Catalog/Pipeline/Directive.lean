import Catalog.Record.Basic

/-!
# Processing directives

A processing directive routes records from a source (a provider or a service) to a target
service: every record of the source whose format is one of the directive's formats, and
which is in one of its sets when it names any, becomes input of the target. The target may
be asked to put its outputs of these records into an output set.
-/

namespace Catalog.Pipeline

/-- Where the records of a directive come from. -/
inductive DirectiveSource where
  | provider (id : Int)
  | service (id : Int)
  deriving Repr, BEq, DecidableEq, Inhabited

/-- A processing directive. -/
structure Directive where
  id : Int
  source : DirectiveSource
  target : Int
  outputSet : Option String
  formats : List String
  sets : List String
  deriving Repr, Inhabited

/-- Whether a directive takes records of this format and these sets. -/
def Directive.accepts (formats sets : List String) (format : String) (recordSets : List String) :
    Bool :=
  formats.contains format && (sets.isEmpty || sets.any recordSets.contains)

/-- Whether a directive takes a record. -/
def Directive.matches (d : Directive) (r : Record) : Bool :=
  accepts d.formats d.sets r.format r.sets

end Catalog.Pipeline
