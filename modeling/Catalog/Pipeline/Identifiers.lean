import Catalog.Error
import Catalog.Data.Word

/-!
# Identifiers handed out by services

A service names its output records `oai:DOMAIN:INSTANCE/SERVICE/N`, the blanks of the
service's name written as underscores, with `N` counting up from the stored next value (at
least one). Services that build bibliographic entities also number them per kind of entity
(work, expression, manifestation, holdings, item, record), each kind counting from its own
stored next value, one by default. Numbers are signed 64-bit words: counting on from the
largest one wraps around to the smallest.
-/

namespace Catalog.Pipeline

/-- The next OAI identifier number of a service, with the text before the number. -/
structure OaiIds where
  stem : String
  scope : String
  next : Int
  deriving Repr, Inhabited

namespace OaiIds

/-- The generator for a service, starting at `next` but never below one. -/
def new (domainName instanceName service : String) (next : Int) : OaiIds :=
  { stem := "oai:" ++ domainName ++ ":" ++ instanceName ++ "/" ++
      service.map (fun c => if c = ' ' then '_' else c) ++ "/"
    scope := service
    next := max next 1 }

/-- The next identifier and the advanced generator. -/
def take (g : OaiIds) : String × OaiIds :=
  (g.stem ++ toString g.next, { g with next := Word.signed (g.next + 1) })

/-- The next `n` identifiers. -/
def takeMany (g : OaiIds) : Nat → List String × OaiIds
  | 0 => ([], g)
  | n + 1 =>
    let (id, g) := g.take
    let (ids, g) := g.takeMany n
    (id :: ids, g)

end OaiIds

/-- The kinds of bibliographic entity that get numbers. -/
inductive ElementKind where
  | work
  | expression
  | manifestation
  | holdings
  | item
  | record
  deriving Repr, BEq, DecidableEq, Inhabited

namespace ElementKind

/-- All kinds, in their order. -/
def all : List ElementKind :=
  [.work, .expression, .manifestation, .holdings, .item, .record]

/-- The stored name of a kind. -/
def name : ElementKind → String
  | .work => "work"
  | .expression => "expression"
  | .manifestation => "manifestation"
  | .holdings => "holdings"
  | .item => "item"
  | .record => "record"

/-- The kind of a name. -/
def ofName? (s : String) : Option ElementKind :=
  all.find? (·.name == s)

end ElementKind

/-- The next number of every kind of entity within a scope. -/
structure ElementCounters where
  scope : String
  next : ElementKind → Int

namespace ElementCounters

/-- Counters of a scope, each at one. -/
def new (scope : String) : ElementCounters :=
  ⟨scope, fun _ => 1⟩

/-- The next number of a kind and the advanced counters. -/
def take (c : ElementCounters) (k : ElementKind) : Int × ElementCounters :=
  (c.next k,
    { c with next := fun k' => if k' = k then Word.signed (c.next k + 1) else c.next k' })

/-- Set the next number of a kind. -/
def set (c : ElementCounters) (k : ElementKind) (v : Int) : ElementCounters :=
  { c with next := fun k' => if k' = k then v else c.next k' }

end ElementCounters

end Catalog.Pipeline
