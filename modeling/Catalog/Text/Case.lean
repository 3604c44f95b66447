import Catalog.Text.CaseMap
import Catalog.Text.Cased

/-!
# Changing case

Upper-casing maps every character by its full upper-case mapping, so one character may
become several (`ß` becomes `SS`). Lower-casing does the same with the lower-case mapping,
with the one rule of context that the standard gives for all languages: a capital sigma
becomes the final form `ς` when it ends a word, that is when a cased character precedes it
and none follows it, case-ignorable characters being skipped on both sides; elsewhere it
becomes `σ`.
-/

namespace Catalog.Text

/-- The characters of the code points, each read as a character. -/
def charsOf (ns : List Nat) : List Char :=
  ns.map Char.ofNat

/-- The full lower-case mapping of one character, without context. -/
def lowerChar (c : Char) : List Char :=
  charsOf (mapCodePoint lowerExpansions lowerRuns c.toNat)

/-- The full upper-case mapping of one character. -/
def upperChar (c : Char) : List Char :=
  charsOf (mapCodePoint upperExpansions upperRuns c.toNat)

/-- Whether the first character of `cs` that is not case-ignorable exists and is cased. -/
def casedPastIgnorable (cs : List Char) : Bool :=
  match cs.dropWhile isCaseIgnorable with
  | c :: _ => isCased c
  | [] => false

/-- Whether a capital sigma between `before` (nearest character first) and `after` ends a
word. -/
def endsWord (before after : List Char) : Bool :=
  casedPastIgnorable before && !casedPastIgnorable after

/-- The lower-case form of a text. -/
def toLower (cs : List Char) : List Char :=
  go [] cs
where
  /-- Lower-case `rest`, where `before` holds the characters already passed, nearest
  first. -/
  go (before : List Char) : List Char → List Char
    | [] => []
    | c :: rest =>
      let image := if c = 'Σ' then [if endsWord before rest then 'ς' else 'σ'] else lowerChar c
      image ++ go (c :: before) rest

/-- The upper-case form of a text. -/
def toUpper (cs : List Char) : List Char :=
  cs.flatMap upperChar

end Catalog.Text
