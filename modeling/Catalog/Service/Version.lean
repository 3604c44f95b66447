import Catalog.Error
import Catalog.Text.Blank

/-!
# Service versions and update scripts

A service version is `MAJOR.MINOR` or `MAJOR.MINOR.PATCH`, each part a number below `2^32`
written in ASCII digits with an optional `+`; blanks around the whole are ignored, and a
missing patch is zero. Versions are ordered by major, then minor, then patch number, and
written `MAJOR.MINOR.PATCH`.

An update script is a file named `update.VERSION.sql`. Updating a service from version `a`
to version `b` runs the scripts whose versions lie in `(a, b]`, oldest first, in the given
order among scripts of one version.
-/

namespace Catalog.Service

/-- A service version. -/
structure Version where
  major : Nat
  minor : Nat
  patch : Nat
  deriving Repr, BEq, DecidableEq, Inhabited

/-- Versions compare by major, minor and patch number. -/
instance : Ord Version where
  compare a b := (compare a.major b.major).then <| (compare a.minor b.minor).then
    (compare a.patch b.patch)

namespace Version

/-- The written form `MAJOR.MINOR.PATCH`. -/
def display (v : Version) : String :=
  toString v.major ++ "." ++ toString v.minor ++ "." ++ toString v.patch

/-- A part of a version: ASCII digits, after an optional `+`, with a value below `2^32`. -/
def parsePart (cs : List Char) : Option Nat :=
  let digits := match cs with
    | '+' :: rest => rest
    | _ => cs
  if digits.isEmpty || !digits.all Char.isDigit then none
  else
    let n := digits.foldl (fun acc c => acc * 10 + (c.toNat - '0'.toNat)) 0
    if n < Nat.pow 2 32 then some n else none

/-- The parts of a text separated by dots. -/
def dotParts (cs : List Char) : List (List Char) :=
  cs.splitOn '.'

/-- Read a version; a text that is none is refused with the text as written. -/
def parse (s : String) : Outcome Version :=
  let invalid : Error := .invalidInput ("Invalid version: " ++ s)
  match (dotParts (Text.trim s.toList)).mapM parsePart with
  | some [major, minor] => .ok ⟨major, minor, 0⟩
  | some [major, minor, patch] => .ok ⟨major, minor, patch⟩
  | _ => .error invalid

end Version

/-- The version of an update script's file name, if it names one. -/
def scriptVersion (fileName : String) : Option Version :=
  let cs := fileName.toList
  let pre := "update.".toList
  let post := ".sql".toList
  if pre.isPrefixOf cs && post.isSuffixOf (cs.drop pre.length) then
    let middle := (cs.drop pre.length).take (cs.length - pre.length - post.length)
    match Version.parse (String.ofList middle) with
    | .ok v => some v
    | .error _ => none
  else none

/-- The scripts to run from version `source` to version `target`: those in
`(source, target]`, in ascending version order, the given order kept among equals. -/
def plan {α : Type} (scripts : List (Version × α)) (source target : Version) :
    List (Version × α) :=
  let chosen := scripts.filter fun s =>
    compare s.1 source == .gt && compare s.1 target != .gt
  chosen.mergeSort fun a b => compare a.1 b.1 != .gt

end Catalog.Service
