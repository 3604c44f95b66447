import Catalog.Text.Ranges

/-!
# Blank characters

The blank characters are those with the Unicode property `White_Space` (version 17.0): the
ASCII tab, line feed, vertical tab, form feed, carriage return and space, the next line and
no-break space controls, and the space separators of the other blocks. Trimming and
splitting into words use this class throughout the library.
-/

namespace Catalog.Text

/-- The ranges of code points with the property `White_Space`. -/
def blankRanges : List (Nat × Nat) := [
  (0x9, 0xD), (0x20, 0x20), (0x85, 0x85), (0xA0, 0xA0), (0x1680, 0x1680), (0x2000, 0x200A),
  (0x2028, 0x2029), (0x202F, 0x202F), (0x205F, 0x205F), (0x3000, 0x3000)]

/-- Whether a character is blank (has the property `White_Space`). -/
def isBlank (c : Char) : Bool :=
  inRanges blankRanges c.toNat

/-- The characters after the leading blanks. -/
def trimStart (cs : List Char) : List Char :=
  cs.dropWhile isBlank

/-- The characters before the trailing blanks. -/
def trimEnd (cs : List Char) : List Char :=
  (cs.reverse.dropWhile isBlank).reverse

/-- The characters without the blanks at either end. -/
def trim (cs : List Char) : List Char :=
  trimEnd (trimStart cs)

/-- The maximal runs of characters that are not blank, in order. -/
def words (cs : List Char) : List (List Char) :=
  (pieces cs).filter (· ≠ [])
where
  /-- The pieces between blanks, empty ones included. -/
  pieces : List Char → List (List Char)
    | [] => [[]]
    | c :: rest =>
      match pieces rest with
      | [] => [[c]]
      | w :: ws => if isBlank c then [] :: w :: ws else (c :: w) :: ws

end Catalog.Text
