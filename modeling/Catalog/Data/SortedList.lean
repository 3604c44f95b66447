/-!
# Sorted lists as finite sets

Sets of record ids, set names and the like are kept as strictly ascending lists, so that two
equal sets are equal lists and every listing comes out sorted. The operations below keep a
list strictly ascending when it was.
-/

namespace Catalog.SortedList

variable {α : Type} [Ord α]

/-- Insert an element, keeping the list ascending and free of repeats. -/
def insert (x : α) : List α → List α
  | [] => [x]
  | y :: ys =>
    match compare x y with
    | .lt => x :: y :: ys
    | .eq => y :: ys
    | .gt => y :: insert x ys

/-- The ascending list without repeats of the elements of a list. -/
def ofList (xs : List α) : List α :=
  xs.foldl (fun acc x => insert x acc) []

/-- Remove an element. -/
def erase (x : α) (xs : List α) : List α :=
  xs.filter (fun y => compare x y != .eq)

/-- The union of two ascending lists. -/
def union (xs ys : List α) : List α :=
  ys.foldl (fun acc y => insert y acc) xs

/-- Whether an element is present. -/
def contains (x : α) (xs : List α) : Bool :=
  xs.any (fun y => compare x y == .eq)

end Catalog.SortedList
