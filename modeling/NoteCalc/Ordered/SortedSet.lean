/-!
# Sorted sets

A finite set is kept as the ascending list of its members, so equal sets are equal lists.
-/

namespace NoteCalc

namespace SortedSet

variable {α : Type} [Ord α]

/-- Add a member. -/
def insert (member : α) : List α → List α
  | [] => [member]
  | first :: rest =>
      match compare member first with
      | .lt => member :: first :: rest
      | .eq => first :: rest
      | .gt => first :: insert member rest

/-- Remove a member. -/
def erase (member : α) (members : List α) : List α :=
  members.filter fun other => compare member other != .eq

/-- The set of the elements of a list. -/
def ofList (elements : List α) : List α :=
  elements.foldl (fun members element => insert element members) []

end SortedSet

end NoteCalc
