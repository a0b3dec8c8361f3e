/-!
# Sorted tables

A finite map is kept as the list of its entries with ascending keys, so equal maps are equal lists.
-/

namespace NoteCalc

namespace SortedTable

variable {κ ν : Type} [Ord κ]

/-- The value of a key. -/
def find? (key : κ) : List (κ × ν) → Option ν
  | [] => none
  | (other, value) :: entries =>
      if compare key other == .eq then some value else find? key entries

/-- Give a key a value. -/
def set (key : κ) (value : ν) : List (κ × ν) → List (κ × ν)
  | [] => [(key, value)]
  | (other, old) :: entries =>
      match compare key other with
      | .lt => (key, value) :: (other, old) :: entries
      | .eq => (key, value) :: entries
      | .gt => (other, old) :: set key value entries

/-- Remove a key. -/
def erase (key : κ) (entries : List (κ × ν)) : List (κ × ν) :=
  entries.filter fun entry => compare key entry.1 != .eq

end SortedTable

end NoteCalc
