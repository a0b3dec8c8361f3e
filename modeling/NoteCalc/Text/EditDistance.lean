/-!
# Edit distance and spelling suggestions

The distance of two texts is the least number of insertions, deletions and replacements of one
character that turn the first into the second.  It is computed row by row, for the leading parts of
the longer text: the row of a text lists its distances from every leading part of the shorter text,
the empty one first.
-/

namespace NoteCalc.Text

/-- The tail of the row for a text that ends in `character`.  `diagonal` and `above` are what is
left of the row for the text without that character, and `left` is the entry just found. -/
def rowTail (character : Char) :
    (target : List Char) → (diagonal : Nat) → (above : List Nat) → (left : Nat) → List Nat
  | other :: target, diagonal, up :: above, left =>
      let entry :=
        min (min (up + 1) (left + 1)) (diagonal + if character = other then 0 else 1)
      entry :: rowTail character target up above entry
  | _, _, _, _ => []

/-- The row for a text with one character more than the text of the given row. -/
def nextRow (target : List Char) (row : List Nat) (character : Char) : List Nat :=
  match row with
  | [] => []
  | first :: above => (first + 1) :: rowTail character target first above (first + 1)

/-- The distance of a text from one that is not longer, along which the rows are laid. -/
def distanceFromShorter (longer shorter : List Char) : Nat :=
  if shorter.isEmpty then longer.length
  else (longer.foldl (nextRow shorter) (List.range (shorter.length + 1))).getLast?.getD 0

/-- The least number of single-character edits that turn `source` into `target`.  Edits can be
undone, so it does not matter which of the two is the longer text. -/
def editDistance (source target : List Char) : Nat :=
  if source.length < target.length then distanceFromShorter target source
  else distanceFromShorter source target

/-- Order of suggestions: the nearer first, and words at one distance by their code points. -/
def nearerOrSmaller (left right : Nat × String) : Bool :=
  left.1 < right.1 || (left.1 == right.1 && decide (left.2 ≤ right.2))

/-- A candidate with its distance from a word, if that is at least one and at most `limit`.  A
candidate whose length differs by more than `limit` is farther away than that, and its distance is
not computed. -/
def scored? (word : List Char) (limit : Int) (candidate : String) : Option (Nat × String) :=
  let lengths : Int := (candidate.toList.length : Int) - word.length
  if limit < lengths.natAbs then none
  else
    let distance := editDistance word candidate.toList
    if 0 < distance ∧ (distance : Int) ≤ limit then some (distance, candidate) else none

/-- Up to three candidates that are misspelt by at least one and at most `limit` edits. -/
def suggestions (word : String) (candidates : List String) (limit : Int) : List String :=
  let scored := candidates.filterMap (scored? word.toList limit)
  ((scored.mergeSort nearerOrSmaller).take 3).map Prod.snd

example : editDistance "kitten".toList "sitting".toList = 3 := by decide

example : editDistance [] "abc".toList = 3 ∧ editDistance "abc".toList [] = 3 := by decide

end NoteCalc.Text
