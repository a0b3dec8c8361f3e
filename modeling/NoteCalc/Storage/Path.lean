/-!
# Paths

A path names a file by the directories on the way to it.  Empty components and single dots are
dropped when a path is read, so every path has one spelling; a relative path without components is
the working directory.
-/

namespace NoteCalc

/-- A path: how many slashes it starts with, none for one that is relative to the working
directory, and its components. -/
structure Path where
  slashes : Nat
  components : List String
deriving Repr, DecidableEq

namespace Path

/-- The parts of a text between its slashes. -/
def slashSeparated : List Char → List (List Char)
  | [] => [[]]
  | character :: text =>
      if character = '/' then [] :: slashSeparated text
      else
        match slashSeparated text with
        | [] => [[character]]
        | part :: parts => (character :: part) :: parts

/-- Read a path.  Two leading slashes are kept as they are, and more than two count as one.  The
null character marks where a path ends, so a text that holds it is no path. -/
def ofText? (text : String) : Option Path :=
  let characters := text.toList
  let leading := (characters.takeWhile (· == '/')).length
  let parts := (slashSeparated characters).filter fun part => part != [] && part != ['.']
  if characters.contains '\x00' then none
  else some ⟨if 2 < leading then 1 else leading, parts.map String.ofList⟩

/-- The spelling of a path. -/
def text (path : Path) : String :=
  let spelling :=
    String.ofList (List.replicate path.slashes '/') ++ "/".intercalate path.components
  if spelling.isEmpty then "." else spelling

end Path

end NoteCalc
