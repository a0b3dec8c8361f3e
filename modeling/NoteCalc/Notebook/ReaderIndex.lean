import NoteCalc.Line.Scan
import NoteCalc.Ordered.SortedSet
import NoteCalc.Ordered.SortedTable

/-!
# The reader index

When the value of a variable changes, only the lines that read it need to be evaluated again.  The
index records which variables each line reads and, the other way round, which lines read each
variable; both tables are kept in step and hold no empty sets.
-/

namespace NoteCalc

/-- The variables that a line of these tokens reads, in ascending order.  The target of an
assignment is not read. -/
def namesRead (tokens : List Token) : List String :=
  let read :=
    match tokens with
    | target :: sign :: rest => if target.isVariable && sign.isAssign then rest else tokens
    | _ => tokens
  SortedSet.ofList (read.filterMap Token.variableName?)

/-- Who reads what. -/
structure ReaderIndex where
  /-- The names that each line reads, for lines that read any. -/
  reads : List (Int × List String) := []
  /-- The lines that read each name, for names that any line reads. -/
  readers : List (String × List Int) := []
deriving Repr, DecidableEq

namespace ReaderIndex

/-- Add a line to the readers of a name. -/
def addReader (line : Int) (readers : List (String × List Int)) (name : String) :
    List (String × List Int) :=
  SortedTable.set name (SortedSet.insert line ((SortedTable.find? name readers).getD [])) readers

/-- Remove a line from the readers of a name. -/
def removeReader (line : Int) (readers : List (String × List Int)) (name : String) :
    List (String × List Int) :=
  let others := SortedSet.erase line ((SortedTable.find? name readers).getD [])
  if others.isEmpty then SortedTable.erase name readers
  else SortedTable.set name others readers

/-- Replace what a line reads. -/
def setReads (index : ReaderIndex) (line : Int) (names : List String) : ReaderIndex :=
  let old := (SortedTable.find? line index.reads).getD []
  let reads := SortedTable.erase line index.reads
  { reads := if names.isEmpty then reads else SortedTable.set line names reads
    readers := names.foldl (addReader line) (old.foldl (removeReader line) index.readers) }

/-- Record the text of a line anew. -/
def update (index : ReaderIndex) (line : Int) (text : String) :
    Except UnreadableDigit ReaderIndex :=
  (scan text).map fun scan => index.setReads line (namesRead scan.tokens)

/-- Record the texts of successive lines, of which the first has the given place. -/
def updateFrom (index : ReaderIndex) (line : Nat) :
    List String → Except UnreadableDigit ReaderIndex
  | [] => .ok index
  | text :: texts => do (← index.update line text).updateFrom (line + 1) texts

/-- The index of the lines of a notebook. -/
def ofLines (lines : List String) : Except UnreadableDigit ReaderIndex :=
  updateFrom {} 0 lines

/-- The lines below a given one that read a name, in ascending order. -/
def readersAfter (index : ReaderIndex) (name : String) (line : Int) : List Int :=
  ((SortedTable.find? name index.readers).getD []).filter fun reader => line < reader

/-- Whether any line reads a name. -/
def contains (index : ReaderIndex) (name : String) : Bool :=
  (SortedTable.find? name index.readers).isSome

end ReaderIndex

end NoteCalc
