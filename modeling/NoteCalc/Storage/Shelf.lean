import NoteCalc.Ordered.SortedTable
import NoteCalc.Storage.Basic

/-!
# Shelves

The simplest storage: contents by path, of which each is what was last stored under it.
-/

namespace NoteCalc

/-- Stored contents with their paths, in ascending order of the paths. -/
structure Shelf where
  documents : List (String × String) := []

namespace Shelf

/-- Store a content under a path. -/
def store (shelf : Shelf) (path content : String) : Shelf :=
  ⟨SortedTable.set path content shelf.documents⟩

/-- The content that was last stored under a path. -/
def fetch (shelf : Shelf) (path : String) : Except StorageError String :=
  match SortedTable.find? path shelf.documents with
  | some content => .ok content
  | none => .error (.unknownDocument path)

instance : Storage Shelf where
  store shelf path content := .ok (shelf.store path content)
  fetch := Shelf.fetch

/-- What is stored under a path is fetched from it. -/
theorem fetch_store (shelf : Shelf) (path content : String) :
    (shelf.store path content).fetch path = .ok content := by
  have found (documents : List (String × String)) :
      SortedTable.find? path (SortedTable.set path content documents) = some content := by
    induction documents with
    | nil => simp [SortedTable.set, SortedTable.find?]
    | cons document documents induction =>
        obtain ⟨other, old⟩ := document
        unfold SortedTable.set
        split
        · simp [SortedTable.find?]
        · simp [SortedTable.find?]
        · rename_i greater
          simp [SortedTable.find?, greater, induction]
  simp [fetch, store, found]

end Shelf

end NoteCalc
