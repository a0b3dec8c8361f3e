import NoteCalc.Proofs.Success
import NoteCalc.Storage.FileTree
import NoteCalc.Storage.Shelf

/-!
# Lawful storage

A storage is lawful if the content that was last stored under a path is the one that is fetched from
it.  Shelves are lawful.  So are directory trees: a document is only put where no directory is, and
all places on the way to it are directories, so its path leads to the same place afterwards.
-/

namespace NoteCalc

/-- A storage that gives back what was last stored under a path. -/
class LawfulStorage (σ : Type) [Storage σ] : Prop where
  fetch_store : ∀ {storage stored : σ} {path content : String},
    Storage.store storage path content = .ok stored → Storage.fetch stored path = .ok content

instance : LawfulStorage Shelf where
  fetch_store := by
    intro storage stored path content done
    rw [← Except.ok.inj done]
    exact Shelf.fetch_store storage path content

namespace FileTree

variable {tree written : FileTree} {place other : List String} {node : TreeNode}

/-! ## What a node does to the other places -/

theorem node?_put_self (isNode : tree.node? place ≠ some .directory) :
    (tree.put place node).node? place = some node := by
  have below : ¬place.isPrefixOf workingDirectory = true := by
    intro above
    exact isNode (if_pos above)
  unfold node? put
  rw [if_neg below, List.lookup_cons_self]

theorem lookup_filter_of_ne (elsewhere : other ≠ place)
    (nodes : List (List String × TreeNode)) :
    (nodes.filter fun entry => entry.1 != place).lookup other = nodes.lookup other := by
  induction nodes with
  | nil => rfl
  | cons entry nodes induction =>
      obtain ⟨key, node⟩ := entry
      by_cases here : key = place
      · have skipped : (other == key) = false := by simpa [here] using elsewhere
        rw [List.filter_cons_of_neg (by simpa using here), induction, List.lookup_cons, skipped]
      · rw [List.filter_cons_of_pos (by simpa using here), List.lookup_cons, List.lookup_cons,
          induction]

theorem node?_put_of_ne (elsewhere : other ≠ place) :
    (tree.put place node).node? other = tree.node? other := by
  have skipped : (other == place) = false := by simpa using elsewhere
  unfold node? put
  rw [List.lookup_cons, skipped, lookup_filter_of_ne elsewhere]

/-! ## Ways through a tree -/

/-- Only a directory has entries. -/
theorem node?_of_enter {name : String} (entered : tree.enter place name = .ok other) :
    tree.node? place = some .directory := by
  unfold enter at entered
  split at entered
  · exact absurd entered (by simp)
  · exact absurd entered (by simp)
  · assumption

theorem enter_put {name : String} {entered : List String}
    (isNode : tree.node? place ≠ some .directory) (enters : tree.enter other name = .ok entered) :
    (tree.put place node).enter other name = .ok entered := by
  have isDirectory := node?_of_enter enters
  have elsewhere : other ≠ place := fun same => isNode (same ▸ isDirectory)
  rw [← enters, enter, enter, node?_put_of_ne elsewhere]

theorem foldlM_enter_put {names : List String} {start found : List String}
    (isNode : tree.node? place ≠ some .directory)
    (leads : names.foldlM tree.enter start = .ok found) :
    names.foldlM (tree.put place node).enter start = .ok found := by
  induction names generalizing start with
  | nil => exact leads
  | cons name names induction =>
      obtain ⟨next, entered, rest⟩ := bind_eq_ok_iff.mp leads
      exact bind_eq_ok_iff.mpr ⟨next, enter_put isNode entered, induction rest⟩

/-- A path leads to the same place after something is put where no directory is. -/
theorem locate_put {path : Path} (isNode : tree.node? place ≠ some .directory)
    (located : tree.locate path = .ok other) :
    (tree.put place node).locate path = .ok other := by
  unfold locate at located ⊢
  split at located
  · exact absurd located (by simp)
  · rename_i short
    rw [if_neg short]
    exact foldlM_enter_put isNode located

/-! ## Reading what was written -/

theorem writeBytes_eq_ok_iff {path : Path} {bytes : ByteArray} :
    tree.writeBytes path bytes = .ok written ↔
      ∃ place, tree.locate path = .ok place ∧ tree.node? place ≠ some .directory ∧
        tree.put place (.file bytes) = written := by
  unfold writeBytes
  rw [bind_eq_ok_iff]
  refine exists_congr fun place => and_congr_right fun _ => ?_
  split
  · rename_i isDirectory
    simp [isDirectory]
  · rename_i notDirectory
    rw [and_iff_right notDirectory]
    exact iff_of_eq (Except.ok.injEq ..)

theorem readBytes_of_writeBytes {path : Path} {bytes : ByteArray}
    (done : tree.writeBytes path bytes = .ok written) : written.readBytes path = .ok bytes := by
  obtain ⟨place, located, isNode, rfl⟩ := writeBytes_eq_ok_iff.mp done
  unfold readBytes
  refine bind_eq_ok_iff.mpr ⟨place, locate_put isNode located, ?_⟩
  rw [node?_put_self isNode]
  rfl

theorem fromUTF8?_toUTF8 (content : String) : String.fromUTF8? content.toUTF8 = some content := by
  unfold String.fromUTF8?
  rw [String.toUTF8_eq_toByteArray, dif_pos content.isValidUTF8]
  rfl

theorem fetch_of_store {path : Path} {content : String}
    (done : tree.store path content = .ok written) : written.fetch path = .ok content := by
  have read := readBytes_of_writeBytes (mapError_eq_ok_iff.mp done)
  unfold FileTree.fetch
  simp only [read, fromUTF8?_toUTF8]

instance : LawfulStorage FileTree where
  fetch_store := by
    intro tree written text content done
    unfold Storage.store instStorage at done
    unfold Storage.fetch instStorage
    cases isPath : Path.ofText? text with
    | none => exact absurd done (by simp [isPath])
    | some path =>
        simp only [isPath] at done ⊢
        exact fetch_of_store done

end FileTree

end NoteCalc
