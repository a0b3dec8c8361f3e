import NoteCalc.Notebook.Editing
import NoteCalc.Storage.Basic

/-!
# Saving and loading

A notebook is saved as its content alone.  What its lines show is computed when it is loaded, with
the cursor at the top.
-/

namespace NoteCalc

/-- Why a notebook cannot be loaded. -/
inductive LoadError where
  /-- Its content cannot be fetched. -/
  | storage (error : StorageError)
  /-- Its content has a digit sign where a token has to start. -/
  | unreadable (digit : UnreadableDigit)

namespace Notebook

/-- Keep the content of a notebook under a path. -/
def save {σ : Type} [Storage σ] (notebook : Notebook) (storage : σ) (path : String) :
    Except StorageError σ :=
  Storage.store storage path notebook.content

/-- The notebook whose content is kept under a path. -/
def load {σ : Type} [Storage σ] (storage : σ) (path : String) : Except LoadError Notebook :=
  match Storage.fetch storage path with
  | .error error => .error (.storage error)
  | .ok content => (ofContent content).mapError .unreadable

end Notebook

end NoteCalc
