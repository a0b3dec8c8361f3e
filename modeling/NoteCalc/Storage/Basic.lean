/-!
# Storage

Whatever keeps contents under paths can hold documents.  A document that cannot be stored or
fetched is refused with its path and, where a directory tree is to blame, the reason it gives.
-/

namespace NoteCalc

/-- Why a directory tree gives no access to a file. -/
inductive AccessFault where
  /-- There is no such file, or no such directory on the way to it. -/
  | missing
  /-- The path leads to a directory. -/
  | isDirectory
  /-- Something on the way is a file. -/
  | notDirectory
  /-- Something is there already. -/
  | occupied
  /-- The path, or a component of it, is longer than one can be. -/
  | nameTooLong
deriving Repr, DecidableEq

/-- The words for the reason. -/
def AccessFault.message : AccessFault → String
  | .missing => "No such file or directory"
  | .isDirectory => "Is a directory"
  | .notDirectory => "Not a directory"
  | .occupied => "File exists"
  | .nameTooLong => "File name too long"

/-- Why a document cannot be stored or fetched. -/
inductive StorageError where
  | unwritable (fault : AccessFault) (path : String)
  | unreadable (fault : AccessFault) (path : String)
  /-- The bytes of the document encode no text. -/
  | invalidEncoding (path : String)
  /-- The text is no path. -/
  | notPath (text : String)
  /-- Nothing was stored under this path. -/
  | unknownDocument (path : String)
deriving Repr, DecidableEq

/-- The message of a failure. -/
def StorageError.message : StorageError → String
  | .unwritable fault path => "Could not save document (" ++ fault.message ++ "): " ++ path
  | .unreadable fault path => "Could not load document (" ++ fault.message ++ "): " ++ path
  | .invalidEncoding path => "Document is not valid utf-8: " ++ path
  | .notPath _ => "embedded null byte"
  | .unknownDocument path => "No such document: " ++ path

/-- What keeps contents under paths. -/
class Storage (σ : Type) where
  /-- Keep a content under a path, in place of what was there. -/
  store : σ → (path content : String) → Except StorageError σ
  /-- The content that was last stored under a path. -/
  fetch : σ → (path : String) → Except StorageError String

end NoteCalc
