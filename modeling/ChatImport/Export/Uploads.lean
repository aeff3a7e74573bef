import ChatImport.Archive.Basic
import ChatImport.Files.Tree
/-!
# Uploaded files

The files that were shared in a workspace are known by identifiers. They
stand in directories of the export, or they stay in the archive until they
are asked for.
-/

namespace ChatImport

/-- The uploaded files of an export. -/
inductive Uploads where
  /-- The paths of the files by their identifiers. -/
  | inDirectory (paths : Table String)
  /-- The names of entries of the archive under a path, by the identifiers. -/
  | inArchive (path : String) (archive : Archive) (names : Table String)

namespace Uploads

/-- No uploaded files. -/
def none : Uploads := .inDirectory Table.empty

instance : Inhabited Uploads := ⟨none⟩

/-- Where the files come from: their paths, or their names in the archive. -/
def sources : Uploads → Table String
  | .inDirectory paths => paths
  | .inArchive _ _ names => names

/-- The number of uploaded files. -/
def size (u : Uploads) : Nat := u.sources.size

/-- Copies the content of an entry of the archive under a path. The entry is
opened before anything is written. What can be had of an entry with a fault is
written, and then the fault is told. -/
def extract (path : String) (entry : Archive.Entry) (dest : String) :
    EStateM FileFault Files Unit := fun files =>
  match (files.content path).toOption.bind entry.open? with
  | Option.none => .error .other files
  | some start =>
    match files.write dest ByteArray.empty with
    | .error fault => .error fault files
    | .ok emptied =>
      match emptied.content path with
      | .error fault => .error fault emptied
      | .ok file =>
        let (content, fault) := entry.content file start
        match emptied.write dest content, fault with
        | .error fault, _ => .error fault emptied
        | .ok written, some fault => .error fault written
        | .ok written, Option.none => .ok () written

/-- Copies an uploaded file to a path. Tells whether there is such a file. -/
def copyTo (u : Uploads) (id dest : String) : EStateM FileFault Files Bool := fun files =>
  match u, u.sources.find? id with
  | _, Option.none => .ok false files
  | .inDirectory _, some source =>
    match files.copy source dest with
    | .error fault => .error fault files
    | .ok copied => .ok true copied
  | .inArchive path archive _, some name =>
    match archive.entries.find? name with
    | Option.none => .error .other files
    | some entry => (do extract path entry dest; return true) files

end Uploads

end ChatImport
