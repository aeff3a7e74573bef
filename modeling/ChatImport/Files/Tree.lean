import ChatImport.Error
import ChatImport.Files.Path
import ChatImport.Table
/-!
# Files and directories

A run works on a tree of directories and files. A path is *resolved* part by
part: every part but the last one must lead to a directory, an empty part or
a single point stays where it is, and two points go back to where the
directory was entered. Names and paths have greatest lengths, and a zero
octet is in none. What an operation finds under a path that is not what it
needs is told as a `FileFault`.
-/

namespace ChatImport

/-- A file or a directory. -/
inductive Node where
  /-- A file with its octets. -/
  | file (content : ByteArray)
  /-- A directory: names in order, each with what it stands for. -/
  | directory (entries : List (String × Node))
  deriving Inhabited

namespace Node

/-- What a name stands for in a directory. -/
def child? (entries : List (String × Node)) (name : String) : Option Node :=
  (entries.find? fun entry => entry.1 == name).map (·.2)

/-- The greatest number of octets in a name. -/
def longestName : Nat := 255

/-- What stands under names that lead into a directory. -/
def reach : Node → List String → Except FileFault Node
  | node, [] => .ok node
  | .file _, _ :: _ => .error .notDirectory
  | .directory entries, name :: rest =>
    if longestName < name.utf8ByteSize then .error .tooLong
    else
      match child? entries name with
      | none => .error .notFound
      | some node => reach node rest

/-- The tree with a node put under names that lead into a directory.
Directories that are not there yet are made. -/
def placed : Node → List String → Node → Node
  | _, [], new => new
  | .file content, _ :: _, _ => .file content
  | .directory entries, name :: rest, new =>
    .directory (setEntry name
      (placed ((child? entries name).getD (.directory [])) rest new) entries)

/-- Where one part of a path leads from a directory. -/
def onward (place : List String) (part : String) : List String :=
  if part = "" ∨ part = "." then place
  else if part = ".." then place.dropLast
  else place ++ [part]

/-- Where the parts of a path lead; what the last part leads to need not be
there. -/
def follow (root : Node) (place : List String) : List String → Except FileFault (List String)
  | [] => .ok place
  | part :: rest => do
    match ← root.reach place with
    | .file _ => .error .notDirectory
    | .directory _ => follow root (onward place part) rest

end Node

/-- The files of a run, and where it takes place. -/
structure Files where
  /-- The directory above all. -/
  root : Node
  /-- The names that lead to the directory where the run takes place. -/
  here : List String
  deriving Inhabited

namespace Files

/-- An empty directory as the place of a run. -/
def empty : Files := ⟨.directory [], []⟩

/-- Where the resolving of a path starts. -/
def start (f : Files) (path : String) : List String := if Path.fromRoot path then [] else f.here

/-- The greatest number of octets in a path. -/
def longestPath : Nat := 4095

/-- A path under which something can stand. -/
def usable (path : String) : Except FileFault Unit :=
  if path.toList.contains '\x00' then .error .invalidInput
  else if path.isEmpty then .error .notFound
  else if longestPath < path.utf8ByteSize then .error .tooLong
  else .ok ()

/-- Where a path leads. -/
def place (f : Files) (path : String) : Except FileFault (List String) := do
  usable path
  f.root.follow (f.start path) (Path.parts path)

/-- What stands under a path. -/
def find (f : Files) (path : String) : Except FileFault Node := do
  f.root.reach (← f.place path)

/-- Does anything stand under the path? -/
def isThere (f : Files) (path : String) : Bool := (f.find path).isOk

/-- Does a file stand under the path? -/
def isFile (f : Files) (path : String) : Bool :=
  match f.find path with
  | .ok (.file _) => true
  | _ => false

/-- Does a directory stand under the path? -/
def isDirectory (f : Files) (path : String) : Bool :=
  match f.find path with
  | .ok (.directory _) => true
  | _ => false

/-- The content of the file under a path. -/
def content (f : Files) (path : String) : Except FileFault ByteArray := do
  match ← f.find path with
  | .file content => .ok content
  | .directory _ => .error .isDirectory

/-- The entries of the directory under a path, in the order of their names. -/
def entries (f : Files) (path : String) : Except FileFault (List (String × Node)) := do
  match ← f.find path with
  | .file _ => .error .notDirectory
  | .directory entries => .ok entries

/-- Where the directory stands that holds the last name of a path, and that
name. A path of slashes alone has none. -/
def above (f : Files) (path : String) : Except FileFault (List String × Option String) := do
  usable path
  let solid := Path.solidParts path
  let dir ← f.root.follow (f.start path) solid.dropLast
  match ← f.root.reach dir with
  | .file _ => throw .notDirectory
  | .directory _ => return (dir, solid.getLast?)

/-- Writes a file, a new one or one in the place of an older one. The
directory must be there, and the path must end in a name. -/
def write (f : Files) (path : String) (content : ByteArray) : Except FileFault Files := do
  match ← f.above path with
  | (_, none) => throw .isDirectory
  | (dir, some name) =>
    if (Path.parts path).getLast? = some "" ∨ name = "." ∨ name = ".." then throw .isDirectory
    match f.root.reach (dir ++ [name]) with
    | .ok (.directory _) => throw .isDirectory
    | .ok (.file _) | .error .notFound =>
      return { f with root := f.root.placed (dir ++ [name]) (.file content) }
    | .error fault => throw fault

/-- Makes a directory. What stands above it must be there. -/
def makeDirectory (f : Files) (path : String) : Except FileFault Files := do
  match ← f.above path with
  | (_, none) => throw .alreadyThere
  | (dir, some name) =>
    if name = "." ∨ name = ".." then throw .alreadyThere
    match f.root.reach (dir ++ [name]) with
    | .ok _ => throw .alreadyThere
    | .error .notFound =>
      return { f with root := f.root.placed (dir ++ [name]) (.directory []) }
    | .error fault => throw fault

/-- Makes the directory under the first path. If what should stand above it
is not there, the directories under the other paths are made before. -/
def makeFirst : List String → EStateM FileFault Files Unit
  | [] => pure ()
  | path :: above => fun f =>
    let settled (fault : FileFault) (f : Files) : EStateM.Result FileFault Files Unit :=
      if f.isDirectory path then .ok () f else .error fault f
    match f.makeDirectory path with
    | .ok made => .ok () made
    | .error .notFound =>
      match makeFirst above f with
      | .error fault g => .error fault g
      | .ok () g =>
        match g.makeDirectory path with
        | .ok made => .ok () made
        | .error fault => settled fault g
    | .error fault => settled fault f

/-- Makes a directory and the directories above it, as far as they are not
there. What has been made before a fault stays. -/
def makeDirectories (path : String) : EStateM FileFault Files Unit :=
  if path.isEmpty then pure () else makeFirst (Path.steps path).reverse

/-- Copies a file. What stands under the second path is emptied first, so a
file that is copied to itself is lost. -/
def copy (f : Files) (source dest : String) : Except FileFault Files := do
  match ← f.find source with
  | .directory _ => throw .invalidInput
  | .file _ =>
    let emptied ← f.write dest ByteArray.empty
    emptied.write dest (← emptied.content source)

end Files

end ChatImport
