import ChatImport.Files.Tree
import ChatImport.Mattermost.Lines
import ChatImport.Summary
import ChatImport.Thread.Backend
/-!
# Conversions

A conversion makes an import of an export. It carries what has been made so
far, the summary, and what it works on: files, a backend, and the log. What
is merely wrong with the export is told in the log; an error ends the
conversion, and what was done up to then stays done.
-/

namespace ChatImport

/-- A conversion on its way. -/
structure Conversion where
  /-- What has been made so far. -/
  content : Mattermost.Import
  /-- What became of the messages so far. -/
  summary : Summary
  /-- The password that is ready for a user who has to be made. -/
  password : String
  /-- The files. -/
  files : Files
  /-- The backend. -/
  backend : Backend
  /-- The log. -/
  log : Array LogLine
  deriving Inhabited

/-- A step of a conversion, which may end it with an error. -/
abbrev Converting := EStateM Error Conversion

namespace Conversion

/-- The conversion before its first step. -/
def fresh (password : String) (files : Files) (backend : Backend) : Conversion :=
  ⟨.empty, .empty, password, files, backend, #[]⟩

/-- The conversion with more lines in its log. -/
def telling (c : Conversion) (lines : List LogLine) : Conversion :=
  { c with log := c.log ++ lines }

/-- The conversion with a change of what has been made. -/
def changing (c : Conversion) (f : Mattermost.Import → Mattermost.Import) : Conversion :=
  { c with content := f c.content }

/-- Writes lines into the log. -/
def tell (lines : List LogLine) : Converting Unit := modify fun c => c.telling lines

/-- An operation on files, given which error its faults are. -/
def onFiles {α : Type} (error : FileFault → Error) (act : EStateM FileFault Files α) :
    Converting α := fun c =>
  match act c.files with
  | .ok value files => .ok value { c with files := files }
  | .error fault files => .error (error fault) { c with files := files }

/-- Writes the import for a team into a file. -/
def writeTo (team path : String) : Converting Unit := do
  let c ← get
  let text := c.content.fileText team
  match c.files.write path text.toUTF8 with
  | .error fault => throw (.file fault)
  | .ok files =>
    set { c with files := files }
    tell [c.content.writtenNotice path]

end Conversion

end ChatImport
