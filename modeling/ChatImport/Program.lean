import ChatImport.CommandLine.Arguments
import ChatImport.Conversion.Run
import ChatImport.Export.Reading
/-!
# A run of the program

A run reads the export, converts it and writes the import. Meanwhile it
tells on the screen what it works on and, in the end, what it has made. What it
has printed before an error stays printed.
-/

namespace ChatImport

/-- A run of the program on its way. -/
structure Program where
  /-- The conversion. -/
  conversion : Conversion
  /-- The lines that have been printed. -/
  printed : Array String
  deriving Inhabited

/-- Reads the export under a path. -/
def Conversion.readExport (path : String) : Converting Export := fun c =>
  match Export.read c.files path c.log with
  | .ok e log => .ok e { c with log := log }
  | .error error log => .error error { c with log := log }

namespace Program

/-- A step of a run. -/
abbrev Running := EStateM Error Program

/-- The name and the version of the program. -/
def title : String := "slack2mm v0.1.0"

/-- A step of the conversion. -/
def converting {α : Type} (act : Converting α) : Running α := fun p =>
  match act p.conversion with
  | .ok value c => .ok value { p with conversion := c }
  | .error error c => .error error { p with conversion := c }

/-- Prints lines. -/
def print (lines : List String) : Running Unit :=
  modify fun p => { p with printed := p.printed ++ lines }

/-- What is printed before the work. -/
def opening (a : Arguments) : List String :=
  [title, "Team:    " ++ a.team, "Export:  " ++ a.file, "Output:  " ++ a.output] ++
  (if a.skipAttachments then [] else ["Files:   " ++ a.attachmentsDir]) ++
  [""]

/-- What is printed after the work. -/
def closing (a : Arguments) (content : Mattermost.Import) (summary : Summary) : List String :=
  ["Done! Output saved to " ++ a.output, "", "Summary:",
    "   Users:     " ++ Nat.repr content.users.size,
    "   Channels:  " ++ Nat.repr content.channels.length,
    "   Threads:   " ++ Nat.repr content.posts.length,
    "   Posts:     " ++ Nat.repr content.postCount ++ " (" ++ Nat.repr summary.replies ++
      " replies)"] ++
  if 0 < summary.orphanReplies ∨ 0 < summary.skipped then
    ["   Dropped:   " ++ Nat.repr summary.orphanReplies ++ " orphan replies, " ++
      Nat.repr summary.skipped ++ " skipped messages"]
  else []

/-- What is printed last, the time that the run took. -/
def timeLine (seconds : String) : String := "   Time:      " ++ seconds ++ "s"

/-- Runs the program. -/
def run (a : Arguments) : Running Unit := do
  converting a.preparePaths
  print (opening a)
  let e ← converting (Conversion.readExport a.file)
  converting (Conversion.tell [.info "Export read"])
  converting (Conversion.convert a.config e)
  converting (Conversion.writeTo a.team a.output)
  let c := (← get).conversion
  print (closing a c.content c.summary)

end Program

end ChatImport
