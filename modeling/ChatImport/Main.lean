import ChatImport.Program
/-!
# The command line

The outer layer: it takes a picture of the files that a run may look at, lets
`Program.run` work on the picture, and writes down what has changed.
-/

namespace ChatImport

namespace Main

/-- The text under which names lead from the root of all files. -/
def pathOf (place : List String) : String := "/" ++ String.intercalate "/" place

/-- Takes a picture of a file, or of a directory and everything below it. -/
partial def picture (path : String) : IO Node := do
  let real ← IO.FS.realPath path
  if ← real.isDir then
    let found ← real.readDir
    let nodes ← found.toList.mapM fun entry => do
      return (entry.fileName, ← picture (path ++ "/" ++ entry.fileName))
    return .directory (nodes.foldl (fun nodes entry => setEntry entry.1 entry.2 nodes) [])
  else return .file (← IO.FS.readBinFile path)

/-- Does anything stand under a path? -/
def isThere (path : String) : IO Bool :=
  try (do let _ ← IO.FS.realPath path; return true) catch _ => return false

/-- Does a directory stand under a path? -/
def isDirectory (path : String) : IO Bool :=
  try (do (← IO.FS.realPath path).isDir) catch _ => return false

/-- A file or a directory without what it holds. -/
def outline (path : String) : IO Node := do
  if ← isDirectory path then return .directory [] else return .file ByteArray.empty

/-- Puts outlines of what stands on the way along a path into the picture, and
gives where the way leads if it does not break off. -/
def withWay (files : Files) (path : String) : IO (Files × Option (List String)) := do
  let mut files := files
  let mut place := files.start path
  for part in Path.parts path do
    place := Node.onward place part
    if !(← isThere (pathOf place)) then return (files, none)
    if (files.root.reach place).toOption.isNone then
      files := { files with root := files.root.placed place (← outline (pathOf place)) }
  return (files, some place)

/-- Puts what stands under a path into the picture, with all that it holds. -/
def withPath (files : Files) (path : String) : IO Files := do
  match ← withWay files path with
  | (files, none) => return files
  | (files, some place) =>
    return { files with root := files.root.placed place (← picture (pathOf place)) }

/-- The picture of what a run may look at. What the import replaces is only
outlined. -/
def look (a : Arguments) : IO Files := do
  let here := (Path.parts (← IO.currentDir).toString).filter (· ≠ "")
  let start : Files := ⟨Node.placed (.directory []) here (.directory []), here⟩
  let parent := String.intercalate "/" (Path.parts a.output).dropLast
  let (way, _) ← withWay start (if parent.isEmpty then "." else parent)
  let (output, _) ← if ← isDirectory a.output then withWay way a.output else pure (way, none)
  withPath (← withPath output a.attachmentsDir) a.file

/-- Writes down what has changed below a place. -/
partial def writeChanges (place : List String) (before : Option Node) (after : Node) : IO Unit := do
  match after with
  | .file content =>
    let same := match before with
      | some (.file old) => old == content
      | _ => false
    if !same then IO.FS.writeBinFile (pathOf place) content
  | .directory entries =>
    if before.isNone then IO.FS.createDirAll (pathOf place)
    for (name, node) in entries do
      let old := match before with
        | some (.directory olds) => Node.child? olds name
        | _ => none
      writeChanges (place ++ [name]) old node

/-- Draws a password of letters and digits. -/
def drawPassword : IO String := do
  let letters := "ABCDEFGHIJKLMNOPQRSTUVWXYZabcdefghijklmnopqrstuvwxyz0123456789".toList.toArray
  let mut drawn := ""
  for _ in List.range 26 do
    drawn := drawn.push (letters.getD (← IO.rand 0 (letters.size - 1)) 'A')
  return drawn

/-- What is printed for the help. -/
def helpText : String := "\n".intercalate
  ["Convert a Slack export into a Mattermost bulk-import file.", "",
    "Usage: slack2mm [OPTIONS] --team <TEAM> --file <FILE>", "", "Options:"] ++
  String.join (Arguments.choices.map fun choice =>
    "\n  " ++ (choice.letter.elim "    " fun c => "-" ++ c.toString ++ ", ") ++ "--" ++
      choice.name ++ (if choice.takes.value then " <VALUE>" else ""))

/-- What is printed for a refused command line. -/
def refusalText : CommandLine.Refusal → String
  | .missing => "error: the following required arguments were not provided"
  | .unknown => "error: unexpected argument found"
  | .badValue => "error: invalid value for an option"
  | .repeated => "error: an option cannot be used multiple times"
  | .excessValue => "error: unexpected value for an option"
  | .help => helpText
  | .version => Program.title

/-- A number of milliseconds in seconds with two places. -/
def seconds (millis : Nat) : String :=
  let hundredths := (millis + 5) / 10
  let places := hundredths % 100
  Nat.repr (hundredths / 100) ++ "." ++ (if places < 10 then "0" else "") ++ Nat.repr places

/-- Runs the program on the arguments, and gives its exit code. -/
def perform (a : Arguments) : IO UInt32 := do
  let began ← IO.monoMsNow
  let files ← look a
  let start : Program := ⟨.fresh (← drawPassword) files .empty, #[]⟩
  let (error, p) := match Program.run a start with
    | .ok _ p => (none, p)
    | .error error p => (some error, p)
  for line in p.conversion.log do
    if a.shownLevel.rank ≤ line.level.rank then IO.eprintln line.render
  for line in p.printed do IO.println line
  writeChanges [] (some files.root) p.conversion.files.root
  match error with
  | some error =>
    IO.eprintln ("Error: " ++ error.message)
    return 1
  | none =>
    IO.println (Program.timeLine (seconds ((← IO.monoMsNow) - began)))
    return 0

end Main

end ChatImport

/-- Reads the command line and runs the program. -/
def main (words : List String) : IO UInt32 := do
  match ChatImport.Arguments.read words with
  | .ok a => ChatImport.Main.perform a
  | .error .help => IO.println (ChatImport.Main.refusalText .help); return 0
  | .error .version => IO.println (ChatImport.Main.refusalText .version); return 0
  | .error refusal => IO.eprintln (ChatImport.Main.refusalText refusal); return 2
