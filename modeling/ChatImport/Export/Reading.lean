import ChatImport.Export.Basic
/-!
# The reading of exports

An export is an archive or a directory with the same layout:

    users.json                      the users, and the one file that must be there
    channels.json, groups.json,     the channels by their kinds
      mpims.json, dms.json
    general/2024-01-01.json         the messages of a channel, one file a day
    __uploads/F123/photo.png        the uploaded files by their identifiers

Files are read in the order of their names, so that the messages of a channel
come in the order of their days. The first file of an identifier is the
uploaded one.
-/

namespace ChatImport

open Json (Decoder)

/-- The reading of something, with its log. -/
abbrev Reading := EStateM Error (Array LogLine)

namespace Reading

/-- Writes a line into the log. -/
def note (line : LogLine) : Reading Unit := modify fun log => log.push line

/-- Writes lines into the log. -/
def notes (lines : List LogLine) : Reading Unit := modify fun log => log.append lines.toArray

/-- What is read from a file, or the fault. -/
def orFault {α : Type} : Except FileFault α → Reading α
  | .ok value => pure value
  | .error fault => throw (.file fault)

/-- Reads the symbols of a file that is known under a name. The log tells of
a file that cannot be read. -/
def decoded {α : Type} (decoder : Decoder α) (name : String) (symbols : List Symbol) :
    Reading α :=
  match Json.read decoder symbols with
  | .ok value => pure value
  | .error problem => do
    note (.error ("Failed to parse " ++ name ++ ": " ++ problem.words))
    throw (.json problem)

end Reading

namespace Export

open Reading (note notes orFault decoded)

/-- The name of the directory of uploaded files. -/
def uploadsName : String := "__uploads"

/-- The name of the file that lists the users. -/
def usersName : String := "users.json"

/-- Reads the users. -/
def usersDecoder : Decoder (List Slack.User) := Decoder.list Slack.User.decoder

/-- Reads channels. -/
def channelsDecoder : Decoder (List Slack.Channel) := Decoder.list Slack.Channel.decoder

/-- Reads the messages of a day. -/
def messagesDecoder : Decoder (List Slack.Message) := Decoder.list Slack.Message.decoder

/-! ## Directories -/

/-- Reads the file under a path. -/
def fileValue {α : Type} (decoder : Decoder α) (files : Files) (path : String) : Reading α := do
  decoded decoder path (Symbol.ofOctets (← orFault (files.content path)))

/-- Reads the channels of a kind, if a file lists them. -/
def channelsIn (files : Files) (dir name : String) : Reading (List Slack.Channel) := do
  let path := Path.join dir name
  if files.isFile path then fileValue channelsDecoder files path
  else
    note (.debug (name ++ " not present in export"))
    return []

/-- Reads all lists of channels. -/
def withChannelLists (files : Files) (dir : String) :
    List (String × ChannelKind) → Export → Reading Export
  | [], e => pure e
  | (name, kind) :: rest, e => do
    let channels ← channelsIn files dir name
    withChannelLists files dir rest (e.withChannels kind channels)

/-- The names of the files among entries. -/
def fileNames (entries : List (String × Node)) : List String :=
  (entries.filter fun entry =>
    match entry.2 with
    | .file _ => true
    | .directory _ => false).map (·.1)

/-- The names of the directories among entries. -/
def directoryNames (entries : List (String × Node)) : List String :=
  (entries.filter fun entry =>
    match entry.2 with
    | .file _ => false
    | .directory _ => true).map (·.1)

/-- Reads the messages of several days. -/
def daysIn (files : Files) (dir : String) : List String → Reading (List Slack.Message)
  | [] => pure []
  | name :: rest => do
    let messages ← fileValue messagesDecoder files (Path.join dir name)
    return messages ++ (← daysIn files dir rest)

/-- Reads the messages of several channels. -/
def withChannelMessages (files : Files) (dir : String) : List String → Export → Reading Export
  | [], e => pure e
  | name :: rest, e => do
    let channelDir := Path.join dir name
    let entries ← orFault (files.entries channelDir)
    let days := (fileNames entries).filter fun day => Path.typeEnding? day == some "json"
    let messages ← daysIn files channelDir days
    note (.debug ("Channel " ++ name ++ ": " ++ Nat.repr messages.length ++ " messages in " ++
      Nat.repr days.length ++ " files"))
    withChannelMessages files dir rest (e.withMessages name messages)

/-- The paths of the uploaded files by their identifiers. -/
def uploadPaths (files : Files) (dir : String) :
    List String → Table String → Except FileFault (Table String)
  | [], paths => pure paths
  | id :: rest, paths => do
    let idDir := Path.join dir id
    match fileNames (← files.entries idDir) with
    | [] => uploadPaths files dir rest paths
    | name :: _ => uploadPaths files dir rest (paths.insert id (Path.join idDir name))

/-- The uploaded files below a directory. -/
def uploadsIn (files : Files) (dir : String) : Except FileFault Uploads :=
  if files.isDirectory dir then do
    let ids := directoryNames (← files.entries dir)
    return .inDirectory (← uploadPaths files dir ids Table.empty)
  else pure .none

/-- Reads the export in a directory. -/
def readDirectory (files : Files) (dir : String) : Reading Export := do
  note (.info ("Reading Slack export from " ++ dir))
  let usersPath := Path.join dir usersName
  if !files.isFile usersPath then throw (.export .usersMissing (some usersPath))
  let users ← fileValue usersDecoder files usersPath
  let listed ← withChannelLists files dir channelLists { empty with users := users }
  let names := directoryNames (← orFault (files.entries dir))
  let filled ← withChannelMessages files dir (names.filter (· ≠ uploadsName)) listed
  let uploads ← orFault (uploadsIn files (Path.join dir uploadsName))
  return { filled with uploads := uploads }

/-! ## Archives -/

/-- Reads an entry of an archive. -/
def entryValue {α : Type} (decoder : Decoder α) (archive : Archive) (file : ByteArray)
    (name : String) : Reading α :=
  match archive.entries.find? name with
  | none => throw .archive
  | some entry =>
    match entry.open? file with
    | none => throw .archive
    | some start =>
      match entry.content file start with
      | (_, some fault) => throw (.file fault)
      | (content, none) =>
        match String.fromUTF8? content with
        | none => throw (.file .invalidData)
        | some text => decoded decoder name (Symbol.ofString text)

/-- What has been read of an archive. -/
structure Gathered where
  /-- The users, once they are read. -/
  users : Option (List Slack.User)
  /-- Everything else. -/
  rest : Export
  /-- The names of the uploaded files by their identifiers. -/
  uploads : Table String

/-- Reads one entry of an archive, as far as it belongs to the layout. -/
def gather (archive : Archive) (file : ByteArray) (g : Gathered) (name : String) :
    Reading Gathered :=
  match (splitAtAll '/' name.toList).map String.ofList with
  | [single] =>
    if single = usersName then do
      let users ← entryValue usersDecoder archive file name
      return { g with users := some users }
    else
      match channelLists.find? fun list => list.1 == single with
      | none => pure g
      | some list => do
        let channels ← entryValue channelsDecoder archive file name
        return { g with rest := g.rest.withChannels list.2 channels }
  | [channel, day] =>
    if channel ≠ uploadsName ∧ ".json".toList.isSuffixOf day.toList then do
      let messages ← entryValue messagesDecoder archive file name
      return { g with rest := g.rest.withMessages channel messages }
    else pure g
  | [top, id, upload] =>
    if top = uploadsName ∧ id ≠ "" ∧ upload ≠ "" ∧ g.uploads.contains id = false then
      pure { g with uploads := g.uploads.insert id name }
    else pure g
  | _ => pure g

/-- Reads the entries of an archive one after the other. -/
def gatherAll (archive : Archive) (file : ByteArray) :
    List String → Gathered → Reading Gathered
  | [], g => pure g
  | name :: rest, g => do gatherAll archive file rest (← gather archive file g name)

/-- Reads the export in an archive. -/
def readArchive (files : Files) (path : String) : Reading Export := do
  note (.info ("Reading Slack export archive " ++ path))
  let file ← orFault (files.content path)
  match Archive.read? file with
  | none => throw .archive
  | some archive =>
    let g ← gatherAll archive file archive.names ⟨none, empty, Table.empty⟩
    match g.users with
    | none => throw (.export .usersMissingFromArchive (some path))
    | some users =>
      notes (g.rest.messages.entries.map fun entry =>
        .debug ("Channel " ++ entry.1 ++ ": " ++ Nat.repr entry.2.length ++ " messages"))
      return { g.rest with users := users, uploads := .inArchive path archive g.uploads }

/-! ## Both -/

/-- Reads the export under a path, an archive or a directory. -/
def read (files : Files) (path : String) : Reading Export := do
  let e ← if files.isFile path then readArchive files path
    else if files.isDirectory path then readDirectory files path
    else throw (.export .noExport (some path))
  note e.readNotice
  return e

end Export

end ChatImport
