import ChatImport.Json.Decoder
import ChatImport.Slack.Timestamp
/-!
# Messages of a workspace

A message of the export as it is read from a daily file, and what its
fields say of it: its kind, which decides whether and how it is imported,
whether it replies to another message, and which files belong to it.
-/

namespace ChatImport

namespace Slack

open Json (Decoder Field Record)

/-- The remark of a message about a file. -/
structure Comment where
  /-- Who makes the remark. -/
  user : String
  /-- What the remark says. -/
  comment : String
  deriving DecidableEq, Inhabited

namespace Comment

/-- The fields of a remark. -/
def record : Record Comment where
  title := "SlackComment"
  blank := ⟨"", ""⟩
  fields := [
    .of "user" .defaulted Decoder.text fun c s => { c with user := s },
    .of "comment" .defaulted Decoder.text fun c s => { c with comment := s }]

/-- The remark as a value. -/
def json (c : Comment) : Json :=
  .object [("user", .string c.user), ("comment", .string c.comment)]

end Comment

/-- A file shared in a message. -/
structure File where
  /-- The identifier under which the file was uploaded. -/
  id : String
  /-- The name of the file. -/
  name : String
  /-- The title of the file. -/
  title : String
  deriving DecidableEq, Inhabited

namespace File

/-- The fields of a file. -/
def record : Record File where
  title := "SlackFile"
  blank := ⟨"", "", ""⟩
  fields := [
    .of "id" .required Decoder.text fun f s => { f with id := s },
    .of "name" .defaulted Decoder.text fun f s => { f with name := s },
    .of "title" .defaulted Decoder.text fun f s => { f with title := s }]

/-- Reads a file. -/
def decoder : Decoder File := record.decode

/-- The file as a value. -/
def json (f : File) : Json :=
  .object [("id", .string f.id), ("name", .string f.name), ("title", .string f.title)]

end File

/-- A message of a daily file. -/
structure Message where
  /-- The identifier of the author. -/
  user : String
  /-- The identifier of the bot that posted the message. -/
  botId : String
  /-- The name of that bot. -/
  botUsername : String
  /-- The text. -/
  text : String
  /-- The time of the message, which also identifies it in its channel. -/
  timestamp : String
  /-- The time of the message that opened the thread. -/
  threadTimestamp : String
  /-- The type. -/
  type : String
  /-- The type within the type. -/
  subtype : String
  /-- The remark of a message about a file. -/
  comment : Option Comment
  /-- The file of a message with one file. -/
  file : Option File
  /-- The files of a message with several. -/
  files : Option (List File)
  /-- Content of any shape that goes with the message. -/
  attachments : List Json
  deriving Inhabited

/-- How a message is imported. -/
inductive MessageKind where
  /-- A message of a user, perhaps with files. -/
  | plain
  /-- A remark about a shared file. -/
  | fileComment
  /-- A message of a bot or a workflow. -/
  | bot
  /-- A note that a user came or went. -/
  | joinLeave
  /-- A message of a user about himself. -/
  | me
  /-- A change of the topic. -/
  | channelTopic
  /-- A change of the purpose. -/
  | channelPurpose
  /-- A change of the name. -/
  | channelName
  /-- Anything else. -/
  | unsupported
  deriving DecidableEq, Inhabited

/-- Can messages of the kind be imported? -/
def MessageKind.importable : MessageKind → Bool
  | .joinLeave | .me | .unsupported => false
  | .plain | .fileComment | .bot | .channelTopic | .channelPurpose | .channelName => true

namespace Message

/-- The message of which nothing is known. -/
def blank : Message := ⟨"", "", "", "", "", "", "", "", none, none, none, []⟩

/-- The fields of a message. -/
def record : Record Message where
  title := "SlackPost"
  blank := blank
  fields := [
    .of "user" .defaulted Decoder.text fun m s => { m with user := s },
    .of "bot_id" .defaulted Decoder.text fun m s => { m with botId := s },
    .of "username" .defaulted Decoder.text fun m s => { m with botUsername := s },
    .of "text" .defaulted Decoder.text fun m s => { m with text := s },
    .of "ts" .defaulted Decoder.text fun m s => { m with timestamp := s },
    .of "thread_ts" .defaulted Decoder.text fun m s => { m with threadTimestamp := s },
    .of "type" .defaulted Decoder.text fun m s => { m with type := s },
    .of "subtype" .defaulted Decoder.text fun m s => { m with subtype := s },
    .of "comment" .optional (Decoder.nullable Comment.record.decode)
      fun m c => { m with comment := c },
    .of "file" .optional (Decoder.nullable File.decoder) fun m f => { m with file := f },
    .of "files" .optional (Decoder.nullable (Decoder.list File.decoder))
      fun m fs => { m with files := fs },
    .of "attachments" .defaulted (Decoder.list Decoder.value)
      fun m values => { m with attachments := values }]

/-- Reads a message. -/
def decoder : Decoder Message := record.decode

/-- The message as a value. -/
def json (m : Message) : Json :=
  .object [("user", .string m.user), ("bot_id", .string m.botId),
    ("username", .string m.botUsername), ("text", .string m.text), ("ts", .string m.timestamp),
    ("thread_ts", .string m.threadTimestamp), ("type", .string m.type),
    ("subtype", .string m.subtype), ("comment", m.comment.elim .null Comment.json),
    ("file", m.file.elim .null File.json),
    ("files", m.files.elim .null fun fs => .array (fs.map File.json)),
    ("attachments", .array m.attachments)]

/-- The kind of a message, by its type and subtype. -/
def kind (m : Message) : MessageKind :=
  if m.type ≠ "message" then .unsupported
  else
    match m.subtype with
    | "" | "file_share" | "thread_broadcast" => .plain
    | "file_comment" => .fileComment
    | "bot_message" => .bot
    | "channel_join" | "channel_leave" => .joinLeave
    | "me_message" => .me
    | "channel_topic" => .channelTopic
    | "channel_purpose" => .channelPurpose
    | "channel_name" => .channelName
    | _ => .unsupported

/-- Does the message reply to another one? -/
def isReply (m : Message) : Bool :=
  !m.threadTimestamp.isEmpty && m.threadTimestamp != m.timestamp

/-- The files of the message; a single file takes precedence. -/
def attachedFiles (m : Message) : List File :=
  match m.file, m.files with
  | some file, _ => [file]
  | none, some files => files
  | none, none => []

/-- The key that orders the messages of a channel by time. -/
def sortKey (m : Message) : Int := Timestamp.sortKey m.timestamp

/-- The creation time in milliseconds. -/
def createdAt (m : Message) : Int := Timestamp.millis m.timestamp

end Message

end Slack

end ChatImport
