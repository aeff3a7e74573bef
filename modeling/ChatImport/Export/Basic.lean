import ChatImport.Export.Uploads
import ChatImport.Slack.Channel
import ChatImport.Slack.Message
import ChatImport.Slack.User
/-!
# Exports of a workspace

An export holds the users and channels of a workspace, the messages of each
channel under its name, and the uploaded files.
-/

namespace ChatImport

/-- What a workspace exports. -/
structure Export where
  /-- The users. -/
  users : List Slack.User
  /-- The channels that everyone may join. -/
  publicChannels : List Slack.Channel
  /-- The channels that take an invitation. -/
  privateChannels : List Slack.Channel
  /-- The conversations of groups. -/
  groupChannels : List Slack.Channel
  /-- The conversations of two. -/
  directChannels : List Slack.Channel
  /-- The messages by the names of their channels. -/
  messages : Table (List Slack.Message)
  /-- The uploaded files. -/
  uploads : Uploads
  deriving Inhabited

namespace Export

/-- An export without anything. -/
def empty : Export := ⟨[], [], [], [], [], Table.empty, .none⟩

/-- Channels as channels of a kind. -/
def ofKind (kind : ChannelKind) (channels : List Slack.Channel) : List Slack.Channel :=
  channels.map fun channel => { channel with kind := kind }

/-- The files that list channels, each with the kind of its channels. -/
def channelLists : List (String × ChannelKind) :=
  [("channels.json", .openToAll), ("groups.json", .inviteOnly), ("mpims.json", .group),
    ("dms.json", .direct)]

/-- The export with the channels of a kind. -/
def withChannels (e : Export) (kind : ChannelKind) (channels : List Slack.Channel) : Export :=
  match kind with
  | .openToAll => { e with publicChannels := ofKind kind channels }
  | .inviteOnly => { e with privateChannels := ofKind kind channels }
  | .group => { e with groupChannels := ofKind kind channels }
  | .direct => { e with directChannels := ofKind kind channels }

/-- The export with more messages of a channel. -/
def withMessages (e : Export) (name : String) (messages : List Slack.Message) : Export :=
  { e with
    messages := e.messages.insert name ((e.messages.find? name).getD [] ++ messages) }

/-- What the log says of an export that was read. -/
def readNotice (e : Export) : LogLine :=
  .info ("Export contains " ++ Nat.repr e.users.length ++ " users, " ++
    Nat.repr e.messages.size ++ " channels with messages and " ++ Nat.repr e.uploads.size ++
    " uploaded files")

end Export

end ChatImport
