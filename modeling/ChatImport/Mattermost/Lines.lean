import ChatImport.Mattermost.Import
import ChatImport.Log
/-!
# The lines of an import file

An import is written as one object a line, in the order in which the
destination needs them: the version, the channels, the users, the
conversations, and then the posts. Each line names its type and holds one
member of that name. Members that would be empty are left out where the
destination takes their absence for that.
-/

namespace ChatImport

namespace Mattermost

namespace Lines

/-- A line of a type, with its one member. -/
def line (type : String) (content : Json) : Json :=
  .object [("type", .string type), (type, content)]

/-- The version of the format. -/
def versionLine : Json := line "version" (.integer 1)

/-- A member that is left out when its text is empty. -/
def unlessEmpty (name value : String) : List (String × Json) :=
  if value.isEmpty then [] else [(name, .string value)]

/-- The line of a channel that has a handle. -/
def channelLine (team : String) (c : Channel) : Json :=
  line "channel" (.object [("team", .string team), ("name", .string c.name),
    ("display_name", .string c.displayName), ("type", .string c.kind.code),
    ("header", .string c.header), ("purpose", .string c.purpose)])

/-- The membership of a user in a channel. -/
def membership (name : String) : Json :=
  .object [("name", .string name), ("roles", .string "channel_user")]

/-- The line of a user, who belongs to the one team. -/
def userLine (team : String) (u : User) : Json :=
  line "user" (.object (
    [("username", .string u.username), ("email", .string u.email)] ++
    unlessEmpty "auth_service" u.authService ++
    (u.authData.elim [] fun data => [("auth_data", .string data)]) ++
    unlessEmpty "password" u.password ++
    [("first_name", .string u.firstName), ("last_name", .string u.lastName),
      ("position", .string u.position), ("roles", .string "system_user"),
      ("teams", .array [.object [("name", .string team), ("roles", .string "team_user"),
        ("channels", .array (u.memberships.map membership))]])]))

/-- The line of a conversation. -/
def directChannelLine (c : Channel) : Json :=
  line "direct_channel" (.object [("members", Json.strings c.memberNames),
    ("header", .string c.header)])

/-- A list that is left out when it is empty. -/
def unlessNone (name : String) (items : List Json) : List (String × Json) :=
  if items.isEmpty then [] else [(name, .array items)]

/-- A copied file. -/
def attachment (path : String) : Json := .object [("path", .string path)]

mutual

/-- What posts and replies have in common. -/
def body : Post → List (String × Json)
  | ⟨user, _, message, props, createAt, attachments, replies, _, _⟩ =>
    [("user", .string user), ("message", .string message)] ++
    (if props.isEmpty then [] else [("props", .object props)]) ++
    [("create_at", .integer createAt)] ++
    unlessNone "attachments" (attachments.map attachment) ++
    unlessNone "replies" (bodies replies)

/-- Replies, each with what it has in common with posts. -/
def bodies : List Post → List Json
  | [] => []
  | reply :: rest => .object (body reply) :: bodies rest

end

/-- The line of a post with its replies, in a channel or in a conversation. -/
def postLine (team : String) (p : Post) : Json :=
  if p.isDirect then
    line "direct_post" (.object (("channel_members", Json.strings p.channelMembers) :: body p))
  else
    line "post" (.object ([("team", .string team), ("channel", .string p.channel)] ++ body p))

end Lines

namespace Import

/-- The lines of an import for a team. -/
def lines (i : Import) (team : String) : List Json :=
  [Lines.versionLine] ++
  (i.publicChannels ++ i.privateChannels).map (Lines.channelLine team) ++
  i.users.values.map (Lines.userLine team) ++
  (i.groupChannels ++ i.directChannels).map Lines.directChannelLine ++
  i.posts.map (Lines.postLine team)

/-- The text of the import file for a team. -/
def fileText (i : Import) (team : String) : String :=
  String.join ((i.lines team).map fun line => line.text ++ "\n")

/-- What the log says when an import has been written to a path. -/
def writtenNotice (i : Import) (path : String) : LogLine :=
  .info ("Wrote " ++ Nat.repr i.channels.length ++ " channels, " ++ Nat.repr i.users.size ++
    " users and " ++ Nat.repr i.postCount ++ " posts to " ++ path)

end Import

end Mattermost

end ChatImport
