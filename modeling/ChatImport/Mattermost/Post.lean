import ChatImport.Json.Decoder
/-!
# Posts of an import

A post is a message as it is imported, and if it opened a thread the replies
go with it. Its text reads back as the same post, so a post can be
put away as text and taken up again in a later run.
-/

namespace ChatImport

namespace Mattermost

open Json (Decoder Field Record)

/-- A post with the replies to it. -/
structure Post where
  /-- The name of the author. -/
  user : String
  /-- The handle of the channel. -/
  channel : String
  /-- The text. -/
  message : String
  /-- Content of any shape that goes with the post, under its names in order. -/
  props : List (String × Json)
  /-- The creation time in milliseconds. -/
  createAt : Int
  /-- The paths of the copied files. -/
  attachments : List String
  /-- The replies, in the order in which they came. -/
  replies : List Post
  /-- Does the post belong to a conversation? -/
  isDirect : Bool
  /-- The names of the members of that conversation. -/
  channelMembers : List String
  deriving Inhabited

namespace Post

/-- The post of which nothing is known. -/
def blank : Post := ⟨"", "", "", [], 0, [], [], false, []⟩

/-- A post with nothing beside its text. -/
def plain (user channel message : String) (createAt : Int) : Post :=
  ⟨user, channel, message, [], createAt, [], [], false, []⟩

/-- The number of posts in the thread of a post, itself included. -/
def threadLength (p : Post) : Nat := 1 + p.replies.length

/-- The fields of a post, given how its replies are read. -/
def record (reply : Decoder Post) : Record Post where
  title := "IntermediatePost"
  blank := blank
  fields := [
    .of "user" .required Decoder.text fun p s => { p with user := s },
    .of "channel" .required Decoder.text fun p s => { p with channel := s },
    .of "message" .required Decoder.text fun p s => { p with message := s },
    .of "props" .defaulted Decoder.members fun p props => { p with props := props },
    .of "create_at" .required Decoder.signed fun p time => { p with createAt := time },
    .of "attachments" .defaulted (Decoder.list Decoder.text)
      fun p paths => { p with attachments := paths },
    .of "replies" .defaulted (Decoder.list reply) fun p replies => { p with replies := replies },
    .of "is_direct" .defaulted Decoder.boolean fun p b => { p with isDirect := b },
    .of "channel_members" .defaulted (Decoder.list Decoder.text)
      fun p names => { p with channelMembers := names }]

/-- Reads a post whose replies nest no deeper than a bound. -/
def decoderWithin : Nat → Decoder Post
  | 0 => (record fun _ _ => Json.faulty .malformed).decode
  | bound + 1 => (record (decoderWithin bound)).decode

/-- Reads a post. Each reply opens two levels more, so the levels that may be
opened bound the replies. -/
def decoder : Decoder Post := fun level => decoderWithin level level

mutual

/-- The post as a value. -/
def json : Post → Json
  | ⟨user, channel, message, props, createAt, attachments, replies, isDirect, channelMembers⟩ =>
    .object [("user", .string user), ("channel", .string channel), ("message", .string message),
      ("props", .object props), ("create_at", .integer createAt),
      ("attachments", Json.strings attachments), ("replies", .array (repliesJson replies)),
      ("is_direct", .boolean isDirect), ("channel_members", Json.strings channelMembers)]

/-- Replies as values. -/
def repliesJson : List Post → List Json
  | [] => []
  | reply :: rest => reply.json :: repliesJson rest

end

end Post

end Mattermost

end ChatImport
