import ChatImport.ChannelKind
import ChatImport.Mattermost.Handle
/-!
# Channels of an import

A channel as it is imported. The members are known by the identifiers they
had in the workspace; a conversation also names them.
-/

namespace ChatImport

namespace Mattermost

open Json (Decoder Field Record)

/-- A channel. -/
structure Channel where
  /-- The identifier in the workspace. -/
  id : String
  /-- The name under which the messages of the channel are kept. -/
  exportName : String
  /-- The handle. -/
  name : String
  /-- The name that is shown. -/
  displayName : String
  /-- The identifiers of the members. -/
  members : List String
  /-- The names of the members, for conversations. -/
  memberNames : List String
  /-- What the channel is for. -/
  purpose : String
  /-- What stands above the messages. -/
  header : String
  /-- What the channel is about. -/
  topic : String
  /-- The kind. -/
  kind : ChannelKind
  deriving DecidableEq, Inhabited

namespace Channel

/-- The channel of which nothing is known. -/
def blank : Channel := ⟨"", "", "", "", [], [], "", "", "", .openToAll⟩

/-- The fields of a channel. -/
def record : Record Channel where
  title := "IntermediateChannel"
  blank := blank
  fields := [
    .of "id" .required Decoder.text fun c s => { c with id := s },
    .of "original_name" .required Decoder.text fun c s => { c with exportName := s },
    .of "name" .required Decoder.text fun c s => { c with name := s },
    .of "display_name" .required Decoder.text fun c s => { c with displayName := s },
    .of "members" .required (Decoder.list Decoder.text) fun c ids => { c with members := ids },
    .of "members_usernames" .required (Decoder.list Decoder.text)
      fun c names => { c with memberNames := names },
    .of "purpose" .required Decoder.text fun c s => { c with purpose := s },
    .of "header" .required Decoder.text fun c s => { c with header := s },
    .of "topic" .required Decoder.text fun c s => { c with topic := s },
    .of "type" .required ChannelKind.decoder fun c kind => { c with kind := kind }]

/-- Reads a channel. -/
def decoder : Decoder Channel := record.decode

/-- The channel as a value. -/
def json (c : Channel) : Json :=
  .object [("id", .string c.id), ("original_name", .string c.exportName),
    ("name", .string c.name), ("display_name", .string c.displayName),
    ("members", Json.strings c.members), ("members_usernames", Json.strings c.memberNames),
    ("purpose", .string c.purpose), ("header", .string c.header), ("topic", .string c.topic),
    ("type", c.kind.json)]

end Channel

end Mattermost

end ChatImport
