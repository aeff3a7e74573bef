import ChatImport.ChannelKind
/-!
# Channels of a workspace

A channel of the export. Its kind is not part of its text: it is known from
the file that lists the channel. Direct conversations have no name, and
then the identifier takes its place.
-/

namespace ChatImport

namespace Slack

open Json (Decoder Field Record)

/-- A text about a channel, kept in a value of its own. -/
def note : Record String where
  title := "SlackChannelSub"
  blank := ""
  fields := [.of "value" .defaulted Decoder.text fun _ s => s]

/-- A text about a channel as a value. -/
def noteJson (s : String) : Json := .object [("value", .string s)]

/-- A channel. -/
structure Channel where
  /-- The identifier. -/
  id : String
  /-- The name, empty for a direct conversation. -/
  name : String
  /-- The identifiers of the members, as listed. -/
  members : List String
  /-- What the channel is for. -/
  purpose : String
  /-- What the channel is about. -/
  topic : String
  /-- The kind, from the file that lists the channel. -/
  kind : ChannelKind
  deriving DecidableEq, Inhabited

namespace Channel

/-- The channel of which nothing is known. -/
def blank : Channel := ⟨"", "", [], "", "", .openToAll⟩

/-- The fields of a channel. -/
def record : Record Channel where
  title := "SlackChannel"
  blank := blank
  fields := [
    .of "id" .required Decoder.text fun c s => { c with id := s },
    .of "name" .defaulted Decoder.text fun c s => { c with name := s },
    .of "members" .defaulted (Decoder.list Decoder.text) fun c ids => { c with members := ids },
    .of "purpose" .defaulted note.decode fun c s => { c with purpose := s },
    .of "topic" .defaulted note.decode fun c s => { c with topic := s }]

/-- Reads a channel, as one that everyone may join. -/
def decoder : Decoder Channel := record.decode

/-- The channel as a value, without its kind. -/
def json (c : Channel) : Json :=
  .object [("id", .string c.id), ("name", .string c.name), ("members", Json.strings c.members),
    ("purpose", noteJson c.purpose), ("topic", noteJson c.topic)]

/-- The name under which the messages of the channel are kept. -/
def exportName (c : Channel) : String := if c.name.isEmpty then c.id else c.name

end Channel

end Slack

end ChatImport
