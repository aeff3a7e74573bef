import ChatImport.Mattermost.Channel
import ChatImport.Mattermost.User
import ChatImport.Mattermost.Post
/-!
# A whole import

An import holds all that is written for the destination: the channels by
their kinds, the users by their identifiers, and the roots of the threads
with their replies.
-/

namespace ChatImport

namespace Mattermost

open Json (Decoder Field Record)

/-- All that is imported. -/
structure Import where
  /-- The channels that everyone may join. -/
  publicChannels : List Channel
  /-- The channels that take an invitation. -/
  privateChannels : List Channel
  /-- The conversations of groups. -/
  groupChannels : List Channel
  /-- The conversations of two. -/
  directChannels : List Channel
  /-- The users by their identifiers. -/
  users : Table User
  /-- The roots of the threads. -/
  posts : List Post
  deriving Inhabited

namespace Import

/-- The import without anything. -/
def empty : Import := ⟨[], [], [], [], Table.empty, []⟩

/-- All channels: public, private, of groups and direct. -/
def channels (i : Import) : List Channel :=
  i.publicChannels ++ i.privateChannels ++ i.groupChannels ++ i.directChannels

/-- The number of posts, replies included. -/
def postCount (i : Import) : Nat := i.posts.foldl (fun count post => count + post.threadLength) 0

/-- The fields of an import. -/
def record : Record Import where
  title := "Intermediate"
  blank := empty
  fields := [
    .of "public_channels" .required (Decoder.list Channel.decoder)
      fun i cs => { i with publicChannels := cs },
    .of "private_channels" .required (Decoder.list Channel.decoder)
      fun i cs => { i with privateChannels := cs },
    .of "group_channels" .required (Decoder.list Channel.decoder)
      fun i cs => { i with groupChannels := cs },
    .of "direct_channels" .required (Decoder.list Channel.decoder)
      fun i cs => { i with directChannels := cs },
    .of "users" .required (Decoder.table User.decoder) fun i us => { i with users := us },
    .of "posts" .required (Decoder.list Post.decoder) fun i ps => { i with posts := ps }]

/-- Reads an import. -/
def decoder : Decoder Import := record.decode

/-- The import as a value. -/
def json (i : Import) : Json :=
  .object [("public_channels", .array (i.publicChannels.map Channel.json)),
    ("private_channels", .array (i.privateChannels.map Channel.json)),
    ("group_channels", .array (i.groupChannels.map Channel.json)),
    ("direct_channels", .array (i.directChannels.map Channel.json)),
    ("users", .object (i.users.entries.map fun entry => (entry.1, entry.2.json))),
    ("posts", .array (i.posts.map Post.json))]

end Import

end Mattermost

end ChatImport
