import ChatImport.Json.Decoder
/-!
# Kinds of channels

Both services know the same four kinds of channels. Conversations between a
few users, in a group or one with another, are *direct*: they have members
instead of a handle that others could find.
-/

namespace ChatImport

/-- The kind of a channel. -/
inductive ChannelKind where
  /-- A channel that everyone may join. -/
  | openToAll
  /-- A channel that takes an invitation. -/
  | inviteOnly
  /-- A conversation of a group. -/
  | group
  /-- A conversation of two. -/
  | direct
  deriving DecidableEq, Inhabited

namespace ChannelKind

/-- The letter for a kind. -/
def code : ChannelKind → String
  | .openToAll => "O"
  | .inviteOnly => "P"
  | .group => "G"
  | .direct => "D"

/-- The word for a kind. -/
def word : ChannelKind → String
  | .openToAll => "public"
  | .inviteOnly => "private"
  | .group => "group"
  | .direct => "direct"

/-- Is the channel a conversation between its members? -/
def isDirect : ChannelKind → Bool
  | .group | .direct => true
  | .openToAll | .inviteOnly => false

/-- The kinds in the order in which they are listed. -/
def all : List ChannelKind := [.openToAll, .inviteOnly, .group, .direct]

/-- The kind as a value. -/
def json (kind : ChannelKind) : Json := .string kind.code

/-- Reads a kind by its letter. -/
def decoder : Json.Decoder ChannelKind :=
  Json.Decoder.oneOf (all.map fun kind => (kind.code, kind))

end ChannelKind

end ChatImport
