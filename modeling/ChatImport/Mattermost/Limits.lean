import ChatImport.Mattermost.Import
import ChatImport.Log
import ChatImport.Text.Octets
/-!
# The limits of the destination

The destination takes handles of so many octets and texts of so many
characters, and it wants an address for every user. `withinLimits` brings a
channel, a user or a post within the limits and gives what the log says
about it: one warning for every field of a channel or a user that is
cut.
-/

namespace ChatImport

namespace Mattermost

namespace Limits

/-- The octets of a handle. -/
def handleOctets : Nat := 64

/-- The characters of a shown name. -/
def displayNameChars : Nat := 64

/-- The characters of a purpose. -/
def purposeChars : Nat := 250

/-- The characters of a header. -/
def headerChars : Nat := 1024

/-- The characters of a position. -/
def positionChars : Nat := 128

/-- The characters of a first name. -/
def firstNameChars : Nat := 64

/-- The characters of a last name. -/
def lastNameChars : Nat := 64

/-- The characters of a message, four octets each in the octets of a stored
message. -/
def messageChars : Nat := 65535 / 4

/-- A text cut to so many characters, with a warning if that takes anything
away. -/
def chars (limit : Nat) (warning : String) (s : String) : String × List LogLine :=
  if limit < charCount s then (takeChars limit s, [.warn warning]) else (s, [])

/-- A text cut to so many octets, with a warning if that takes anything
away. -/
def octets (limit : Nat) (warning : String) (s : String) : String × List LogLine :=
  if limit < s.utf8ByteSize then (takeOctets limit s, [.warn warning]) else (s, [])

end Limits

namespace Channel

/-- What the log says when a field of the channel shown under a name is cut. -/
def cutWarning (displayName field : String) : String :=
  "Channel " ++ displayName ++ " " ++ field ++
    " exceeds the maximum length. It will be truncated when imported."

/-- A name that is one character long, lengthened. -/
def lengthenedIfShort (name : String) : String :=
  if charCount name = 1 then Handle.lengthened name else name

/-- The handle within the limits: trimmed, cut, lengthened, and if it is
still not valid the identifier in its place. -/
def limitedName (c : Channel) : String × List LogLine :=
  let cut := Limits.octets Limits.handleOctets (cutWarning c.displayName "handle")
    (Handle.trimmed c.name)
  let name := lengthenedIfShort cut.1
  (if Handle.valid name then name else lowerCase c.id, cut.2)

/-- The shown name within the limits: trimmed, cut and lengthened. -/
def limitedDisplayName (c : Channel) : String × List LogLine :=
  let shown := Handle.trimmed c.displayName
  let cut := Limits.chars Limits.displayNameChars (cutWarning shown "display name") shown
  (lengthenedIfShort cut.1, cut.2)

/-- The channel within the limits, and what the log says about it. A direct
conversation has no name of its own and is left alone. -/
def withinLimits (c : Channel) : Channel × List LogLine :=
  if c.kind = .direct then (c, [])
  else
    let name := c.limitedName
    let displayName := c.limitedDisplayName
    let purpose := Limits.chars Limits.purposeChars (cutWarning displayName.1 "purpose") c.purpose
    let header := Limits.chars Limits.headerChars (cutWarning displayName.1 "header") c.header
    ({ c with
        name := name.1
        displayName := displayName.1
        purpose := purpose.1
        header := header.1 },
      name.2 ++ displayName.2 ++ purpose.2 ++ header.2)

end Channel

namespace User

/-- The address of a user who has given none. -/
def placeholderEmail (username : String) : String := username ++ "@example.com"

/-- What the log says when an address is filled in. -/
def placeholderWarning (username email : String) : String :=
  "User " ++ username ++ " does not have an email address in the Slack export. Used " ++ email ++
    " as a placeholder. The user should update their email address once logged in to the system."

/-- What the log says when a field of a user is cut. -/
def cutWarning (username field content : String) : String :=
  "User " ++ username ++ " " ++ field ++ " " ++ content ++
    " is too long. Field will be truncated"

/-- The address, or one that is filled in. -/
def filledEmail (u : User) : String × List LogLine :=
  if u.email.isEmpty then
    (placeholderEmail u.username,
      [.warn (placeholderWarning u.username (placeholderEmail u.username))])
  else (u.email, [])

/-- The user within the limits, and what the log says about it. -/
def withinLimits (u : User) : User × List LogLine :=
  let email := u.filledEmail
  let position := Limits.chars Limits.positionChars
    (cutWarning u.username "position" u.position) u.position
  let firstName := Limits.chars Limits.firstNameChars
    (cutWarning u.username "first name" u.firstName) u.firstName
  let lastName := Limits.chars Limits.lastNameChars
    (cutWarning u.username "last name" u.lastName) u.lastName
  ({ u with
      email := email.1
      position := position.1
      firstName := firstName.1
      lastName := lastName.1 },
    email.2 ++ position.2 ++ firstName.2 ++ lastName.2)

end User

namespace Post

/-- The post with its text cut to the limit; the log does not tell of it. -/
def withinLimits (p : Post) : Post :=
  { p with message := takeChars Limits.messageChars p.message }

end Post

end Mattermost

end ChatImport
