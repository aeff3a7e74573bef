import ChatImport.Text.Cut
import ChatImport.Text.LowerCase
/-!
# Handles of channels

A channel is addressed by its handle, which is made of small letters,
digits, underscores and hyphens. `Handle.ofName` makes one from the name
that a channel had: a good name is kept without the underscores and hyphens
at its ends, a name of one character is lengthened, and for any other name
the identifier of the channel stands in.
-/

namespace ChatImport

namespace Mattermost

namespace Handle

/-- The characters that a handle neither begins nor ends with. -/
def isEdge (c : Char) : Bool := c == '_' || c == '-'

/-- A name without the characters that do not belong at its ends. -/
def trimmed (name : String) : String := trimEdges isEdge name

/-- May the character stand in a handle? -/
def allows (c : Char) : Bool :=
  ('a' ≤ c && c ≤ 'z') || ('0' ≤ c && c ≤ '9') || c == '_' || c == '-'

/-- Is the text made of the characters of handles, and not empty? -/
def valid (name : String) : Bool := name.toList.all allows && !name.toList.isEmpty

/-- A name of one character, lengthened. -/
def lengthened (name : String) : String := "slack-channel-" ++ name

/-- The handle for a channel by its name and identifier. -/
def ofName (name id : String) : String :=
  let name := trimmed name
  if charCount name = 1 then lengthened name
  else if valid name then name
  else if id.isEmpty then lowerCase name
  else lowerCase id

end Handle

end Mattermost

end ChatImport
