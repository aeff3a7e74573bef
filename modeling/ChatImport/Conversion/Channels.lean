import ChatImport.Conversion.Basic
import ChatImport.Export.Basic
/-!
# The conversion of channels

Channels keep the members that are known users. A conversation needs two of
them, or it is left out; and a group may have no more than a certain number,
or it becomes a private channel that is named after its purpose.

When the channels are made, users learn which channels they belong to, and
conversations how their members are called.
-/

namespace ChatImport

/-- The greatest number of members of a group. -/
def groupLimit : Nat := 8

namespace Mattermost.Channel

/-- What the log says of a conversation that is left out. -/
def lonelyNotice (channel : Slack.Channel) : LogLine :=
  .warn ("Bulk export for direct channels containing a single member is not supported. " ++
    "Not importing channel " ++ channel.exportName)

/-- The members of a channel who are known users. -/
def knownMembers (users : Table User) (channel : Slack.Channel) : List String :=
  channel.members.filter users.contains

/-- Is the channel a group with too many members? -/
def isCrowd (users : Table User) (channel : Slack.Channel) : Bool :=
  channel.kind == .group && groupLimit < (knownMembers users channel).length

/-- A channel of the workspace as a channel of the import, before any limits. -/
def ofWorkspace (users : Table User) (channel : Slack.Channel) : Channel :=
  let crowd := isCrowd users channel
  let name := if crowd then channel.purpose else channel.name
  { id := channel.id
    exportName := channel.exportName
    name := Handle.ofName name channel.id
    displayName := name
    members := knownMembers users channel
    memberNames := []
    purpose := channel.purpose
    header := channel.topic
    topic := channel.topic
    kind := if crowd then .inviteOnly else channel.kind }

/-- Is a channel left out, as a conversation without two members? -/
def isLonely (users : Table User) (channel : Slack.Channel) : Bool :=
  channel.kind.isDirect && (knownMembers users channel).length ≤ 1

/-- Channels of the workspace as channels of the import, and what the log
says of them. -/
def allOfWorkspace (users : Table User) :
    List Slack.Channel → List Channel × List LogLine
  | [] => ([], [])
  | channel :: rest =>
    let others := allOfWorkspace users rest
    if isLonely users channel then (others.1, lonelyNotice channel :: others.2)
    else
      let made := (ofWorkspace users channel).withinLimits
      (made.1 :: others.1, made.2 ++ others.2)

end Mattermost.Channel

namespace Conversion

open Mattermost (Channel)

/-- Converts all channels. Groups that have become private channels come after
the other private channels. -/
def withChannels (c : Conversion) (e : Export) : Conversion :=
  let convert := Channel.allOfWorkspace c.content.users
  let publicOnes := convert e.publicChannels
  let privateOnes := convert e.privateChannels
  let groups := convert e.groupChannels
  let directOnes := convert e.directChannels
  let content := { c.content with
    publicChannels := publicOnes.1
    privateChannels := privateOnes.1 ++ groups.1.filter (·.kind = .inviteOnly)
    groupChannels := groups.1.filter (·.kind ≠ .inviteOnly)
    directChannels := directOnes.1 }
  let told := c.telling (.info "Transforming channels" ::
    publicOnes.2 ++ privateOnes.2 ++ groups.2 ++ directOnes.2)
  { told with
    content := content
    summary := { c.summary with channels := content.channels.length } }

/-- The handles of the channels that a user belongs to. -/
def membershipsOf (channels : List Channel) (id : String) : List String :=
  (channels.filter fun channel => channel.members.contains id).map (·.name)

/-- Tells the users which public and private channels they belong to. -/
def withMemberships (c : Conversion) : Conversion :=
  (c.telling [.info "Populating user memberships"]).changing fun i =>
    { i with users := i.users.map fun user =>
        { user with memberships := membershipsOf (i.publicChannels ++ i.privateChannels) user.id } }

/-- The channel with the names of its members. -/
def naming (users : Table Mattermost.User) (channel : Channel) : Channel :=
  { channel with memberNames := channel.members.filterMap fun id =>
      (users.find? id).map (·.username) }

/-- Tells the conversations how their members are called. -/
def withMemberNames (c : Conversion) : Conversion :=
  (c.telling [.info "Populating channel memberships"]).changing fun i =>
    { i with
      groupChannels := i.groupChannels.map (naming i.users)
      directChannels := i.directChannels.map (naming i.users) }

end Conversion

end ChatImport
