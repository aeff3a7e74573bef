import ChatImport.Mattermost.Limits
import ChatImport.Slack.Message
import ChatImport.Thread.Ledger
import ChatImport.Thread.Store
/-!
# The assembly of threads

The messages of a channel come in the order of their times, and each is
either the root of a thread or a reply to a root. A thread is identified by
the time that its root had in the workspace, as text. `Desk.place` puts one
post into its thread: it makes the creation time of the post its own, cuts
the text to the limit, and stores the post as a root or adds it to the
replies of the root it answers. A reply whose root is unknown is dropped,
and so is, unless messages of workflows are imported, a reply to one of
those; a root under an identifier that is taken replaces the older root. The
log tells of a drop for want of a root and of a replacement, and only the
store can end the assembly with an error.
-/

namespace ChatImport

open Mattermost (Post Channel)

/-- Where a post ended up. -/
inductive Placement where
  /-- Stored as a new root. -/
  | root
  /-- Stored as a root in the place of an older one. -/
  | overwroteRoot
  /-- Added to the replies of a root. -/
  | reply
  /-- Dropped, since its root is unknown. -/
  | orphanReply
  /-- Dropped, since it replies to a workflow. -/
  | workflowReplySkipped
  deriving DecidableEq, Inhabited

/-- The name of the user under whom messages of bots and workflows are
imported. -/
def workflowUsername : String := "imported-workflow"

/-- A post as one of the channel: in a conversation it carries the names of
the members. -/
def Mattermost.Post.inChannel (post : Post) (channel : Channel) : Post :=
  if channel.kind.isDirect then
    { post with isDirect := true, channelMembers := channel.memberNames }
  else { post with isDirect := false }

/-- A post with one reply more. -/
def Mattermost.Post.withReply (root reply : Post) : Post :=
  { root with replies := root.replies ++ [reply] }

/-- What the assembly of a channel works on. -/
structure Desk where
  /-- The threads. -/
  threads : Threads
  /-- The creation times given out. -/
  ledger : Ledger
  deriving Inhabited

namespace Desk

/-- An operation on the threads. -/
def onThreads {α : Type} (act : EStateM Error Threads α) : EStateM Error Desk α := fun d =>
  match act d.threads with
  | .ok value threads => .ok value { d with threads := threads }
  | .error error threads => .error error { d with threads := threads }

/-- Claims a creation time. -/
def claim (time : Int) : EStateM Error Desk Int := fun d =>
  .ok (d.ledger.free time) { d with ledger := d.ledger.claim time }

/-- What the log says of a reply whose root is unknown. -/
def orphanNotice (message : Slack.Message) (channel : Channel) : LogLine :=
  .error ("Couldn't find the root post " ++ message.threadTimestamp ++
    " of a reply in channel " ++ channel.name ++ " (ts=" ++ message.timestamp ++ ", user=" ++
    message.user ++ ")")

/-- What the log says of a root that replaces another. -/
def overwriteNotice (message : Slack.Message) (channel : Channel) : LogLine :=
  .warn ("Overwriting root post for thread " ++ message.timestamp ++ " in channel " ++
    channel.name)

/-- Adds a post to the replies of the root that the message answers. -/
def placeReply (message : Slack.Message) (post : Post) (channel : Channel)
    (importWorkflows : Bool) : EStateM Error Desk Placement := do
  match ← onThreads (Threads.lookup message.threadTimestamp) with
  | none =>
    onThreads (Threads.note (orphanNotice message channel))
    return .orphanReply
  | some handle =>
    let d ← get
    if !importWorkflows && (d.threads.roots.get handle).user == workflowUsername then
      return .workflowReplySkipped
    else
      set { d with
        threads := { d.threads with
          roots := d.threads.roots.change handle fun root => root.withReply post } }
      return .reply

/-- Stores a post as the root of the thread of its message. -/
def placeRoot (message : Slack.Message) (post : Post) (channel : Channel) :
    EStateM Error Desk Placement := do
  let taken ← onThreads (Threads.has message.timestamp)
  if taken then onThreads (Threads.note (overwriteNotice message channel))
  let _ ← onThreads (Threads.put message.timestamp post)
  return if taken then .overwroteRoot else .root

/-- Puts a post, made from a message of the channel, into its thread. -/
def place (message : Slack.Message) (post : Post) (channel : Channel) (importWorkflows : Bool) :
    EStateM Error Desk Placement := do
  let time ← claim post.createAt
  let post := { post.inChannel channel with createAt := time }.withinLimits
  if message.isReply then placeReply message post channel importWorkflows
  else placeRoot message post channel

end Desk

end ChatImport
