import ChatImport.Conversion.Channels
import ChatImport.Conversion.Posts
/-!
# Whole conversions

Users come first, then the channels, then the messages channel by channel in
the order of the channels' names. The messages of a channel are taken in the
order of their times and assembled to threads in a store that is opened for
the channel alone. What the store reports as changed is put into the backend,
if there is one, and added to the import in the order of the creation times.

An error ends the conversion at the channel where it arises: nothing of that
channel is added to the import.
-/

namespace ChatImport

open Mattermost (Post Channel)

/-- The assembly of one channel on its way. -/
structure ChannelRun where
  /-- The conversion. -/
  conversion : Conversion
  /-- The roots that have come up. -/
  roots : Roots
  /-- The store of the channel. -/
  store : ThreadStore
  /-- The creation times given out. -/
  ledger : Ledger
  deriving Inhabited

/-- A step of the assembly of a channel. -/
abbrev Assembling := EStateM Error ChannelRun

namespace ChannelRun

/-- The assembly of a channel before its first message. -/
def start (conversion : Conversion) (store : ThreadStore) : ChannelRun :=
  ⟨conversion, .empty, store, .empty⟩

/-- The desk for the threads of the channel. -/
def desk (r : ChannelRun) : Desk :=
  ⟨⟨r.roots, r.store, r.conversion.backend, r.conversion.log⟩, r.ledger⟩

/-- The assembly after work at its desk. -/
def after (r : ChannelRun) (d : Desk) : ChannelRun :=
  { conversion := { r.conversion with backend := d.threads.backend, log := d.threads.log }
    roots := d.threads.roots
    store := d.threads.store
    ledger := d.ledger }

/-- Work at the desk. -/
def atDesk {α : Type} (act : EStateM Error Desk α) : Assembling α := fun r =>
  match act r.desk with
  | .ok value d => .ok value (r.after d)
  | .error error d => .error error (r.after d)

/-- A step of the conversion. -/
def converting {α : Type} (act : Converting α) : Assembling α := fun r =>
  match act r.conversion with
  | .ok value c => .ok value { r with conversion := c }
  | .error error c => .error error { r with conversion := c }

/-- Counts something in the summary. -/
def count (f : Summary → Summary) : Assembling Unit :=
  modify fun r => { r with conversion := { r.conversion with summary := f r.conversion.summary } }

/-- Takes one message. -/
def take (config : Config) (uploads : Uploads) (channel : Channel) (message : Slack.Message) :
    Assembling Unit := do
  match ← converting (Conversion.postFor config uploads message channel) with
  | none => count fun s => { s with skipped := s.skipped + 1 }
  | some post =>
    let placement ← atDesk (Desk.place message post channel config.importWorkflowMessages)
    count fun s => s.record placement

/-- Takes messages one after the other. -/
def takeAll (config : Config) (uploads : Uploads) (channel : Channel) :
    List Slack.Message → Assembling Unit
  | [] => pure ()
  | message :: rest => do
    take config uploads channel message
    takeAll config uploads channel rest

end ChannelRun

/-- Messages in the order of their times. Messages of one time stay in their
order. -/
def inTime (messages : List Slack.Message) : List Slack.Message :=
  messages.mergeSort fun a b => a.sortKey ≤ b.sortKey

/-- Posts in the order of their creation. -/
def inCreation (posts : List Post) : List Post :=
  posts.mergeSort fun a b => a.createAt ≤ b.createAt

namespace Conversion

/-- Assembles the messages of a channel and gives the changed roots. -/
def assembled (config : Config) (uploads : Uploads) (channel : Channel)
    (messages : List Slack.Message) : Assembling (List Post) := do
  ChannelRun.takeAll config uploads channel (inTime messages)
  ChannelRun.atDesk (Desk.onThreads Threads.flush)
  let r ← get
  return inCreation (r.store.changed.map r.roots.get)

/-- Converts the messages of a channel in a store of their own and gives the
changed roots. The log tells of an error. -/
def channelPosts (config : Config) (uploads : Uploads) (source : StoreSource) (name : String)
    (channel : Channel) (messages : List Slack.Message) : Converting (List Post) := fun c =>
  match assembled config uploads channel messages (.start c (source.storeFor name)) with
  | .ok posts r => .ok posts r.conversion
  | .error error r =>
    .error error (r.conversion.telling
      [.error ("Failed to transform posts of channel " ++ name ++ ": " ++ error.message)])

/-- The channel whose messages are kept under a name; of several the last. -/
def channelNamed? (channels : List Channel) (name : String) : Option Channel :=
  channels.reverse.find? fun channel => channel.exportName == name

/-- Converts the messages of one name. -/
def addPosts (config : Config) (uploads : Uploads) (source : StoreSource)
    (channels : List Channel) (name : String) (messages : List Slack.Message) :
    Converting Unit := do
  match channelNamed? channels name with
  | none => tell [.warn ("Channel " ++ name ++ " was not imported, skipping its posts")]
  | some channel =>
    let posts ← channelPosts config uploads source name channel messages
    tell [.debug ("Channel " ++ name ++ ": " ++ Nat.repr posts.length ++ " threads changed")]
    modify fun c => c.changing fun i => { i with posts := i.posts ++ posts }

/-- Converts the messages of several names, one after the other. -/
def addAllPosts (config : Config) (uploads : Uploads) (source : StoreSource)
    (channels : List Channel) : List (String × List Slack.Message) → Converting Unit
  | [] => pure ()
  | (name, messages) :: rest => do
    addPosts config uploads source channels name messages
    addAllPosts config uploads source channels rest

/-- Converts all messages. -/
def convertPosts (config : Config) (source : StoreSource) (e : Export) : Converting Unit := do
  tell [.info ("Transforming posts using " ++ source.words ++ " thread storage")]
  addAllPosts config e.uploads source (← get).content.channels e.messages.entries

/-- Converts an export, with stores from the given source. -/
def convertWith (config : Config) (source : StoreSource) (e : Export) : Converting Unit := do
  modify fun c => c.withUsers config.effectiveAuthService e.users
  if !config.skipChannels then
    modify fun c => ((c.withChannels e).withMemberships).withMemberNames
    if !config.skipPosts then convertPosts config source e
  tell (← get).summary.notices

end Conversion

/-- Where the stores come from, by the endpoint of the settings. A backend that
is not this run's own would have to be reached over a network, which nothing
here does. -/
def StoreSource.ofEndpoint : Option Endpoint → Except Error StoreSource
  | none => .ok .memory
  | some endpoint => do
    let _ ← endpoint.connection
    throw (.config (.unreachableEndpoint endpoint.endpoint))

/-- Where the stores of a run come from. The endpoint is checked in any case,
and it is used if posts are converted. -/
def StoreSource.ofConfig (config : Config) : Except Error StoreSource := do
  if let some endpoint := config.endpoint then endpoint.check
  if config.skipChannels || config.skipPosts then return .memory
  else StoreSource.ofEndpoint config.endpoint

namespace Conversion

/-- Converts an export, with stores as the settings tell. -/
def convert (config : Config) (e : Export) : Converting Unit := do
  match StoreSource.ofConfig config with
  | .error error => throw error
  | .ok source => convertWith config source e

end Conversion

end ChatImport
