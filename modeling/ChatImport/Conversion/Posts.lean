import ChatImport.Config
import ChatImport.Conversion.Users
import ChatImport.Export.Uploads
/-!
# The conversion of messages

A message becomes a post if it is of a kind that can be imported and its
author is known. Content of any shape that goes with it becomes the
properties of the post, unless it is too large; files that go with it are
copied, unless attachments are left out.
-/

namespace ChatImport

open Mattermost (Post Channel)

/-- Where the copy of a file goes: into the directory, under the identifier and
the name of the file. -/
def attachmentPath (file : Slack.File) (dir : String) : String :=
  Path.join dir (file.id ++ "_" ++ file.name)

namespace Conversion

/-! ## Attachments -/

/-- Copies a file into a directory and gives the path of the copy; gives
nothing if the file was not uploaded. -/
def copyAttachment (uploads : Uploads) (dir : String) (file : Slack.File) :
    Converting (Option String) := do
  let dest := attachmentPath file dir
  if ← onFiles (.attachment file.id dest) (uploads.copyTo file.id dest) then
    tell [.debug ("Copied file " ++ file.id ++ " to " ++ dest)]
    return some dest
  else
    tell [.warn ("Failed to retrieve file with id " ++ file.id ++ " from the export")]
    return none

/-- Copies files and gives the paths of the copies. A file that has been met
before is passed over. -/
def copyAttachments (uploads : Uploads) (dir : String) (met : List String) :
    List Slack.File → Converting (List String)
  | [] => pure []
  | file :: rest => do
    if met.contains file.id then copyAttachments uploads dir met rest
    else
      match ← copyAttachment uploads dir file with
      | none => copyAttachments uploads dir (file.id :: met) rest
      | some path => return path :: (← copyAttachments uploads dir (file.id :: met) rest)

/-! ## Properties -/

/-- The properties of the post for a message, or nothing if the message is
dropped for them; and what the log says about it. -/
def propsFor (config : Config) (message : Slack.Message) :
    Option (List (String × Json)) × List LogLine :=
  let props := [("attachments", Json.array message.attachments)]
  let size := charCount (Json.object props).text
  let excess := "(" ++ Nat.repr size ++ " > " ++ Nat.repr config.maxPropsChars ++ "). "
  if message.attachments.isEmpty then (some [], [])
  else if size ≤ config.maxPropsChars then (some props, [])
  else if config.discardInvalidProps then
    (none, [.warn ("Unable import post as props exceed the maximum length " ++ excess ++
      "Skipping as --discard-invalid-props is set (ts=" ++ message.timestamp ++ ")")])
  else
    (some [], [.warn ("Unable to add props to post as they exceed the maximum length " ++
      excess ++ "Importing without props (ts=" ++ message.timestamp ++ ")")])

/-! ## Posts -/

/-- The name of the author by the identifier; the log tells if he is not known. -/
def authorOf (id : String) (message : Slack.Message) : Converting (Option String) := do
  if id.isEmpty then
    tell [.warn ("Unable to import the message as the user field is missing (ts=" ++
      message.timestamp ++ ")")]
    return none
  else
    match (← get).username? id with
    | some name => return some name
    | none =>
      tell [.warn ("Unable to add the message as the Slack user " ++ id ++
        " does not exist in Mattermost (ts=" ++ message.timestamp ++ ")")]
      return none

/-- The post of an author in a channel, at the time of the message. -/
def started (author text : String) (message : Slack.Message) (channel : Channel) :
    Converting Post := do
  tell (Slack.Timestamp.notice message.timestamp)
  return Post.plain author channel.name text message.createdAt

/-- The post with all that goes with the message. -/
def completed (config : Config) (uploads : Uploads) (message : Slack.Message) (post : Post) :
    Converting (Option Post) := do
  let props := propsFor config message
  tell props.2
  match props.1 with
  | none => return none
  | some props =>
    if config.skipAttachments then return some { post with props := props }
    else
      let paths ← copyAttachments uploads config.attachmentsDir [] message.attachedFiles
      return some { post with props := props, attachments := paths }

/-- The post for a message of a channel, if the message is imported. -/
def postFor (config : Config) (uploads : Uploads) (message : Slack.Message) (channel : Channel) :
    Converting (Option Post) := do
  match message.kind with
  | .plain =>
    match ← authorOf message.user message with
    | none => return none
    | some author =>
      completed config uploads message (← started author message.text message channel)
  | .bot =>
    if config.importWorkflowMessages then
      let author ← workflowAuthor
      completed config uploads message (← started author message.text message channel)
    else
      tell [.debug ("Skipping bot message " ++ message.timestamp ++ " in channel " ++
        channel.name)]
      return none
  | .fileComment =>
    match message.comment with
    | none =>
      tell [.warn ("File comment without comment data in channel " ++ channel.name)]
      return none
    | some comment =>
      match ← authorOf comment.user message with
      | none => return none
      | some author => return some (← started author comment.comment message channel)
  | .channelTopic | .channelPurpose | .channelName =>
    match ← authorOf message.user message with
    | none => return none
    | some author => return some (← started author message.text message channel)
  | .joinLeave | .me =>
    tell [.debug ("Skipping " ++ message.subtype ++ " message " ++ message.timestamp)]
    return none
  | .unsupported =>
    tell [.warn ("Unable to import the message as its type is not supported. type=" ++
      message.type ++ " subtype=" ++ message.subtype)]
    return none

end Conversion

end ChatImport
