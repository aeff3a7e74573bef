import ChatImport.Conversion.Basic
import ChatImport.Slack.User
import ChatImport.Thread.Assembly
/-!
# The conversion of users

Every user of the workspace becomes a user of the import under the same
identifier. Messages of bots and workflows have no user; they get one of
their own, who is made when the first of them comes up.
-/

namespace ChatImport

/-- A user of the workspace as a user of the import, before any limits. Where
the users sign in with a service, it knows them by their addresses. -/
def Mattermost.User.ofWorkspace (service : Option String) (user : Slack.User) : Mattermost.User :=
  { id := user.id
    username := user.username
    firstName := user.profile.firstName
    lastName := user.profile.lastName
    position := user.profile.title
    email := user.profile.email
    password := ""
    memberships := []
    authData := service.map fun _ => user.profile.email
    authService := service.getD "" }

/-- The identifier of the user for messages of bots and workflows. -/
def workflowUserId : String := "importedworkflow"

/-- The user for messages of bots and workflows, before any limits. -/
def Mattermost.User.forWorkflows (password : String) : Mattermost.User :=
  { Mattermost.User.blank with
    id := workflowUserId
    username := workflowUsername
    firstName := "Imported"
    lastName := "Workflow"
    email := "imported-workflow@example.com"
    password := password }

namespace Conversion

/-- The conversion with a user more, and with what the log says of it. -/
def withUser (c : Conversion) (user : Mattermost.User × List LogLine) : Conversion :=
  (c.telling user.2).changing fun i => { i with users := i.users.insert user.1.id user.1 }

/-- Converts users. -/
def withUsers (c : Conversion) (service : Option String) (users : List Slack.User) :
    Conversion :=
  users.foldl
    (fun c user => c.withUser (Mattermost.User.ofWorkspace service user).withinLimits)
    (c.telling [.info "Transforming users"])

/-- The conversion with the user for messages of bots and workflows, who is
made unless he is there. -/
def withWorkflowUser (c : Conversion) : Conversion :=
  if c.content.users.contains workflowUserId then c
  else
    let user := (Mattermost.User.forWorkflows c.password).withinLimits
    c.withUser (user.1, user.2 ++
      [.info ("Created user " ++ user.1.username ++ " for bot and workflow messages")])

/-- The name of a user by his identifier. -/
def username? (c : Conversion) (id : String) : Option String :=
  (c.content.users.find? id).map (·.username)

/-- The name of the user for messages of bots and workflows. -/
def workflowAuthor : Converting String := do
  modify withWorkflowUser
  return ((← get).username? workflowUserId).getD workflowUsername

end Conversion

end ChatImport
