import ChatImport.Json.Decoder
/-!
# Users of an import

A user as he is imported. Where the users sign in with another service, the
user carries what that service knows him by.
-/

namespace ChatImport

namespace Mattermost

open Json (Decoder Field Record)

/-- A user. -/
structure User where
  /-- The identifier in the workspace. -/
  id : String
  /-- The name. -/
  username : String
  /-- The first name. -/
  firstName : String
  /-- The last name. -/
  lastName : String
  /-- The position held. -/
  position : String
  /-- The address. -/
  email : String
  /-- The password, empty if there is none. -/
  password : String
  /-- The handles of the channels that the user belongs to. -/
  memberships : List String
  /-- What the service for signing in knows the user by. -/
  authData : Option String
  /-- The service for signing in, empty if there is none. -/
  authService : String
  deriving DecidableEq, Inhabited

namespace User

/-- The user of whom nothing is known. -/
def blank : User := ⟨"", "", "", "", "", "", "", [], none, ""⟩

/-- The fields of a user. -/
def record : Record User where
  title := "IntermediateUser"
  blank := blank
  fields := [
    .of "id" .required Decoder.text fun u s => { u with id := s },
    .of "username" .required Decoder.text fun u s => { u with username := s },
    .of "first_name" .required Decoder.text fun u s => { u with firstName := s },
    .of "last_name" .required Decoder.text fun u s => { u with lastName := s },
    .of "position" .required Decoder.text fun u s => { u with position := s },
    .of "email" .required Decoder.text fun u s => { u with email := s },
    .of "password" .required Decoder.text fun u s => { u with password := s },
    .of "memberships" .required (Decoder.list Decoder.text)
      fun u names => { u with memberships := names },
    .of "auth_data" .optional (Decoder.nullable Decoder.text) fun u s => { u with authData := s },
    .of "auth_service" .required Decoder.text fun u s => { u with authService := s }]

/-- Reads a user. -/
def decoder : Decoder User := record.decode

/-- The user as a value. -/
def json (u : User) : Json :=
  .object [("id", .string u.id), ("username", .string u.username),
    ("first_name", .string u.firstName), ("last_name", .string u.lastName),
    ("position", .string u.position), ("email", .string u.email),
    ("password", .string u.password), ("memberships", Json.strings u.memberships),
    ("auth_data", Json.optional u.authData), ("auth_service", .string u.authService)]

end User

end Mattermost

end ChatImport
