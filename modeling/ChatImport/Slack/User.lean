import ChatImport.Json.Decoder
/-!
# Users of a workspace

A user of the export: an identifier, a name, and a profile all of whose
parts may be empty.
-/

namespace ChatImport

namespace Slack

open Json (Decoder Field Record)

/-- What a user tells about himself. -/
structure Profile where
  /-- The full name. -/
  realName : String
  /-- The first name. -/
  firstName : String
  /-- The last name. -/
  lastName : String
  /-- The position held. -/
  title : String
  /-- The address. -/
  email : String
  deriving DecidableEq, Inhabited

namespace Profile

/-- The profile that tells nothing. -/
def blank : Profile := ⟨"", "", "", "", ""⟩

/-- The fields of a profile. -/
def record : Record Profile where
  title := "SlackProfile"
  blank := blank
  fields := [
    .of "real_name" .defaulted Decoder.text fun p s => { p with realName := s },
    .of "first_name" .defaulted Decoder.text fun p s => { p with firstName := s },
    .of "last_name" .defaulted Decoder.text fun p s => { p with lastName := s },
    .of "title" .defaulted Decoder.text fun p s => { p with title := s },
    .of "email" .defaulted Decoder.text fun p s => { p with email := s }]

/-- The profile as a value. -/
def json (p : Profile) : Json :=
  .object [("real_name", .string p.realName), ("first_name", .string p.firstName),
    ("last_name", .string p.lastName), ("title", .string p.title), ("email", .string p.email)]

end Profile

/-- A user. -/
structure User where
  /-- The identifier by which channels and messages name the user. -/
  id : String
  /-- The name in the workspace. -/
  username : String
  /-- The profile. -/
  profile : Profile
  deriving DecidableEq, Inhabited

namespace User

/-- The user of whom nothing is known. -/
def blank : User := ⟨"", "", .blank⟩

/-- The fields of a user. -/
def record : Record User where
  title := "SlackUser"
  blank := blank
  fields := [
    .of "id" .required Decoder.text fun u s => { u with id := s },
    .of "name" .required Decoder.text fun u s => { u with username := s },
    .of "profile" .defaulted Profile.record.decode fun u p => { u with profile := p }]

/-- Reads a user. -/
def decoder : Decoder User := record.decode

/-- The user as a value. -/
def json (u : User) : Json :=
  .object [("id", .string u.id), ("name", .string u.username), ("profile", u.profile.json)]

end User

end Slack

end ChatImport
