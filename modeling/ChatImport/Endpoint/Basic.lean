import ChatImport.Endpoint.Address
import ChatImport.Error
import ChatImport.Json.Decoder
/-!
# Endpoints

The settings name the backend by an endpoint, a host and port or a whole
address, with a login and a password that take precedence over those in the
address. `Endpoint.check` finds what is wrong with the settings without
talking to anyone; `Endpoint.connection` gives the connection that they
stand for.
-/

namespace ChatImport

open Json (Decoder Field Record)

/-- How the settings name a backend. -/
structure Endpoint where
  /-- A host and port, or an address. -/
  endpoint : String
  /-- The user to sign in as. -/
  login : Option String
  /-- The password of the user. -/
  password : Option String
  deriving DecidableEq, Inhabited

namespace Endpoint

/-- The endpoint without login and password. -/
def ofText (endpoint : String) : Endpoint := ⟨endpoint, none, none⟩

/-- The fields of an endpoint. -/
def record : Record Endpoint where
  title := "RedisConfig"
  blank := ofText ""
  fields := [
    .of "endpoint" .required Decoder.text fun e s => { e with endpoint := s },
    .of "login" .optional (Decoder.nullable Decoder.text) fun e s => { e with login := s },
    .of "password" .optional (Decoder.nullable Decoder.text) fun e s => { e with password := s }]

/-- Reads an endpoint. -/
def decoder : Decoder Endpoint := record.decode

/-- The endpoint as a value. -/
def json (e : Endpoint) : Json :=
  .object [("endpoint", .string e.endpoint), ("login", Json.optional e.login),
    ("password", Json.optional e.password)]

/-- The endpoint without the blanks around it. -/
def trimmed (e : Endpoint) : String := trimEdges isBlank e.endpoint

/-- Finds what is wrong with the settings. -/
def check (e : Endpoint) : Except Error Unit :=
  if e.trimmed.isEmpty then .error (.config .emptyEndpoint)
  else if e.trimmed.toList.any isBlank then .error (.config (.blankInEndpoint e.trimmed))
  else if e.password.isSome ∧ e.login = some "" then .error (.config .emptyLogin)
  else .ok ()

/-- The schemes that an endpoint may begin with. -/
def schemes : List String := ["redis://", "rediss://", "redis+unix://"]

/-- The endpoint as an address. -/
def address (e : Endpoint) : String :=
  if schemes.any fun scheme => scheme.toList.isPrefixOf e.trimmed.toList then e.trimmed
  else "redis://" ++ e.trimmed

/-- The connection that the settings stand for. -/
def connection (e : Endpoint) : Except Error Connection := do
  e.check
  match Address.read? e.address with
  | none => throw (.config (.malformedEndpoint e.endpoint))
  | some connection =>
    return { connection with
      username := (e.login.filter (· ≠ "")).or connection.username
      password := (e.password.filter (· ≠ "")).or connection.password }

end Endpoint

end ChatImport
