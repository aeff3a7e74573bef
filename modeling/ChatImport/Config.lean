import ChatImport.Endpoint.Basic
/-!
# The settings of a run

What a run imports, where it puts attachments, and whether threads are kept
beyond its end.
-/

namespace ChatImport

open Json (Decoder Field Record)

/-- The settings of a run. -/
structure Config where
  /-- The directory into which attachments are copied. -/
  attachmentsDir : String
  /-- Are attachments left where they are? -/
  skipAttachments : Bool
  /-- Is a message dropped whose properties are too large? Otherwise it is
  imported without them. -/
  discardInvalidProps : Bool
  /-- Does the service for signing in know the users by their addresses? -/
  authDataAsEmail : Bool
  /-- The service for signing in. -/
  authService : Option String
  /-- Are messages of bots and workflows imported? -/
  importWorkflowMessages : Bool
  /-- Are no posts imported? -/
  skipPosts : Bool
  /-- Are neither channels nor posts imported? -/
  skipChannels : Bool
  /-- The characters that the text of properties may have. -/
  maxPropsChars : Nat
  /-- The backend that keeps the threads, if there is one. -/
  endpoint : Option Endpoint
  deriving DecidableEq, Inhabited

namespace Config

/-- The settings of a run that is told nothing. -/
def standard : Config :=
  ⟨"bulk-export-attachments", false, false, false, none, false, false, false, 800000, none⟩

/-- The fields of the settings. -/
def record : Record Config where
  title := "TransformConfig"
  blank := standard
  fields := [
    .of "attachments_dir" .required (Decoder.string "path string")
      fun c s => { c with attachmentsDir := s },
    .of "skip_attachments" .required Decoder.boolean fun c b => { c with skipAttachments := b },
    .of "discard_invalid_props" .required Decoder.boolean
      fun c b => { c with discardInvalidProps := b },
    .of "auth_data_as_email" .required Decoder.boolean fun c b => { c with authDataAsEmail := b },
    .of "auth_service" .optional (Decoder.nullable Decoder.text)
      fun c s => { c with authService := s },
    .of "import_workflow_messages" .required Decoder.boolean
      fun c b => { c with importWorkflowMessages := b },
    .of "skip_posts" .required Decoder.boolean fun c b => { c with skipPosts := b },
    .of "skip_channels" .required Decoder.boolean fun c b => { c with skipChannels := b },
    .of "max_props_runes" .required Decoder.size fun c n => { c with maxPropsChars := n },
    .of "redis" .optional (Decoder.nullable Endpoint.decoder)
      fun c e => { c with endpoint := e }]

/-- Reads settings. -/
def decoder : Decoder Config := record.decode

/-- The settings as a value. -/
def json (c : Config) : Json :=
  .object [("attachments_dir", .string c.attachmentsDir),
    ("skip_attachments", .boolean c.skipAttachments),
    ("discard_invalid_props", .boolean c.discardInvalidProps),
    ("auth_data_as_email", .boolean c.authDataAsEmail),
    ("auth_service", Json.optional c.authService),
    ("import_workflow_messages", .boolean c.importWorkflowMessages),
    ("skip_posts", .boolean c.skipPosts), ("skip_channels", .boolean c.skipChannels),
    ("max_props_runes", .integer c.maxPropsChars),
    ("redis", c.endpoint.elim .null Endpoint.json)]

/-- Settings under which the service knows the users by their addresses. -/
def withAuthService (c : Config) (service : String) : Config :=
  { c with authDataAsEmail := true, authService := some service }

/-- The service that the users sign in with, if they do. -/
def effectiveAuthService (c : Config) : Option String :=
  if c.authDataAsEmail then c.authService.filter (· ≠ "") else none

end Config

end ChatImport
