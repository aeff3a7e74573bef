import ChatImport.CommandLine.Scan
import ChatImport.Config
import ChatImport.Conversion.Basic
/-!
# The arguments of a run

The command line tells the team, the export, where the import goes, and the
settings. Before any work starts, the places that are written to are made
ready.
-/

namespace ChatImport

open CommandLine (Choice Scan Refusal)

/-- What the command line tells. -/
structure Arguments where
  /-- The name of the team. -/
  team : String
  /-- The path of the export. -/
  file : String
  /-- The path of the import. -/
  output : String
  /-- The directory into which attachments are copied. -/
  attachmentsDir : String
  /-- Are attachments left where they are? -/
  skipAttachments : Bool
  /-- Is a message dropped whose properties are too large? -/
  discardInvalidProps : Bool
  /-- Does the log show everything? -/
  debug : Bool
  /-- Does the service for signing in know the users by their addresses? -/
  authDataAsEmail : Bool
  /-- The service for signing in. -/
  authService : Option String
  /-- The endpoint of the backend. -/
  endpoint : Option String
  /-- The user to sign in to the backend as. -/
  login : Option String
  /-- The password of that user. -/
  password : Option String
  /-- Are messages of bots and workflows imported? -/
  importWorkflowMessages : Bool
  /-- Are no posts imported? -/
  skipPosts : Bool
  /-- Are neither channels nor posts imported? -/
  skipChannels : Bool
  deriving DecidableEq, Inhabited

namespace Arguments

/-- The options. -/
def choices : List Choice :=
  [⟨"team", some 't', .text⟩, ⟨"file", some 'f', .path⟩, ⟨"output", some 'o', .path⟩,
    ⟨"attachments-dir", some 'd', .path⟩, ⟨"skip-attachments", some 'a', .nothing⟩,
    ⟨"discard-invalid-props", some 'p', .nothing⟩, ⟨"debug", none, .truth⟩,
    ⟨"auth-data-as-email", none, .nothing⟩, ⟨"auth-service", some 's', .text⟩,
    ⟨"redis-endpoint", none, .text⟩, ⟨"redis-login", none, .text⟩,
    ⟨"redis-password", none, .text⟩, ⟨"import-workflow-messages", none, .nothing⟩,
    ⟨"skip-posts", none, .nothing⟩, ⟨"skip-channels", none, .nothing⟩,
    ⟨"help", some 'h', .help⟩, ⟨"version", some 'V', .version⟩]

/-- Reads a command line. -/
def read (words : List String) : Except Refusal Arguments := do
  let s ← Scan.start.words choices words
  match s.value? "team", s.value? "file" with
  | some team, some file =>
    return {
      team := team
      file := file
      output := (s.value? "output").getD "bulk-export.jsonl"
      attachmentsDir := (s.value? "attachments-dir").getD "bulk-export-attachments"
      skipAttachments := s.has "skip-attachments"
      discardInvalidProps := s.has "discard-invalid-props"
      debug := s.value? "debug" != some "false"
      authDataAsEmail := s.has "auth-data-as-email"
      authService := s.value? "auth-service"
      endpoint := s.value? "redis-endpoint"
      login := s.value? "redis-login"
      password := s.value? "redis-password"
      importWorkflowMessages := s.has "import-workflow-messages"
      skipPosts := s.has "skip-posts"
      skipChannels := s.has "skip-channels" }
  | _, _ => throw .missing

/-- The settings that the arguments tell. -/
def config (a : Arguments) : Config :=
  { Config.standard with
    attachmentsDir := a.attachmentsDir
    skipAttachments := a.skipAttachments
    discardInvalidProps := a.discardInvalidProps
    authDataAsEmail := a.authDataAsEmail
    authService := a.authService
    importWorkflowMessages := a.importWorkflowMessages
    skipPosts := a.skipPosts
    skipChannels := a.skipChannels
    endpoint := a.endpoint.map fun endpoint => ⟨endpoint, a.login, a.password⟩ }

/-- The lowest level that the log shows. -/
def shownLevel (a : Arguments) : Level := if a.debug then .debug else .warn

/-- Checks the places that are written to. The directory for attachments is
made unless it is there or attachments are left out. -/
def preparePaths (a : Arguments) : Converting Unit := do
  let c ← get
  if c.files.isDirectory a.output then throw (.config (.outputIsDirectory a.output))
  else if a.skipAttachments then return ()
  else if c.files.isThere a.attachmentsDir then
    if c.files.isDirectory a.attachmentsDir then return ()
    else throw (.config (.attachmentsNotDirectory a.attachmentsDir))
  else
    match Files.makeDirectories a.attachmentsDir c.files with
    | .error fault files =>
      set { c with files := files }
      throw (.file fault)
    | .ok () files =>
      set { c with files := files }
      Conversion.tell [.info ("Created attachments directory " ++ a.attachmentsDir)]

end Arguments

end ChatImport
