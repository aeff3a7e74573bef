import ChatImport.Json.Problem
/-!
# What ends a run

An error ends a run. It is told by its cause; `Error.message` is the one
place where causes are put into words. What is merely wrong with the
content of an export is no error: it is told in the log, and the run goes on.
-/

namespace ChatImport

/-- What can be wrong with the access to a file. -/
inductive FileFault where
  /-- There is nothing under the path. -/
  | notFound
  /-- The content is not what it should be. -/
  | invalidData
  /-- The request makes no sense for what is there. -/
  | invalidInput
  /-- A directory stands where a file is wanted. -/
  | isDirectory
  /-- Something else stands where a directory is wanted. -/
  | notDirectory
  /-- Something stands where something new is wanted. -/
  | alreadyThere
  /-- A name or a path is longer than any that can be there. -/
  | tooLong
  /-- The content ends where more must follow. -/
  | endsEarly
  /-- A fault of another kind. -/
  | other
  /-- A fault that came with words of its own. -/
  | told (text : String)
  deriving DecidableEq, Inhabited

/-- A fault in words. -/
def FileFault.words : FileFault → String
  | .notFound => "<NotFound>"
  | .invalidData => "<InvalidData>"
  | .invalidInput => "<InvalidInput>"
  | .isDirectory => "<IsADirectory>"
  | .notDirectory => "<NotADirectory>"
  | .alreadyThere => "<AlreadyExists>"
  | .tooLong => "<InvalidFilename>"
  | .endsEarly => "<UnexpectedEof>"
  | .other => "<Other>"
  | .told text => text

/-- What can be wrong with an export as a whole. -/
inductive ExportCause where
  /-- What should be the export is neither an archive nor a directory. -/
  | noExport
  /-- The directory lacks the list of users. -/
  | usersMissing
  /-- The archive lacks the list of users. -/
  | usersMissingFromArchive
  /-- A cause that came with words of its own. -/
  | told (text : String)
  deriving DecidableEq, Inhabited

/-- The cause in words. -/
def ExportCause.words : ExportCause → String
  | .noExport => "export path is neither a zip file nor a directory"
  | .usersMissing => "users.json is missing"
  | .usersMissingFromArchive => "users.json is missing from the archive"
  | .told text => text

/-- What can be wrong with the settings. -/
inductive ConfigCause where
  /-- The endpoint of the backend is empty. -/
  | emptyEndpoint
  /-- There is a blank in the endpoint. -/
  | blankInEndpoint (endpoint : String)
  /-- There is a password for nobody. -/
  | emptyLogin
  /-- The endpoint is no address of a backend. -/
  | malformedEndpoint (endpoint : String)
  /-- Nothing answers at the endpoint. -/
  | unreachableEndpoint (endpoint : String)
  /-- The output would replace a directory. -/
  | outputIsDirectory (path : String)
  /-- The place for attachments is taken by something else. -/
  | attachmentsNotDirectory (path : String)
  /-- A cause that came with words of its own. -/
  | told (text : String)
  deriving DecidableEq, Inhabited

/-- The cause in words. -/
def ConfigCause.words : ConfigCause → String
  | .emptyEndpoint => "redis endpoint is empty"
  | .blankInEndpoint endpoint => "redis endpoint '" ++ endpoint ++ "' contains whitespace"
  | .emptyLogin => "redis login must not be empty when a password is given"
  | .malformedEndpoint endpoint => "malformed redis endpoint '" ++ endpoint ++ "'"
  | .unreachableEndpoint endpoint => "cannot reach redis at '" ++ endpoint ++ "'"
  | .outputIsDirectory path => "output file '" ++ path ++ "' is a directory"
  | .attachmentsNotDirectory path => "attachments path '" ++ path ++ "' is not a directory"
  | .told text => text

/-- What ends a run. -/
inductive Error where
  /-- A file could not be read or written. -/
  | file (fault : FileFault)
  /-- A text could not be read as what it should hold. -/
  | json (problem : Json.Problem)
  /-- The archive is none, or an entry cannot be taken out of it. -/
  | archive
  /-- The backend failed in an operation, for a reason of its own. -/
  | backend (operation reason : String)
  /-- The export as a whole is not one. -/
  | export (cause : ExportCause) (path : Option String)
  /-- A file that goes with a message could not be copied. -/
  | attachment (id path : String) (fault : FileFault)
  /-- The settings are at fault. -/
  | config (cause : ConfigCause)
  deriving DecidableEq, Inhabited

namespace Error

/-- The error in words. -/
def message : Error → String
  | .file fault => "IO error: " ++ fault.words
  | .json problem => "JSON error: " ++ problem.words
  | .archive => "Zip archive error"
  | .backend operation reason =>
    "Thread store backend failed while " ++ operation ++ ": " ++ reason
  | .export cause path =>
    "Invalid export" ++ (path.elim "" fun p => " (file: " ++ p ++ ")") ++ ": " ++ cause.words
  | .attachment id path fault =>
    "Failed to copy attachment " ++ id ++ " to " ++ path ++ ": " ++ fault.words
  | .config cause => "Invalid configuration: " ++ cause.words

/-- Is it about a file? -/
def isFile : Error → Bool
  | .file _ => true
  | _ => false

/-- Did the backend fail? -/
def isBackend : Error → Bool
  | .backend _ _ => true
  | _ => false

/-- Are the settings at fault? -/
def isConfig : Error → Bool
  | .config _ => true
  | _ => false

/-- Could the export not be read? -/
def isExport : Error → Bool
  | .export _ _ | .archive => true
  | _ => false

/-- Does another failure stand behind the error? -/
def hasCause : Error → Bool
  | .export _ _ | .config _ => false
  | .file _ | .json _ | .archive | .backend _ _ | .attachment _ _ _ => true

/-- The error of a backend that could not be talked to. -/
def backendTalk (reason : String) : Error := .backend "talking to redis" reason

end Error

end ChatImport
