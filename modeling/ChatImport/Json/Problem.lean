import ChatImport.Json.Value
import ChatImport.Text.Quoted
/-!
# What can be wrong with a JSON text

A reader that expects a value of a certain shape stops at the first problem
in reading order. Either the text is at fault, because it is not JSON or
ends too early, or the text is sound so far and its data is not what was
expected. The causes of the second kind are told in words.
-/

namespace ChatImport

namespace Json

/-- What can be wrong with the text itself. -/
inductive Fault where
  /-- What stands here cannot stand here. -/
  | malformed
  /-- The text ends where something must follow. -/
  | ended
  deriving DecidableEq, Inhabited

/-- What a reader found in the place of what it expected. -/
inductive Found where
  /-- The value `null`. -/
  | null
  /-- A truth value. -/
  | boolean (b : Bool)
  /-- A whole number. -/
  | integer (n : Int)
  /-- A number of double precision. -/
  | double (x : Double)
  /-- A text. -/
  | string (s : String)
  /-- A list of values. -/
  | sequence
  /-- Named values. -/
  | map
  deriving DecidableEq, Inhabited

/-- What was found, in words. -/
def Found.words : Found → String
  | .null => "null"
  | .boolean b => "boolean `" ++ (if b then "true" else "false") ++ "`"
  | .integer n => "integer `" ++ integerText n ++ "`"
  | .double x => "floating point `" ++ doubleText x ++ "`"
  | .string s => "string " ++ quoted s
  | .sequence => "sequence"
  | .map => "map"

/-- What can be wrong with the data. -/
inductive Cause where
  /-- A value of another kind than the expected one. -/
  | wrongType (found : Found) (expected : String)
  /-- A value of the right kind that is out of range. -/
  | wrongValue (found : Found) (expected : String)
  /-- A list that ends before its required items. -/
  | wrongLength (length : Nat) (expected : String)
  /-- A name that is none of the known ones. -/
  | unknownVariant (name : String) (known : List String)
  /-- A required member that an object lacks. -/
  | missingField (name : String)
  /-- A member that an object has twice. -/
  | duplicateField (name : String)
  deriving DecidableEq, Inhabited

/-- A name between backquotes. -/
def ticked (name : String) : String := "`" ++ name ++ "`"

/-- The cause in words. -/
def Cause.words : Cause → String
  | .wrongType found expected => "invalid type: " ++ found.words ++ ", expected " ++ expected
  | .wrongValue found expected => "invalid value: " ++ found.words ++ ", expected " ++ expected
  | .wrongLength length expected =>
    "invalid length " ++ Nat.repr length ++ ", expected " ++ expected
  | .unknownVariant name known =>
    "unknown variant " ++ ticked name ++ ", expected one of " ++
      String.intercalate ", " (known.map ticked)
  | .missingField name => "missing field " ++ ticked name
  | .duplicateField name => "duplicate field " ++ ticked name

/-- The first problem that a reader meets. -/
inductive Problem where
  /-- The text is at fault. -/
  | fault (f : Fault)
  /-- The data is not what was expected. -/
  | data (cause : Cause)
  deriving DecidableEq, Inhabited

/-- The problem in words; of a fault of the text only its kind is told. -/
def Problem.words : Problem → String
  | .fault .malformed => "<syntax>"
  | .fault .ended => "<eof>"
  | .data cause => cause.words

end Json

end ChatImport
