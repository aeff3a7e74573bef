import ChatImport.Json.Token
/-!
# The tree of a JSON text

The tokens of a text make a tree, of a sound text the tree of its value and
of any other text the tree of what can be read of it, with the fault in the
place where a reader meets it. The tree is built by a machine that keeps the
arrays and objects that are open, the innermost first, and takes one token
at a time.

A tree is read in the order of the text. So the first fault in a tree
is the first fault of the text, and a reader that stops earlier, because the
data is not what it wants, never meets it.
-/

namespace ChatImport

namespace Json

/-- What can be read of a value. -/
inductive Tree where
  /-- The value `null`. -/
  | null
  /-- A truth value. -/
  | boolean (b : Bool)
  /-- A number. -/
  | number (n : Numeral)
  /-- What stands between two quotes; nothing if it is no text. -/
  | string (content : Option String)
  /-- An array with its items; the fault in the place of the closing sign if
  there is one. -/
  | array (items : List Tree) (fault : Option Fault)
  /-- An object with what stands in the place of each name, and the values;
  the fault in the place of the closing sign if there is one. -/
  | object (members : List (Token × Tree)) (fault : Option Fault)
  /-- The text ends here. -/
  | missing
  /-- The tokens stop here, inside quotes or outside. -/
  | broken (quoted : Bool) (cut : Cut)
  deriving Inhabited

namespace Tree

/-- What stands here cannot stand here. -/
def misplaced : Tree := .broken false (.both .malformed)

end Tree

/-- An array or object that is open. -/
inductive Frame where
  /-- An array with the items so far, last first. -/
  | array (done : List Tree)
  /-- An object with the members so far, last first, and the token in the
  place of the name of the member that is under way. -/
  | object (done : List (Token × Tree)) (name : Token)
  deriving Inhabited

namespace Frame

/-- One item, or the value of the member that is under way, more. -/
def add : Frame → Tree → Frame
  | .array done, value => .array (value :: done)
  | .object done name, value => .object ((name, value) :: done) name

/-- The tree of a frame, closed or left off at a fault. -/
def toTree : Frame → Option Fault → Tree
  | .array done, fault => .array done.reverse fault
  | .object done _, fault => .object done.reverse fault

/-- The tree of open frames that are left off at a value, the fault in the
place of every closing sign. -/
def leftAt (fault : Fault) : List Frame → Tree → Tree
  | [], value => value
  | frame :: outer, value => leftAt fault outer ((frame.add value).toTree (some fault))

/-- The tree of open frames that are left off where a closing sign may stand. -/
def leftOpen (fault : Fault) : List Frame → Tree
  | [] => .missing
  | frame :: outer => leftAt fault outer (frame.toTree (some fault))

end Frame

/-- What is due next. -/
inductive Place where
  /-- A value, or right after the opening sign of an array its closing sign. -/
  | value (first : Bool)
  /-- A comma, or the closing sign of the innermost frame. -/
  | after
  /-- The name of a member, or right after the opening sign of an object its
  closing sign. -/
  | name (first : Bool)
  /-- The colon after a name. -/
  | colon
  deriving DecidableEq

/-- A whole text: the tree of its value, and whether more follows it. -/
structure Document where
  /-- The value of the text. -/
  root : Tree
  /-- Does something follow the value? -/
  trailing : Bool
  deriving Inhabited

namespace Document

/-- The document of frames that are left open at a fault. -/
def abandoned (frames : List Frame) (fault : Fault) : Document :=
  ⟨Frame.leftOpen fault frames, false⟩

/-- The document of frames that are left open at a value that is none. -/
def abandonedAt (frames : List Frame) (value : Tree) (fault : Fault) : Document :=
  ⟨Frame.leftAt fault frames value, false⟩

/-- The value of a token that is one by itself. -/
def scalar : Token → Option Tree
  | .null => some .null
  | .boolean b => some (.boolean b)
  | .number n => some (.number n)
  | .string content => some (.string content)
  | _ => none

/-- The tree of a token in a place where it cannot be a value: its own break,
or a token too many. -/
def noValue : Token → Tree
  | .broken quoted cut => .broken quoted cut
  | _ => .misplaced

/-- What stands in the place of a name where the text ends. -/
def endedName : Token := .broken true (.both .ended)

/-- Builds the document from the open frames, what is due next, and the
tokens that are left. -/
def build (frames : List Frame) (place : Place) : List Token → Document
  | [] =>
    match place, frames with
    | .value _, _ | .colon, _ => abandonedAt frames .missing .ended
    | .name false, .object done _ :: outer =>
      abandonedAt (.object done endedName :: outer) .missing .ended
    | .after, _ | .name _, _ => abandoned frames .ended
  | token :: rest =>
    match place, token, frames with
    | .value _, .openArray, _ => build (.array [] :: frames) (.value true) rest
    | .value _, .openObject, _ => build (.object [] token :: frames) (.name true) rest
    | .value true, .closeArray, .array done :: outer =>
      match outer with
      | [] => ⟨.array done.reverse none, !rest.isEmpty⟩
      | frame :: more => build (frame.add (.array done.reverse none) :: more) .after rest
    | .value _, _, _ =>
      match scalar token, frames with
      | some value, [] => ⟨value, !rest.isEmpty⟩
      | some value, frame :: more => build (frame.add value :: more) .after rest
      | none, _ => abandonedAt frames (noValue token) .malformed
    | .after, .comma, .array _ :: _ => build frames (.value false) rest
    | .after, .comma, .object _ _ :: _ => build frames (.name false) rest
    | .after, .closeArray, .array done :: outer =>
      match outer with
      | [] => ⟨.array done.reverse none, !rest.isEmpty⟩
      | frame :: more => build (frame.add (.array done.reverse none) :: more) .after rest
    | .after, .closeObject, .object done _ :: outer =>
      match outer with
      | [] => ⟨.object done.reverse none, !rest.isEmpty⟩
      | frame :: more => build (frame.add (.object done.reverse none) :: more) .after rest
    | .after, _, _ => abandoned frames .malformed
    | .name true, .closeObject, .object done _ :: outer =>
      match outer with
      | [] => ⟨.object done.reverse none, !rest.isEmpty⟩
      | frame :: more => build (frame.add (.object done.reverse none) :: more) .after rest
    | .name _, .string _, .object done _ :: outer => build (.object done token :: outer) .colon rest
    | .name _, _, .object done _ :: outer =>
      abandonedAt (.object done token :: outer) (noValue token) .malformed
    | .name _, _, _ => abandoned frames .malformed
    | .colon, .colon, _ => build frames (.value false) rest
    | .colon, _, _ => abandonedAt frames .misplaced .malformed

/-- The document of a text. -/
def ofSymbols (symbols : List Symbol) : Document := build [] (.value false) (tokens symbols)

end Document

end Json

end ChatImport
