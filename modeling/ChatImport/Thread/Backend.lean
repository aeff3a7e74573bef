import ChatImport.Error
import ChatImport.Table
/-!
# The backend

A backend keeps texts under keys beyond the end of a run. It is asked for a
text, asked whether a key is there, and given texts to keep. Any of these
calls may fail, and then it has no effect. Which ones fail is laid down in
the plan of its outages, which knows a call by its number and its kind.
-/

namespace ChatImport

namespace Backend

/-- A call of the backend. -/
inductive Call where
  /-- Asks for the text under a key. -/
  | fetch (key : String)
  /-- Asks whether a key is there. -/
  | check (key : String)
  /-- Gives so many texts to keep. -/
  | write (count : Nat)
  deriving DecidableEq, Inhabited

/-- What a call is doing, in words. -/
def Call.words : Call → String
  | .fetch key => "fetching " ++ key
  | .check key => "checking " ++ key
  | .write count => "writing " ++ Nat.repr count ++ " threads"

end Backend

/-- Texts under keys, and the plan of outages. -/
structure Backend where
  /-- What is kept. -/
  entries : Table String
  /-- The number of calls so far. -/
  calls : Nat
  /-- The reason for which a call fails, by its number; nothing if it does not
  fail. -/
  outage : Nat → Backend.Call → Option String

namespace Backend

/-- A backend that keeps nothing yet and never fails. -/
def empty : Backend := ⟨Table.empty, 0, fun _ _ => none⟩

instance : Inhabited Backend := ⟨empty⟩

/-- The backend after a call. -/
def counted (b : Backend) : Backend := { b with calls := b.calls + 1 }

/-- The error of a call, if it fails. -/
def failure? (b : Backend) (call : Call) : Option Error :=
  (b.outage b.calls call).map fun reason => .backend call.words reason

/-- The backend after it has been given texts to keep; of texts with one key
the last counts. -/
def keeping (b : Backend) (texts : List (String × String)) : Backend :=
  { b with entries := texts.foldl (fun t entry => t.insert entry.1 entry.2) b.entries }

/-- Asks for the text under a key. -/
def fetch (key : String) : EStateM Error Backend (Option String) := fun b =>
  match b.failure? (.fetch key) with
  | some error => .error error b.counted
  | none => .ok (b.entries.find? key) b.counted

/-- Asks whether a key is there. -/
def check (key : String) : EStateM Error Backend Bool := fun b =>
  match b.failure? (.check key) with
  | some error => .error error b.counted
  | none => .ok (b.entries.contains key) b.counted

/-- Gives texts to keep. -/
def write (texts : List (String × String)) : EStateM Error Backend Unit := fun b =>
  match b.failure? (.write texts.length) with
  | some error => .error error b.counted
  | none => .ok () (b.counted.keeping texts)

end Backend

end ChatImport
