import ChatImport.Text.Cut
/-!
# Options on a command line

A command line is a list of words. A word that begins with two hyphens names
an option; a word that begins with one is a row of letters, each of which
stands for an option. An option that takes a value finds it in the same
word, after an equals sign or right after its letter, or else in the next
word, which then must not name an option itself. Two hyphens alone end the
options, and nothing may follow them, since no words stand for themselves.

The value in a next word is looked at only when the next option comes up, or
in the end. So of several faults the first one told need not be the first one
made: a word that belongs nowhere is told before a bad value that waits.
-/

namespace ChatImport

namespace CommandLine

/-- Why a command line asks for no run. -/
inductive Refusal where
  /-- An option that must be given is not. -/
  | missing
  /-- A word belongs nowhere. -/
  | unknown
  /-- An option has a value that it does not take, or none. -/
  | badValue
  /-- An option is given twice. -/
  | repeated
  /-- An option without a value is given one. -/
  | excessValue
  /-- The help is asked for. -/
  | help
  /-- The version is asked for. -/
  | version
  deriving DecidableEq, Inhabited

/-- What an option takes. -/
inductive Takes where
  /-- No value. -/
  | nothing
  /-- A text. -/
  | text
  /-- A path, which is not empty. -/
  | path
  /-- A truth value. -/
  | truth
  /-- No value; it asks for the help. -/
  | help
  /-- No value; it asks for the version. -/
  | version
  deriving DecidableEq, Inhabited

/-- Does an option with this take a value? -/
def Takes.value : Takes → Bool
  | .text | .path | .truth => true
  | .nothing | .help | .version => false

/-- Is a value one that can be taken? -/
def Takes.accepts (takes : Takes) (value : String) : Bool :=
  match takes with
  | .path => !value.isEmpty
  | .truth => value == "true" || value == "false"
  | _ => true

/-- An option. -/
structure Choice where
  /-- The name, which stands after two hyphens. -/
  name : String
  /-- The letter, which stands after one hyphen. -/
  letter : Option Char
  /-- What the option takes. -/
  takes : Takes
  deriving DecidableEq, Inhabited

/-- How far a command line has been read. -/
structure Scan where
  /-- The options so far, each with its value or without one. -/
  given : List (String × Option String)
  /-- The option that still needs a look at its value, or the value itself. -/
  waiting : Option (Choice × Option String)
  /-- Have the options ended? -/
  ended : Bool
  deriving DecidableEq, Inhabited

namespace Scan

/-- Nothing has been read. -/
def start : Scan := ⟨[], none, false⟩

/-- Puts an option with its value to the others. -/
def give (s : Scan) (choice : Choice) (value : Option String) : Except Refusal Scan :=
  if s.given.any fun entry => entry.1 == choice.name then .error .repeated
  else if value.all choice.takes.accepts then
    .ok { s with given := (choice.name, value) :: s.given }
  else .error .badValue

/-- Settles the option that waits. -/
def settle (s : Scan) : Except Refusal Scan :=
  match s.waiting with
  | none => .ok s
  | some (_, none) => .error .badValue
  | some (choice, some value) => { s with waiting := none }.give choice (some value)

/-- Takes an option that has no value, or whose value stands in the same word. -/
def take (s : Scan) (choice : Choice) (value : Option String) : Except Refusal Scan := do
  let settled ← s.settle
  match choice.takes with
  | .help => throw .help
  | .version => throw .version
  | _ => settled.give choice value

/-- Takes an option that waits for its value. -/
def await (s : Scan) (choice : Choice) : Except Refusal Scan := do
  return { (← s.settle) with waiting := some (choice, none) }

/-- Reads a word with two hyphens, given without them. -/
def long (choices : List Choice) (s : Scan) (word : List Char) : Except Refusal Scan :=
  let (name, value) := splitAtFirst '=' word
  match choices.find? fun choice => choice.name == String.ofList name with
  | none => .error .unknown
  | some choice =>
    match value with
    | some value =>
      if choice.takes.value then s.take choice (some (String.ofList value))
      else .error .excessValue
    | none => if choice.takes.value then s.await choice else s.take choice none

/-- Reads a row of letters. -/
def letters (choices : List Choice) (s : Scan) : List Char → Except Refusal Scan
  | [] => .ok s
  | c :: rest =>
    match choices.find? fun choice => choice.letter == some c with
    | none => .error .unknown
    | some choice =>
      if choice.takes.value then
        match rest with
        | [] => s.await choice
        | '=' :: value => s.take choice (some (String.ofList value))
        | value => s.take choice (some (String.ofList value))
      else do letters choices (← s.take choice none) rest

/-- Reads a word that names no option. -/
def plain (s : Scan) (word : String) : Except Refusal Scan :=
  match s.waiting with
  | some (choice, none) => .ok { s with waiting := some (choice, some word) }
  | _ => .error .unknown

/-- Reads a word. -/
def word (choices : List Choice) (s : Scan) (w : String) : Except Refusal Scan :=
  if s.ended then .error .unknown
  else
    match w.toList with
    | ['-', '-'] => .ok { s with ended := true }
    | '-' :: '-' :: rest => s.long choices rest
    | '-' :: c :: rest => s.letters choices (c :: rest)
    | _ => s.plain w

/-- Reads the words of a command line. -/
def words (choices : List Choice) (s : Scan) : List String → Except Refusal Scan
  | [] => s.settle
  | w :: rest => do words choices (← s.word choices w) rest

/-- Is the option given? -/
def has (s : Scan) (name : String) : Bool := s.given.any fun entry => entry.1 == name

/-- The value of an option, if it is given. -/
def value? (s : Scan) (name : String) : Option String :=
  (s.given.find? fun entry => entry.1 == name).bind (·.2)

end Scan

end CommandLine

end ChatImport
