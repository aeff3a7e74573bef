import ChatImport.Json.Tree
import ChatImport.Table
/-!
# Decoders

A decoder reads a tree as a value of a type. It goes through the tree in
the order of the text and stops at the first problem, of the text or of the
data. Its first argument is the number of arrays and objects that may still
be opened one inside the other: a text nests no deeper than
`deepestNesting`, except in what a decoder passes over.

A *record* is read from an object, whose members may come in any order, or
from an array of its fields in their own order. What happens to a field
that is absent is told by its `Presence`.
-/

namespace ChatImport

namespace Json

/-- Reads a tree, given how many levels may still be opened. -/
abbrev Decoder (α : Type) := Nat → Tree → Except Problem α

/-- The number of arrays and objects that may be open at once. -/
def deepestNesting : Nat := 127

/-- A fault of the text. -/
def faulty {α : Type} (f : Fault) : Except Problem α := .error (.fault f)

/-! ## What was found -/

/-- What a reader finds in a tree that it does not expect. It looks at the
whole of a number or a text, and only at the opening sign of an array or an
object. -/
def Tree.found : Tree → Except Problem Found
  | .null => .ok .null
  | .boolean b => .ok (.boolean b)
  | .number n =>
    match n.number with
    | .ok (.integer value) => .ok (.integer value)
    | .ok (.double x) => .ok (.double x)
    | .error f => faulty f
  | .string (some s) => .ok (.string s)
  | .string none => faulty .malformed
  | .array _ _ => .ok .sequence
  | .object _ _ => .ok .map
  | .missing => faulty .ended
  | .broken _ cut => faulty cut.read

/-- The tree is not of the expected kind. -/
def Tree.refuse {α : Type} (t : Tree) (expected : String) : Except Problem α :=
  match t.found with
  | .ok found => .error (.data (.wrongType found expected))
  | .error problem => .error problem

/-! ## Passing over -/

mutual

/-- Passes over a tree. Only a fault of the text is a problem, and neither
the depth of the tree nor the size of its numbers nor what its texts hold
matters. -/
def Tree.skip : Tree → Except Problem Unit
  | .null | .boolean _ | .number _ | .string _ => .ok ()
  | .array items fault => do
    skipItems items
    fault.elim (.ok ()) faulty
  | .object members fault => do
    skipMembers members
    fault.elim (.ok ()) faulty
  | .missing => faulty .ended
  | .broken _ cut => faulty cut.skipped

/-- Passes over the items of an array. -/
def skipItems : List Tree → Except Problem Unit
  | [] => .ok ()
  | item :: rest => do
    item.skip
    skipItems rest

/-- Passes over the members of an object. -/
def skipMembers : List (Token × Tree) → Except Problem Unit
  | [] => .ok ()
  | (.string _, value) :: rest => do
    value.skip
    skipMembers rest
  | (.broken true cut, _) :: _ => faulty cut.skipped
  | (_, _) :: _ => faulty .malformed

end

namespace Decoder

/-! ## Scalars -/

/-- A text, called what is expected. -/
def string (expected : String) : Decoder String := fun _ t =>
  match t with
  | .string (some s) => .ok s
  | t => t.refuse expected

/-- A text. -/
def text : Decoder String := string "a string"

/-- A truth value. -/
def boolean : Decoder Bool := fun _ t =>
  match t with
  | .boolean b => .ok b
  | t => t.refuse "a boolean"

/-- A whole number between two bounds. -/
def integerWithin (least greatest : Int) (expected : String) : Decoder Int := fun _ t =>
  match t with
  | .number n =>
    match n.number with
    | .ok (.integer value) =>
      if least ≤ value ∧ value ≤ greatest then .ok value
      else .error (.data (.wrongValue (.integer value) expected))
    | .ok (.double x) => .error (.data (.wrongType (.double x) expected))
    | .error f => faulty f
  | t => t.refuse expected

/-- A whole number of 64 bits with a sign. -/
def signed : Decoder Int := integerWithin leastInteger greatestInteger "i64"

/-- A size: a whole number of 64 bits without a sign. -/
def size : Decoder Nat := fun level t =>
  (integerWithin 0 Double.wordLimit "usize" level t).map Int.toNat

/-- The value `null` and nothing else. -/
def nothing : Decoder Unit := fun _ t =>
  match t with
  | .null => .ok ()
  | t => t.refuse "unit"

/-- A value that may be `null`. -/
def nullable {α : Type} (decoder : Decoder α) : Decoder (Option α) := fun level t =>
  match t with
  | .null => .ok none
  | t => (decoder level t).map some

/-! ## Arrays and objects -/

/-- Opens an array or object: the levels that are left inside. -/
def opened : Nat → Except Problem Nat
  | 0 => faulty .malformed
  | level + 1 => .ok level

/-- Closes an array or object. -/
def closed (fault : Option Fault) : Except Problem Unit := fault.elim (.ok ()) faulty

/-- The name of a member. -/
def memberName : Token → Except Problem String
  | .string (some s) => .ok s
  | .broken true cut => faulty cut.read
  | _ => faulty .malformed

/-- An array of values of one type. -/
def list {α : Type} (decoder : Decoder α) : Decoder (List α) := fun level t =>
  match t with
  | .array items fault => do
    let inner ← opened level
    let values ← items.mapM (decoder inner)
    closed fault
    return values
  | t => t.refuse "a sequence"

/-- The members of an object with values of one type, put into a table that
already has entries; of members with one name the last counts. -/
def tableMembers {α : Type} (decoder : Tree → Except Problem α) (table : Table α) :
    List (Token × Tree) → Except Problem (Table α)
  | [] => .ok table
  | (token, tree) :: rest => do
    let name ← memberName token
    let value ← decoder tree
    tableMembers decoder (table.insert name value) rest

/-- An object with values of one type. -/
def table {α : Type} (decoder : Decoder α) : Decoder (Table α) := fun level t =>
  match t with
  | .object members fault => do
    let inner ← opened level
    let values ← tableMembers (decoder inner) Table.empty members
    closed fault
    return values
  | t => t.refuse "a map"

mutual

/-- A value of any kind. The members of its objects come in the order of
their names, and of members with one name the last counts. -/
def value (level : Nat) : Tree → Except Problem Json
  | .null => .ok .null
  | .boolean b => .ok (.boolean b)
  | .number n =>
    match n.number with
    | .ok (.integer i) => .ok (.integer i)
    | .ok (.double x) => .ok (.double x)
    | .error f => faulty f
  | .string (some s) => .ok (.string s)
  | .string none => faulty .malformed
  | .array items fault => do
    let inner ← opened level
    let values ← valueItems inner items
    closed fault
    return .array values
  | .object members fault => do
    let inner ← opened level
    let values ← valueMembers inner [] members
    closed fault
    return .object values
  | .missing => faulty .ended
  | .broken _ cut => faulty cut.read

/-- The items of an array of values of any kind. -/
def valueItems (level : Nat) : List Tree → Except Problem (List Json)
  | [] => .ok []
  | item :: rest => do
    let first ← value level item
    let others ← valueItems level rest
    return first :: others

/-- The members of an object with values of any kind, after those already
read. -/
def valueMembers (level : Nat) (done : List (String × Json)) :
    List (Token × Tree) → Except Problem (List (String × Json))
  | [] => .ok done
  | (token, tree) :: rest => do
    let name ← memberName token
    let first ← value level tree
    valueMembers level (setEntry name first done) rest

end

/-- An object with values of any kind, its members in the order of their
names. -/
def members : Decoder (List (String × Json)) := fun level t =>
  match t with
  | .object members fault => do
    let inner ← opened level
    let values ← valueMembers inner [] members
    closed fault
    return values
  | t => t.refuse "a map"

/-! ## One of several names -/

/-- The value of a name that must be one of the known ones. -/
def variant {α : Type} (known : List (String × α)) (name : String) : Except Problem α :=
  match known.find? (fun entry => entry.1 == name) with
  | some entry => .ok entry.2
  | none => .error (.data (.unknownVariant name (known.map (·.1))))

/-- One of several named values, written as the name or as an object whose
one member has the name and the value `null`. -/
def oneOf {α : Type} (known : List (String × α)) : Decoder α := fun level t =>
  match t with
  | .string (some s) => variant known s
  | .object members fault => do
    let inner ← opened level
    match members with
    | [] => faulty (fault.getD .malformed)
    | (token, tree) :: rest =>
      let name ← memberName token
      let value ← variant known name
      nothing inner tree
      if rest.isEmpty then closed fault else faulty .malformed
      return value
  | .missing => faulty .ended
  | .broken true cut => faulty cut.read
  | _ => faulty .malformed

end Decoder

/-! ## Records -/

/-- What the absence of a field means. -/
inductive Presence where
  /-- The field must be there. -/
  | required
  /-- An object may lack the field, an array may not. -/
  | optional
  /-- The field may be absent and then has its default. -/
  | defaulted
  deriving DecidableEq

/-- A field of a record: its name, what its absence means, and how its value
changes the record read so far. -/
structure Field (ρ : Type) where
  /-- The name of the field. -/
  name : String
  /-- What the absence of the field means. -/
  presence : Presence
  /-- Reads the value of the field. -/
  read : Decoder (ρ → ρ)

/-- A field of the given type, with the function that sets it. -/
def Field.of {ρ α : Type} (name : String) (presence : Presence) (decoder : Decoder α)
    (set : ρ → α → ρ) : Field ρ :=
  ⟨name, presence, fun level t => (decoder level t).map fun value record => set record value⟩

/-- A type of records: what it is called, the record whose fields are all at
their defaults, and the fields in order. -/
structure Record (ρ : Type) where
  /-- What the type is called. -/
  title : String
  /-- The record before any field is read. -/
  blank : ρ
  /-- The fields in order. -/
  fields : List (Field ρ)

namespace Record

variable {ρ : Type}

/-- What is expected where an array of the fields is too short. -/
def arity (r : Record ρ) : String :=
  "struct " ++ r.title ++ " with " ++ Nat.repr r.fields.length ++
    (if r.fields.length = 1 then " element" else " elements")

/-- Reads the members of an object into the record; `seen` holds the names
of the fields read so far. A member that is no field is passed over. -/
def readMembers (r : Record ρ) (level : Nat) :
    List (Token × Tree) → List String → ρ → Except Problem (ρ × List String)
  | [], seen, record => .ok (record, seen)
  | (token, tree) :: rest, seen, record => do
    let name ← Decoder.memberName token
    match r.fields.find? (fun field => field.name == name) with
    | none =>
      tree.skip
      readMembers r level rest seen record
    | some field =>
      if seen.contains name then .error (.data (.duplicateField name))
      else
        let change ← field.read level tree
        readMembers r level rest (name :: seen) (change record)

/-- Every required field must have been seen; the first that has not is
reported. -/
def checkPresent (seen : List String) : List (Field ρ) → Except Problem Unit
  | [] => .ok ()
  | field :: rest =>
    if field.presence = .required ∧ ¬ seen.contains field.name then
      .error (.data (.missingField field.name))
    else checkPresent seen rest

/-- Reads the items of an array into the fields in their order; `count`
is the number of fields before them. -/
def readItems (r : Record ρ) (level : Nat) (fault : Option Fault) :
    List (Field ρ) → Nat → List Tree → ρ → Except Problem ρ
  | [], _, [], record => (Decoder.closed fault).map fun _ => record
  | [], _, _ :: _, _ => faulty .malformed
  | field :: fields, count, item :: items, record => do
    let change ← field.read level item
    readItems r level fault fields (count + 1) items (change record)
  | field :: fields, count, [], record => do
    Decoder.closed fault
    if field.presence = .defaulted then
      readItems r level fault fields (count + 1) [] record
    else .error (.data (.wrongLength count r.arity))

/-- Reads a record from an object or from an array. -/
def decode (r : Record ρ) : Decoder ρ := fun level t =>
  match t with
  | .object members fault => do
    let inner ← Decoder.opened level
    let (record, seen) ← r.readMembers inner members [] r.blank
    Decoder.closed fault
    checkPresent seen r.fields
    return record
  | .array items fault => do
    let inner ← Decoder.opened level
    r.readItems inner fault r.fields 0 items r.blank
  | t => t.refuse ("struct " ++ r.title)

end Record

/-! ## Whole texts -/

/-- Reads a whole text: one value, and nothing but blanks after it. -/
def read {α : Type} (decoder : Decoder α) (symbols : List Symbol) : Except Problem α := do
  let document := Document.ofSymbols symbols
  let value ← decoder deepestNesting document.root
  if document.trailing then faulty .malformed else return value

/-- Reads a whole text that is given as a string. -/
def readString {α : Type} (decoder : Decoder α) (s : String) : Except Problem α :=
  read decoder (Symbol.ofString s)

end Json

end ChatImport
