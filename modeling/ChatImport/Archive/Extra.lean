import ChatImport.Archive.Entry
/-!
# Extras of archive entries

A directory tells of each entry a fixed set of numbers, its name and a
comment. What does not fit stands in the *extras*: fields with a number for
their kind, a length, and octets. They hold

    sizes and places of more than 32 bits
    instants of several kinds
    a cipher
    a name or a comment in the usual encoding, for readers that know it

`Listing.completed?` puts the extras of an entry into what is known of it.
Extras that end too early count as far as they go, but a field that is wrong
in itself spoils the directory.
-/

namespace ChatImport

namespace Archive

/-- What a directory tells of an entry. -/
structure Listing where
  /-- The octets of the name. -/
  nameOctets : ByteArray
  /-- The name. -/
  name : String
  /-- The comment. -/
  comment : String
  /-- Is the content encrypted? -/
  encrypted : Bool
  /-- Do the extras tell of a cipher? -/
  ciphered : Bool
  /-- The number of the method by which the content is packed. -/
  method : Nat
  /-- The checksum of the content. -/
  check : Nat
  /-- The number of packed octets. -/
  packedSize : Nat
  /-- The number of octets of the content. -/
  size : Nat
  /-- The place of the header. -/
  header : Nat

namespace Extra

/-- Why the extras are not read to their end. -/
inductive Stop where
  /-- The octets end within a field. -/
  | ended
  /-- A field is wrong in itself. -/
  | spoilt
  deriving DecidableEq, Inhabited

/-- Extras that are being read. -/
structure Progress where
  /-- The octets that are left. -/
  rest : List UInt8
  /-- What is known of the entry. -/
  listing : Listing

/-- The reading of extras. -/
abbrev Reading := EStateM Stop Progress

/-! ## Octets and numbers -/

/-- Takes so many octets. -/
def octets (count : Nat) : Reading (List UInt8) := fun p =>
  let taken := p.rest.take count
  if taken.length < count then .error .ended p
  else .ok taken { p with rest := p.rest.drop count }

/-- Passes over so many octets. -/
def skip (count : Nat) : Reading Unit := do let _ ← octets count

/-- Reads a number of so many octets, the lowest first. -/
def read (width : Nat) : Reading Nat := do
  return (← octets width).foldr (fun octet high => octet.toNat + 256 * high) 0

/-- A field is wrong unless the condition holds. -/
def require (condition : Bool) : Reading Unit :=
  if condition then pure () else throw .spoilt

/-- Changes what is known of the entry. -/
def change (f : Listing → Listing) : Reading Unit :=
  modify fun p => { p with listing := f p.listing }

/-! ## Kinds of fields -/

/-- The number that stands for one of more than 32 bits. -/
def overflowMark : Nat := 0xFFFFFFFF

/-- Reads a number of 64 bits, if it is due: a long field has all of them, a
shorter one only those that do not fit elsewhere. Gives the octets read. -/
def wideNumber (length : Nat) (old : Listing → Nat) (set : Listing → Nat → Listing) :
    Reading Nat := do
  if 24 ≤ length ∨ old (← get).listing = overflowMark then
    let value ← read 8
    change fun l => set l value
    return 8
  else return 0

/-- Reads sizes and the place of the header in 64 bits. -/
def wideNumbers (length : Nat) : Reading Unit := do
  let a ← wideNumber length (·.size) fun l n => { l with size := n }
  let b ← wideNumber length (·.packedSize) fun l n => { l with packedSize := n }
  let c ← wideNumber length (·.header) fun l n => { l with header := n }
  require (a + b + c ≤ length)
  skip (length - (a + b + c))

/-- Reads instants in steps of a ten-millionth of a second. -/
def fineInstants (length : Nat) : Reading Unit := do
  require (length == 32)
  skip 4
  require ((← read 2) == 1)
  require ((← read 2) == 24)
  skip 24

/-- Reads instants in seconds. A number of flags says which of them are told;
of a short field only the first one is. -/
def coarseInstants (length : Nat) : Reading Unit := do
  let flags ← read 1
  let told := ((List.range 8).filter flags.testBit).length
  require (length == 5 || length == 1 + 4 * told)
  require (flags < 8)
  if flags.testBit 0 ∨ length = 5 then skip 4
  if flags.testBit 1 ∧ 5 < length then skip 4
  if flags.testBit 2 ∧ 5 < length then skip 4

/-- Reads the cipher of the content, and the method behind it. -/
def cipher (length : Nat) : Reading Unit := do
  require (length == 7)
  let version ← read 2
  let vendor ← read 2
  let strength ← read 1
  let method ← read 2
  require (vendor == 0x4541)
  require (version == 1 || version == 2)
  require (1 ≤ strength && strength ≤ 3)
  change fun l => { l with ciphered := true, method := method }

/-- Reads a text that takes the place of an older one, whose checksum it
tells. -/
def newText (length : Nat) (old : Listing → ByteArray) : Reading String := do
  skip 1
  let check ← read 4
  require (5 ≤ length)
  let content ← octets (length - 5)
  require (check == (checksum (old (← get).listing)).toNat)
  match String.fromUTF8? ⟨content.toArray⟩ with
  | some text => return text
  | none => throw .spoilt

/-- Reads a field. One of an unknown kind is passed over. -/
def field : Reading Unit := do
  let kind ← read 2
  let length ← read 2
  match kind with
  | 0x0001 => wideNumbers length
  | 0x000A => fineInstants length
  | 0x5455 => coarseInstants length
  | 0x9901 => cipher length
  | 0x6375 =>
    let text ← newText length fun l => l.comment.toUTF8
    change fun l => { l with comment := text }
  | 0x7075 =>
    let text ← newText length fun l => l.nameOctets
    change fun l => { l with name := text, nameOctets := text.toUTF8 }
  | _ => skip length

/-- Reads fields to the end. Each takes at least one octet, so the number of
octets bounds the steps. -/
def fields : Nat → Reading Unit
  | 0 => pure ()
  | steps + 1 => do
    if (← get).rest.isEmpty then return ()
    field
    fields steps

end Extra

namespace Listing

/-- The number of the method that stands for a cipher told in the extras. -/
def cipherMethod : Nat := 99

/-- What is known of an entry together with its extras; nothing if they spoil
the directory or a cipher that should be told is not. -/
def completed? (l : Listing) (extras : ByteArray) : Option Listing :=
  let known :=
    match Extra.fields extras.size ⟨extras.toList, l⟩ with
    | .ok () p | .error .ended p => some p.listing
    | .error .spoilt _ => none
  known.filter fun l => l.method ≠ cipherMethod || l.ciphered

/-- The entry in an archive that is moved by a distance. -/
def entry (l : Listing) (shift : Nat) : Entry :=
  { encrypted := l.encrypted || l.ciphered
    method := l.method
    check := l.check
    packedSize := l.packedSize
    header := l.header + shift }

end Listing

end Archive

end ChatImport
