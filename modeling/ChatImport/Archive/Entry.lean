import ChatImport.Archive.Checksum
import ChatImport.Archive.Inflate
import ChatImport.Archive.Number
import ChatImport.Error
/-!
# Entries of archives

The directory of an archive tells of each file where its header stands and
how its content is packed. `Entry.open?` looks at the header, and
`Entry.content` unpacks the octets behind it and holds them against the
checksum that the directory tells.
-/

namespace ChatImport

namespace Archive

/-- A file of an archive. -/
structure Entry where
  /-- Is the content encrypted? -/
  encrypted : Bool
  /-- The number of the method by which the content is packed. -/
  method : Nat
  /-- The checksum of the content. -/
  check : Nat
  /-- The number of packed octets. -/
  packedSize : Nat
  /-- The place of the header. -/
  header : Nat
  deriving DecidableEq, Inhabited

/-- The mark in front of a header. -/
def headerMark : Nat := 0x04034B50

/-- The size of a header without name and extras. -/
def headerSize : Nat := 30

namespace Entry

/-- Opens an entry and gives the place of its packed octets. It must not be
encrypted, its content must be deflated or as it is, and a header must stand
where the directory says. The header has a name and extras of its own. -/
def open? (e : Entry) (file : ByteArray) : Option Nat := do
  guard (!e.encrypted && (e.method == 0 || e.method == 8))
  guard (hasRecord file e.header headerSize headerMark)
  return e.header + headerSize + number file (e.header + 26) 2 + number file (e.header + 28) 2

/-- What is wrong with deflated octets, as a fault of the file. -/
def streamFault : Inflation.Fault → FileFault
  | .damaged => .invalidInput
  | .ended => .endsEarly

/-- The content of an entry whose packed octets start at a place, as far as it
can be had, and what is wrong with it. -/
def content (e : Entry) (file : ByteArray) (start : Nat) : ByteArray × Option FileFault :=
  let packed := file.extract start (start + e.packedSize)
  let (octets, fault) := if e.method = 0 then (packed, none) else inflate packed
  match fault with
  | some fault => (octets, some (streamFault fault))
  | none => (octets, if (checksum octets).toNat = e.check then none else some .invalidData)

end Entry

end Archive

end ChatImport
