import ChatImport.Archive.Ending
import ChatImport.Archive.Extra
import ChatImport.Archive.Name
import ChatImport.Table
/-!
# Archives

An archive is one file that holds many. The octets of each file stand
behind a header of their own, and a directory behind all of them tells where:

    header, octets, header, octets, …, directory, end record

The end record is looked for from the back, since octets that do not belong to
the archive may follow it, and the first one counts whose directory can be
read. `Archive.read?` reads the directory.
-/

namespace ChatImport

namespace Archive

/-! ## The directory -/

/-- What a directory tells of the entry at a place, its extras left aside. -/
def listing (file : ByteArray) (place : Nat) : Listing :=
  let flags := number file (place + 8) 2
  let nameStart := place + directoryEntrySize
  let nameEnd := nameStart + number file (place + 28) 2
  let commentStart := nameEnd + number file (place + 30) 2
  let nameOctets := file.extract nameStart nameEnd
  { nameOctets := nameOctets
    name := nameOf (flags.testBit 11) nameOctets
    comment := nameOf (flags.testBit 11)
      (file.extract commentStart (commentStart + number file (place + 32) 2))
    encrypted := flags.testBit 0
    ciphered := false
    method := number file (place + 10) 2
    check := number file (place + 16) 4
    packedSize := number file (place + 20) 4
    size := number file (place + 24) 4
    header := number file (place + 42) 4 }

/-- Reads one entry of a directory at a place: the name, the entry, and where
the next one stands. No header stands behind the start of the directory. -/
def directoryEntry? (file : ByteArray) (ending : Ending) (place : Nat) :
    Option (String × Entry × Nat) := do
  guard (hasRecord file place directoryEntrySize directoryMark)
  let extrasStart := place + directoryEntrySize + number file (place + 28) 2
  let extrasEnd := extrasStart + number file (place + 30) 2
  let next := extrasEnd + number file (place + 32) 2
  guard (next ≤ file.size)
  let l ← (listing file place).completed? (file.extract extrasStart extrasEnd)
  let entry := l.entry ending.shift
  guard (entry.header < ending.directory)
  return (l.name, entry, next)

/-- Reads so many entries of a directory from a place on. Of entries with one
name the last counts. -/
def directory? (file : ByteArray) (ending : Ending) (entries : Table Entry) (place : Nat) :
    Nat → Option (Table Entry)
  | 0 => some entries
  | count + 1 => do
    let (name, entry, next) ← directoryEntry? file ending place
    directory? file ending (entries.insert name entry) next count

/-- Reads the directory that an end record at a place tells of. -/
def fromEnd? (file : ByteArray) (place : Nat) : Option (Table Entry) := do
  let ending ← Ending.read? file place
  directory? file ending Table.empty ending.directory ending.count

/-- Looks for an end record whose directory can be read, from a place back. -/
def fromLastEnd? (file : ByteArray) : Nat → Option (Table Entry)
  | 0 => none
  | place + 1 =>
    match fromEnd? file place with
    | some entries => some entries
    | none => fromLastEnd? file place

end Archive

/-- What the directory of an archive tells: the entries by their names. -/
structure Archive where
  /-- The entries. -/
  entries : Table Archive.Entry

namespace Archive

instance : Inhabited Archive := ⟨⟨Table.empty⟩⟩

/-- Reads the directory of a file that should be an archive. -/
def read? (file : ByteArray) : Option Archive := (fromLastEnd? file file.size).map fun e => ⟨e⟩

/-- The names of the entries in order. -/
def names (a : Archive) : List String := a.entries.keys

end Archive

end ChatImport
