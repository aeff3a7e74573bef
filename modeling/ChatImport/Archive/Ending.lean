import ChatImport.Archive.Number
/-!
# The end of an archive

The end record of an archive tells where the directory starts and how many
entries it has. An archive that has too many entries or octets for the numbers
of that record has a *wide* end record before it, and right before the end
record a locator that tells where the wide one stands.

Octets may stand before the archive. Then the record or directory that is
looked for is the first thing behind the place told that looks like one, and
every place told in the archive moves by the same distance.
-/

namespace ChatImport

namespace Archive

/-- What the end of an archive tells of its directory. -/
structure Ending where
  /-- The place of the directory. -/
  directory : Nat
  /-- The distance by which the places told in the archive are moved. -/
  shift : Nat
  /-- The number of entries. -/
  count : Nat
  deriving DecidableEq, Inhabited

/-- The mark in front of an entry of the directory. -/
def directoryMark : Nat := 0x02014B50

/-- The size of an entry of the directory without name, extras and comment. -/
def directoryEntrySize : Nat := 46

namespace Ending

/-- The mark in front of the end record. -/
def mark : Nat := 0x06054B50

/-- The size of the end record without comment. -/
def size : Nat := 22

/-- The mark in front of the locator. -/
def locatorMark : Nat := 0x07064B50

/-- The size of the locator. -/
def locatorSize : Nat := 20

/-- The mark in front of the wide end record. -/
def wideMark : Nat := 0x06064B50

/-- The size of the wide end record without comment. -/
def wideSize : Nat := 56

/-- Do the numbers of the end record at a place not hold what they should? -/
def isExceeded (file : ByteArray) (place : Nat) : Bool :=
  number file (place + 10) 2 == 0xFFFF || number file (place + 16) 4 == 0xFFFFFFFF

/-- The place of the locator before an end record that needs one. -/
def locator? (file : ByteArray) (place : Nat) : Option Nat :=
  if isExceeded file place && locatorSize ≤ place &&
      hasRecord file (place - locatorSize) locatorSize locatorMark then
    some (place - locatorSize)
  else none

/-- What the end record at a place tells by itself. -/
def narrow? (file : ByteArray) (place : Nat) : Option Ending := do
  let told := number file (place + 16) 4
  let directory ←
    if number file (place + 10) 2 = 0 then some (max told place)
    else firstMark? (fun p => number file p 4 == directoryMark) told place
  guard (number file (place + 4) 2 = number file (place + 6) 2)
  return ⟨directory, directory - told, number file (place + 8) 2⟩

/-- Is a wide end record at a place, right before the locator, with room for
the directory before it? -/
def isWide (file : ByteArray) (locator place : Nat) : Bool :=
  hasRecord file place wideSize wideMark &&
    wideSize ≤ number file (place + 4) 8 + 12 &&
    number file (place + 4) 8 + 12 + place == locator &&
    number file (place + 20) 4 == number file (locator + 4) 4 &&
    number file (place + 32) 8 * directoryEntrySize + number file (place + 48) 8 ≤ place

/-- What the wide end record tells that a locator at a place leads to. -/
def wide? (file : ByteArray) (locator : Nat) : Option Ending := do
  let told := number file (locator + 8) 8
  guard (told < locator && number file (locator + 16) 4 ≤ 1)
  let place ← firstMark? (isWide file locator) told locator
  guard (number file (place + 24) 8 ≤ number file (place + 32) 8)
  guard (number file (place + 14) 2 ≤ number file (place + 12) 2)
  guard (number file (place + 16) 4 = number file (place + 20) 4)
  return ⟨number file (place + 48) 8 + (place - told), place - told, number file (place + 32) 8⟩

/-- What the end record at a place tells, if there is one. Its comment must
not go beyond the end of the file. -/
def read? (file : ByteArray) (place : Nat) : Option Ending := do
  guard (hasRecord file place size mark)
  guard (place + size + number file (place + 20) 2 ≤ file.size)
  match locator? file place with
  | some locator => wide? file locator
  | none => narrow? file place

end Ending

end Archive

end ChatImport
