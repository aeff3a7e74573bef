/-!
# Numbers in files

An archive holds its numbers as rows of octets, the lowest first, and its
records begin with a number that marks their kind.
-/

namespace ChatImport

namespace Archive

/-- The number that so many octets at a place make, the lowest first; octets
beyond the end count as zero. -/
def number (file : ByteArray) (place : Nat) : Nat → Nat
  | 0 => 0
  | width + 1 => (file[place]?.getD 0).toNat + 256 * number file (place + 1) width

/-- Is a record of a size at a place, with its mark in front? -/
def hasRecord (file : ByteArray) (place size mark : Nat) : Bool :=
  place + size ≤ file.size && number file place 4 == mark

/-- The first of so many places from one on that is as wanted. -/
def firstPlace? (wanted : Nat → Bool) (place : Nat) : Nat → Option Nat
  | 0 => none
  | count + 1 => if wanted place then some place else firstPlace? wanted (place + 1) count

/-- The first place from one on, as far as a mark there ends before a limit,
that is as wanted. -/
def firstMark? (wanted : Nat → Bool) (place limit : Nat) : Option Nat :=
  firstPlace? wanted place (limit - 3 - place)

end Archive

end ChatImport
