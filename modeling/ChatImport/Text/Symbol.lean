/-!
# What a reader of a file meets

A file holds octets, and a reader of text wants characters. Where the
octets are the encoding of a character the reader meets that character;
any other octet is met as a *stray*, one at a time. Nothing is lost and
nothing fails, so a reader can report a fault of its own that stands
before the first stray, and can pass over strays where the text does not
matter.
-/

namespace ChatImport

/-- One thing that a reader meets: a character, or an octet that belongs to
none. -/
inductive Symbol where
  /-- A character of the text. -/
  | char (c : Char)
  /-- An octet that is part of no character. -/
  | stray (octet : UInt8)
  deriving DecidableEq, Inhabited

namespace Symbol

/-- The number of octets that the symbol takes. -/
def octets : Symbol → Nat
  | .char c => c.utf8Size
  | .stray _ => 1

/-- The symbols of a text are its characters. -/
def ofString (s : String) : List Symbol := s.toList.map .char

/-- The symbols from a position on, put before those already found, which
stand last first. Each step passes at least one octet, so the number of
octets bounds the steps. -/
def scan (file : ByteArray) : Nat → Nat → List Symbol → List Symbol
  | 0, _, found => found.reverse
  | steps + 1, position, found =>
    if h : position < file.size then
      match file.utf8DecodeChar? position with
      | some c => scan file steps (position + c.utf8Size) (.char c :: found)
      | none => scan file steps (position + 1) (.stray file[position] :: found)
    else found.reverse

/-- The symbols of a file. -/
def ofOctets (file : ByteArray) : List Symbol :=
  match String.fromUTF8? file with
  | some text => ofString text
  | none => scan file file.size 0 []

end Symbol

end ChatImport
