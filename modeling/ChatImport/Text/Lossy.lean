import ChatImport.Text.Symbol
/-!
# Text from octets that may be none

Names that come from outside should be text and sometimes are not.
`lossyText` reads them anyway: characters stay, and a mark stands in the
place of what belongs to no character. Octets that begin a character which
is then broken off share one mark.
-/

namespace ChatImport

/-- The mark in the place of what is no text. -/
def replacementMark : Char := Char.ofNat 0xFFFD

/-- May an octet follow the first one of a character of three or four octets? -/
def follows (first octet : UInt8) : Bool :=
  let within (low high : UInt8) : Bool := low ≤ octet && octet ≤ high
  if first == 0xE0 then within 0xA0 0xBF
  else if first == 0xED then within 0x80 0x9F
  else if first == 0xF0 then within 0x90 0xBF
  else if first == 0xF4 then within 0x80 0x8F
  else if 0xE1 ≤ first && first ≤ 0xF3 then within 0x80 0xBF
  else false

/-- Does an octet still belong to the beginning of a character? -/
def extendsBeginning (octets : List UInt8) (octet : UInt8) : Bool :=
  match octets with
  | [first] => follows first octet
  | [first, _] => 0xF0 ≤ first && 0x80 ≤ octet && octet ≤ 0xBF
  | _ => false

/-- The characters, with marks for strays; `begun` holds the strays that
share the mark set last. -/
def lossyChars (begun : List UInt8) : List Symbol → List Char
  | [] => []
  | .char c :: rest => c :: lossyChars [] rest
  | .stray octet :: rest =>
    if extendsBeginning begun octet then lossyChars (begun ++ [octet]) rest
    else replacementMark :: lossyChars [octet] rest

/-- The text of octets, with marks in the place of what is none. -/
def lossyText (octets : ByteArray) : String :=
  String.ofList (lossyChars [] (Symbol.ofOctets octets))

end ChatImport
