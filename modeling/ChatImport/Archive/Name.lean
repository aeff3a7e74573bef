import ChatImport.Text.Lossy
/-!
# Names in archives

The name of an entry is a row of octets. A flag of the entry says that they
are the text in its usual encoding; without the flag each octet is a
character of the code page that archives were first written with, which has
letters and frames for boxes beyond the first 127 characters.
-/

namespace ChatImport

namespace Archive

/-- The upper half of the old code page. -/
def upperPage : Array Char :=
  ("ÇüéâäàåçêëèïîìÄÅÉæÆôöòûùÿÖÜ¢£¥₧ƒáíóúñÑªº¿⌐¬½¼¡«»" ++
    "░▒▓│┤╡╢╖╕╣║╗╝╜╛┐└┴┬├─┼╞╟╚╔╩╦╠═╬╧╨╤╥╙╘╒╓╫╪┘┌█▄▌▐▀" ++
    "αßΓπΣσµτΦΘΩδ∞φε∩≡±≥≤⌠⌡÷≈°∙·√ⁿ²■\u00A0").toList.toArray

/-- A character of the old code page. -/
def pageChar (octet : UInt8) : Char :=
  if octet < 128 then Char.ofNat octet.toNat
  else upperPage.getD (octet.toNat - 128) replacementMark

/-- The name that octets stand for. -/
def nameOf (flagged : Bool) (octets : ByteArray) : String :=
  if flagged then lossyText octets else String.ofList (octets.toList.map pageChar)

end Archive

end ChatImport
