import ChatImport.Text.CaseTable
import ChatImport.Text.HiddenTable
/-!
# Texts in quotes

A message that names a piece of text puts it in double quotes and makes
every character of it visible: the common controls, the quote and the
backslash get a backslash before a letter or themselves, and any other
character that does not show on its own is written as its number.
-/

namespace ChatImport

namespace Quoted

/-- The digits of a number to base sixteen, in small letters. -/
def hexDigits (n : Nat) : String := String.ofList (Nat.toDigits 16 n)

/-- Does the character show on its own? -/
def shows (c : Char) : Bool :=
  !hiddenRuns.any fun run => run.1 ≤ c.toNat && c.toNat ≤ run.2

/-- One character as it stands between the quotes. -/
def visible (c : Char) : String :=
  if c = Char.ofNat 0 then "\\0"
  else if c = '\t' then "\\t"
  else if c = '\r' then "\\r"
  else if c = '\n' then "\\n"
  else if c = '"' then "\\\""
  else if c = '\\' then "\\\\"
  else if shows c then c.toString
  else "\\u\x7b" ++ hexDigits c.toNat ++ "\x7d"

end Quoted

/-- A text in double quotes with all its characters visible. -/
def quoted (s : String) : String :=
  "\"" ++ String.join (s.toList.map Quoted.visible) ++ "\""

end ChatImport
