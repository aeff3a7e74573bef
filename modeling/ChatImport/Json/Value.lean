import ChatImport.Double.Shortest
/-!
# JSON values and their text

A `Json` is a value of the format: the six kinds, an object being a list of
members in the order in which they are written. `Json.text` is the one
compact text of a value. What it decides is the format's: no blanks, a
backslash before quote and backslash, a short or a four-digit escape for
each control character, every other character as it is, integers in
decimal, and a double as the shortest decimal that reads back, always with
a point or an exponent so that it reads back as a double.
-/

namespace ChatImport

/-- A JSON value. -/
inductive Json where
  /-- The value `null`. -/
  | null
  /-- A truth value. -/
  | boolean (b : Bool)
  /-- A whole number. -/
  | integer (n : Int)
  /-- A number of double precision. -/
  | double (x : Double)
  /-- A text. -/
  | string (s : String)
  /-- A list of values. -/
  | array (items : List Json)
  /-- Named values, in the order of writing. -/
  | object (members : List (String × Json))
  deriving Inhabited

namespace Json

/-! ## Texts -/

/-- A digit to base sixteen. -/
def hexDigit (n : Nat) : Char := if n < 10 then Char.ofNat (48 + n) else Char.ofNat (87 + n)

/-- One character as it is written between quotes. -/
def escaped (c : Char) : List Char :=
  if c = '"' then ['\\', '"']
  else if c = '\\' then ['\\', '\\']
  else if c = '\n' then ['\\', 'n']
  else if c = '\r' then ['\\', 'r']
  else if c = '\t' then ['\\', 't']
  else if c = Char.ofNat 8 then ['\\', 'b']
  else if c = Char.ofNat 12 then ['\\', 'f']
  else if c.toNat < 32 then
    ['\\', 'u', '0', '0', hexDigit (c.toNat / 16), hexDigit (c.toNat % 16)]
  else [c]

/-- A text in quotes. -/
def quote (s : String) : String := "\"" ++ String.ofList (s.toList.flatMap escaped) ++ "\""

/-! ## Numbers -/

/-- The first and the last power of ten of a first digit that is written
without an exponent. -/
def plainRange : Int × Int := (-5, 15)

/-- A decimal with a point, and with an exponent if its first digit stands
far from the point. -/
def decimalText (d : Double.Shortest) : String :=
  let digits := Nat.repr d.digits
  let first : Int := d.power + digits.length - 1
  if d.digits = 0 then "0.0"
  else if plainRange.1 ≤ first ∧ first ≤ plainRange.2 then
    if 0 ≤ d.power then
      digits ++ String.ofList (List.replicate d.power.natAbs '0') ++ ".0"
    else if 0 ≤ first then
      String.ofList (digits.toList.take (first.natAbs + 1)) ++ "." ++
        String.ofList (digits.toList.drop (first.natAbs + 1))
    else "0." ++ String.ofList (List.replicate (first.natAbs - 1) '0') ++ digits
  else
    String.ofList (digits.toList.take 1) ++
      (if digits.length = 1 then "" else "." ++ String.ofList (digits.toList.drop 1)) ++
      (if first < 0 then "e-" else "e+") ++ Nat.repr first.natAbs

/-- A finite double as a number of the format. -/
def doubleText (x : Double) : String :=
  (if x.negative then "-" else "") ++ decimalText x.shortest

/-- A whole number in decimal. -/
def integerText (n : Int) : String :=
  if n < 0 then "-" ++ Nat.repr n.natAbs else Nat.repr n.natAbs

/-! ## Values -/

mutual

/-- The compact text of a value. -/
def text : Json → String
  | .null => "null"
  | .boolean true => "true"
  | .boolean false => "false"
  | .integer n => integerText n
  | .double x => doubleText x
  | .string s => quote s
  | .array items => "[" ++ itemsText items ++ "]"
  | .object members => "\x7b" ++ membersText members ++ "\x7d"

/-- The items of an array, commas between them. -/
def itemsText : List Json → String
  | [] => ""
  | item :: rest => item.text ++ moreItemsText rest

/-- The items of an array after the first, each after its comma. -/
def moreItemsText : List Json → String
  | [] => ""
  | item :: rest => "," ++ item.text ++ moreItemsText rest

/-- The members of an object, commas between them. -/
def membersText : List (String × Json) → String
  | [] => ""
  | (name, value) :: rest => quote name ++ ":" ++ value.text ++ moreMembersText rest

/-- The members of an object after the first, each after its comma. -/
def moreMembersText : List (String × Json) → String
  | [] => ""
  | (name, value) :: rest => "," ++ quote name ++ ":" ++ value.text ++ moreMembersText rest

end

/-- A list of texts as a value. -/
def strings (items : List String) : Json := .array (items.map .string)

/-- A text that may be absent. -/
def optional : Option String → Json
  | none => .null
  | some s => .string s

end Json

end ChatImport
