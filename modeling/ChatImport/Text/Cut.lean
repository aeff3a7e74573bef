/-!
# Parts of a text

`takeChars` keeps the first characters of a text, `trimEdges` drops characters
of a kind from both ends, and `splitAtFirst` and `splitAtAll` part it at a
character.
-/

namespace ChatImport

/-- The number of characters of a text. -/
def charCount (s : String) : Nat := s.toList.length

/-- The first characters of a text, at most so many. -/
def takeChars (limit : Nat) (s : String) : String := String.ofList (s.toList.take limit)

/-- The characters without those at either end that meet the condition. -/
def trimList (drop : Char → Bool) (cs : List Char) : List Char :=
  ((cs.dropWhile drop).reverse.dropWhile drop).reverse

/-- A text without the characters at either end that meet the condition. -/
def trimEdges (drop : Char → Bool) (s : String) : String := String.ofList (trimList drop s.toList)

/-- The part before the first of a character, and the part after it if there
is one. -/
def splitAtFirst (separator : Char) : List Char → List Char × Option (List Char)
  | [] => ([], none)
  | c :: rest =>
    if c = separator then ([], some rest)
    else (c :: (splitAtFirst separator rest).1, (splitAtFirst separator rest).2)

/-- The parts between all separators, one part more than there are
separators. -/
def splitAtAll (separator : Char) : List Char → List (List Char)
  | [] => [[]]
  | c :: rest =>
    if c = separator then [] :: splitAtAll separator rest
    else
      match splitAtAll separator rest with
      | [] => [[c]]
      | part :: others => (c :: part) :: others

/-- Characters that leave a blank in print. -/
def isBlank (c : Char) : Bool :=
  let n := c.toNat
  (9 ≤ n && n ≤ 13) || n == 0x20 || n == 0x85 || n == 0xA0 || n == 0x1680 ||
    (0x2000 ≤ n && n ≤ 0x200A) || n == 0x2028 || n == 0x2029 || n == 0x202F || n == 0x205F ||
    n == 0x3000

end ChatImport
