import ChatImport.Text.CaseTable
/-!
# Lower case

`lowerCase` puts a text into lower case by the rules of the character
standard that hang on no language. A character has at most one partner,
with two exceptions: the capital I with a dot becomes an i and a combining
dot, and the capital sigma becomes the final sigma where it ends a word.
-/

namespace ChatImport

namespace CaseTable

/-- Does one of the runs hold the code point? -/
def holds (runs : Array (Nat × Nat)) (code : Nat) : Bool :=
  runs.any fun run => run.1 ≤ code && code ≤ run.2

/-- The lower-case partner of one character, itself if it has none. -/
def lowerChar (c : Char) : Char :=
  if c.toNat < 128 then c.toLower
  else
    match lowerRuns.find? (fun run =>
        run.1 ≤ c.toNat && c.toNat ≤ run.2.1 && (c.toNat - run.1) % run.2.2.1 == 0) with
    | some run => Char.ofNat (c.toNat + run.2.2.2).toNat
    | none => c

/-- Among the characters in this order, does one with case come before every
other one that the rules of case do not look through? -/
def casedFirst (chars : List Char) : Bool :=
  match chars.dropWhile (fun c => holds ignorableRuns c.toNat) with
  | [] => false
  | c :: _ => holds casedRuns c.toNat

/-- The lower-case form of one character between the characters before it,
nearest first, and those after it. -/
def lowerWithin (before : List Char) (c : Char) (after : List Char) : List Char :=
  if c = 'Σ' then
    if casedFirst before && !casedFirst after then ['ς'] else ['σ']
  else if c = 'İ' then ['i', Char.ofNat 0x307]
  else [lowerChar c]

/-- The lower-case form of the characters that follow those of `before`,
which stand nearest first; `done` holds what has been written, last first. -/
def lowerFrom (before : List Char) (done : List Char) : List Char → List Char
  | [] => done.reverse
  | c :: after => lowerFrom (c :: before) ((lowerWithin before c after).reverse ++ done) after

end CaseTable

/-- The text in lower case. -/
def lowerCase (s : String) : String := String.ofList (CaseTable.lowerFrom [] [] s.toList)

end ChatImport
