import ChatImport.Text.Cut
/-!
# Addresses of eight pieces

A host may be given by its address of eight pieces of sixteen bits.
`Ipv6.read?` reads the pieces from the text between the brackets: pieces to
base sixteen with colons between them, two colons once in the place of a
run of zeros, and the last two pieces perhaps as four decimal numbers.
`Ipv6.text` writes the pieces in their shortest form.
-/

namespace ChatImport

namespace Ipv6

/-- The parts between the colons. -/
def colonParts : List Char → List (List Char)
  | [] => [[]]
  | c :: rest =>
    if c = ':' then [] :: colonParts rest
    else
      match colonParts rest with
      | [] => [[c]]
      | part :: others => (c :: part) :: others

/-- The value of a digit to base sixteen. -/
def hexDigit? (c : Char) : Option Nat :=
  if '0' ≤ c ∧ c ≤ '9' then some (c.toNat - 48)
  else if 'a' ≤ c ∧ c ≤ 'f' then some (c.toNat - 87)
  else if 'A' ≤ c ∧ c ≤ 'F' then some (c.toNat - 55)
  else none

/-- A piece of one to four digits to base sixteen. -/
def piece? (cs : List Char) : Option Nat :=
  if cs = [] ∨ 4 < cs.length then none
  else cs.foldlM (fun n c => (hexDigit? c).map (16 * n + ·)) 0

/-- A decimal number up to 255 without needless zeros. -/
def byte? (cs : List Char) : Option Nat :=
  if cs = [] ∨ 3 < cs.length ∨ ¬ cs.all Char.isDigit ∨ (1 < cs.length ∧ cs.head? = some '0') then
    none
  else
    let n := cs.foldl (fun n c => 10 * n + (c.toNat - 48)) 0
    if n ≤ 255 then some n else none

/-- Four decimal numbers with points between them, as two pieces. -/
def quad? (cs : List Char) : Option (List Nat) :=
  let first := splitAtFirst '.' cs
  let second := splitAtFirst '.' (first.2.getD [])
  let third := splitAtFirst '.' (second.2.getD [])
  match byte? first.1, byte? second.1, byte? third.1, byte? (third.2.getD []) with
  | some a, some b, some c, some d => some [256 * a + b, 256 * c + d]
  | _, _, _, _ => none

/-- The pieces of a side of the two colons; four decimal numbers may only
stand at the end of the whole. -/
def pieces? (last : Bool) : List (List Char) → Option (List Nat)
  | [] => some []
  | [part] =>
    match piece? part with
    | some n => some [n]
    | none => if last then quad? part else none
  | part :: rest => do
    let n ← piece? part
    let others ← pieces? last rest
    return n :: others

/-- The pieces of a side, which may be empty. -/
def side? (last : Bool) (cs : List Char) : Option (List Nat) :=
  if cs = [] then some [] else pieces? last (colonParts cs)

/-- The two sides of the first two colons, if there are any. -/
def sides : List Char → List Char × Option (List Char)
  | ':' :: ':' :: rest => ([], some rest)
  | [] => ([], none)
  | c :: rest => (c :: (sides rest).1, (sides rest).2)

/-- The eight pieces of an address. -/
def read? (cs : List Char) : Option (List Nat) :=
  match sides cs with
  | (all, none) => do
    let pieces ← side? true all
    if pieces.length = 8 then some pieces else none
  | (left, some right) => do
    let before ← side? false left
    let after ← side? true right
    if before.length + after.length ≤ 7 then
      some (before ++ List.replicate (8 - before.length - after.length) 0 ++ after)
    else none

/-- The length of the run of zeros at the front. -/
def zeroRun : List Nat → Nat
  | 0 :: rest => zeroRun rest + 1
  | _ => 0

/-- The first of the longest runs of zeros: its place and its length. -/
def longestRun (pieces : List Nat) : Nat × Nat :=
  (List.range pieces.length).foldl (fun best start =>
    let run := zeroRun (pieces.drop start)
    if best.2 < run then (start, run) else best) (0, 0)

/-- Pieces to base sixteen with colons between them. -/
def joined (pieces : List Nat) : String :=
  String.intercalate ":" (pieces.map fun n => String.ofList (Nat.toDigits 16 n))

/-- The shortest text of an address. -/
def text (pieces : List Nat) : String :=
  match pieces with
  | [0, 0, 0, 0, 0, 0xFFFF, high, low] =>
    "::ffff:" ++ String.intercalate "."
      ([high / 256, high % 256, low / 256, low % 256].map Nat.repr)
  | _ =>
    let run := longestRun pieces
    if 1 < run.2 then joined (pieces.take run.1) ++ "::" ++ joined (pieces.drop (run.1 + run.2))
    else joined pieces

end Ipv6

end ChatImport
