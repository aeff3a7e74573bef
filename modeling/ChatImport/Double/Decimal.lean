import ChatImport.Double.Basic
/-!
# Doubles from decimal numerals

A numeral is read in two steps. Its leading digits are gathered as long as
they make a number of 64 bits, and the digits after them only count for the
power of ten. Then the gathered number is multiplied or divided by that
power in double precision, so the last bit of the answer need not be the
nearest one. A power that is too small for one division is taken in
several; an answer beyond the largest double is refused.
-/

namespace ChatImport

namespace Double

/-- The largest number of 64 bits. -/
def wordLimit : Nat := Nat.pow 2 64 - 1

/-- Adds digits to a number while the number fits into 64 bits, and gives
the digits that are left. -/
def gather (number : Nat) : List Nat → Nat × List Nat
  | [] => (number, [])
  | digit :: rest =>
    if number * 10 + digit ≤ wordLimit then gather (number * 10 + digit) rest
    else (number, digit :: rest)

/-- The double nearest to a power of ten up to the largest that has one. -/
def powerOfTen (n : Nat) : Float := Float.ofScientific 1 false n

/-- A machine number times a power of ten, nothing if that is too large. A
power below the smallest one that a double holds is taken in steps; after
three of them nothing of a number of 64 bits is left. -/
def times (steps : Nat) (x : Float) (power : Int) : Option Float :=
  if power.natAbs ≤ 308 then
    if 0 ≤ power then
      let y := x * powerOfTen power.natAbs
      if y.isInf then none else some y
    else some (x / powerOfTen power.natAbs)
  else if x == 0 then some x
  else if 0 ≤ power then none
  else
    match steps with
    | 0 => some x
    | steps + 1 => times steps (x / powerOfTen 308) (power + 308)

/-- The double for a number of 64 bits times a power of ten, nothing if that
is too large. -/
def ofDecimal (negative : Bool) (number : Nat) (power : Int) : Option Double :=
  (times 4 number.toUInt64.toFloat power).map fun x => ofFloat (if negative then -x else x)

end Double

end ChatImport
