import ChatImport.Double.Decimal
import ChatImport.Json.Problem
/-!
# Numerals

A numeral is a number as it is spelled: a sign, digits, perhaps digits
after a point, perhaps an exponent. As long as it is spelled without point
and exponent and fits into 64 bits, with or without sign, it is a whole
number; every other numeral is read as a double. The numeral minus zero is
a double too, since no whole number is it.
-/

namespace ChatImport

namespace Json

/-- A number as it is spelled, its digits in reading order. -/
structure Numeral where
  /-- Is there a minus sign? -/
  negative : Bool
  /-- The digits before the point. -/
  whole : List Nat
  /-- The digits after the point, if there is one. -/
  fraction : Option (List Nat)
  /-- The exponent, if there is one: is it negative, and its digits. -/
  exponent : Option (Bool × List Nat)
  deriving DecidableEq, Inhabited

/-- The number that digits make. -/
def ofDigits (digits : List Nat) : Nat := digits.foldl (fun n d => 10 * n + d) 0

/-- A number as it is read. -/
inductive Number where
  /-- A whole number of 64 bits. -/
  | integer (n : Int)
  /-- A double. -/
  | double (x : Double)
  deriving DecidableEq, Inhabited

/-- The least whole number of 64 bits with a sign. -/
def leastInteger : Int := -Nat.pow 2 63

/-- The greatest whole number of 64 bits with a sign. -/
def greatestInteger : Int := Nat.pow 2 63 - 1

/-- The greatest exponent that is taken as a number; beyond it only its sign
counts. -/
def exponentLimit : Nat := Nat.pow 2 31 - 1

/-- The double that a numeral stands for, nothing if it is too large. -/
def Numeral.double? (n : Numeral) : Option Double :=
  let (number, left) := Double.gather 0 n.whole
  let fraction := n.fraction.getD []
  let (number, unread) := Double.gather number fraction
  let power : Int := left.length - (fraction.length - unread.length : Nat)
  match n.exponent with
  | none => Double.ofDecimal n.negative number power
  | some (down, digits) =>
    if ofDigits digits ≤ exponentLimit then
      Double.ofDecimal n.negative number
        (if down then power - ofDigits digits else power + ofDigits digits)
    else if number ≠ 0 ∧ !down then none
    else Double.ofDecimal n.negative 0 0

/-- The number that a numeral stands for; one beyond the doubles is a fault
of the text. -/
def Numeral.number (n : Numeral) : Except Fault Number :=
  let size := ofDigits n.whole
  let whole : Option Int :=
    if n.fraction.isSome || n.exponent.isSome then none
    else if n.negative then
      if 0 < size ∧ (size : Int) ≤ -leastInteger then some (-(size : Int)) else none
    else if size ≤ Double.wordLimit then some size
    else none
  match whole with
  | some value => .ok (.integer value)
  | none =>
    match n.double? with
    | some x => .ok (.double x)
    | none => .error .malformed

end Json

end ChatImport
