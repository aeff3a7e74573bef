import ChatImport.Double.Basic
/-!
# A double with one place

`Double.onePlace` writes a finite number with one digit after the point.
The number is taken exactly, as a significand and a power of two, and is
rounded to the nearest tenth; a number half-way between two tenths goes to
the even one.
-/

namespace ChatImport

/-- A quotient rounded to the nearest whole number, a half to the even one. -/
def roundedQuotient (numerator denominator : Nat) : Nat :=
  let whole := numerator / denominator
  let rest := numerator % denominator
  if denominator < 2 * rest ∨ (2 * rest = denominator ∧ whole % 2 = 1) then whole + 1 else whole

namespace Double

/-- The size of a finite number in tenths, rounded. -/
def tenths (x : Double) : Nat :=
  if 0 ≤ x.scaled.2 then x.scaled.1 * Nat.pow 2 x.scaled.2.natAbs * 10
  else roundedQuotient (x.scaled.1 * 10) (Nat.pow 2 x.scaled.2.natAbs)

/-- A finite number with one digit after the point. -/
def onePlace (x : Double) : String :=
  (if x.negative then "-" else "") ++ toString (x.tenths / 10) ++ "." ++ toString (x.tenths % 10)

end Double

end ChatImport
