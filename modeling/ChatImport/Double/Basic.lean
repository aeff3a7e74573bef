/-!
# Double precision numbers as bit patterns

A `Double` is the pattern of 64 bits that stands for a number of double
precision. Two doubles are equal when their patterns are, so the two zeros
differ. The hardware does the arithmetic; what a pattern stands for, as a
whole number times a power of two, is told by `Double.scaled`.
-/

namespace ChatImport

/-- A number of double precision, by its bit pattern. -/
structure Double where
  /-- Sign, exponent and significand. -/
  bits : UInt64
  deriving DecidableEq, Inhabited

namespace Double

/-- The pattern of a machine number. -/
def ofFloat (x : Float) : Double := ⟨x.toBits⟩

/-- The machine number of a pattern. -/
def toFloat (x : Double) : Float := Float.ofBits x.bits

/-- Is the sign bit set? -/
def negative (x : Double) : Bool := x.bits.toNat / Nat.pow 2 63 == 1

/-- The eleven bits of the exponent. -/
def exponentField (x : Double) : Nat := x.bits.toNat / Nat.pow 2 52 % Nat.pow 2 11

/-- The fifty-two bits of the significand. -/
def fractionField (x : Double) : Nat := x.bits.toNat % Nat.pow 2 52

/-- The size of a finite number as `m * 2 ^ q`: the significand with its
hidden bit, and the power. -/
def scaled (x : Double) : Nat × Int :=
  if x.exponentField = 0 then (x.fractionField, -1074)
  else (Nat.pow 2 52 + x.fractionField, (x.exponentField : Int) - 1075)

end Double

end ChatImport
