import ChatImport.Double.Basic
/-!
# The shortest decimal for a double

Of all decimals that read back as a given double, the shortest is the one
with the fewest digits, and of those with the fewest the one nearest to the
double. The numbers that read back form an interval around it, the ends of
which belong to it when the significand is even. On the grid of decimals
with a given number of digits, only the two neighbours of the double can be
the nearest ones; so the digits are found by trying grids from one digit to
seventeen. All of it is exact arithmetic on natural numbers.
-/

namespace ChatImport

namespace Double

/-- A decimal `digits * 10 ^ power`. -/
structure Shortest where
  /-- The digits as one number. -/
  digits : Nat
  /-- The power of ten of the last digit. -/
  power : Int

/-- The number of digits of a number in base ten. -/
def digitCount (n : Nat) : Nat := (Nat.toDigits 10 n).length

/-- A number over a denominator, in quarters of the unit in the last place,
with the interval of numbers that read back as it. -/
structure Interval where
  /-- The lowest number that may read back. -/
  low : Nat
  /-- The number itself. -/
  value : Nat
  /-- The highest number that may read back. -/
  high : Nat
  /-- What the three are to be divided by. -/
  denominator : Nat
  /-- Do the ends read back? -/
  closed : Bool

/-- The interval of a finite number other than zero. Below a power of two
the neighbours lie at half the distance. -/
def interval (x : Double) : Interval :=
  let m := x.scaled.1
  let q := x.scaled.2 - 2
  let up := if 0 ≤ q then Nat.pow 2 q.natAbs else 1
  let down := if 0 ≤ q then 1 else Nat.pow 2 q.natAbs
  let below := if m = Nat.pow 2 52 ∧ 1 < x.exponentField then 1 else 2
  ⟨(4 * m - below) * up, 4 * m * up, (4 * m + 2) * up, down, m % 2 == 0⟩

/-- Does the decimal lie in the interval? -/
def Interval.holds (i : Interval) (d : Shortest) : Bool :=
  let numerator := if 0 ≤ d.power then d.digits * Nat.pow 10 d.power.natAbs else d.digits
  let scale := if 0 ≤ d.power then 1 else Nat.pow 10 d.power.natAbs
  let x := numerator * i.denominator
  if i.closed then i.low * scale ≤ x && x ≤ i.high * scale
  else i.low * scale < x && x < i.high * scale

/-- The power of ten of the first digit of the number. -/
def Interval.magnitude (i : Interval) : Int :=
  if i.denominator ≤ i.value then (digitCount (i.value / i.denominator) : Int) - 1
  else
    let places := digitCount (i.denominator / i.value)
    if i.value * Nat.pow 10 (places - 1) = i.denominator then 1 - (places : Int) else -(places : Int)

/-- The neighbours of the number on the grid of multiples of a power of ten,
the nearer one first; at the same distance the even one. -/
def Interval.neighbours (i : Interval) (power : Int) : Shortest × Shortest :=
  let numerator := if 0 ≤ power then i.value else i.value * Nat.pow 10 power.natAbs
  let unit := if 0 ≤ power then i.denominator * Nat.pow 10 power.natAbs else i.denominator
  let below := numerator / unit
  let rest := numerator % unit
  if 2 * rest < unit ∨ (2 * rest = unit ∧ below % 2 = 0) then
    (⟨below, power⟩, ⟨below + 1, power⟩)
  else (⟨below + 1, power⟩, ⟨below, power⟩)

/-- Tries grids of ever more digits until one has a member in the interval;
`places` counts the grids that are left. -/
def Interval.search (i : Interval) (power : Int) : Nat → Shortest
  | 0 => (i.neighbours power).1
  | places + 1 =>
    if i.holds (i.neighbours power).1 then (i.neighbours power).1
    else if i.holds (i.neighbours power).2 then (i.neighbours power).2
    else i.search (power - 1) places

/-- The decimal without the zeros at its end; `places` bounds their number. -/
def Shortest.trim (d : Shortest) : Nat → Shortest
  | 0 => d
  | places + 1 =>
    if d.digits ≠ 0 ∧ d.digits % 10 = 0 then trim ⟨d.digits / 10, d.power + 1⟩ places else d

/-- The shortest decimal that reads back as a finite number; the sign is
left aside. -/
def shortest (x : Double) : Shortest :=
  if x.scaled.1 = 0 then ⟨0, 0⟩
  else (x.interval.search x.interval.magnitude 17).trim 17

end Double

end ChatImport
