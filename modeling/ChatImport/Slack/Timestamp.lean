import ChatImport.Text.Cut
import ChatImport.Log
/-!
# Timestamps

A message carries the time of its sending as text: seconds since the epoch,
a point, and a fraction of which six characters count. It stands for an
`Instant` of the calendar, which is kept as whole seconds and the
nanoseconds after them. `Instant.micros`, the time in microseconds, orders
the messages of a channel, and `Instant.millis`, the same time in
milliseconds, is the creation time of the imported post. A text that is no
time counts as the epoch, and the log tells so when a creation time is taken
from it.

The calendar bounds the times: they lie in the years -262143 to 262142.
-/

namespace ChatImport

namespace Slack

namespace Timestamp

/-- The number that decimal digits make; nothing without digits, or if
something else stands among them. -/
def natural? (cs : List Char) : Option Nat :=
  if cs ≠ [] ∧ cs.all Char.isDigit then
    some (cs.foldl (fun n c => 10 * n + (c.toNat - '0'.toNat)) 0)
  else none

/-- The number that digits after an optional sign make. -/
def integer? : List Char → Option Int
  | '-' :: digits => (natural? digits).map fun n : Nat => -(n : Int)
  | '+' :: digits => (natural? digits).map fun n : Nat => (n : Int)
  | digits => (natural? digits).map fun n : Nat => (n : Int)

/-- The number of characters of the fraction that count. -/
def fractionChars : Nat := 6

/-- The microseconds of a fraction: its first characters, filled up with
zeros, as a number that may have a plus sign. -/
def fraction? (cs : List Char) : Option Nat :=
  let kept := cs.take fractionChars
  let filled := kept ++ List.replicate (fractionChars - kept.length) '0'
  if kept = [] then some 0
  else
    match filled with
    | '+' :: digits => natural? digits
    | digits => natural? digits

/-! ## The calendar -/

/-- The first year of the calendar. -/
def firstYear : Int := -262143

/-- The last year of the calendar. -/
def lastYear : Int := 262142

/-- The day on which a year begins, counted from the epoch: so many days are
in the years before it, leap days included. -/
def yearStart (year : Int) : Int :=
  let past := year - 1
  365 * past + past / 4 - past / 100 + past / 400 - 719162

/-- The second in which the first year of the calendar begins. -/
def firstSecond : Int := 86400 * yearStart firstYear

/-- The second in which the last year of the calendar ends. -/
def lastSecond : Int := 86400 * yearStart (lastYear + 1) - 1

end Timestamp

/-- A point in time of the calendar. -/
structure Instant where
  /-- The whole seconds since the epoch; below zero if it lies before. -/
  seconds : Int
  /-- The nanoseconds after these seconds. -/
  nanoseconds : Nat
  /-- The calendar has the second. -/
  inCalendar : Timestamp.firstSecond ≤ seconds ∧ seconds ≤ Timestamp.lastSecond
  /-- The nanoseconds make less than a second. -/
  nanoseconds_lt : nanoseconds < 1000000000
  deriving DecidableEq

namespace Instant

/-- The instant of so many seconds and nanoseconds, if the calendar has it. -/
def of? (seconds : Int) (nanoseconds : Nat) : Option Instant :=
  if h : (Timestamp.firstSecond ≤ seconds ∧ seconds ≤ Timestamp.lastSecond) ∧
      nanoseconds < 1000000000 then
    some ⟨seconds, nanoseconds, h.1, h.2⟩
  else none

/-- The time in microseconds since the epoch. -/
def micros (t : Instant) : Int := t.seconds * 1000000 + (t.nanoseconds / 1000 : Nat)

/-- The time in whole milliseconds since the epoch. -/
def millis (t : Instant) : Int := t.seconds * 1000 + (t.nanoseconds / 1000000 : Nat)

end Instant

namespace Timestamp

/-- The instant that a text stands for. -/
def parse? (ts : String) : Option Instant :=
  let parts := splitAtFirst '.' ts.toList
  match integer? parts.1 with
  | none => none
  | some seconds =>
    match fraction? (parts.2.getD []) with
    | none => none
    | some micros => Instant.of? seconds (micros * 1000)

/-- The time that a text stands for, in microseconds since the epoch. -/
def micros? (ts : String) : Option Int := (parse? ts).map Instant.micros

/-- The key that orders messages by time; a text that is no time counts as
the epoch. -/
def sortKey (ts : String) : Int := (parse? ts).elim 0 Instant.micros

/-- The time in whole milliseconds; a text that is no time counts as the
epoch. -/
def millis (ts : String) : Int := (parse? ts).elim 0 Instant.millis

/-- What the log says when a time is taken from a text. -/
def notice (ts : String) : List LogLine :=
  match parse? ts with
  | some _ => []
  | none => [.warn ("Unable to parse Slack timestamp '" ++ ts ++ "'")]

end Timestamp

end Slack

end ChatImport
