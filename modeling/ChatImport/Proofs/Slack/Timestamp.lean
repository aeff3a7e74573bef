import ChatImport.Slack.Message
import Mathlib.Algebra.GroupWithZero.Nat
import Mathlib.Data.List.Induction
/-!
# Times of messages

Messages are ordered by their times in microseconds, and their posts are
created at the same times in milliseconds. The two are counted separately
from the seconds and nanoseconds of an instant, but their orders agree: the
one is the other rounded down (`Instant.millis_eq`), also before the epoch,
and rounding down never turns two times around. And the times lie within the
calendar, so whole milliseconds are far from the bounds of 64 bits.
-/

namespace ChatImport

namespace Slack

/-- **The milliseconds of an instant are its microseconds, rounded down.** -/
theorem Instant.millis_eq (t : Instant) : t.millis = t.micros / 1000 := by
  unfold millis micros
  omega

/-- The milliseconds are the microseconds of the same text, rounded down. -/
theorem Timestamp.millis_eq (ts : String) : millis ts = sortKey ts / 1000 := by
  unfold millis sortKey
  cases parse? ts with
  | none => rfl
  | some t => exact t.millis_eq

/-- A time that is not earlier in microseconds is not earlier in milliseconds. -/
theorem Timestamp.millis_le {ts ts' : String} (h : sortKey ts ≤ sortKey ts') :
    millis ts ≤ millis ts' := by
  rw [millis_eq, millis_eq]
  exact Int.ediv_le_ediv (by decide) h

/-- **A message that is not earlier is not created earlier.** -/
theorem Message.createdAt_le {a b : Message} (h : a.sortKey ≤ b.sortKey) :
    a.createdAt ≤ b.createdAt :=
  Timestamp.millis_le h

/-! ## Bounds -/

/-- So many digits make a number below that power of ten. -/
theorem Timestamp.natural?_lt {cs : List Char} {n : Nat} (h : natural? cs = some n) :
    n < 10 ^ cs.length := by
  unfold natural? at h
  split at h
  next hdigits =>
    rw [← Option.some.inj h]
    have hall := List.all_eq_true.1 hdigits.2
    clear h hdigits
    induction cs using List.reverseRecOn with
    | nil => decide
    | append_singleton rest c ih =>
      have hrest := ih fun c hmem => hall c (List.mem_append_left _ hmem)
      have hdigit : c.toNat - '0'.toNat ≤ 9 := by
        have hc := hall c (List.mem_append_right _ List.mem_cons_self)
        simp only [Char.isDigit, Bool.and_eq_true, decide_eq_true_eq] at hc
        have hle : c.toNat ≤ '9'.toNat := hc.2
        have hnine : '9'.toNat = '0'.toNat + 9 := rfl
        omega
      rw [List.foldl_append, List.length_append, List.length_singleton, Nat.pow_succ]
      simp only [List.foldl_cons, List.foldl_nil]
      omega
  · cases h

/-- A fraction is less than a second. -/
theorem Timestamp.fraction?_lt {cs : List Char} {n : Nat} (h : fraction? cs = some n) :
    n < 1000000 := by
  unfold fraction? at h
  simp only [] at h
  split at h
  · rw [← Option.some.inj h]
    decide
  · have hlength : (cs.take fractionChars ++
        List.replicate (fractionChars - (cs.take fractionChars).length) '0').length = 6 := by
      have hle : (cs.take fractionChars).length ≤ fractionChars := List.length_take_le _ _
      rw [List.length_append, List.length_replicate]
      exact Nat.add_sub_cancel' hle
    split at h
    · next digits heq =>
      rw [heq, List.length_cons] at hlength
      have hlt := natural?_lt h
      rw [Nat.succ.inj hlength] at hlt
      omega
    · have hlt := natural?_lt h
      rw [hlength] at hlt
      omega

/-- **Instants lie within the calendar.** -/
theorem Instant.bounds_of_millis (t : Instant) : Timestamp.firstSecond * 1000 ≤ t.millis ∧
    t.millis < (Timestamp.lastSecond + 1) * 1000 := by
  have hcalendar := t.inCalendar
  have hrest := t.nanoseconds_lt
  unfold millis
  omega

theorem Instant.bounds_of_micros (t : Instant) : Timestamp.firstSecond * 1000000 ≤ t.micros ∧
    t.micros < (Timestamp.lastSecond + 1) * 1000000 := by
  have hcalendar := t.inCalendar
  have hrest := t.nanoseconds_lt
  unfold micros
  omega

/-- **Times lie within the calendar.** -/
theorem Message.bounds_of_createdAt (m : Message) :
    Timestamp.firstSecond * 1000 ≤ m.createdAt ∧
      m.createdAt < (Timestamp.lastSecond + 1) * 1000 := by
  unfold createdAt Timestamp.millis
  cases Timestamp.parse? m.timestamp with
  | none => decide
  | some t => exact t.bounds_of_millis

end Slack

end ChatImport
