/-!
# The ledger of creation times

No two posts of a channel may have the same creation time. The ledger keeps
the times that have been given out, in ascending order. A claim is given the
first time from the requested one on that is still free, so times that
collide move apart by the least that will do.
-/

namespace ChatImport

namespace Ledger

/-- The first time from `time` on that is not among the ascending times. -/
def firstFree (time : Int) : List Int → Int
  | [] => time
  | used :: rest =>
    if used < time then firstFree time rest
    else if used = time then firstFree (time + 1) rest
    else time

/-- Ascending times with one more; nothing changes if it is there. -/
def place (time : Int) : List Int → List Int
  | [] => [time]
  | used :: rest =>
    if time < used then time :: used :: rest
    else if used < time then used :: place time rest
    else used :: rest

/-- What is among the times after one more is placed. -/
theorem mem_place {time x : Int} {used : List Int} : x ∈ place time used ↔ x = time ∨ x ∈ used := by
  induction used with
  | nil => simp [place]
  | cons u r ih =>
    simp only [place]
    split
    · simp
    · split
      · simp only [List.mem_cons, ih]
        constructor
        · rintro (h | h | h) <;> simp [h]
        · rintro (h | h | h) <;> simp [h]
      · have : u = time := by omega
        subst this
        simp

/-- Ascending times stay so when one more is placed. -/
theorem pairwise_place {time : Int} {used : List Int} (h : used.Pairwise (· < ·)) :
    (place time used).Pairwise (· < ·) := by
  induction used with
  | nil => simp [place]
  | cons u r ih =>
    obtain ⟨hhead, htail⟩ := List.pairwise_cons.1 h
    simp only [place]
    split
    · next hlt =>
      refine List.pairwise_cons.2 ⟨fun x hx => ?_, h⟩
      rcases List.mem_cons.1 hx with rfl | hx
      · exact hlt
      · exact Int.lt_trans hlt (hhead x hx)
    · split
      · next hlt =>
        refine List.pairwise_cons.2 ⟨fun x hx => ?_, ih htail⟩
        rcases mem_place.1 hx with rfl | hx
        · exact hlt
        · exact hhead x hx
      · exact h

end Ledger

/-- The creation times given out in a channel. -/
structure Ledger where
  /-- The times, ascending. -/
  used : List Int
  /-- No time is given out twice. -/
  ascending : used.Pairwise (· < ·)
  deriving DecidableEq

namespace Ledger

/-- The ledger before any claim. -/
def empty : Ledger := ⟨[], List.Pairwise.nil⟩

instance : Inhabited Ledger := ⟨empty⟩

/-- The time that a claim is given. -/
def free (ledger : Ledger) (time : Int) : Int := firstFree time ledger.used

/-- The ledger after a claim. -/
def claim (ledger : Ledger) (time : Int) : Ledger :=
  ⟨place (ledger.free time) ledger.used, pairwise_place ledger.ascending⟩

/-- The number of times given out. -/
def size (ledger : Ledger) : Nat := ledger.used.length

end Ledger

end ChatImport
