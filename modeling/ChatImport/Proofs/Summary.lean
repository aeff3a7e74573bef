import ChatImport.Summary
/-!
# Summaries add up

A summary counts placements one after the other (`Summary.recordAll`), and
messages that come to no placement beside them (`Summary.skipping`). Which of
its numbers are meant, and that every message is seen once, is read off the
placements (`recordAll_eq`, `seen_recordAll`).
-/

namespace ChatImport

namespace Summary

variable {s : Summary} {p : Placement} {ps qs : List Placement} {n m : Nat}

/-- The summary with several placements more. -/
def recordAll (s : Summary) (ps : List Placement) : Summary := ps.foldl record s

/-- The summary with so many messages more that were left out. -/
def skipping (s : Summary) (n : Nat) : Summary := { s with skipped := s.skipped + n }

theorem recordAll_append : s.recordAll (ps ++ qs) = (s.recordAll ps).recordAll qs :=
  List.foldl_append

theorem skipping_skipping : (s.skipping n).skipping m = s.skipping (n + m) := by
  simp only [skipping, Nat.add_assoc]

theorem record_skipping : (s.skipping n).record p = (s.record p).skipping n := by
  cases p with
  | workflowReplySkipped => simp only [record, skipping, Nat.add_right_comm]
  | root | overwroteRoot | reply | orphanReply => rfl

theorem recordAll_skipping : (s.skipping n).recordAll ps = (s.recordAll ps).skipping n := by
  induction ps generalizing s with
  | nil => rfl
  | cons p rest ih =>
    change ((s.skipping n).record p).recordAll rest = _
    rw [record_skipping, ih]
    rfl

/-- **What is counted of placements.** -/
theorem recordAll_eq : s.recordAll ps =
    { s with
      roots := s.roots + ps.count .root + ps.count .overwroteRoot
      replies := s.replies + ps.count .reply
      orphanReplies := s.orphanReplies + ps.count .orphanReply
      overwrittenRoots := s.overwrittenRoots + ps.count .overwroteRoot
      skipped := s.skipped + ps.count .workflowReplySkipped } := by
  induction ps generalizing s with
  | nil => rfl
  | cons p rest ih =>
    change (s.record p).recordAll rest = _
    rw [ih]
    cases p <;> simp [record] <;> omega

/-- **Every placement is seen once.** -/
theorem seen_recordAll : (s.recordAll ps).seen = s.seen + ps.length := by
  induction ps generalizing s with
  | nil => rfl
  | cons p rest ih =>
    have hrecord : (s.record p).seen = s.seen + 1 := by
      cases p <;> simp only [record, seen, imported] <;> omega
    change ((s.record p).recordAll rest).seen = _
    rw [ih, hrecord, List.length_cons]
    omega

theorem seen_skipping : (s.skipping n).seen = s.seen + n := by
  simp only [skipping, seen, imported]
  omega

end Summary

end ChatImport
