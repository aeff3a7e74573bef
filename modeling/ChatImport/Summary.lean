import ChatImport.Double.Places
import ChatImport.Thread.Assembly
/-!
# The summary of a run

A summary counts what became of the messages of a run. In the end it is
told in the log, with the share of the messages that were imported.
-/

namespace ChatImport

/-- What became of the messages of a run. -/
structure Summary where
  /-- The channels that were imported. -/
  channels : Nat
  /-- The posts that were stored as roots. -/
  roots : Nat
  /-- The posts that were added to roots. -/
  replies : Nat
  /-- The replies that were dropped since their roots are unknown. -/
  orphanReplies : Nat
  /-- The roots that replaced others. -/
  overwrittenRoots : Nat
  /-- The messages that were left out before or for another reason. -/
  skipped : Nat
  deriving DecidableEq, Inhabited

namespace Summary

/-- The summary before a run. -/
def empty : Summary := ⟨0, 0, 0, 0, 0, 0⟩

/-- The summary with one placement more. -/
def record (s : Summary) : Placement → Summary
  | .root => { s with roots := s.roots + 1 }
  | .overwroteRoot =>
    { s with roots := s.roots + 1, overwrittenRoots := s.overwrittenRoots + 1 }
  | .reply => { s with replies := s.replies + 1 }
  | .orphanReply => { s with orphanReplies := s.orphanReplies + 1 }
  | .workflowReplySkipped => { s with skipped := s.skipped + 1 }

/-- The number of posts that were imported. -/
def imported (s : Summary) : Nat := s.roots + s.replies

/-- The number of messages that were seen. -/
def seen (s : Summary) : Nat := s.imported + s.orphanReplies + s.skipped

/-- The share of the seen messages that were imported, in percent. -/
def importRatio (s : Summary) : Double :=
  if s.seen = 0 then .ofFloat 0.0
  else .ofFloat (Float.ofNat s.imported / Float.ofNat s.seen * 100.0)

/-- What the log says of a run. -/
def notices (s : Summary) : List LogLine :=
  .info ("Transformed " ++ Nat.repr s.channels ++ " channels: " ++ Nat.repr s.roots ++
    " roots, " ++ Nat.repr s.replies ++ " replies (" ++ s.importRatio.onePlace ++
    "% of messages imported)") ::
  if 0 < s.orphanReplies ∨ 0 < s.overwrittenRoots ∨ 0 < s.skipped then
    [.info (Nat.repr s.orphanReplies ++ " orphan replies dropped, " ++
      Nat.repr s.overwrittenRoots ++ " roots overwritten, " ++ Nat.repr s.skipped ++
      " messages skipped")]
  else []

end Summary

end ChatImport
