import ChatImport.Proofs.Thread.Assembly
/-!
# Threads without their creation times

A creation time is only what a post is given when it enters its thread; where
it goes is told by its message and by who wrote the root. So to erase all
creation times and to group are two things that can be done in either order
(`Grouping.thread_timeless`), and where posts end up does not depend on the
times at all (`Grouping.placements_timeless`).
-/

namespace ChatImport

open Mattermost (Post Channel)

namespace Mattermost.Post

mutual

/-- The post with all creation times erased, its own and those of its replies. -/
def timeless : Post → Post
  | ⟨user, channel, message, props, _, attachments, replies, isDirect, channelMembers⟩ =>
    ⟨user, channel, message, props, 0, attachments, timelessAll replies, isDirect, channelMembers⟩

/-- Posts with all creation times erased. -/
def timelessAll : List Post → List Post
  | [] => []
  | post :: rest => post.timeless :: timelessAll rest

end

theorem timelessAll_eq_map (posts : List Post) : timelessAll posts = posts.map timeless := by
  induction posts with
  | nil => rfl
  | cons post rest ih => rw [timelessAll, ih, List.map_cons]

variable {w : Bool} {root : Post} {replies : List Post}

theorem closed_timeless : root.timeless.closed w = root.closed w := by
  cases root
  rfl

theorem timeless_withReplies : (root.withReplies w replies).timeless =
    root.timeless.withReplies w (replies.map timeless) := by
  by_cases h : root.closed w = true
  · rw [withReplies_of_closed h, withReplies_of_closed (closed_timeless.trans h)]
  · have h' : ¬ root.timeless.closed w = true := by rwa [closed_timeless]
    rw [withReplies_of_open h, withReplies_of_open h']
    cases root
    simp only [timeless, timelessAll_eq_map, List.map_append]

end Mattermost.Post

/-- The draft with the creation times of its post erased. -/
def Draft.timeless (d : Draft) : Draft := { d with post := d.post.timeless }

theorem Draft.timeless_entering {channel : Channel} {time time' : Int} {d : Draft} :
    (d.entering channel time).timeless = (d.entering channel time').timeless := by
  obtain ⟨message, post⟩ := d
  cases post
  unfold entering Mattermost.Post.inChannel timeless
  split
  · rfl
  · rfl

/-- The times that are claimed leave no trace once they are erased. -/
theorem map_timeless_stamped {channel : Channel} {ledger : Ledger} {drafts : List Draft} :
    (stamped channel ledger drafts).map Draft.timeless =
      drafts.map fun d => (d.entering channel 0).timeless := by
  induction drafts generalizing ledger with
  | nil => rfl
  | cons d rest ih => rw [stamped_cons, List.map_cons, List.map_cons, ih, Draft.timeless_entering]

namespace Grouping

variable {w : Bool} {held : String → Option Post} {drafts : List Draft} {d : Draft}
variable {id : String}

/-- **Creation times may be erased before or after the grouping.** -/
theorem thread_timeless : (thread w held drafts id).map Post.timeless =
    thread w (fun id => (held id).map Post.timeless) (drafts.map Draft.timeless) id := by
  induction drafts using List.reverseRecOn with
  | nil => rw [List.map_nil, thread_nil, thread_nil]
  | append_singleton rest d ih =>
    have hopens : d.timeless.opens id = d.opens id := rfl
    have hanswers : d.timeless.answers id = d.answers id := rfl
    rw [List.map_append, List.map_singleton, thread_concat, thread_concat, hopens, hanswers, ← ih]
    split
    · rfl
    split
    · rw [Option.map_map, Option.map_map]
      exact congrArg (fun f => (thread w held rest id).map f)
        (funext fun root => Post.timeless_withReplies)
    · rfl

theorem root?_timeless : (root? held drafts id).map Post.timeless =
    root? (fun id => (held id).map Post.timeless) (drafts.map Draft.timeless) id := by
  induction drafts using List.reverseRecOn with
  | nil => rfl
  | append_singleton rest d ih =>
    have hopens : d.timeless.opens id = d.opens id := rfl
    unfold root? at ih ⊢
    rw [List.map_append, List.map_singleton, lastRoot?_concat, lastRoot?_concat, hopens]
    split
    · rfl
    · exact ih

theorem placement_timeless : placement w held drafts d =
    placement w (fun id => (held id).map Post.timeless) (drafts.map Draft.timeless)
      d.timeless := by
  unfold placement
  change (if d.message.isReply = true then _ else _) = if d.message.isReply = true then _ else _
  split
  · rw [show d.timeless.message = d.message from rfl, ← root?_timeless]
    cases root? held drafts d.message.threadTimestamp with
    | none => rfl
    | some root => simp only [Option.map_some, Post.closed_timeless]
  · rw [show d.timeless.message = d.message from rfl, ← root?_timeless, Option.isSome_map]

/-- **Where posts end up does not depend on creation times.** -/
theorem placements_timeless : placements w held drafts =
    placements w (fun id => (held id).map Post.timeless) (drafts.map Draft.timeless) := by
  induction drafts generalizing held with
  | nil => rfl
  | cons d rest ih =>
    have hheld : (fun id => (thread w held [d] id).map Post.timeless) =
        thread w (fun id => (held id).map Post.timeless) [d.timeless] :=
      funext fun _ => thread_timeless
    rw [List.map_cons, placements_cons, placements_cons, ih, hheld]
    exact congrArg (· :: _) placement_timeless

/-! ## Stamped drafts -/

/-- Drafts as they enter their threads, with all creation times erased. -/
def undated (channel : Channel) (drafts : List Draft) : List Draft :=
  drafts.map fun d => (d.entering channel 0).timeless

theorem thread_stamped {channel : Channel} {ledger : Ledger} :
    (thread w held (stamped channel ledger drafts) id).map Post.timeless =
      thread w (fun id => (held id).map Post.timeless) (undated channel drafts) id := by
  rw [thread_timeless, map_timeless_stamped]
  rfl

theorem placements_stamped {channel : Channel} {ledger : Ledger} :
    placements w held (stamped channel ledger drafts) =
      placements w (fun id => (held id).map Post.timeless) (undated channel drafts) := by
  rw [placements_timeless, map_timeless_stamped]
  rfl

variable {channel : Channel} {ledger ledger' ledger'' : Ledger} {early late : List Draft}

/-- **Two groupings one after the other are one**, whichever times the drafts of
each are given. -/
theorem thread_resumed :
    (thread w (thread w held (stamped channel ledger early)) (stamped channel ledger' late)
        id).map Post.timeless =
      (thread w held (stamped channel ledger'' (early ++ late)) id).map Post.timeless := by
  have hearly := funext fun id => @thread_stamped w held early id channel ledger
  rw [thread_stamped, thread_stamped, hearly, undated, undated, undated, List.map_append,
    thread_append]

theorem placements_resumed :
    placements w held (stamped channel ledger early) ++
        placements w (thread w held (stamped channel ledger early))
          (stamped channel ledger' late) =
      placements w held (stamped channel ledger'' (early ++ late)) := by
  have hearly := funext fun id => @thread_stamped w held early id channel ledger
  rw [placements_stamped, placements_stamped, placements_stamped, hearly, undated, undated,
    undated, List.map_append, placements_append]

end Grouping

end ChatImport
