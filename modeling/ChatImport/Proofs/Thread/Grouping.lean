import ChatImport.Thread.Assembly
import Mathlib.Data.List.DropRight
/-!
# The grouping of messages into threads

Given the messages of a channel in their order, each with the post that was
made from it, the threads can be told without any store: the root of a
thread is the last post that opened it, and its replies are the posts that
answer it and come after that root. This file says so (`Grouping.thread`),
says where each post ends up (`Grouping.placement`), and proves the law by
which a grouping grows: to group two stretches of messages one after the
other is to group them as one (`Grouping.thread_append`,
`Grouping.placement_append`).

A grouping may start from threads that an earlier run has left, given as a
map `held`; a run with nothing before it starts from none.
-/

namespace ChatImport

open Mattermost (Post Channel)

namespace Mattermost.Post

variable {importWorkflows : Bool} {root : Post} {early late : List Post}

/-- Is the post one of a workflow, to which replies are not imported? -/
def closed (importWorkflows : Bool) (root : Post) : Bool :=
  !importWorkflows && root.user == workflowUsername

/-- The post with more replies, unless replies to it are not imported. -/
def withReplies (importWorkflows : Bool) (root : Post) (replies : List Post) : Post :=
  if root.closed importWorkflows then root else { root with replies := root.replies ++ replies }

@[simp] theorem withReplies_nil : root.withReplies importWorkflows [] = root := by
  unfold withReplies
  split
  · rfl
  · rw [List.append_nil]
    cases root
    rfl

theorem withReplies_of_closed (h : root.closed importWorkflows = true) (replies : List Post) :
    root.withReplies importWorkflows replies = root := if_pos h

theorem withReplies_of_open (h : ¬ root.closed importWorkflows = true) (replies : List Post) :
    root.withReplies importWorkflows replies =
      { root with replies := root.replies ++ replies } := if_neg h

@[simp] theorem closed_withReplies :
    (root.withReplies importWorkflows early).closed importWorkflows =
      root.closed importWorkflows := by
  unfold withReplies
  split
  · rfl
  · rfl

theorem withReplies_append : root.withReplies importWorkflows (early ++ late) =
    (root.withReplies importWorkflows early).withReplies importWorkflows late := by
  by_cases h : root.closed importWorkflows = true
  · simp only [withReplies_of_closed h]
  · have hopen : ¬ (root.withReplies importWorkflows early).closed importWorkflows = true := by
      rwa [closed_withReplies]
    rw [withReplies_of_open hopen, withReplies_of_open h, withReplies_of_open h,
      ← List.append_assoc]

end Mattermost.Post

/-! ## Drafts -/

/-- The identifier of the thread that a message opens or answers. -/
def Slack.Message.threadId (m : Slack.Message) : String :=
  if m.isReply then m.threadTimestamp else m.timestamp

/-- A message with the post that was made from it. -/
structure Draft where
  message : Slack.Message
  post : Post

namespace Draft

/-- Does the message open the thread? -/
def opens (id : String) (d : Draft) : Bool := !d.message.isReply && d.message.timestamp == id

/-- Does the message answer the thread? -/
def answers (id : String) (d : Draft) : Bool :=
  d.message.isReply && d.message.threadTimestamp == id

/-- The draft with its post as it enters its thread. -/
def entering (channel : Channel) (time : Int) (d : Draft) : Draft :=
  { d with post := { d.post.inChannel channel with createAt := time }.withinLimits }

theorem opens_iff_of_root {d : Draft} (h : d.message.isReply = false) {id : String} :
    d.opens id = true ↔ d.message.timestamp = id := by simp [opens, h]

theorem answers_iff_of_reply {d : Draft} (h : d.message.isReply = true) {id : String} :
    d.answers id = true ↔ d.message.threadTimestamp = id := by simp [answers, h]

/-- Does the message open or answer the thread? -/
def belongs (id : String) (d : Draft) : Bool := d.opens id || d.answers id

/-- A message belongs to the thread of its identifier. -/
theorem belongs_iff {d : Draft} {id : String} :
    d.belongs id = true ↔ d.message.threadId = id := by
  unfold belongs Slack.Message.threadId
  cases hreply : d.message.isReply with
  | true => simp [opens, answers, hreply]
  | false => simp [opens, answers, hreply]

/-- A message belongs to one thread at most. -/
theorem belongs_unique {d : Draft} {id id' : String} (h : d.belongs id = true)
    (h' : d.belongs id' = true) : id = id' :=
  (belongs_iff.1 h).symm.trans (belongs_iff.1 h')

end Draft

namespace Grouping

variable {w : Bool} {held : String → Option Post} {early late drafts : List Draft}
variable {d : Draft} {id : String}

/-- The post that opened a thread last. -/
def lastRoot? (id : String) (drafts : List Draft) : Option Post :=
  (drafts.filter (Draft.opens id)).getLast?.map Draft.post

/-- The posts that answer a thread and come after the last that opened it. -/
def replies (id : String) (drafts : List Draft) : List Post :=
  ((drafts.rtakeWhile fun d => !d.opens id).filter (Draft.answers id)).map Draft.post

/-- The root of a thread: the last that opened it, or else the one that was
there before. -/
def root? (held : String → Option Post) (drafts : List Draft) (id : String) : Option Post :=
  (lastRoot? id drafts).or (held id)

/-- The thread under an identifier. -/
def thread (w : Bool) (held : String → Option Post) (drafts : List Draft) (id : String) :
    Option Post :=
  (root? held drafts id).map fun root => root.withReplies w (replies id drafts)

/-- Where a post ends up, given what came before it. -/
def placement (w : Bool) (held : String → Option Post) (before : List Draft) (d : Draft) :
    Placement :=
  if d.message.isReply then
    match root? held before d.message.threadTimestamp with
    | none => .orphanReply
    | some root => if root.closed w then .workflowReplySkipped else .reply
  else if (root? held before d.message.timestamp).isSome then .overwroteRoot else .root

/-- Where the posts end up, each by those before it. -/
def placements (w : Bool) (held : String → Option Post) (drafts : List Draft) :
    List Placement :=
  drafts.mapIdx fun n d => placement w held (drafts.take n) d

/-- A thread has a root if some draft opened it. -/
theorem isSome_lastRoot? :
    (lastRoot? id drafts).isSome = true ↔ ∃ d ∈ drafts, d.opens id = true := by
  rw [lastRoot?, Option.isSome_map, List.getLast?_isSome, Ne, List.filter_eq_nil_iff]
  simp only [not_forall, not_not, exists_prop]

/-! ## One draft more -/

theorem lastRoot?_concat : lastRoot? id (drafts ++ [d]) =
    if d.opens id = true then some d.post else lastRoot? id drafts := by
  rw [lastRoot?, lastRoot?, List.filter_append]
  by_cases h : d.opens id = true
  · rw [if_pos h, List.filter_cons_of_pos h, List.filter_nil, List.getLast?_concat,
      Option.map_some]
  · rw [if_neg h, List.filter_cons_of_neg h, List.filter_nil, List.append_nil]

theorem replies_concat : replies id (drafts ++ [d]) =
    if d.opens id = true then []
    else if d.answers id = true then replies id drafts ++ [d.post] else replies id drafts := by
  rw [replies, replies, List.rtakeWhile_concat]
  by_cases h : d.opens id = true
  · simp [h]
  · rw [if_neg h, if_pos (by simpa using h), List.filter_append, List.map_append]
    by_cases hanswers : d.answers id = true
    · rw [if_pos hanswers, List.filter_cons_of_pos hanswers, List.filter_nil, List.map_cons,
        List.map_nil]
    · rw [if_neg hanswers, List.filter_cons_of_neg hanswers, List.filter_nil, List.map_nil,
        List.append_nil]

@[simp] theorem root?_nil : root? held [] id = held id := rfl

@[simp] theorem thread_nil : thread w held [] id = held id := by
  rw [thread, root?_nil]
  change (held id).map (fun root => root.withReplies w []) = held id
  simp only [Post.withReplies_nil, Option.map_id']

/-- **What one draft does to a thread**: it opens the thread anew, or it adds a
reply, or it leaves the thread alone. -/
theorem thread_concat : thread w held (drafts ++ [d]) id =
    if d.opens id = true then some d.post
    else if d.answers id = true then
      (thread w held drafts id).map fun root => root.withReplies w [d.post]
    else thread w held drafts id := by
  rw [thread, thread, root?, root?, lastRoot?_concat, replies_concat]
  by_cases h : d.opens id = true
  · simp only [if_pos h, Option.some_or, Option.map_some, Post.withReplies_nil]
  · simp only [if_neg h]
    by_cases hanswers : d.answers id = true
    · simp only [if_pos hanswers, Post.withReplies_append, Option.map_map, Function.comp_def]
    · simp only [if_neg hanswers]

/-- What one draft makes of the threads that were held. -/
theorem thread_single {id : String} : thread w held [d] id =
    if d.opens id = true then some d.post
    else if d.answers id = true then (held id).map fun root => root.withReplies w [d.post]
    else held id := by
  have hconcat := @thread_concat w held [] d id
  simpa only [List.nil_append, thread_nil] using hconcat

/-- A reply goes behind the root that was held of its thread. -/
theorem thread_single_of_reply (hreply : d.message.isReply = true) :
    thread w held [d] d.message.threadTimestamp =
      (held d.message.threadTimestamp).map fun root => root.withReplies w [d.post] := by
  have hopens : ¬ d.opens d.message.threadTimestamp = true := by simp [Draft.opens, hreply]
  rw [thread_single, if_neg hopens, if_pos ((Draft.answers_iff_of_reply hreply).2 rfl)]

/-- A thread that no draft belongs to is as it was. -/
theorem thread_of_not_belongs (h : ¬ drafts.any (Draft.belongs id) = true) :
    thread w held drafts id = held id := by
  induction drafts using List.reverseRecOn with
  | nil => exact thread_nil
  | append_singleton rest d ih =>
    rw [List.any_append, Bool.or_eq_true, not_or] at h
    obtain ⟨hrest, hd⟩ := h
    have hneither : d.opens id = false ∧ d.answers id = false := by
      simpa [Draft.belongs] using hd
    rw [thread_concat, hneither.1, hneither.2, if_neg Bool.false_ne_true,
      if_neg Bool.false_ne_true, ih hrest]

/-- A thread has a root or there is none. -/
theorem isSome_thread : (thread w held drafts id).isSome = (root? held drafts id).isSome := by
  rw [thread, Option.isSome_map]

/-- A thread that some draft opens does not depend on what was there before. -/
theorem thread_of_opens (h : ∃ d ∈ drafts, d.opens id = true) :
    thread w held drafts id = thread w (fun _ => none) drafts id := by
  obtain ⟨root, hroot⟩ := Option.isSome_iff_exists.1 (isSome_lastRoot?.2 h)
  rw [thread, thread, root?, root?, hroot, Option.some_or, Option.some_or]

/-- Without such a draft there is a thread only if one was there. -/
theorem isSome_thread_iff : (thread w held drafts id).isSome = true ↔
    (∃ d ∈ drafts, d.opens id = true) ∨ (held id).isSome = true := by
  rw [isSome_thread, root?, Option.isSome_or, Bool.or_eq_true, isSome_lastRoot?]

/-- There is no thread only where there was none. -/
theorem held_of_thread_eq_none (h : thread w held drafts id = none) : held id = none := by
  rw [thread, Option.map_eq_none_iff, root?, Option.or_eq_none_iff] at h
  exact h.2

/-- A thread is told by what was there before under its own identifier. -/
theorem thread_congr {held' : String → Option Post} (h : held id = held' id) :
    thread w held drafts id = thread w held' drafts id := by
  rw [thread, thread, root?, root?, h]

/-- Where a post ends up is told by what was there in its own thread. -/
theorem placement_congr {held' : String → Option Post}
    (h : held d.message.threadId = held' d.message.threadId) :
    placement w held drafts d = placement w held' drafts d := by
  unfold Slack.Message.threadId at h
  unfold placement
  split
  · next hreply =>
    rw [if_pos hreply] at h
    rw [root?, root?, h]
  · next hroot =>
    rw [if_neg hroot] at h
    rw [root?, root?, h]

theorem placements_congr {held' : String → Option Post}
    (h : ∀ d ∈ drafts, held d.message.threadId = held' d.message.threadId) :
    placements w held drafts = placements w held' drafts := by
  refine List.mapIdx_eq_mapIdx_iff.2 fun n hn => placement_congr (h _ ?_)
  exact List.getElem_mem hn

/-! ## Two stretches as one -/

/-- **Grouping goes on where it stopped.** -/
theorem thread_append :
    thread w held (early ++ late) id = thread w (thread w held early) late id := by
  induction late using List.reverseRecOn with
  | nil => rw [List.append_nil, thread_nil]
  | append_singleton rest d ih => rw [← List.append_assoc, thread_concat, thread_concat, ih]

theorem thread_cons :
    thread w held (d :: drafts) id = thread w (thread w held [d]) drafts id :=
  @thread_append w held [d] drafts id

theorem root?_append : root? held (early ++ late) id =
    (lastRoot? id late).or (root? held early id) := by
  rw [root?, root?, lastRoot?, lastRoot?, lastRoot?, List.filter_append, List.getLast?_append]
  cases (late.filter (Draft.opens id)).getLast? <;> simp

/-- Where a post ends up is told as well by the threads that the stretch before
has left. -/
theorem placement_append : placement w held (early ++ late) d =
    placement w (thread w held early) late d := by
  have hroot : ∀ id, root? (thread w held early) late id =
      (lastRoot? id late).or ((root? held early id).map fun root =>
        root.withReplies w (replies id early)) := fun _ => rfl
  unfold placement
  split
  · rw [root?_append, hroot]
    -- a root of the later stretch decides; else replies added to it keep a root closed or open
    cases lastRoot? d.message.threadTimestamp late with
    | some root => rfl
    | none =>
      cases root? held early d.message.threadTimestamp with
      | none => rfl
      | some root => simp
  · have hsome : (root? held (early ++ late) d.message.timestamp).isSome =
        (root? (thread w held early) late d.message.timestamp).isSome := by
      rw [root?_append, hroot, Option.isSome_or, Option.isSome_or, Option.isSome_map]
    rw [hsome]

theorem placements_cons : placements w held (d :: drafts) =
    placement w held [] d :: placements w (thread w held [d]) drafts := by
  rw [placements, List.mapIdx_cons, List.take_zero]
  refine congrArg _ ?_
  rw [placements]
  refine congrArg (drafts.mapIdx ·) ?_
  funext n draft
  exact @placement_append w held [d] _ draft

theorem placements_append : placements w held (early ++ late) =
    placements w held early ++ placements w (thread w held early) late := by
  induction early generalizing held with
  | nil =>
    have hnil : thread w held [] = held := funext fun _ => thread_nil
    rw [hnil]
    rfl
  | cons d rest ih =>
    rw [List.cons_append, placements_cons, placements_cons, ih, List.cons_append]
    have hcons : thread w held (d :: rest) = thread w (thread w held [d]) rest :=
      funext fun _ => thread_cons
    rw [hcons]

@[simp] theorem length_placements : (placements w held drafts).length = drafts.length := by
  simp [placements]

end Grouping

end ChatImport
