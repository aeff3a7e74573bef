import ChatImport.Proofs.Thread.Grouping
import ChatImport.Proofs.Thread.Ledger
import ChatImport.Proofs.Thread.Store
/-!
# Posts enter their threads

One post after the other is put into a store that may stand before any
backend: its texts may not read, and its calls may fail. As long as nothing
fails, the threads grow as the grouping says from what they stood for at
first, and the store comes to know exactly the threads that the posts belong
to (`Desk.Entered`). When a post fails to enter (`Threads.Obstacle` says
why), the backend is still what it was (`Desk.place_cases`).

What a thread stands for at first is told by the backend alone. Where its
text does not read, a blank post stands in (`Threads.standing`): the grouping
needs to know that a root would be replaced there, and no reply ever gets to
see it.
-/

namespace ChatImport

open Mattermost (Post Channel)

namespace Threads

variable {t t' : Threads} {id : String} {post : Post} {error : Error}

/-- The post that a thread stands for; a blank one where the text of the
backend does not read. -/
def standing (t : Threads) (id : String) : Option Post :=
  (t.content id).map fun read => read.toOption.getD Post.blank

theorem standing_of_content (h : t.content id = some (.ok post)) : t.standing id = some post := by
  rw [standing, h]
  rfl

theorem standing_eq_none : t.standing id = none ↔ t.content id = none := by
  rw [standing, Option.map_eq_none_iff]

/-- A thread that stands for nothing is not known to the store. -/
theorem find?_posts_of_standing (h : t.standing id = none) : t.posts.find? id = none := by
  cases hfind : t.posts.find? id with
  | none => rfl
  | some post =>
    rw [standing_of_content (content_of_post hfind)] at h
    cases h

theorem Still.standing (h : Still t t') : t'.standing = t.standing :=
  funext fun _ => by rw [Threads.standing, Threads.standing, h.content]

/-- What the threads stand for is what the store knows, and before that what
the backend has. -/
theorem standing_eq : t.standing id =
    (t.posts.find? id).or ((t.kept id).map fun read => read.toOption.getD Post.blank) := by
  cases hfind : t.posts.find? id with
  | some post => rw [standing_of_content (content_of_post hfind), Option.some_or]
  | none => rw [standing, content_of_none hfind, Option.none_or]

/-- Unless the text of the backend does not read, a thread stands for its post. -/
theorem content_eq (h : ∀ problem, t.content id ≠ some (.error problem)) :
    t.content id = (t.standing id).map .ok := by
  rw [standing]
  cases hcontent : t.content id with
  | none => rfl
  | some read =>
    cases read with
    | ok post => rfl
    | error problem => exact absurd hcontent (h problem)

/-- Why a post cannot enter its thread: the backend refuses a call, or what it
has for the thread does not read. -/
inductive Obstacle (t : Threads) (id : String) : Error → Prop where
  | refused {channel reason : String} {number : Nat} {call : Backend.Call} :
    t.store.keeping = .backend channel → t.backend.outage number call = some reason →
    Obstacle t id (.backend call.words reason)
  | unreadable {problem : Json.Problem} : t.content id = some (.error problem) →
    Obstacle t id (.json problem)

theorem Refused.obstacle {call : String → Backend.Call} (h : t.Refused call error) :
    t.Obstacle id error := by
  obtain ⟨channel, hkeeping, hfail⟩ := h
  obtain ⟨reason, houtage, rfl⟩ := Option.map_eq_some_iff.1 hfail
  exact .refused hkeeping houtage

/-- An obstacle was there before if the backend was the same and the thread did
not read then either. -/
theorem SameBacking.obstacle (h : SameBacking t t') (ho : t'.Obstacle id error)
    (hcontent : ∀ problem, t'.content id = some (.error problem) →
      t.content id = some (.error problem)) : t.Obstacle id error := by
  cases ho with
  | refused hkeeping houtage => exact .refused (h.keeping ▸ hkeeping) (h.outage ▸ houtage)
  | unreadable hread => exact .unreadable (hcontent _ hread)

theorem Still.obstacle (h : Still t t') (ho : t'.Obstacle id error) : t.Obstacle id error :=
  h.sameBacking.obstacle ho fun _ hread => h.content ▸ hread

end Threads

/-! ## The threads that drafts make known -/

namespace Grouping

variable {w : Bool} {held : String → Option Post} {drafts : List Draft} {d : Draft}
variable {threads : Table Post} {id : String}

/-- The known threads once a draft has entered: a reply makes the thread known that
it answers, if there is one. -/
def enter (w : Bool) (held : String → Option Post) (threads : Table Post) (d : Draft) :
    Table Post :=
  if d.message.isReply then
    match (threads.find? d.message.threadTimestamp).or (held d.message.threadTimestamp) with
    | none => threads
    | some root => threads.insert d.message.threadTimestamp (root.withReplies w [d.post])
  else threads.insert d.message.timestamp d.post

/-- The threads that drafts make known, over those that are held. -/
def known (w : Bool) (held : String → Option Post) (drafts : List Draft) : Table Post :=
  drafts.foldl (enter w held) Table.empty

theorem find?_enter : (enter w held threads d).find? id =
    if d.opens id = true then some d.post
    else if d.answers id = true then
      ((threads.find? id).or (held id)).map fun root => root.withReplies w [d.post]
    else threads.find? id := by
  unfold enter
  by_cases hreply : d.message.isReply = true
  · have hopens : ¬ d.opens id = true := by simp [Draft.opens, hreply]
    rw [if_pos hreply, if_neg hopens]
    simp only [Draft.answers_iff_of_reply hreply]
    cases hfind : (threads.find? d.message.threadTimestamp).or
        (held d.message.threadTimestamp) with
    | none =>
      simp only []
      split
      · next hid =>
        rw [← hid, hfind, Option.map_none]
        exact (Option.or_eq_none_iff.1 hfind).1
      · rfl
    | some root =>
      simp only []
      rw [Table.find?_insert]
      split
      · next hid => rw [← hid, hfind, Option.map_some]
      · rfl
  · have hroot := Bool.eq_false_iff.2 hreply
    have hanswers : ¬ d.answers id = true := by simp [Draft.answers, hroot]
    rw [if_neg hreply, if_neg hanswers, Table.find?_insert]
    simp only [Draft.opens_iff_of_root hroot]

/-- **The known threads are those of the grouping that some draft belongs to.** -/
theorem find?_known : (known w held drafts).find? id =
    if drafts.any (Draft.belongs id) = true then thread w held drafts id else none := by
  induction drafts using List.reverseRecOn with
  | nil => rfl
  | append_singleton rest d ih =>
    have hconcat : known w held (rest ++ [d]) = enter w held (known w held rest) d := by
      rw [known, List.foldl_append]
      rfl
    -- before it is known, a thread is what is held
    have hor : ((known w held rest).find? id).or (held id) = thread w held rest id := by
      rw [ih]
      split
      · cases hthread : thread w held rest id with
        | none => exact held_of_thread_eq_none hthread
        | some root => rfl
      · next hnot => rw [thread_of_not_belongs hnot, Option.none_or]
    rw [hconcat, find?_enter, hor, thread_concat, ih, List.any_append, List.any_cons,
      List.any_nil, Bool.or_false, Draft.belongs]
    by_cases hopens : d.opens id = true
    · simp [hopens]
    · by_cases hanswers : d.answers id = true
      · simp [hopens, hanswers]
      · simp [hopens, hanswers]

/-- A known thread is told by what was there before it, unless some draft opens it. -/
theorem known_congr {held' : String → Option Post}
    (h : ∀ id, (∃ d ∈ drafts, d.answers id = true) →
      (∃ d ∈ drafts, d.opens id = true) ∨ held id = held' id) :
    known w held drafts = known w held' drafts := by
  refine Table.ext_find? fun id => ?_
  rw [find?_known, find?_known]
  split
  · next hbelongs =>
    obtain ⟨d, hmem, hd⟩ := List.any_eq_true.1 hbelongs
    have hcases : (∃ d ∈ drafts, d.opens id = true) ∨ held id = held' id := by
      rcases Bool.or_eq_true_iff.1 hd with hopens | hanswers
      · exact Or.inl ⟨d, hmem, hopens⟩
      · exact h id ⟨d, hmem, hanswers⟩
    rcases hcases with hopens | hheld
    · exact (thread_of_opens hopens).trans (thread_of_opens hopens).symm
    · exact thread_congr hheld
  · rfl

end Grouping

namespace Desk

variable {channel : Channel} {w : Bool} {d d' d'' : Desk} {draft : Draft}
variable {drafts early late : List Draft}

theorem onThreads_of_ok {α : Type} {act : EStateM Error Threads α} {value : α} {t : Threads}
    (h : act d.threads = .ok value t) :
    onThreads act d = .ok value { d with threads := t } := by
  simp only [onThreads, h]

theorem onThreads_of_error {α : Type} {act : EStateM Error Threads α} {error : Error}
    {t : Threads} (h : act d.threads = .error error t) :
    onThreads act d = .error error { d with threads := t } := by
  simp only [onThreads, h]

/-! ## Drafts that have entered -/

/-- Drafts have entered their threads. -/
structure Entered (w : Bool) (drafts : List Draft) (d d' : Desk) : Prop where
  separate : d'.threads.Separate
  sameBacking : d.threads.SameBacking d'.threads
  /-- The store has come to know the threads that the drafts belong to, as they
  are in the grouping; the others it knows as it did. -/
  find?_posts (id : String) : d'.threads.posts.find? id =
    if drafts.any (Draft.belongs id) = true then
      Grouping.thread w d.threads.standing drafts id
    else d.threads.posts.find? id
  /-- What does not read was not answered, unless it was begun anew. -/
  opened_of_error {id : String} {problem : Json.Problem} :
    d.threads.content id = some (.error problem) → (∃ draft ∈ drafts, draft.answers id = true) →
      ∃ draft ∈ drafts, draft.opens id = true

theorem Entered.refl (h : d.threads.Separate) : Entered w [] d d where
  separate := h
  sameBacking := Threads.SameBacking.refl
  find?_posts _ := by rw [List.any_nil, if_neg Bool.false_ne_true]
  opened_of_error _ hanswers := hanswers.imp fun _ h => nomatch h.1

/-- Drafts that enter threads which stood still have entered the threads as they were. -/
theorem Entered.of_still (h : Entered w drafts d' d'') (hs : d.threads.Still d'.threads) :
    Entered w drafts d d'' where
  separate := h.separate
  sameBacking := hs.sameBacking.trans h.sameBacking
  find?_posts id := by rw [h.find?_posts, hs.standing, hs.posts]
  opened_of_error hread := h.opened_of_error (hs.content.trans hread)

/-- What the threads stand for is told by the grouping. -/
theorem Entered.standing (h : Entered w drafts d d') (id : String) :
    d'.threads.standing id = Grouping.thread w d.threads.standing drafts id := by
  have hkept := @Threads.SameBacking.kept _ _ id h.sameBacking
  by_cases hbelongs : drafts.any (Draft.belongs id) = true
  · have hfind := h.find?_posts id
    rw [if_pos hbelongs] at hfind
    rw [Threads.standing_eq, hfind, hkept]
    cases hthread : Grouping.thread w d.threads.standing drafts id with
    | some post => rw [Option.some_or]
    | none =>
      -- there is no thread only where nothing was
      have hnone : d.threads.standing id = none := Grouping.held_of_thread_eq_none hthread
      rw [Threads.standing_eq, Option.or_eq_none_iff] at hnone
      rw [hnone.2, Option.none_or]
  · have hfind := h.find?_posts id
    rw [if_neg hbelongs] at hfind
    rw [Grouping.thread_of_not_belongs hbelongs, Threads.standing_eq, Threads.standing_eq, hfind,
      hkept]

/-- The store knows what it knew, and the threads that the drafts open. -/
theorem Entered.knows {id : String} (h : Entered w drafts d d')
    (hknows : d.threads.posts.contains id = true ∨ ∃ draft ∈ drafts, draft.opens id = true) :
    d'.threads.posts.contains id = true := by
  rw [Table.contains, h.find?_posts]
  split
  · rw [Grouping.isSome_thread_iff]
    refine (hknows.imp_left fun hknown => ?_).symm
    obtain ⟨post, hpost⟩ := Table.contains_iff.1 hknown
    rw [Threads.standing_of_content (Threads.content_of_post hpost)]
    rfl
  · next hnot =>
    refine hknows.resolve_right ?_
    rintro ⟨draft, hmem, hopens⟩
    refine hnot (List.any_eq_true.2 ⟨draft, hmem, ?_⟩)
    rw [Draft.belongs, hopens, Bool.true_or]

/-- **A store that knew of nothing knows of the threads that the drafts make known** over
what reads in the backend. -/
theorem Entered.posts_eq (h : Entered w drafts d d') (hnew : d.threads.posts = Table.empty) :
    d'.threads.posts = Grouping.known w
      (fun id => (d.threads.content id).bind Except.toOption) drafts := by
  have hknown : d'.threads.posts = Grouping.known w d.threads.standing drafts := by
    refine Table.ext_find? fun id => ?_
    rw [h.find?_posts, Grouping.find?_known, hnew, Table.find?_empty]
  rw [hknown]
  refine Grouping.known_congr fun id hanswers => ?_
  cases hcontent : d.threads.content id with
  | none => exact Or.inr (Threads.standing_eq_none.2 hcontent)
  | some read =>
    cases read with
    | ok post => exact Or.inr (Threads.standing_of_content hcontent)
    | error problem => exact Or.inl (h.opened_of_error hcontent hanswers)

/-- A thread that does not read once drafts have entered did not read before. -/
theorem Entered.content_of_error {id : String} {problem : Json.Problem} (h : Entered w drafts d d')
    (hread : d'.threads.content id = some (.error problem)) :
    d.threads.content id = some (.error problem) := by
  have hunknown : ∀ {t : Threads}, t.content id = some (.error problem) →
      t.posts.find? id = none := fun {t} hread => by
    cases hfind : t.posts.find? id with
    | none => rfl
    | some post =>
      rw [Threads.content_of_post hfind] at hread
      cases hread
  have hnone := hunknown hread
  have hfind := h.find?_posts id
  rw [Threads.content_of_none hnone, h.sameBacking.kept] at hread
  by_cases hbelongs : drafts.any (Draft.belongs id) = true
  · -- a draft that belonged to it would have found nothing there
    rw [hnone, if_pos hbelongs] at hfind
    have hstanding := Grouping.held_of_thread_eq_none hfind.symm
    rw [Threads.standing_eq, hread, Option.map_some, Option.or_eq_none_iff] at hstanding
    cases hstanding.2
  · rw [hnone, if_neg hbelongs] at hfind
    rw [Threads.content_of_none hfind.symm, hread]

theorem Entered.obstacle {id : String} {error : Error} (h : Entered w drafts d d')
    (ho : d'.threads.Obstacle id error) : d.threads.Obstacle id error :=
  h.sameBacking.obstacle ho fun _ => h.content_of_error

/-- **Drafts enter in two stretches as in one.** -/
theorem Entered.trans (h : Entered w early d d') (h' : Entered w late d' d'') :
    Entered w (early ++ late) d d'' where
  separate := h'.separate
  sameBacking := h.sameBacking.trans h'.sameBacking
  find?_posts id := by
    have hstanding : d'.threads.standing = Grouping.thread w d.threads.standing early :=
      funext h.standing
    rw [h'.find?_posts, hstanding, ← Grouping.thread_append, h.find?_posts, List.any_append]
    by_cases hlate : late.any (Draft.belongs id) = true
    · rw [if_pos hlate, hlate, Bool.or_true, if_pos rfl]
    · rw [if_neg hlate, Bool.eq_false_iff.2 hlate, Bool.or_false]
      split
      · rw [Grouping.thread_append, Grouping.thread_of_not_belongs hlate]
      · rfl
  opened_of_error {id problem} hread hanswers := by
    obtain ⟨draft, hmem, hdraft⟩ := hanswers
    by_cases hearly : early.any (Draft.belongs id) = true
    · -- then one of the early drafts belongs to it and did enter
      obtain ⟨first, hfirst, hbelongs⟩ := List.any_eq_true.1 hearly
      obtain ⟨other, hother, hopens⟩ : ∃ draft ∈ early, draft.opens id = true := by
        rcases Bool.or_eq_true_iff.1 hbelongs with hopens | hanswers
        · exact ⟨first, hfirst, hopens⟩
        · exact h.opened_of_error hread ⟨first, hfirst, hanswers⟩
      exact ⟨other, List.mem_append_left _ hother, hopens⟩
    · have hlate : ∃ draft ∈ late, draft.answers id = true := by
        refine ⟨draft, (List.mem_append.1 hmem).resolve_left fun hmem => hearly ?_, hdraft⟩
        exact List.any_eq_true.2 ⟨draft, hmem, by rw [Draft.belongs, hdraft, Bool.or_true]⟩
      have hfind := h.find?_posts id
      rw [if_neg hearly] at hfind
      have hread' : d'.threads.content id = some (.error problem) := by
        rw [Threads.content, hfind, h.sameBacking.kept]
        exact hread
      obtain ⟨other, hother, hopens⟩ := h'.opened_of_error hread' hlate
      exact ⟨other, List.mem_append_right _ hother, hopens⟩

/-! ## One draft -/

/-- One draft has entered, if the post of its thread is what it makes of it, and the
thread reads if it is answered. -/
theorem entered_single (hsep : d'.threads.Separate) (hback : d.threads.SameBacking d'.threads)
    (hread : draft.message.isReply = true → ∀ problem,
      d.threads.content draft.message.threadId ≠ some (.error problem))
    (hposts : ∀ id, d'.threads.posts.find? id =
      if draft.message.threadId = id then Grouping.thread w d.threads.standing [draft] id
      else d.threads.posts.find? id) : Entered w [draft] d d' where
  separate := hsep
  sameBacking := hback
  find?_posts id := by
    rw [hposts, List.any_cons, List.any_nil, Bool.or_false]
    simp only [Draft.belongs_iff]
  opened_of_error {id problem} hcontent hanswers := by
    obtain ⟨other, hmem, hanswers⟩ := hanswers
    rw [List.mem_singleton.1 hmem] at hanswers
    have hid := Draft.belongs_iff.1 (by rw [Draft.belongs, hanswers, Bool.or_true])
    exact absurd (hid ▸ hcontent) (hread (Bool.and_eq_true_iff.1 hanswers).1 problem)

/-- A reply whose root was found has entered once it stands behind the root; it need not
where the thread is closed. -/
theorem entered_of_found {handle : RootHandle} {root : Post} {t : Threads}
    (hreply : draft.message.isReply = true)
    (hfound : d.threads.Found draft.message.threadTimestamp handle root t) :
    Entered w [draft] d { d with
      threads := if root.closed w = true then t
        else t.changing handle fun root => root.withReply draft.post } := by
  have hthread : Grouping.thread w d.threads.standing [draft] draft.message.threadTimestamp =
      some (root.withReplies w [draft.post]) := by
    rw [Grouping.thread_single_of_reply hreply, Threads.standing_of_content hfound.content,
      Option.map_some]
  have hread : draft.message.isReply = true → ∀ problem,
      d.threads.content draft.message.threadId ≠ some (.error problem) := by
    intro _ problem heq
    rw [Slack.Message.threadId, if_pos hreply, hfound.content] at heq
    cases heq
  by_cases hclosed : root.closed w = true
  · simp only [if_pos hclosed]
    refine entered_single hfound.separate hfound.sameBacking hread fun id => ?_
    rw [hfound.posts, Table.find?_insert, Slack.Message.threadId, if_pos hreply]
    split
    · next heq => rw [← heq, hthread, Post.withReplies_of_closed hclosed]
    · rfl
  · simp only [if_neg hclosed]
    refine entered_single hfound.separate.changing
      (hfound.sameBacking.trans Threads.sameBacking_changing) hread fun id => ?_
    rw [Threads.posts_changing hfound.separate hfound.find?_handle, hfound.get_handle,
      hfound.posts, Table.find?_insert, Table.find?_insert, Slack.Message.threadId, if_pos hreply]
    split
    · next heq =>
      rw [← heq, hthread, Post.withReplies_of_open hclosed]
      rfl
    · rfl

/-- A reply enters the thread that it answers, unless there is none or it is closed. -/
theorem placeReply_cases (hsep : d.threads.Separate) (hreply : draft.message.isReply = true) :
    (∃ d', placeReply draft.message draft.post channel w d =
        .ok (Grouping.placement w d.threads.standing [] draft) d' ∧
      Entered w [draft] d d' ∧ d'.ledger = d.ledger) ∨
    ∃ error d', placeReply draft.message draft.post channel w d = .error error d' ∧
      d.threads.SameBacking d'.threads ∧ d.threads.Obstacle draft.message.threadId error := by
  have hid : draft.message.threadId = draft.message.threadTimestamp := by
    rw [Slack.Message.threadId, if_pos hreply]
  unfold placeReply Grouping.placement
  rw [if_pos hreply, Grouping.root?_nil]
  rcases Threads.lookup_cases draft.message.threadTimestamp hsep with
    ⟨t', hrun, hs, hcontent⟩ | ⟨handle, root, t', hrun, hfound⟩ |
    ⟨problem, t', hrun, hs, hcontent⟩ | ⟨error, t', hrun, hs, -, hfail⟩
  · -- the thread is unknown, and stays so
    have hnone := Threads.standing_eq_none.2 hcontent
    obtain ⟨t'', hnote, hs', -⟩ := Threads.exists_note t' (orphanNotice draft.message channel)
    have hstill := hs.trans hs'
    rw [Running.bind_of_ok (onThreads_of_ok hrun), hnone]
    simp only []
    rw [Running.bind_of_ok (onThreads_of_ok hnote)]
    have hread : ∀ problem, d.threads.content draft.message.threadId ≠ some (.error problem) :=
      fun problem => by rw [hid, hcontent]; exact (Option.some_ne_none _).symm
    refine Or.inl ⟨_, rfl, entered_single (hstill.separate hsep) hstill.sameBacking
      (fun _ => hread) fun id => ?_, rfl⟩
    rw [hstill.posts, hid]
    split
    · next heq =>
      rw [← heq, Grouping.thread_single_of_reply hreply, hnone, Option.map_none,
        Threads.find?_posts_of_standing hnone]
    · rfl
  · -- the root is found, and the reply goes behind its handle if it is open
    have hentered := @entered_of_found w d draft handle root t' hreply hfound
    rw [Running.bind_of_ok (onThreads_of_ok hrun), Threads.standing_of_content hfound.content]
    simp only []
    rw [Running.bind_get]
    have hcond : (!w && root.user == workflowUsername) = root.closed w := rfl
    simp only [hfound.get_handle, hcond]
    by_cases hclosed : root.closed w = true
    · simp only [if_pos hclosed] at hentered ⊢
      exact Or.inl ⟨_, rfl, hentered, rfl⟩
    · simp only [if_neg hclosed] at hentered ⊢
      exact Or.inl ⟨_, rfl, hentered, rfl⟩
  · rw [Running.bind_of_error (onThreads_of_error hrun)]
    exact Or.inr ⟨_, _, rfl, hs.sameBacking, hid ▸ .unreadable hcontent⟩
  · rw [Running.bind_of_error (onThreads_of_error hrun)]
    exact Or.inr ⟨_, _, rfl, hs.sameBacking, hfail.obstacle⟩

/-- A root begins its thread anew. -/
theorem placeRoot_cases (hsep : d.threads.Separate) (hroot : draft.message.isReply = false) :
    (∃ d', placeRoot draft.message draft.post channel d =
        .ok (Grouping.placement w d.threads.standing [] draft) d' ∧
      Entered w [draft] d d' ∧ d'.ledger = d.ledger) ∨
    ∃ error d', placeRoot draft.message draft.post channel d = .error error d' ∧
      d.threads.SameBacking d'.threads ∧ d.threads.Obstacle draft.message.threadId error := by
  have hid : draft.message.threadId = draft.message.timestamp := by
    rw [Slack.Message.threadId, hroot, if_neg Bool.false_ne_true]
  have hthread : Grouping.thread w d.threads.standing [draft] draft.message.timestamp =
      some draft.post := by
    rw [Grouping.thread_single, if_pos ((Draft.opens_iff_of_root hroot).2 rfl)]
  unfold placeRoot Grouping.placement
  rw [hroot, if_neg Bool.false_ne_true, Grouping.root?_nil]
  rcases Threads.has_cases d.threads draft.message.timestamp with
    ⟨t', hrun, hs⟩ | ⟨error, t', hrun, hs, -, hfail⟩
  · have hstanding : (d.threads.content draft.message.timestamp).isSome =
        (d.threads.standing draft.message.timestamp).isSome := by
      rw [Threads.standing, Option.isSome_map]
    rw [hstanding] at hrun
    rw [Running.bind_of_ok (onThreads_of_ok hrun)]
    -- a line of the log makes no difference to what is stored
    have hnoted : ∃ t'', (if (d.threads.standing draft.message.timestamp).isSome = true then
          onThreads (Threads.note (overwriteNotice draft.message channel)) else pure ())
        { d with threads := t' } = .ok () { d with threads := t'' } ∧ d.threads.Still t'' := by
      split
      · obtain ⟨t'', hnote, hs', -⟩ :=
          Threads.exists_note t' (overwriteNotice draft.message channel)
        exact ⟨t'', onThreads_of_ok hnote, hs.trans hs'⟩
      · exact ⟨t', rfl, hs⟩
    obtain ⟨t'', hnote, hs'⟩ := hnoted
    have hput : onThreads (Threads.put draft.message.timestamp draft.post)
        { d with threads := t'' } = .ok t''.roots.next
          { d with threads := t''.storing draft.message.timestamp draft.post } := rfl
    refine Or.inl ⟨{ d with threads := t''.storing draft.message.timestamp draft.post }, ?_,
      entered_single (hs'.separate hsep).storing
        (hs'.sameBacking.trans Threads.sameBacking_storing)
        (fun hreply => absurd (hroot.symm.trans hreply) Bool.false_ne_true) fun id => ?_, rfl⟩
    · by_cases htaken : (d.threads.standing draft.message.timestamp).isSome = true
      · rw [if_pos htaken] at hnote
        rw [if_pos htaken, if_pos htaken]
        exact (Running.bind_of_ok hnote).trans (Running.bind_of_ok hput)
      · rw [if_neg htaken] at hnote
        rw [if_neg htaken, if_neg htaken]
        cases hnote
        exact Running.bind_of_ok hput
    · rw [Threads.posts_storing (hs'.separate hsep), Table.find?_insert, hs'.posts, hid]
      split
      · next heq => rw [← heq, hthread]
      · rfl
  · rw [Running.bind_of_error (onThreads_of_error hrun)]
    exact Or.inr ⟨_, _, rfl, hs.sameBacking, hfail.obstacle⟩

/-- **One step of the assembly before any backend.** The post enters its thread
and ends up where the grouping says, or something stood in its way; then the
backend is what it was. -/
theorem place_cases (hsep : d.threads.Separate) :
    (∃ d', place draft.message draft.post channel w d =
        .ok (Grouping.placement w d.threads.standing [] draft) d' ∧
      Entered w [draft.entering channel (d.ledger.free draft.post.createAt)] d d' ∧
      d'.ledger = d.ledger.claim draft.post.createAt) ∨
    ∃ error d', place draft.message draft.post channel w d = .error error d' ∧
      d.threads.SameBacking d'.threads ∧ d.threads.Obstacle draft.message.threadId error := by
  have hclaim : claim draft.post.createAt d = .ok (d.ledger.free draft.post.createAt)
      { d with ledger := d.ledger.claim draft.post.createAt } := rfl
  unfold place
  rw [Running.bind_of_ok hclaim]
  -- the claim leaves the threads alone, and the time leaves the message
  have hclaimed : d.threads.Still
    { d with ledger := d.ledger.claim draft.post.createAt }.threads := .refl
  by_cases hreply : draft.message.isReply = true
  · rw [if_pos hreply]
    rcases @placeReply_cases channel w { d with ledger := d.ledger.claim draft.post.createAt }
        (draft.entering channel (d.ledger.free draft.post.createAt)) hsep hreply with
      ⟨d', hrun, hentered, hledger⟩ | hfail
    · exact Or.inl ⟨d', hrun, hentered.of_still hclaimed, hledger⟩
    · exact Or.inr hfail
  · rw [if_neg hreply]
    rcases @placeRoot_cases channel w { d with ledger := d.ledger.claim draft.post.createAt }
        (draft.entering channel (d.ledger.free draft.post.createAt)) hsep
        (Bool.eq_false_iff.2 hreply) with ⟨d', hrun, hentered, hledger⟩ | hfail
    · exact Or.inl ⟨d', hrun, hentered.of_still hclaimed, hledger⟩
    · exact Or.inr hfail

end Desk

end ChatImport
