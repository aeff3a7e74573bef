import ChatImport.Proofs.Thread.Assembly
import Mathlib.Data.List.Nodup
/-!
# Creation times within threads

When the creation times of the posts of a channel go forward, the threads
inherit the order. What a thread gets is a stretch of posts in their order
(`Grouping.sublist_times`), so its replies come one after the other and after
their root. Every post belongs to one thread at most, so no time stands twice
among all the threads of a channel.

Threads that have this order, `Grouping.Dated` ones, keep it when posts are added
that are later than all of them; a thread that is begun anew does not count, for
nothing is left of what it was (`Grouping.Dated.thread`).

The drafts of a channel that begins with nothing get such times as long as
their requests do not go back (`pairwise_stamped`), however many of them ask
for one time.
-/

namespace ChatImport

open Mattermost (Post Channel)

/-- The creation times of a thread: that of the root, then those of the
replies. -/
def Mattermost.Post.times (root : Post) : List Int :=
  root.createAt :: root.replies.map Post.createAt

namespace Grouping

variable {w : Bool} {held : String → Option Post} {drafts : List Draft} {id : String}
variable {root : Post}

/-- **A thread is a stretch of posts in their order**, and all of them belong to
it. -/
theorem sublist_thread (h : lastRoot? id drafts = some root) :
    (root :: replies id drafts).Sublist
      ((drafts.filter (Draft.belongs id)).map Draft.post) := by
  induction drafts using List.reverseRecOn generalizing root with
  | nil => cases h
  | append_singleton rest d ih =>
    rw [lastRoot?_concat] at h
    rw [replies_concat, List.filter_append, List.map_append]
    by_cases hopens : d.opens id = true
    · rw [if_pos hopens] at h ⊢
      obtain rfl := Option.some.inj h
      have hbelongs : d.belongs id = true := by simp [Draft.belongs, hopens]
      rw [List.filter_cons_of_pos hbelongs]
      exact List.sublist_append_right _ _
    · rw [if_neg hopens] at h ⊢
      by_cases hanswers : d.answers id = true
      · have hbelongs : d.belongs id = true := by simp [Draft.belongs, hanswers]
        rw [if_pos hanswers, List.filter_cons_of_pos hbelongs, ← List.cons_append]
        exact (ih h).append (List.Sublist.refl _)
      · rw [if_neg hanswers]
        exact (ih h).trans (List.sublist_append_left _ _)

/-- The replies to a thread are posts that belong to it, in their order. -/
theorem sublist_replies : (replies id drafts).Sublist
    ((drafts.filter (Draft.belongs id)).map Draft.post) := by
  induction drafts using List.reverseRecOn with
  | nil => exact List.nil_sublist _
  | append_singleton rest d ih =>
    rw [replies_concat, List.filter_append, List.map_append]
    split
    · exact List.nil_sublist _
    split
    · next hanswers =>
      have hbelongs : d.belongs id = true := by simp [Draft.belongs, hanswers]
      rw [List.filter_cons_of_pos hbelongs]
      exact ih.append (List.Sublist.refl _)
    · exact ih.trans (List.sublist_append_left _ _)

theorem sublist_times_withReplies {more : List Post} :
    (root.withReplies w more).times.Sublist (root.times ++ more.map Post.createAt) := by
  by_cases hclosed : root.closed w = true
  · rw [Post.withReplies_of_closed hclosed]
    exact List.sublist_append_left _ _
  · rw [Post.withReplies_of_open hclosed, Post.times, Post.times, List.map_append]
    exact List.Sublist.refl _

/-- **The creation times of a thread** are those of what was held of it, unless it was begun
anew, and then those of posts that belong to it. -/
theorem sublist_times {post : Post} (hnew : ∀ d ∈ drafts, d.post.replies = [])
    (h : thread w held drafts id = some post) :
    ∃ old, (old = [] ∨ (¬ ∃ d ∈ drafts, d.opens id = true) ∧
        ∃ root, held id = some root ∧ old = root.times) ∧
      post.times.Sublist
        (old ++ (drafts.filter (Draft.belongs id)).map fun d => d.post.createAt) := by
  rw [thread, root?, Option.map_eq_some_iff] at h
  obtain ⟨root, hroot, rfl⟩ := h
  cases hlast : lastRoot? id drafts with
  | some first =>
    rw [hlast, Option.some_or] at hroot
    obtain rfl := Option.some.inj hroot
    have hsub := (sublist_thread hlast).map Post.createAt
    rw [List.map_map] at hsub
    have hreplies : first.replies = [] := by
      obtain ⟨d, hd, rfl⟩ := List.mem_map.1 ((sublist_thread hlast).subset List.mem_cons_self)
      exact hnew d (List.mem_of_mem_filter hd)
    refine ⟨[], Or.inl rfl, (sublist_times_withReplies.trans ?_).trans hsub⟩
    rw [Post.times, hreplies]
    exact List.Sublist.refl _
  | none =>
    rw [hlast, Option.none_or] at hroot
    refine ⟨root.times, Or.inr ⟨fun hopens => ?_, root, hroot, rfl⟩,
      sublist_times_withReplies.trans ?_⟩
    · rw [← isSome_lastRoot?, hlast] at hopens
      cases hopens
    · have hsub := (@sublist_replies drafts id).map Post.createAt
      rw [List.map_map] at hsub
      exact (List.Sublist.refl _).append hsub

/-- A time that stands in a thread stood in what was held of it, unless it was begun anew,
or is that of a post that belongs to it. -/
theorem mem_times {post : Post} {time : Int} (hnew : ∀ d ∈ drafts, d.post.replies = [])
    (h : thread w held drafts id = some post) (htime : time ∈ post.times) :
    ((¬ ∃ d ∈ drafts, d.opens id = true) ∧ ∃ root, held id = some root ∧ time ∈ root.times) ∨
      ∃ d ∈ drafts, d.belongs id = true ∧ d.post.createAt = time := by
  obtain ⟨old, hold, hsub⟩ := sublist_times hnew h
  rcases List.mem_append.1 (hsub.subset htime) with hmem | hmem
  · rcases hold with rfl | ⟨hopens, root, hroot, rfl⟩
    · cases hmem
    · exact Or.inl ⟨hopens, root, hroot, hmem⟩
  · obtain ⟨d, hd, hcreate⟩ := List.mem_map.1 hmem
    obtain ⟨hmem, hbelongs⟩ := List.mem_filter.1 hd
    exact Or.inr ⟨d, hmem, hbelongs, hcreate⟩

/-! ## Threads in the order of their times -/

/-- The posts of each thread were created one after the other, and those of all threads at
different times; of the threads with some identifiers. -/
structure Dated (ids : Set String) (held : String → Option Post) : Prop where
  pairwise {id : String} {post : Post} : id ∈ ids → held id = some post →
    post.times.Pairwise (· < ·)
  /-- No time stands in two threads. -/
  apart {id id' : String} {post post' : Post} {time : Int} : id ∈ ids → id' ∈ ids →
    held id = some post → held id' = some post' → time ∈ post.times → time ∈ post'.times → id = id'

/-- The drafts are later than the threads with some identifiers, but for those that they
begin anew. -/
def After (ids : Set String) (held : String → Option Post) (drafts : List Draft) : Prop :=
  ∀ id ∈ ids, ∀ root, held id = some root → (∃ d ∈ drafts, d.opens id = true) ∨
    ∀ time ∈ root.times, ∀ d ∈ drafts, time < d.post.createAt

variable {ids : Set String} {held' : String → Option Post}

theorem dated_none : Dated ids fun _ => none := ⟨nofun, nofun⟩

theorem after_none : After ids (fun _ => none) drafts := fun _ _ _ h => nomatch h

/-- It is the times that count, and threads may be missing. -/
theorem Dated.of_times (h : Dated ids held) (hle : ∀ id ∈ ids, ∀ post, held' id = some post →
    ∃ root, held id = some root ∧ post.times = root.times) : Dated ids held' where
  pairwise {id post} hid hpost := by
    obtain ⟨root, hroot, htimes⟩ := hle id hid post hpost
    exact htimes ▸ h.pairwise hid hroot
  apart {id id' post post' time} hid hid' hpost hpost' htime htime' := by
    obtain ⟨root, hroot, htimes⟩ := hle id hid post hpost
    obtain ⟨root', hroot', htimes'⟩ := hle id' hid' post' hpost'
    exact h.apart hid hid' hroot hroot' (htimes ▸ htime) (htimes' ▸ htime')

/-- **Threads stay dated** when drafts enter that are later. -/
theorem Dated.thread (h : Dated ids held) (hafter : After ids held drafts)
    (hnew : ∀ d ∈ drafts, d.post.replies = [])
    (hord : (drafts.map fun d => d.post.createAt).Pairwise (· < ·)) :
    Dated ids (thread w held drafts) where
  pairwise {id post} hid hpost := by
    obtain ⟨old, hold, hsub⟩ := sublist_times hnew hpost
    refine List.Pairwise.sublist hsub (List.pairwise_append.2
      ⟨?_, hord.sublist (List.filter_sublist.map _), fun time htime later hlater => ?_⟩)
    · rcases hold with rfl | ⟨-, root, hroot, rfl⟩
      · exact List.Pairwise.nil
      · exact h.pairwise hid hroot
    · obtain ⟨d, hd, rfl⟩ := List.mem_map.1 hlater
      rcases hold with rfl | ⟨hopens, root, hroot, rfl⟩
      · cases htime
      · exact (hafter id hid root hroot).resolve_left hopens time htime d
          (List.mem_of_mem_filter hd)
  apart {id id' post post' time} hid hid' hpost hpost' htime htime' := by
    -- a time that was held of one thread is none of a draft, nor held of another thread
    have hold : ∀ {id root d}, id ∈ ids → (¬ ∃ d ∈ drafts, d.opens id = true) →
        held id = some root → time ∈ root.times → d ∈ drafts → d.post.createAt ≠ time :=
      fun hid hopens hroot hmem hd heq => by
        have hlt := (hafter _ hid _ hroot).resolve_left hopens time hmem _ hd
        omega
    rcases mem_times hnew hpost htime with ⟨hopens, root, hroot, hmem⟩ | ⟨d, hd, hbelongs, hcreate⟩
    · rcases mem_times hnew hpost' htime' with ⟨-, root', hroot', hmem'⟩ | ⟨d', hd', -, hcreate'⟩
      · exact h.apart hid hid' hroot hroot' hmem hmem'
      · exact absurd hcreate' (hold hid hopens hroot hmem hd')
    · rcases mem_times hnew hpost' htime' with
        ⟨hopens', root', hroot', hmem'⟩ | ⟨d', hd', hbelongs', hcreate'⟩
      · exact absurd hcreate (hold hid' hopens' hroot' hmem' hd)
      · -- two posts of one time are one post, which belongs to both threads
        have hnodup : (drafts.map fun d => d.post.createAt).Nodup :=
          hord.imp fun hlt heq => Int.ne_of_lt hlt heq
        have hsame := List.inj_on_of_nodup_map hnodup hd hd' (hcreate.trans hcreate'.symm)
        exact Draft.belongs_unique hbelongs (hsame ▸ hbelongs')

/-- **No time stands twice** in a table of dated threads. -/
theorem Dated.nodup_times {threads : Table Post} (h : Dated ids held)
    (hthreads : ∀ id post, threads.find? id = some post → id ∈ ids ∧ held id = some post) :
    (threads.values.flatMap Post.times).Nodup := by
  have hheld : ∀ entry ∈ threads.entries, entry.1 ∈ ids ∧ held entry.1 = some entry.2 :=
    fun entry hentry => hthreads _ _ (Table.mem_entries_iff.1 hentry)
  rw [Table.values, List.flatMap_map, List.nodup_flatMap]
  constructor
  · intro entry hentry
    obtain ⟨hid, hroot⟩ := hheld entry hentry
    exact (h.pairwise hid hroot).imp fun hlt heq => Int.ne_of_lt hlt heq
  · refine threads.ordered.imp_of_mem fun {a b} ha hb hlt => ?_
    obtain ⟨hida, hroota⟩ := hheld a ha
    obtain ⟨hidb, hrootb⟩ := hheld b hb
    intro time hta htb
    exact String.lt_irrefl _ (h.apart hida hidb hroota hrootb hta htb ▸ hlt)

end Grouping

/-! ## The drafts of a channel -/

section Stamped

variable {channel : Channel} {ledger : Ledger} {drafts : List Draft} {d : Draft}

/-- A stamped draft is one of the drafts, entering at its own time or later. -/
theorem mem_stamped (h : d ∈ stamped channel ledger drafts) :
    ∃ draft ∈ drafts, ∃ time, draft.post.createAt ≤ time ∧ d = draft.entering channel time := by
  induction drafts generalizing ledger with
  | nil => cases h
  | cons draft rest ih =>
    rw [stamped_cons] at h
    rcases List.mem_cons.1 h with rfl | h
    · exact ⟨draft, List.mem_cons_self, _, Ledger.le_free, rfl⟩
    · obtain ⟨other, hmem, htime⟩ := ih h
      exact ⟨other, List.mem_cons_of_mem _ hmem, htime⟩

@[simp] theorem Draft.createAt_entering {time : Int} :
    (d.entering channel time).post.createAt = time := rfl

@[simp] theorem Draft.replies_entering {time : Int} :
    (d.entering channel time).post.replies = d.post.replies := by
  unfold entering Mattermost.Post.inChannel
  split
  · rfl
  · rfl

@[simp] theorem Draft.user_entering {time : Int} :
    (d.entering channel time).post.user = d.post.user := by
  unfold entering Mattermost.Post.inChannel
  split
  · rfl
  · rfl

@[simp] theorem Draft.props_entering {time : Int} :
    (d.entering channel time).post.props = d.post.props := by
  unfold entering Mattermost.Post.inChannel
  split
  · rfl
  · rfl

/-- **Drafts that do not go back are given times that go forward.** -/
theorem pairwise_stamped (hord : (drafts.map fun d => d.post.createAt).Pairwise (· ≤ ·)) :
    ((stamped channel Ledger.empty drafts).map fun d => d.post.createAt).Pairwise (· < ·) := by
  rw [map_createAt_stamped]
  exact Ledger.pairwise_times hord

/-- Drafts that come later are stamped with later times. -/
theorem Grouping.After.stamped {ids : Set String} {held : String → Option Post}
    (h : After ids held drafts) : After ids held (stamped channel ledger drafts) := by
  intro id hid root hroot
  rcases h id hid root hroot with hopens | hlater
  · exact Or.inl (exists_opens_stamped.2 hopens)
  · refine Or.inr fun time htime d hd => ?_
    obtain ⟨draft, hmem, claimed, hle, rfl⟩ := mem_stamped hd
    exact Int.lt_of_lt_of_le (hlater time htime draft hmem) hle

end Stamped

end ChatImport
