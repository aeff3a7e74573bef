import ChatImport.Proofs.Thread.Assembly
/-!
# How many threads and posts there are

Nothing of the placements is lost: the threads of a grouping are as many as
the posts placed as new roots, and its posts are as many as those placed as
roots or replies, less those of threads that were replaced
(`Grouping.balance_table`). Both are told on the way, by what one draft does to
the table of the threads (`Grouping.Adds`).
-/

namespace ChatImport

open Mattermost (Post Channel)

/-- The number of posts in threads. -/
def threadLengths (threads : Table Post) : Nat := (threads.values.map Post.threadLength).sum

namespace Grouping

variable {w : Bool} {held : String → Option Post} {drafts : List Draft} {d : Draft}
variable {id : String} {threads : Table Post}

/-! ## One draft more -/

theorem placements_concat : placements w held (drafts ++ [d]) =
    placements w held drafts ++ [placement w held drafts d] := by
  have hsame : placement w (thread w held drafts) [] d = placement w held drafts d := by
    rw [← placement_append, List.append_nil]
  rw [placements_append, ← hsame]
  rfl

/-- The threads of drafts, listed. -/
def step (w : Bool) (threads : Table Post) (d : Draft) : Table Post :=
  if d.message.isReply then
    match threads.find? d.message.threadTimestamp with
    | none => threads
    | some root => threads.insert d.message.threadTimestamp (root.withReplies w [d.post])
  else threads.insert d.message.timestamp d.post

/-- The threads of drafts that begin with nothing. -/
def table (w : Bool) (drafts : List Draft) : Table Post := drafts.foldl (step w) Table.empty

theorem table_concat : table w (drafts ++ [d]) = step w (table w drafts) d := by
  rw [table, List.foldl_append]
  rfl

theorem find?_step : (step w threads d).find? id =
    if d.opens id = true then some d.post
    else if d.answers id = true then
      (threads.find? id).map fun root => root.withReplies w [d.post]
    else threads.find? id := by
  unfold step
  by_cases hreply : d.message.isReply = true
  · have hopens : ¬ d.opens id = true := by simp [Draft.opens, hreply]
    rw [if_pos hreply, if_neg hopens]
    simp only [Draft.answers_iff_of_reply hreply]
    cases hfind : threads.find? d.message.threadTimestamp with
    | none =>
      simp only []
      split
      · next hid => simp only [← hid, hfind, Option.map_none]
      · rfl
    | some root =>
      simp only []
      rw [Table.find?_insert]
      split
      · next hid => simp only [← hid, hfind, Option.map_some]
      · rfl
  · have hroot := Bool.eq_false_iff.2 hreply
    have hanswers : ¬ d.answers id = true := by simp [Draft.answers, hroot]
    rw [if_neg hreply, if_neg hanswers, Table.find?_insert]
    simp only [Draft.opens_iff_of_root hroot]

/-- **The listed threads are those of the grouping.** -/
theorem find?_table : (table w drafts).find? id = thread w (fun _ => none) drafts id := by
  induction drafts using List.reverseRecOn with
  | nil => rw [thread_nil]; rfl
  | append_singleton rest d ih => rw [table_concat, find?_step, thread_concat, ih]

theorem eq_table (h : ∀ id, threads.find? id = thread w (fun _ => none) drafts id) :
    threads = table w drafts :=
  Table.ext_find? fun id => (h id).trans find?_table.symm

/-! ## Counting -/

/-- The posts that are lost when a thread is replaced: all that are in it by then. -/
def replaced (w : Bool) (before : List Draft) (d : Draft) : Nat :=
  if placement w (fun _ => none) before d = .overwroteRoot then
    (thread w (fun _ => none) before d.message.timestamp).elim 0 Post.threadLength
  else 0

/-- The posts that are lost when threads are replaced. -/
def lost (w : Bool) (drafts : List Draft) : Nat :=
  (drafts.mapIdx fun n d => replaced w (drafts.take n) d).sum

theorem lost_concat : lost w (drafts ++ [d]) = lost w drafts + replaced w drafts d := by
  have htake : (drafts.mapIdx fun n d' => replaced w ((drafts ++ [d]).take n) d') =
      drafts.mapIdx fun n d' => replaced w (drafts.take n) d' := by
    refine List.mapIdx_eq_mapIdx_iff.2 fun n hn => ?_
    rw [List.take_append_of_le_length (Nat.le_of_lt hn)]
  rw [lost, lost, List.mapIdx_append, htake, List.sum_append]
  simp

/-- Where a draft ends up is told by the listed threads. -/
theorem placement_of_reply (h : d.message.isReply = true) :
    placement w (fun _ => none) drafts d =
      match (table w drafts).find? d.message.threadTimestamp with
      | none => .orphanReply
      | some root => if root.closed w then .workflowReplySkipped else .reply := by
  rw [find?_table, thread, placement, if_pos h]
  cases root? (fun _ => none) drafts d.message.threadTimestamp with
  | none => rfl
  | some root => simp only [Option.map_some, Post.closed_withReplies]

theorem placement_of_root (h : d.message.isReply = false) :
    placement w (fun _ => none) drafts d =
      if (table w drafts).contains d.message.timestamp then .overwroteRoot else .root := by
  rw [Table.contains, find?_table, isSome_thread, placement, if_neg (by simp [h])]

/-- How many of the placements are those of roots and replies. -/
def imports (ps : List Placement) : Nat :=
  ps.count .root + ps.count .overwroteRoot + ps.count .reply

theorem imports_append {ps qs : List Placement} : imports (ps ++ qs) = imports ps + imports qs := by
  unfold imports
  simp only [List.count_append]
  omega

/-- What a draft adds to the threads when it ends up at a place, and what is gone
by it. -/
structure Adds (threads threads' : Table Post) (p : Placement) (gone : Nat) : Prop where
  /-- There is a thread more if the draft is a new root. -/
  size : threads'.size = threads.size + [p].count .root
  /-- There is a post more if the draft is a root or a reply. -/
  lengths : threadLengths threads' + gone = threadLengths threads + imports [p]
  /-- A thread that is replaced has a post at least. -/
  replaced : [p].count .overwroteRoot ≤ gone
  /-- Nothing else is gone. -/
  kept : [p].count .overwroteRoot = 0 → gone = 0

theorem replaced_of_ne (h : placement w (fun _ => none) drafts d ≠ .overwroteRoot) :
    replaced w drafts d = 0 := if_neg h

/-- A thread that is there gives way to another: there are no more threads, and
the posts of the one count for those of the other. -/
theorem insert_of_thread {root post : Post} (h : threads.find? id = some root) :
    (threads.insert id post).size = threads.size ∧
      threadLengths (threads.insert id post) + root.threadLength =
        threadLengths threads + post.threadLength := by
  have hsize := @Table.size_insert _ threads id post
  have hsum := @Table.sum_insert _ threads id post Post.threadLength
  rw [if_pos (Table.contains_iff.2 ⟨root, h⟩)] at hsize
  rw [h, Option.elim_some] at hsum
  exact ⟨Nat.add_right_cancel hsize, hsum⟩

/-- A thread that is new comes with its posts. -/
theorem insert_of_no_thread {post : Post} (h : threads.find? id = none) :
    (threads.insert id post).size = threads.size + 1 ∧
      threadLengths (threads.insert id post) = threadLengths threads + post.threadLength := by
  have hsize := @Table.size_insert _ threads id post
  have hsum := @Table.sum_insert _ threads id post Post.threadLength
  rw [Table.contains, h] at hsize
  rw [h, Option.elim_none] at hsum
  exact ⟨hsize, hsum⟩

/-- A reply is added to a thread, or nothing is. -/
theorem adds_reply (hreply : d.message.isReply = true) :
    Adds (table w drafts) (step w (table w drafts) d)
      (placement w (fun _ => none) drafts d) (replaced w drafts d) := by
  have hplace := @placement_of_reply w drafts d hreply
  unfold step
  rw [if_pos hreply]
  cases hfind : (table w drafts).find? d.message.threadTimestamp with
  | none =>
    simp only [hfind] at hplace ⊢
    rw [replaced_of_ne (by rw [hplace]; decide), hplace]
    exact ⟨rfl, rfl, Nat.le_refl _, fun _ => rfl⟩
  | some root =>
    simp only [hfind] at hplace ⊢
    rw [replaced_of_ne (by rw [hplace]; split <;> decide), hplace]
    obtain ⟨hsize, hlengths⟩ := @insert_of_thread _ _ _ (root.withReplies w [d.post]) hfind
    by_cases hclosed : root.closed w = true
    · rw [if_pos hclosed]
      rw [Post.withReplies_of_closed hclosed] at hlengths hsize ⊢
      exact ⟨hsize, Nat.add_right_cancel hlengths, Nat.le_refl _, fun _ => rfl⟩
    · rw [if_neg hclosed]
      have hlength : (root.withReplies w [d.post]).threadLength = root.threadLength + 1 := by
        rw [Post.withReplies_of_open hclosed, Post.threadLength, Post.threadLength,
          List.length_append, List.length_singleton]
        omega
      have himports : imports [.reply] = 1 := rfl
      exact ⟨hsize, by omega, Nat.le_refl _, fun _ => rfl⟩

/-- A root begins a thread, in the place of another or not. -/
theorem adds_root (hroot : d.message.isReply = false) (hnew : d.post.replies = []) :
    Adds (table w drafts) (step w (table w drafts) d)
      (placement w (fun _ => none) drafts d) (replaced w drafts d) := by
  have hplace := @placement_of_root w drafts d hroot
  have hlength : d.post.threadLength = 1 := by rw [Post.threadLength, hnew, List.length_nil]
  unfold step replaced
  rw [if_neg (by simp [hroot]), ← find?_table]
  cases hfind : (table w drafts).find? d.message.timestamp with
  | none =>
    rw [Table.contains, hfind, Option.isSome_none, if_neg Bool.false_ne_true] at hplace
    obtain ⟨hsize, hlengths⟩ := @insert_of_no_thread _ _ d.post hfind
    rw [hplace]
    exact ⟨hsize, hlengths.trans (by rw [hlength]; rfl), Nat.le_refl _, fun _ => rfl⟩
  | some root =>
    rw [Table.contains, hfind, Option.isSome_some, if_pos rfl] at hplace
    obtain ⟨hsize, hlengths⟩ := @insert_of_thread _ _ _ d.post hfind
    have hpos : 1 ≤ root.threadLength := Nat.le_add_right 1 _
    rw [hplace]
    exact ⟨hsize, hlengths.trans (by rw [hlength]; rfl), hpos, fun h => absurd h (by decide)⟩

/-- **What one draft adds**, whether it is a reply or a root. -/
theorem adds_step (hnew : d.post.replies = []) :
    Adds (table w drafts) (step w (table w drafts) d)
      (placement w (fun _ => none) drafts d) (replaced w drafts d) := by
  cases hreply : d.message.isReply with
  | true => exact adds_reply hreply
  | false => exact adds_root hreply hnew

/-- The posts of roots and what was counted on the way to them agree, but for the
posts that are gone. -/
structure Balance (roots : List Post) (ps : List Placement) (gone : Nat) : Prop where
  /-- There are as many roots as were new. -/
  size : roots.length = ps.count .root
  /-- With those that are gone the posts are as many as were roots or replies. -/
  lengths : (roots.map Post.threadLength).sum + gone = imports ps
  /-- For each root that replaced another something is gone. -/
  replaced : ps.count .overwroteRoot ≤ gone
  /-- For nothing else is anything gone. -/
  kept : ps.count .overwroteRoot = 0 → gone = 0

variable {roots roots' : List Post} {ps ps' : List Placement} {gone gone' : Nat}

theorem balance_nil : Balance [] [] 0 := ⟨rfl, rfl, Nat.le_refl 0, fun _ => rfl⟩

theorem Balance.append (h : Balance roots ps gone) (h' : Balance roots' ps' gone') :
    Balance (roots ++ roots') (ps ++ ps') (gone + gone') where
  size := by rw [List.length_append, List.count_append, h.size, h'.size]
  lengths := by
    have hlengths := h.lengths
    have hlengths' := h'.lengths
    rw [List.map_append, List.sum_append, imports_append]
    omega
  replaced := by
    rw [List.count_append]
    exact Nat.add_le_add h.replaced h'.replaced
  kept := by
    intro hnone
    obtain ⟨hps, hps'⟩ := Nat.add_eq_zero_iff.1 (List.count_append.symm.trans hnone)
    rw [h.kept hps, h'.kept hps']

theorem Balance.perm (h : Balance roots ps gone) (hperm : roots'.Perm roots) :
    Balance roots' ps gone :=
  ⟨hperm.length_eq.trans h.size, (hperm.map Post.threadLength).sum_nat ▸ h.lengths, h.replaced,
    h.kept⟩

/-- Threads in balance are so with what a draft adds to them. -/
theorem Balance.adding {threads' : Table Post} {p : Placement} (h : Balance threads.values ps gone)
    (hadds : Adds threads threads' p gone') :
    Balance threads'.values (ps ++ [p]) (gone + gone') where
  size := by rw [Table.length_values, hadds.size, ← Table.length_values, h.size, List.count_append]
  lengths := by
    have hlengths : threadLengths threads + gone = imports ps := h.lengths
    have hadded := hadds.lengths
    change threadLengths threads' + (gone + gone') = _
    rw [imports_append]
    omega
  replaced := by
    rw [List.count_append]
    exact Nat.add_le_add h.replaced hadds.replaced
  kept := by
    intro hnone
    obtain ⟨hps, hp⟩ := Nat.add_eq_zero_iff.1 (List.count_append.symm.trans hnone)
    rw [h.kept hps, hadds.kept hp]

/-- **The threads of a channel are in balance.** Drafts of new posts make as many
threads as there are new roots among them, and the posts in these threads, with
those that are lost, are as many as there are roots and replies. Something is
lost if a root is placed over another, and only then. -/
theorem balance_table (hnew : ∀ d ∈ drafts, d.post.replies = []) :
    Balance (table w drafts).values (placements w (fun _ => none) drafts) (lost w drafts) := by
  induction drafts using List.reverseRecOn with
  | nil => exact balance_nil
  | append_singleton rest d ih =>
    have hrest := ih fun d' hmem => hnew d' (List.mem_append_left _ hmem)
    have hd := hnew d (List.mem_append_right _ List.mem_cons_self)
    rw [table_concat, lost_concat, placements_concat]
    exact hrest.adding (adds_step hd)

end Grouping

end ChatImport
