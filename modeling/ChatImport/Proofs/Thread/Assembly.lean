import ChatImport.Proofs.Thread.Entering
import Mathlib.Data.Set.Basic
/-!
# Assembling is grouping

The assembly puts one post after the other into a store, and changes roots
that others may replace later. What the threads stand for after each step is
the grouping of what came so far: `Desk.place_spec` says so of one post, on a
store of any kind that does not fail, and `Desk.placeAll_spec` of a list of
them. `Desk.placeAll_groups` is the case of a channel that begins with
nothing in memory.
-/

namespace ChatImport

open Mattermost (Post Channel)

/-- The drafts as they enter their threads, each at the time that its claim is
given. -/
def stamped (channel : Channel) (ledger : Ledger) (drafts : List Draft) : List Draft :=
  List.zipWith (fun d time => d.entering channel time) drafts
    (ledger.times (drafts.map fun d => d.post.createAt))

theorem stamped_cons {channel : Channel} {ledger : Ledger} {draft : Draft}
    {rest : List Draft} : stamped channel ledger (draft :: rest) =
      draft.entering channel (ledger.free draft.post.createAt) ::
        stamped channel (ledger.claim draft.post.createAt) rest := rfl

/-- A time of its own makes no other message of a draft. -/
theorem map_message_stamped {channel : Channel} {ledger : Ledger} {drafts : List Draft} :
    (stamped channel ledger drafts).map Draft.message = drafts.map Draft.message := by
  induction drafts generalizing ledger with
  | nil => rfl
  | cons draft rest ih =>
    rw [stamped_cons, List.map_cons, List.map_cons, ih]
    rfl

theorem length_stamped {channel : Channel} {ledger : Ledger} {drafts : List Draft} :
    (stamped channel ledger drafts).length = drafts.length := by
  have hmap := congrArg List.length (@map_message_stamped channel ledger drafts)
  rwa [List.length_map, List.length_map] at hmap

theorem exists_opens_stamped {channel : Channel} {ledger : Ledger} {drafts : List Draft}
    {id : String} : (∃ draft ∈ stamped channel ledger drafts, draft.opens id = true) ↔
      ∃ draft ∈ drafts, draft.opens id = true := by
  have hmessages : ∀ ds : List Draft, (∃ draft ∈ ds, draft.opens id = true) ↔
      ∃ m ∈ ds.map Draft.message, (!m.isReply && m.timestamp == id) = true := fun ds => by
    simp only [List.mem_map, exists_exists_and_eq_and]
    rfl
  rw [hmessages, hmessages, map_message_stamped]

/-- A stamped draft has the message of one of the drafts. -/
theorem exists_of_mem_stamped {channel : Channel} {ledger : Ledger} {drafts : List Draft}
    {d : Draft} (h : d ∈ stamped channel ledger drafts) :
    ∃ draft ∈ drafts, draft.message = d.message := by
  have hmessage := List.mem_map_of_mem (f := Draft.message) h
  rwa [map_message_stamped, List.mem_map] at hmessage

/-- Some draft belongs to a thread that a stamped draft belongs to. -/
theorem exists_of_belongs {channel : Channel} {ledger : Ledger} {drafts : List Draft}
    {id : String} (h : (stamped channel ledger drafts).any (Draft.belongs id) = true) :
    ∃ d ∈ drafts, d.message.threadId = id := by
  obtain ⟨d, hd, hid⟩ := List.any_eq_true.1 h
  obtain ⟨draft, hmem, heq⟩ := exists_of_mem_stamped hd
  exact ⟨draft, hmem, heq ▸ Draft.belongs_iff.1 hid⟩

/-- The creation times of stamped drafts are those that the ledger gives. -/
theorem map_createAt_stamped {channel : Channel} {ledger : Ledger} {drafts : List Draft} :
    (stamped channel ledger drafts).map (fun d => d.post.createAt) =
      ledger.times (drafts.map fun d => d.post.createAt) := by
  induction drafts generalizing ledger with
  | nil => rfl
  | cons draft rest ih =>
    rw [stamped_cons, List.map_cons, List.map_cons, ih]
    rfl

namespace Desk

variable {channel : Channel} {w : Bool} {ids : Set String} {held : String → Option Post}
variable {d d' : Desk} {draft : Draft}

/-- Puts the posts of drafts into their threads, one after the other. -/
def placeAll (channel : Channel) (importWorkflows : Bool) (drafts : List Draft) :
    EStateM Error Desk (List Placement) :=
  drafts.mapM fun draft => place draft.message draft.post channel importWorkflows

/-- Under some identifiers the threads of the desk are those of a map, and nothing
will fail. The store knows of no thread under another identifier. -/
structure HoldsOn (ids : Set String) (held : String → Option Post) (d : Desk) : Prop where
  separate : d.threads.Separate
  /-- No call of the backend will fail. -/
  reliable : d.threads.Reliable
  within {id : String} : d.threads.posts.contains id = true → id ∈ ids
  /-- Each thread stands for what the map says. -/
  content {id : String} : id ∈ ids → d.threads.content id = (held id).map .ok

/-- The threads of the desk are those of a map, and nothing will fail. -/
abbrev Holds (held : String → Option Post) (d : Desk) : Prop := d.HoldsOn Set.univ held

theorem HoldsOn.of_content {held' : String → Option Post} (h : d.HoldsOn ids held)
    (hsep : d'.threads.Separate) (hback : d.threads.SameBacking d'.threads)
    (hwithin : ∀ id, d'.threads.posts.contains id = true → id ∈ ids)
    (hcontent : ∀ id ∈ ids, d'.threads.content id = (held' id).map .ok) :
    d'.HoldsOn ids held' :=
  ⟨hsep, hback.reliable h.reliable, fun {id} => hwithin id, fun {id} => hcontent id⟩

theorem HoldsOn.congr {held' : String → Option Post} (h : d.HoldsOn ids held)
    (heq : ∀ id, held id = held' id) : d.HoldsOn ids held' :=
  h.of_content h.separate Threads.SameBacking.refl (fun _ => h.within)
    fun id hid => by rw [h.content hid, heq]

/-- A post that a thread stands for is the one that the map says. -/
theorem HoldsOn.held_of_content {id : String} {post : Post} (h : d.HoldsOn ids held)
    (hid : id ∈ ids) (hcontent : d.threads.content id = some (.ok post)) :
    held id = some post := by
  rw [h.content hid, Option.map_eq_some_iff] at hcontent
  obtain ⟨other, hother, heq⟩ := hcontent
  rw [hother, Except.ok.inj heq]

/-- The store knows of no thread but with the post that the map says. -/
theorem HoldsOn.held_of_post {id : String} {post : Post} (h : d.HoldsOn ids held)
    (hpost : d.threads.posts.find? id = some post) : held id = some post :=
  h.held_of_content (h.within (Table.contains_iff.2 ⟨post, hpost⟩)) (Threads.content_of_post hpost)

/-- In memory the posts of the store are all that is held. -/
theorem HoldsOn.find?_posts {id : String} (h : d.Holds held)
    (hmemory : d.threads.store.keeping = .memory) : d.threads.posts.find? id = held id := by
  have hcontent := h.content (Set.mem_univ id)
  rw [Threads.content_of_memory hmemory] at hcontent
  exact Option.map_injective (fun _ _ => Except.ok.inj) hcontent

/-- A store in memory that has just been opened holds nothing. -/
theorem holds_opened (h : d.threads.store = ThreadStore.opened .memory) :
    d.Holds fun _ => none := by
  have hkeeping : d.threads.store.keeping = .memory := by
    rw [h]
    rfl
  have hhandles : d.threads.store.handles = Table.empty := by
    rw [h]
    rfl
  refine ⟨Threads.separate_opened hhandles, Or.inl hkeeping, fun _ => Set.mem_univ _,
    fun {id} _ => ?_⟩
  rw [Threads.content_of_memory hkeeping, Threads.posts_opened hhandles, Table.find?_empty,
    Option.map_none]

/-- What a thread stands for is what the map says. -/
theorem HoldsOn.standing {id : String} (h : d.HoldsOn ids held) (hid : id ∈ ids) :
    d.threads.standing id = held id := by
  rw [Threads.standing, h.content hid]
  cases held id <;> rfl

/-- Nothing stands in the way of what is held. -/
theorem HoldsOn.not_obstacle {id : String} {error : Error} (h : d.HoldsOn ids held)
    (hid : id ∈ ids) : ¬ d.threads.Obstacle id error := by
  intro hobstacle
  cases hobstacle with
  | refused hkeeping houtage =>
    rcases h.reliable with hmemory | hreliable
    · rw [hkeeping] at hmemory
      cases hmemory
    · rw [hreliable] at houtage
      cases houtage
  | unreadable hread =>
    rw [h.content hid, Option.map_eq_some_iff] at hread
    obtain ⟨post, -, heq⟩ := hread
    cases heq

/-! ## One post -/

/-- A draft has been placed: the threads are those of the grouping with one draft more,
and the store knows of its threads still, and of the one that the draft opens. -/
structure Placed (ids : Set String) (w : Bool) (held : String → Option Post) (draft : Draft)
    (d d' : Desk) : Prop where
  holds : d'.HoldsOn ids (Grouping.thread w held [draft])
  sameBacking : d.threads.SameBacking d'.threads
  knows {id : String} : d.threads.posts.contains id = true ∨ draft.opens id = true →
    d'.threads.posts.contains id = true

/-- Drafts that enter threads which are held leave them as they are in the grouping. -/
theorem HoldsOn.entered {drafts : List Draft} (h : d.HoldsOn ids held)
    (hids : ∀ draft ∈ drafts, draft.message.threadId ∈ ids) (hentered : Entered w drafts d d') :
    d'.HoldsOn ids (Grouping.thread w held drafts) := by
  refine h.of_content hentered.separate hentered.sameBacking (fun id hknown => ?_) fun id hid => ?_
  · obtain ⟨post, hpost⟩ := Table.contains_iff.1 hknown
    rw [hentered.find?_posts] at hpost
    split at hpost
    · next hbelongs =>
      obtain ⟨draft, hmem, hdraft⟩ := List.any_eq_true.1 hbelongs
      exact Draft.belongs_iff.1 hdraft ▸ hids draft hmem
    · exact h.within (Table.contains_iff.2 ⟨post, hpost⟩)
  · -- what is held reads, and so does what comes of it
    have hreads : ∀ problem, d'.threads.content id ≠ some (.error problem) := by
      intro problem hread
      have hbefore := hentered.content_of_error hread
      rw [h.content hid, Option.map_eq_some_iff] at hbefore
      obtain ⟨post, -, heq⟩ := hbefore
      cases heq
    rw [Threads.content_eq hreads, hentered.standing, Grouping.thread_congr (h.standing hid)]

/-- **One step of the assembly.** The post ends up where the grouping says, and
the threads are then those of the grouping with one draft more. -/
theorem place_spec (h : d.HoldsOn ids held) (hid : draft.message.threadId ∈ ids) :
    ∃ d', place draft.message draft.post channel w d =
        .ok (Grouping.placement w held [] draft) d' ∧
      Placed ids w held (draft.entering channel (d.ledger.free draft.post.createAt)) d d' ∧
      d'.ledger = d.ledger.claim draft.post.createAt := by
  rcases @place_cases channel w d draft h.separate with
    ⟨d', hrun, hentered, hledger⟩ | ⟨error, d', -, -, hobstacle⟩
  · refine ⟨d', ?_, ⟨h.entered (fun other hmem => ?_) hentered, hentered.sameBacking,
      fun {id} hknows => ?_⟩, hledger⟩
    · rw [hrun, Grouping.placement_congr (h.standing hid)]
    · rw [List.mem_singleton.1 hmem]
      exact hid
    · exact hentered.knows (hknows.imp_right fun hopens => ⟨_, List.mem_singleton_self _, hopens⟩)
  · exact absurd hobstacle (h.not_obstacle hid)

/-! ## All posts of a channel -/

/-- **The assembly of a list of drafts is their grouping**, from whatever
threads it starts. -/
theorem placeAll_spec (h : d.Holds held) (drafts : List Draft) :
    ∃ d', placeAll channel w drafts d =
        .ok (Grouping.placements w held (stamped channel d.ledger drafts)) d' ∧
      d'.Holds (Grouping.thread w held (stamped channel d.ledger drafts)) ∧
      d.threads.SameBacking d'.threads := by
  induction drafts generalizing held d with
  | nil =>
    exact ⟨d, rfl, HoldsOn.congr h fun _ => Grouping.thread_nil.symm, Threads.SameBacking.refl⟩
  | cons draft rest ih =>
    obtain ⟨d', hplace, hplaced, hledger⟩ :=
      @place_spec channel w Set.univ held d draft h (Set.mem_univ _)
    obtain ⟨d'', hall, hholds', hback'⟩ := ih hplaced.holds
    rw [hledger] at hall hholds'
    refine ⟨d'', ?_, ?_, hplaced.sameBacking.trans hback'⟩
    · rw [stamped_cons, Grouping.placements_cons]
      unfold placeAll at hall ⊢
      rw [List.mapM_cons, Running.bind_of_ok hplace, Running.bind_of_ok hall]
      rfl
    · rw [stamped_cons]
      exact HoldsOn.congr hholds' fun _ => Grouping.thread_cons.symm

/-- **Assembling a channel in memory groups its messages.** Whatever the
messages are, the assembly succeeds; each post ends up where those before it
dictate; and what is left is one thread for each identifier that some message
opened, with the post that opened it last as its root, and with the posts
that answer it and come later as its replies. -/
theorem placeAll_groups (channel : Channel) (w : Bool) (drafts : List Draft) (roots : Roots)
    (backend : Backend) (log : Array LogLine) :
    let start : Desk :=
      ⟨⟨roots, ThreadStore.opened .memory, backend, log⟩, Ledger.empty⟩
    let entered := stamped channel Ledger.empty drafts
    ∃ d', placeAll channel w drafts start =
        .ok (Grouping.placements w (fun _ => none) entered) d' ∧
      (∀ id, d'.threads.posts.find? id = (Grouping.lastRoot? id entered).map fun root =>
        root.withReplies w (Grouping.replies id entered)) ∧
      d'.threads.posts.keys.Nodup ∧
      ∀ id, id ∈ d'.threads.posts.keys ↔ ∃ draft ∈ drafts, draft.opens id = true := by
  intro start entered
  have hstart : start.Holds fun _ => none := holds_opened rfl
  obtain ⟨d', hrun, hholds, hback⟩ := @placeAll_spec channel w _ start hstart drafts
  have hfind : ∀ id, d'.threads.posts.find? id = (Grouping.lastRoot? id entered).map fun root =>
      root.withReplies w (Grouping.replies id entered) := fun id => by
    rw [hholds.find?_posts hback.keeping, Grouping.thread, Grouping.root?, Option.or_none]
  refine ⟨d', hrun, hfind, Table.nodup_keys, fun id => ?_⟩
  rw [Table.mem_keys_iff, Table.contains, hfind, Option.isSome_map, Grouping.isSome_lastRoot?,
    exists_opens_stamped]

end Desk

end ChatImport
