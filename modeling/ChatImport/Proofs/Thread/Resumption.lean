import ChatImport.Proofs.Mattermost.Post
import ChatImport.Proofs.Thread.Timeless
/-!
# Runs that take up where others stopped

A run over a channel opens a store before the backend, puts posts into their
threads and flushes the store (`Desk.session`). A later run over the same
backend knows nothing of the earlier one but what it finds there: it misses
threads, fetches them, and reads their texts. `Desk.session_resumes` says
that this is enough. Wherever the messages of a channel are divided between
two runs, posts end up where they would in one run, and the backend holds the
same threads in the end, but for their creation times, which each run gives
out anew.

This rests on threads being read back as they were written, so it takes the
threads of each run to be `Desk.Legible`.
-/

namespace ChatImport

open Mattermost (Post Channel)

namespace Backend

/-- What the backend holds of the threads of a channel reads as a map says, and
no call will fail. -/
structure Stocks (name : String) (held : String → Option Post) (b : Backend) : Prop where
  /-- The texts read as the posts. -/
  reads_eq (id : String) : (b.entries.find? (threadKey name id)).map
    (Json.readString Post.decoder) = (held id).map .ok
  /-- No outage is planned. -/
  reliable (number : Nat) (call : Call) : b.outage number call = none

/-- What the backend holds under a key, as it reads and without creation
times. -/
def reads (b : Backend) (key : String) : Option (Except Json.Problem Post) :=
  (b.entries.find? key).map fun text => (Json.readString Post.decoder text).map Post.timeless

/-- A backend whose texts for a channel all read stocks what they say. -/
theorem stocks_of_decodes {name : String} {b : Backend}
    (hreliable : ∀ number call, b.outage number call = none)
    (hdecodes : ∀ id text, b.entries.find? (threadKey name id) = some text →
      ∃ post, Json.readString Post.decoder text = .ok post) :
    ∃ held, b.Stocks name held := by
  refine ⟨fun id => (b.entries.find? (threadKey name id)).bind fun text =>
    (Json.readString Post.decoder text).toOption, fun id => ?_, hreliable⟩
  cases hfind : b.entries.find? (threadKey name id) with
  | none => rfl
  | some text =>
    obtain ⟨post, hread⟩ := hdecodes id text hfind
    simp only [Option.map_some, Option.bind_some, hread]
    rfl

theorem Stocks.reads_threadKey {name : String} {held : String → Option Post} {b : Backend}
    (h : b.Stocks name held) (id : String) :
    b.reads (threadKey name id) = ((held id).map Post.timeless).map .ok := by
  have hreads : b.reads (threadKey name id) = ((b.entries.find? (threadKey name id)).map
      (Json.readString Post.decoder)).map (Except.map Post.timeless) := by
    rw [reads, Option.map_map]
    rfl
  rw [hreads, h.reads_eq, Option.map_map, Option.map_map]
  rfl

end Backend

/-- The post of a draft reads back where it may come to stand, as a root, or two levels
further in as a reply. -/
structure Draft.Fits (level : Nat) (d : Draft) : Prop where
  root : d.post.Readable (level + 2)
  reply : d.message.isReply = true → d.post.Readable level

namespace Desk

variable {channel : Channel} {name : String} {w : Bool} {held : String → Option Post}
variable {backend : Backend} {log : Array LogLine}

/-- A desk with a store that has just been opened before the backend. -/
def opened (name : String) (backend : Backend) (log : Array LogLine) : Desk :=
  ⟨⟨Roots.empty, ThreadStore.opened (.backend name), backend, log⟩, Ledger.empty⟩

/-- A run over the drafts of a channel: they are put into their threads, and the
changed threads are flushed. -/
def session (channel : Channel) (importWorkflows : Bool) (drafts : List Draft) :
    EStateM Error Desk (List Placement) := do
  let placements ← placeAll channel importWorkflows drafts
  onThreads Threads.flush
  return placements

/-- The threads that the store knows of read back from their texts. -/
def Legible (d : Desk) : Prop :=
  ∀ post ∈ d.threads.posts.values, post.Readable Json.deepestNesting

theorem Stocks.holds (h : backend.Stocks name held) : (opened name backend log).Holds held := by
  refine ⟨Threads.separate_opened rfl, Or.inr h.reliable, fun _ => Set.mem_univ _,
    fun {id} _ => ?_⟩
  rw [Threads.content_of_backend rfl (by rw [Threads.posts_opened rfl, Table.find?_empty])]
  exact h.reads_eq id

/-- **A run leaves the grouping of its drafts.** Its threads are among those of
the grouping, and if they can be read back the backend stocks the grouping;
outside the channel nothing is written. -/
theorem session_spec (h : backend.Stocks name held) (drafts : List Draft) :
    ∃ d, session channel w drafts (opened name backend log) =
        .ok (Grouping.placements w held (stamped channel Ledger.empty drafts)) d ∧
      (∀ id post, d.threads.posts.find? id = some post →
        Grouping.thread w held (stamped channel Ledger.empty drafts) id = some post) ∧
      (d.Legible → d.threads.backend.Stocks name
        (Grouping.thread w held (stamped channel Ledger.empty drafts))) ∧
      ∀ key, (∀ id, key ≠ threadKey name id) →
        d.threads.backend.entries.find? key = backend.entries.find? key := by
  obtain ⟨d, hplace, hholds, hback⟩ :=
    @placeAll_spec channel w held _ (Stocks.holds h) drafts
  have hkeeping : d.threads.store.keeping = .backend name := hback.keeping
  -- the plan of outages has not moved, so the flush is not refused either
  have hnever : ∀ number call, d.threads.backend.outage number call = none := fun _ _ => by
    rw [hback.outage]
    exact h.reliable _ _
  obtain ⟨t, hflush, hflushed⟩ := Threads.flush_of_reliable hkeeping hnever
  have hthread : ∀ id post, d.threads.posts.find? id = some post →
      Grouping.thread w held (stamped channel Ledger.empty drafts) id = some post :=
    fun id post hpost => hholds.held_of_post hpost
  refine ⟨{ d with threads := t }, ?_,
    fun id post hpost => hthread id post (hflushed.posts ▸ hpost),
    fun hlegible => ⟨fun id => ?_, fun number call => ?_⟩, fun key hkey => ?_⟩
  · unfold session
    rw [Running.bind_of_ok hplace, Running.bind_of_ok (onThreads_of_ok hflush)]
    rfl
  · -- what was flushed reads back, and what was not is as it was
    change (t.backend.entries.find? _).map _ = _
    cases hfind : d.threads.posts.find? id with
    | some post =>
      have hread := Post.readString_text
        (hlegible post (Table.mem_values_iff.2
          ⟨id, (hflushed.posts.symm ▸ hfind : t.posts.find? id = _)⟩))
      rw [hflushed.written hfind, Option.map_some, hread, hthread id post hfind, Option.map_some]
    | none =>
      have hcontent := hholds.content (Set.mem_univ id)
      rw [Threads.content_of_backend hkeeping hfind] at hcontent
      rw [hflushed.find?_of_none hfind]
      exact hcontent
  · change t.backend.outage number call = none
    rw [hflushed.outage]
    exact hnever number call
  · change t.backend.entries.find? key = _
    rw [hflushed.untouched fun id _ => hkey id, hback.entries]
    rfl

/-! ## Legible threads -/

/-- A thread reads back if its root does, and if its replies do where two levels
fewer may be opened. -/
theorem readable_withReplies {level : Nat} {root : Post} {replies : List Post}
    (hroot : root.Readable (level + 2)) (hreplies : ∀ reply ∈ replies, reply.Readable level) :
    (root.withReplies w replies).Readable (level + 2) := by
  by_cases hclosed : root.closed w = true
  · rwa [Post.withReplies_of_closed hclosed]
  · rw [Post.withReplies_of_open hclosed]
    cases hroot with
    | mk hprops hleast hgreatest hold =>
      refine .mk hprops hleast hgreatest fun reply hmem => ?_
      rcases List.mem_append.1 hmem with hmem | hmem
      · exact hold reply hmem
      · exact hreplies reply hmem

theorem readable_thread {level : Nat} {drafts : List Draft}
    (hheld : ∀ id post, held id = some post → post.Readable (level + 2))
    (hdrafts : ∀ draft ∈ drafts, draft.Fits level) (id : String) (post : Post)
    (h : Grouping.thread w held drafts id = some post) : post.Readable (level + 2) := by
  induction drafts using List.reverseRecOn generalizing post with
  | nil =>
    rw [Grouping.thread_nil] at h
    exact hheld id post h
  | append_singleton rest draft ih =>
    have hdraft := hdrafts draft (List.mem_append_right _ List.mem_cons_self)
    have hrest := ih fun other hmem => hdrafts other (List.mem_append_left _ hmem)
    rw [Grouping.thread_concat] at h
    split at h
    · rw [← Option.some.inj h]
      exact hdraft.root
    split at h
    · next hanswers =>
      rw [Option.map_eq_some_iff] at h
      obtain ⟨root, hroot, rfl⟩ := h
      refine readable_withReplies (hrest root hroot) fun reply hmem => ?_
      rw [List.mem_singleton.1 hmem]
      exact hdraft.reply (Bool.and_eq_true_iff.1 hanswers).1
    · exact hrest post h

theorem readable_entering {level : Nat} {draft : Draft} {time : Int}
    (h : draft.post.Readable level) (hleast : Json.leastInteger ≤ time)
    (hgreatest : time ≤ Json.greatestInteger) :
    (draft.entering channel time).post.Readable level := by
  cases h with
  | mk hprops _ _ hreplies =>
    unfold Draft.entering Post.inChannel
    split
    · exact .mk hprops hleast hgreatest hreplies
    · exact .mk hprops hleast hgreatest hreplies

theorem fits_stamped {level : Nat} {ledger : Ledger} {drafts : List Draft}
    (h : ∀ draft ∈ drafts, draft.Fits level)
    (htimes : ∀ time ∈ ledger.times (drafts.map fun d => d.post.createAt),
      Json.leastInteger ≤ time ∧ time ≤ Json.greatestInteger) :
    ∀ draft ∈ stamped channel ledger drafts, draft.Fits level := by
  induction drafts generalizing ledger with
  | nil => exact fun _ hmem => nomatch hmem
  | cons draft rest ih =>
    rw [stamped_cons]
    intro other hmem
    rcases List.mem_cons.1 hmem with rfl | hmem
    · obtain ⟨hleast, hgreatest⟩ := htimes _ List.mem_cons_self
      obtain ⟨hroot, hreply⟩ := h draft List.mem_cons_self
      exact ⟨readable_entering hroot hleast hgreatest,
        fun hanswers => readable_entering (hreply hanswers) hleast hgreatest⟩
    · exact ih (fun draft hmem => h draft (List.mem_cons_of_mem _ hmem))
        (fun time hmem => htimes time (List.mem_cons_of_mem _ hmem)) other hmem

/-- **Posts that leave room for a thread around them make legible threads.** -/
theorem session_legible (h : backend.Stocks name held) {drafts : List Draft}
    (hheld : ∀ id post, held id = some post → post.Readable Json.deepestNesting)
    (hdrafts : ∀ draft ∈ drafts, draft.post.Readable (Json.deepestNesting - 2))
    (htimes : ∀ time ∈ Ledger.empty.times (drafts.map fun d => d.post.createAt),
      Json.leastInteger ≤ time ∧ time ≤ Json.greatestInteger) :
    let d := Running.stateAfter (session channel w drafts) (opened name backend log)
    let thread := Grouping.thread w held (stamped channel Ledger.empty drafts)
    d.Legible ∧ d.threads.backend.Stocks name thread ∧
      ∀ id post, thread id = some post → post.Readable Json.deepestNesting := by
  intro d thread
  obtain ⟨d', hrun, hthread, hstocks, -⟩ :=
    @session_spec channel name w held backend log h drafts
  obtain rfl : d = d' := Running.stateAfter_of_ok hrun
  have hreadable : ∀ id post, thread id = some post → post.Readable Json.deepestNesting :=
    readable_thread hheld (fits_stamped
      (fun draft hmem => ⟨(hdrafts draft hmem).mono _ (by decide), fun _ => hdrafts draft hmem⟩)
      htimes)
  have hlegible : d.Legible := fun post hmem => by
    obtain ⟨id, hfind⟩ := Table.mem_values_iff.1 hmem
    exact hreadable id post (hthread id post hfind)
  exact ⟨hlegible, hstocks hlegible, hreadable⟩

/-! ## Two runs for one -/

/-- **A channel in two runs is a channel in one.** Let the messages of a channel
be divided between two runs over a backend that never fails and whose texts for
the channel all read. If the threads of the runs are legible, the two runs and
the one run over all messages succeed, posts end up in the same places, and
the backend then reads the same under every key, but for creation times. -/
theorem session_resumes (channel : Channel) (name : String) (w : Bool) (early late : List Draft)
    (backend : Backend) (log log' : Array LogLine)
    (hreliable : ∀ number call, backend.outage number call = none)
    (hdecodes : ∀ id text, backend.entries.find? (threadKey name id) = some text →
      ∃ post, Json.readString Post.decoder text = .ok post)
    (first second whole : Desk)
    (hfirst : first = Running.stateAfter (session channel w early) (opened name backend log))
    (hsecond : second = Running.stateAfter (session channel w late)
      (opened name first.threads.backend log'))
    (hwhole : whole = Running.stateAfter (session channel w (early ++ late))
      (opened name backend log))
    (hlegible : first.Legible ∧ second.Legible ∧ whole.Legible) :
    ∃ placed placed', session channel w early (opened name backend log) = .ok placed first ∧
      session channel w late (opened name first.threads.backend log') = .ok placed' second ∧
      session channel w (early ++ late) (opened name backend log) =
        .ok (placed ++ placed') whole ∧
      placed.length = early.length ∧ placed'.length = late.length ∧
      ∀ key, second.threads.backend.reads key = whole.threads.backend.reads key := by
  obtain ⟨held, hstocks⟩ := Backend.stocks_of_decodes hreliable hdecodes
  obtain ⟨d₁, hrun₁, -, hstocks₁, hother₁⟩ :=
    @session_spec channel name w held backend log hstocks early
  obtain ⟨d, hrun, -, hstocks', hother⟩ :=
    @session_spec channel name w held backend log hstocks (early ++ late)
  obtain rfl : first = d₁ := hfirst.trans (Running.stateAfter_of_ok hrun₁)
  obtain rfl : whole = d := hwhole.trans (Running.stateAfter_of_ok hrun)
  obtain ⟨hlegible₁, hlegible₂, hlegible'⟩ := hlegible
  -- the second run starts from the grouping that the first has left
  obtain ⟨d₂, hrun₂, -, hstocks₂, hother₂⟩ :=
    @session_spec channel name w _ _ log' (hstocks₁ hlegible₁) late
  obtain rfl : second = d₂ := hsecond.trans (Running.stateAfter_of_ok hrun₂)
  refine ⟨_, _, hrun₁, hrun₂, ?_, ?_, ?_, fun key => ?_⟩
  · rw [hrun, ← Grouping.placements_resumed]
  · rw [Grouping.length_placements, length_stamped]
  · rw [Grouping.length_placements, length_stamped]
  · -- under the keys of the channel both backends stock one grouping, but for times
    by_cases hkey : ∃ id, key = threadKey name id
    · obtain ⟨id, rfl⟩ := hkey
      rw [(hstocks₂ hlegible₂).reads_threadKey, (hstocks' hlegible').reads_threadKey,
        Grouping.thread_resumed]
    · rw [not_exists] at hkey
      rw [Backend.reads, Backend.reads, hother₂ key hkey, hother₁ key hkey, hother key hkey]

/-- The second run finds the root of its first reply in the backend, in which
both runs begin with the same time. -/
theorem session_resumes_of_late_reply :
    let channel : Channel := ⟨"C1", "general", "general", "general", [], [], "", "", "", .openToAll⟩
    let early : List Draft :=
      [⟨{ Slack.Message.blank with timestamp := "1.0" }, Post.plain "ann" "general" "first" 1000⟩]
    let late : List Draft :=
      [⟨{ Slack.Message.blank with timestamp := "1.2", threadTimestamp := "1.0" },
        Post.plain "bob" "general" "answer" 1000⟩,
        ⟨{ Slack.Message.blank with timestamp := "1.3" },
          Post.plain "bob" "general" "second" 1000⟩]
    let start := opened "general" Backend.empty #[]
    let first := Running.stateAfter (session channel false early) start
    let second := Running.stateAfter (session channel false late)
      (opened "general" first.threads.backend #[])
    let whole := Running.stateAfter (session channel false (early ++ late)) start
    ∃ placed placed', session channel false early start = .ok placed first ∧
      session channel false late (opened "general" first.threads.backend #[]) =
        .ok placed' second ∧
      session channel false (early ++ late) start = .ok (placed ++ placed') whole ∧
      placed.length = early.length ∧ placed'.length = late.length ∧
      ∀ key, second.threads.backend.reads key = whole.threads.backend.reads key := by
  intro channel early late start first second whole
  have hempty : Backend.empty.Stocks "general" fun _ => none :=
    ⟨fun _ => rfl, fun _ _ => rfl⟩
  have hleast : Json.leastInteger ≤ 1000 := by decide
  have hgreatest : 1000 ≤ Json.greatestInteger := by decide
  have hplain : ∀ user text, (Post.plain user "general" text 1000).Readable 125 := fun _ _ =>
    .mk (.object List.Pairwise.nil (fun _ hmem => nomatch hmem)) hleast hgreatest
      (fun _ hmem => nomatch hmem)
  have hdrafts : ∀ draft ∈ early ++ late, draft.post.Readable 125 := fun draft hmem => by
    rcases List.mem_cons.1 hmem with rfl | hmem
    · exact hplain _ _
    rcases List.mem_cons.1 hmem with rfl | hmem
    · exact hplain _ _
    · rw [List.mem_singleton.1 hmem]
      exact hplain _ _
  obtain ⟨hlegible₁, hstocks₁, hheld₁⟩ :=
    @session_legible channel "general" false _ _ #[] hempty early (fun _ _ h => nomatch h)
      (fun draft hmem => hdrafts draft (List.mem_append_left _ hmem)) (by decide)
  obtain ⟨hlegible₂, -⟩ :=
    @session_legible channel "general" false _ _ #[] hstocks₁ late hheld₁
      (fun draft hmem => hdrafts draft (List.mem_append_right _ hmem)) (by decide)
  obtain ⟨hlegible, -⟩ :=
    @session_legible channel "general" false _ _ #[] hempty (early ++ late)
      (fun _ _ h => nomatch h) hdrafts (by decide)
  exact session_resumes channel "general" false early late Backend.empty #[] #[]
    (fun _ _ => rfl) (fun _ _ hfind => nomatch hfind) first second whole rfl rfl rfl
    ⟨hlegible₁, hlegible₂, hlegible⟩

end Desk

end ChatImport
