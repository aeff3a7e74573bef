import ChatImport.Conversion.Run
import ChatImport.Proofs.Conversion.Posts
import ChatImport.Proofs.Slack.Timestamp
import ChatImport.Proofs.Summary
import ChatImport.Proofs.Thread.Assembly
/-!
# The assembly of a channel while its messages are converted

The messages of a channel are converted and assembled in turn. Which of them
become posts is only known on the way, since the conversion of one may make
a user for the next; `ChannelRun.drafts` collects the posts as they are made.
What the threads of the channel stand for in the end is the grouping of these
(`ChannelRun.takeAll_spec`): making posts and placing them do not get in each
other's way.
-/

namespace ChatImport

open Mattermost (Post Channel)

/-! ## Stamping in two stretches -/

theorem Ledger.claimAll_append {ledger : Ledger} {early late : List Int} :
    ledger.claimAll (early ++ late) = (ledger.claimAll early).claimAll late := by
  simp only [claimAll, List.foldl_append]

theorem stamped_append {channel : Channel} {ledger : Ledger} {early late : List Draft} :
    stamped channel ledger (early ++ late) = stamped channel ledger early ++
      stamped channel (ledger.claimAll (early.map fun d => d.post.createAt)) late := by
  induction early generalizing ledger with
  | nil => rfl
  | cons draft rest ih =>
    rw [List.cons_append, stamped_cons, stamped_cons, ih, List.cons_append]
    rfl

namespace ChannelRun

variable {config : Config} {uploads : Uploads} {channel : Channel} {w : Bool}
variable {ids : Set String} {held : String → Option Post} {r r' r'' : ChannelRun}
variable {ds ds' : List Draft}

/-- The draft that comes of a message, if one does. -/
def draftOf (config : Config) (uploads : Uploads) (channel : Channel)
    (message : Slack.Message) (r : ChannelRun) : List Draft :=
  match Conversion.postFor config uploads message channel r.conversion with
  | .ok (some post) _ => [⟨message, post⟩]
  | _ => []

/-- The drafts that come of messages which are taken one after the other. -/
def drafts (config : Config) (uploads : Uploads) (channel : Channel) :
    List Slack.Message → ChannelRun → List Draft
  | [], _ => []
  | message :: rest, r =>
    draftOf config uploads channel message r ++
      drafts config uploads channel rest
        (Running.stateAfter (take config uploads channel message) r)

/-- Messages have been taken, and drafts have come of them: the drafts have entered
their threads and are counted, and what was there before has only grown. -/
structure Passed (config : Config) (channel : Channel) (r r' : ChannelRun)
    (messages : List Slack.Message) (ds : List Draft) : Prop where
  entered : Desk.Entered config.importWorkflowMessages (stamped channel r.ledger ds) r.desk
    r'.desk
  /-- The times have been claimed. -/
  ledger : r'.ledger = r.ledger.claimAll (ds.map fun d => d.post.createAt)
  /-- The posts made before are the same. -/
  posts : r'.conversion.content.posts = r.conversion.content.posts
  grown : r.conversion.Grown r'.conversion
  /-- The names are what the messages have made of them. -/
  names : r'.conversion.username? =
    messages.foldl (Conversion.namesFor config) r.conversion.username?
  /-- The authors are known. -/
  known : ∀ d ∈ ds, ∃ id, r'.conversion.username? id = some d.post.user
  /-- Each message has been counted. -/
  summary : r'.conversion.summary =
    (r.conversion.summary.recordAll (Grouping.placements config.importWorkflowMessages
      r.desk.threads.standing (stamped channel r.ledger ds))).skipping
        (messages.length - ds.length)
  length_le : ds.length ≤ messages.length

theorem Passed.refl (h : r.desk.threads.Separate) : Passed config channel r r [] [] where
  entered := Desk.Entered.refl h
  ledger := rfl
  posts := rfl
  grown := .refl
  names := rfl
  known := fun _ hmem => nomatch hmem
  summary := rfl
  length_le := Nat.le_refl 0

theorem Passed.trans {ms ms' : List Slack.Message} (h : Passed config channel r r' ms ds)
    (h' : Passed config channel r' r'' ms' ds') :
    Passed config channel r r'' (ms ++ ms') (ds ++ ds') where
  entered := by
    rw [stamped_append, ← h.ledger]
    exact h.entered.trans h'.entered
  ledger := by rw [h'.ledger, h.ledger, List.map_append, Ledger.claimAll_append]
  posts := h'.posts.trans h.posts
  grown := h.grown.trans h'.grown
  names := by rw [h'.names, h.names, List.foldl_append]
  known := by
    intro d hmem
    rcases List.mem_append.1 hmem with hmem | hmem
    · obtain ⟨id, hid⟩ := h.known d hmem
      exact ⟨id, h'.grown.username?_of_some hid⟩
    · exact h'.known d hmem
  summary := by
    have hle := h.length_le
    have hle' := h'.length_le
    have hstanding := funext h.entered.standing
    rw [h'.summary, h.summary, Summary.recordAll_skipping, Summary.skipping_skipping,
      ← Summary.recordAll_append, stamped_append, ← h.ledger, Grouping.placements_append,
      ← hstanding, List.length_append, List.length_append]
    congr 1
    omega
  length_le := by
    have hle := h.length_le
    have hle' := h'.length_le
    rw [List.length_append, List.length_append]
    omega

/-- The assembly has ended at one of the messages: the posts made before are the same,
and so is what the backend has. -/
structure Halted (config : Config) (r r' : ChannelRun) (messages : List Slack.Message)
    (error : Error) : Prop where
  posts : r'.conversion.content.posts = r.conversion.content.posts
  sameBacking : r.desk.threads.SameBacking r'.desk.threads
  /-- A file was not to be copied, or something stood in the way of a post. -/
  cause : config.skipAttachments = false ∨
    ∃ message ∈ messages, r.desk.threads.Obstacle message.threadId error

theorem converting_of_ok {α : Type} {act : Converting α} {value : α} {c : Conversion}
    (h : act r.conversion = .ok value c) :
    converting act r = .ok value { r with conversion := c } := by
  simp only [converting, h]

theorem converting_of_error {α : Type} {act : Converting α} {error : Error} {c : Conversion}
    (h : act r.conversion = .error error c) :
    converting act r = .error error { r with conversion := c } := by
  simp only [converting, h]

theorem atDesk_of_ok {α : Type} {act : EStateM Error Desk α} {value : α} {d : Desk}
    (h : act r.desk = .ok value d) : atDesk act r = .ok value (r.after d) := by
  simp only [atDesk, h]

theorem atDesk_of_error {α : Type} {act : EStateM Error Desk α} {error : Error} {d : Desk}
    (h : act r.desk = .error error d) : atDesk act r = .error error (r.after d) := by
  simp only [atDesk, h]

/-- A conversion that leaves the backend alone leaves the threads alone. -/
theorem still_converting {c : Conversion} (h : c.backend = r.conversion.backend) :
    r.desk.threads.Still { r with conversion := c }.desk.threads :=
  ⟨rfl, rfl, congrArg Backend.entries h, congrArg Backend.outage h⟩

/-- **One message before any backend**: the draft that comes of it enters its thread, or
the assembly ends. -/
theorem take_cases (hsep : r.desk.threads.Separate) (message : Slack.Message) :
    (∃ r', take config uploads channel message r = .ok () r' ∧
      Passed config channel r r' [message] (draftOf config uploads channel message r)) ∨
    ∃ error r', take config uploads channel message r = .error error r' ∧
      Halted config r r' [message] error := by
  unfold take draftOf
  rcases Conversion.postFor_spec config uploads message channel r.conversion with
    ⟨made, c, hpost, hmet⟩ | ⟨hskip, error, c, hpost, hbeside⟩
  · rw [Running.bind_of_ok (converting_of_ok hpost), hpost]
    -- the post is made before it enters, and making it leaves the threads alone
    have hstill := still_converting hmet.backend
    have hsep' := hstill.separate hsep
    cases made with
    | none =>
      refine Or.inl ⟨_, rfl, (Desk.Entered.refl hsep').of_still hstill, rfl, hmet.posts,
        hmet.grown.trans (.of_content rfl), hmet.username?_eq, (fun _ hmem => nomatch hmem), ?_,
        Nat.zero_le 1⟩
      change { c.summary with skipped := c.summary.skipped + 1 } = _
      rw [hmet.summary]
      rfl
    | some post =>
      simp only []
      rcases @Desk.place_cases channel config.importWorkflowMessages
          { r with conversion := c }.desk ⟨message, post⟩ hsep' with
        ⟨d, hplace, hentered, hledger⟩ | ⟨error, d, hplace, hback, hobstacle⟩
      · rw [Running.bind_of_ok (atDesk_of_ok hplace)]
        refine Or.inl ⟨_, rfl, hentered.of_still hstill, hledger, hmet.posts,
          hmet.grown.trans (.of_content rfl), hmet.username?_eq, fun d' hmem => ?_, ?_,
          Nat.le_refl 1⟩
        · rw [List.mem_singleton.1 hmem]
          exact hmet.exists_name rfl
        · change c.summary.record _ = _
          rw [hmet.summary, hstill.standing]
          rfl
      · rw [Running.bind_of_error (atDesk_of_error hplace)]
        exact Or.inr ⟨error, _, rfl, hmet.posts, hstill.sameBacking.trans hback,
          Or.inr ⟨message, List.mem_singleton_self _, hstill.obstacle hobstacle⟩⟩
  · rw [Running.bind_of_error (converting_of_error hpost)]
    have hposts : c.content.posts = r.conversion.content.posts := by
      rw [hbeside.content, Conversion.posts_withAuthorFor]
    have hstill := still_converting (hbeside.backend.trans Conversion.backend_withAuthorFor)
    exact Or.inr ⟨error, _, rfl, hposts, hstill.sameBacking, Or.inl hskip⟩

/-- **All messages of a channel before any backend**: the drafts that come of them enter
their threads, or the assembly ends at one of them. -/
theorem takeAll_cases (hsep : r.desk.threads.Separate) (messages : List Slack.Message) :
    (∃ r', takeAll config uploads channel messages r = .ok () r' ∧
      Passed config channel r r' messages (drafts config uploads channel messages r)) ∨
    ∃ error r', takeAll config uploads channel messages r = .error error r' ∧
      Halted config r r' messages error := by
  induction messages generalizing r with
  | nil => exact Or.inl ⟨r, rfl, Passed.refl hsep⟩
  | cons message rest ih =>
    unfold takeAll drafts
    rcases @take_cases config uploads channel r hsep message with
      ⟨r', hrun, hpassed⟩ | ⟨error, r', hrun, hhalted⟩
    · rw [Running.bind_of_ok hrun, Running.stateAfter_of_ok hrun]
      rcases ih hpassed.entered.separate with
        ⟨r'', hrun', hpassed'⟩ | ⟨error, r'', hrun', hhalted⟩
      · exact Or.inl ⟨r'', hrun', hpassed.trans hpassed'⟩
      · refine Or.inr ⟨error, r'', hrun', hhalted.posts.trans hpassed.posts,
          hpassed.entered.sameBacking.trans hhalted.sameBacking, hhalted.cause.imp_right ?_⟩
        rintro ⟨later, hmem, hobstacle⟩
        exact ⟨later, List.mem_cons_of_mem _ hmem, hpassed.entered.obstacle hobstacle⟩
    · rw [Running.bind_of_error hrun]
      refine Or.inr ⟨error, r', rfl, hhalted.posts, hhalted.sameBacking,
        hhalted.cause.imp_right ?_⟩
      rintro ⟨other, hmem, hobstacle⟩
      exact ⟨message, List.mem_cons_self, List.mem_singleton.1 hmem ▸ hobstacle⟩

/-! ## What is known of the drafts -/

/-- The messages of the drafts stand in the order in which they are taken. -/
theorem sublist_drafts (config : Config) (uploads : Uploads) (channel : Channel)
    (messages : List Slack.Message) (r : ChannelRun) :
    ((drafts config uploads channel messages r).map Draft.message).Sublist messages := by
  induction messages generalizing r with
  | nil => exact List.Sublist.refl _
  | cons message rest ih =>
    rw [drafts, List.map_append, ← List.singleton_append]
    refine List.Sublist.append ?_ (ih _)
    unfold draftOf
    split
    · exact List.Sublist.refl _
    · exact List.nil_sublist _

/-- The post of each draft is what is told of its message by the names of that moment, with
the files that were copied for it. -/
theorem exists_told_of_mem_drafts {messages : List Slack.Message} {d : Draft}
    (h : d ∈ drafts config uploads channel messages r) : ∃ names told paths,
      Conversion.postOf? config names d.message channel = some told ∧
        d.post = { told with attachments := paths } := by
  induction messages generalizing r with
  | nil => cases h
  | cons message rest ih =>
    rw [drafts, List.mem_append] at h
    rcases h with h | h
    · unfold draftOf at h
      rcases Conversion.postFor_spec config uploads message channel r.conversion with
        ⟨made, c, hpost, hmet⟩ | ⟨-, error, c, hpost, -⟩
      · rw [hpost] at h
        cases made with
        | none => cases h
        | some post =>
          rw [List.mem_singleton.1 h]
          exact ⟨_, hmet.exists_told rfl⟩
      · rw [hpost] at h
        cases h
    · exact ih h

/-- Each draft has a new post of its message. -/
theorem newPost_of_mem_drafts {messages : List Slack.Message} {d : Draft}
    (h : d ∈ drafts config uploads channel messages r) :
    Conversion.NewPost d.message channel d.post := by
  obtain ⟨names, told, paths, htold, hpost⟩ := exists_told_of_mem_drafts h
  rw [hpost]
  exact Conversion.newPost_of_postOf? htold paths

/-! ## Threads that are held -/

/-- Messages have been taken, and drafts have come of them: the drafts are assembled
and counted, and what was there before has only grown. -/
structure Took (config : Config) (channel : Channel) (ids : Set String)
    (held : String → Option Post) (r r' : ChannelRun) (messages : List Slack.Message)
    (ds : List Draft) : Prop where
  /-- The threads are those of the grouping. -/
  holds : r'.desk.HoldsOn ids (Grouping.thread config.importWorkflowMessages held
    (stamped channel r.ledger ds))
  /-- The store knows of the threads that the drafts open. -/
  knows {id : String} :
    r.desk.threads.posts.contains id = true ∨ (∃ d ∈ ds, d.opens id = true) →
      r'.desk.threads.posts.contains id = true
  /-- The times have been claimed. -/
  ledger : r'.ledger = r.ledger.claimAll (ds.map fun d => d.post.createAt)
  sameBacking : r.desk.threads.SameBacking r'.desk.threads
  /-- The posts made before are the same. -/
  posts : r'.conversion.content.posts = r.conversion.content.posts
  grown : r.conversion.Grown r'.conversion
  /-- The names are what the messages have made of them. -/
  names : r'.conversion.username? =
    messages.foldl (Conversion.namesFor config) r.conversion.username?
  /-- The authors are known. -/
  known : ∀ d ∈ ds, ∃ id, r'.conversion.username? id = some d.post.user
  /-- Each message has been counted. -/
  summary : r'.conversion.summary =
    (r.conversion.summary.recordAll (Grouping.placements config.importWorkflowMessages held
      (stamped channel r.ledger ds))).skipping (messages.length - ds.length)
  length_le : ds.length ≤ messages.length

/-- Where threads are held, the drafts that have entered are assembled. -/
theorem Passed.took {messages : List Slack.Message} (h : r.desk.HoldsOn ids held)
    (hpassed : Passed config channel r r' messages ds)
    (hids : ∀ d ∈ ds, d.message.threadId ∈ ids) :
    Took config channel ids held r r' messages ds := by
  have hstamped : ∀ d ∈ stamped channel r.ledger ds, d.message.threadId ∈ ids := by
    intro d hmem
    obtain ⟨draft, hdraft, heq⟩ := exists_of_mem_stamped hmem
    exact heq ▸ hids draft hdraft
  refine ⟨h.entered hstamped hpassed.entered, fun {id} hknows => hpassed.entered.knows ?_,
    hpassed.ledger, hpassed.entered.sameBacking, hpassed.posts, hpassed.grown, hpassed.names,
    hpassed.known, ?_, hpassed.length_le⟩
  · rwa [exists_opens_stamped]
  · rw [hpassed.summary, Grouping.placements_congr fun d hmem => h.standing (hstamped d hmem)]

/-- **All messages of a channel**: the drafts that come of them are assembled. Only where
files are copied can it fail. -/
theorem takeAll_spec (h : r.desk.HoldsOn ids held) {messages : List Slack.Message}
    (hids : ∀ message ∈ messages, message.threadId ∈ ids) :
    (∃ r', takeAll config uploads channel messages r = .ok () r' ∧
      Took config channel ids held r r' messages
        (drafts config uploads channel messages r)) ∨
    config.skipAttachments = false ∧
      ∃ error r', takeAll config uploads channel messages r = .error error r' := by
  rcases @takeAll_cases config uploads channel r h.separate messages with
    ⟨r', hrun, hpassed⟩ | ⟨error, r', hrun, hhalted⟩
  · refine Or.inl ⟨r', hrun, hpassed.took h fun d hd => hids _ ?_⟩
    exact (sublist_drafts config uploads channel messages r).subset (List.mem_map_of_mem hd)
  · refine Or.inr ⟨hhalted.cause.resolve_right ?_, error, r', hrun⟩
    rintro ⟨message, hmem, hobstacle⟩
    exact h.not_obstacle (hids message hmem) hobstacle

end ChannelRun

end ChatImport
