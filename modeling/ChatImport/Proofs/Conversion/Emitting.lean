import ChatImport.Proofs.Conversion.Runs
/-!
# Why a root is emitted

What a run adds to the posts are the roots that its stores have come to know. A store
comes to know of a root where a message is placed in its thread, and `Reason` says by
which placement: the root was stored, or a reply was added to it, or it was fetched from
the backend for a reply that was then dropped, since replies to workflows are not
imported. A root that was only fetched is emitted as the backend had it.

`ChannelRun.placed` lists the placements of a run as they are made. Every root that a
store knows of has a reason among them (`ChannelRun.Accounted`): one message keeps this
(`Accounted.take`), so all messages of a channel do, and the posts of a conversion are
what its channels have left, whichever way it ends (`Conversion.convertWith_emits`).
-/

namespace ChatImport

open Mattermost (Post Channel)

/-- Why a root is known to the store of a channel: what was placed in its thread. -/
inductive Reason (w : Bool) (held : Option Post) (root : Post) : Placement → Prop where
  | stored : Reason w held root .root
  | overwrote : Reason w held root .overwroteRoot
  | replied : Reason w held root .reply
  /-- It was fetched for a reply to a workflow, and is as it was held. -/
  | fetched : w = false → root.user = workflowUsername → held = some root →
    Reason w held root .workflowReplySkipped

namespace ChannelRun

variable {config : Config} {uploads : Uploads} {channel : Channel} {r r' : ChannelRun}
variable {held : String → Option Post} {trace : List (Slack.Message × Placement)}
variable {message : Slack.Message} {messages : List Slack.Message}

/-! ## Placements as they are made -/

/-- Where the post of a message ends up, if the message becomes a post and it can be
placed. -/
def placementOf? (config : Config) (uploads : Uploads) (channel : Channel)
    (message : Slack.Message) (r : ChannelRun) : Option Placement :=
  match converting (Conversion.postFor config uploads message channel) r with
  | .ok (some post) r' =>
    match atDesk (Desk.place message post channel config.importWorkflowMessages) r' with
    | .ok placement _ => some placement
    | .error _ _ => none
  | _ => none

/-- The messages whose posts are placed, each with where its post ends up. -/
def placed (config : Config) (uploads : Uploads) (channel : Channel) :
    List Slack.Message → ChannelRun → List (Slack.Message × Placement)
  | [], _ => []
  | message :: rest, r =>
    ((placementOf? config uploads channel message r).map fun p => (message, p)).toList ++
      placed config uploads channel rest
        (Running.stateAfter (take config uploads channel message) r)

/-- Every root that the store knows of has a reason among placements. -/
def Accounted (config : Config) (held : String → Option Post)
    (trace : List (Slack.Message × Placement)) (r : ChannelRun) : Prop :=
  ∀ id root, r.desk.threads.posts.find? id = some root → ∃ entry ∈ trace,
    entry.1.threadId = id ∧ Reason config.importWorkflowMessages (held id) root entry.2

end ChannelRun

/-! ## One message -/

namespace Desk

variable {w : Bool} {d d' : Desk} {draft : Draft} {held : String → Option Post}
variable {id : String} {root : Post}

/-- A reply makes known the root that it finds: the reply is added to it, or the root is one
of a workflow, and then it is as it was. -/
theorem Entered.reason_of_reply (h : Entered w [draft] d d')
    (hreply : draft.message.isReply = true)
    (hheld : (d.threads.kept draft.message.threadTimestamp).bind Except.toOption =
      held draft.message.threadTimestamp)
    (hroot : d'.threads.posts.find? draft.message.threadTimestamp = some root) :
    d.threads.posts.find? draft.message.threadTimestamp = some root ∨
      Reason w (held draft.message.threadTimestamp) root
        (Grouping.placement w d.threads.standing [] draft) := by
  have hanswers := (Draft.answers_iff_of_reply hreply).2 rfl
  have hbelongs : [draft].any (Draft.belongs draft.message.threadTimestamp) = true := by
    rw [List.any_cons, Draft.belongs, hanswers, Bool.or_true, Bool.true_or]
  rw [h.find?_posts, if_pos hbelongs, Grouping.thread_single_of_reply hreply,
    Option.map_eq_some_iff] at hroot
  obtain ⟨before, hstanding, rfl⟩ := hroot
  -- the thread reads, since nothing opens it anew
  have hreads : ∀ problem, d.threads.content draft.message.threadTimestamp ≠
      some (.error problem) := by
    intro problem hcontent
    obtain ⟨other, hmem, hopens⟩ :=
      h.opened_of_error hcontent ⟨draft, List.mem_singleton_self _, hanswers⟩
    rw [List.mem_singleton.1 hmem, Draft.opens, hreply] at hopens
    cases hopens
  have hcontent := Threads.content_eq hreads
  rw [hstanding, Option.map_some] at hcontent
  have hplacement : Grouping.placement w d.threads.standing [] draft =
      if before.closed w = true then .workflowReplySkipped else .reply := by
    rw [Grouping.placement, if_pos hreply, Grouping.root?_nil, hstanding]
  rw [hplacement]
  by_cases hclosed : before.closed w = true
  · rw [if_pos hclosed, Post.withReplies_of_closed hclosed]
    cases hfind : d.threads.posts.find? draft.message.threadTimestamp with
    | some known =>
      rw [Threads.content_of_post hfind] at hcontent
      cases hcontent
      exact Or.inl rfl
    | none =>
      rw [← Threads.content_of_none hfind, hcontent] at hheld
      simp only [Post.closed, Bool.and_eq_true, Bool.not_eq_true', beq_iff_eq] at hclosed
      exact Or.inr (.fetched hclosed.1 hclosed.2 hheld.symm)
  · rw [if_neg hclosed]
    exact Or.inr .replied

/-- **What one draft makes known has its placement for a reason**, or was known before. -/
theorem Entered.reason (h : Entered w [draft] d d')
    (hheld : ∀ id, (d.threads.kept id).bind Except.toOption = held id)
    (hroot : d'.threads.posts.find? id = some root) :
    d.threads.posts.find? id = some root ∨ draft.message.threadId = id ∧
      Reason w (held id) root (Grouping.placement w d.threads.standing [] draft) := by
  by_cases hid : draft.message.threadId = id
  · subst hid
    cases hreply : draft.message.isReply with
    | true =>
      rw [Slack.Message.threadId, if_pos hreply] at hroot ⊢
      exact (h.reason_of_reply hreply (hheld _) hroot).imp_right fun hreason => ⟨rfl, hreason⟩
    | false =>
      refine Or.inr ⟨rfl, ?_⟩
      rw [Grouping.placement, hreply, if_neg Bool.false_ne_true]
      split
      · exact .overwrote
      · exact .stored
  · rw [h.find?_posts, List.any_cons, List.any_nil, Bool.or_false,
      if_neg (mt Draft.belongs_iff.1 hid)] at hroot
    exact Or.inl hroot

end Desk

namespace ChannelRun

variable {config : Config} {uploads : Uploads} {channel : Channel} {r r' : ChannelRun}
variable {held : String → Option Post} {trace : List (Slack.Message × Placement)}
variable {message : Slack.Message} {messages : List Slack.Message}

/-- What the store would fetch is what is held. -/
def Fetches (held : String → Option Post) (r : ChannelRun) : Prop :=
  ∀ id, (r.desk.threads.kept id).bind Except.toOption = held id

/-- **A message that is taken** leaves the threads alone, or a draft of it enters them and
ends up where the placement says. -/
theorem take_placed (hsep : r.desk.threads.Separate)
    (hrun : take config uploads channel message r = .ok () r') :
    r.desk.threads.Still r'.desk.threads ∧
      placementOf? config uploads channel message r = none ∨
    ∃ draft : Draft, draft.message = message ∧
      Desk.Entered config.importWorkflowMessages [draft] r.desk r'.desk ∧
      placementOf? config uploads channel message r = some (Grouping.placement
        config.importWorkflowMessages r.desk.threads.standing [] draft) := by
  unfold take at hrun
  unfold placementOf?
  rcases Conversion.postFor_spec config uploads message channel r.conversion with
    ⟨made, c, hpost, hmet⟩ | ⟨-, error, c, hpost, -⟩
  · rw [Running.bind_of_ok (converting_of_ok hpost)] at hrun
    rw [converting_of_ok hpost]
    have hstill := still_converting hmet.backend
    cases made with
    | none =>
      cases hrun
      exact Or.inl ⟨hstill, rfl⟩
    | some post =>
      simp only [] at hrun ⊢
      rcases @Desk.place_cases channel config.importWorkflowMessages
          { r with conversion := c }.desk ⟨message, post⟩ (hstill.separate hsep) with
        ⟨d, hplace, hentered, -⟩ | ⟨error, d, hplace, -, -⟩
      · rw [Running.bind_of_ok (atDesk_of_ok hplace)] at hrun
        cases hrun
        rw [atDesk_of_ok hplace]
        refine Or.inr ⟨_, rfl, hentered.of_still hstill, ?_⟩
        rw [hstill.standing]
        rfl
      · rw [Running.bind_of_error (atDesk_of_error hplace)] at hrun
        cases hrun
  · rw [Running.bind_of_error (converting_of_error hpost)] at hrun
    cases hrun

theorem Accounted.append (h : Accounted config held trace r)
    (more : List (Slack.Message × Placement)) : Accounted config held (trace ++ more) r := by
  intro id root hroot
  obtain ⟨entry, hmem, hentry⟩ := h id root hroot
  exact ⟨entry, List.mem_append_left _ hmem, hentry⟩

/-- **One message keeps the store accounted for.** -/
theorem Accounted.take (h : Accounted config held trace r) (hsep : r.desk.threads.Separate)
    (hfetches : r.Fetches held) (hrun : take config uploads channel message r = .ok () r') :
    Accounted config held (trace ++
      ((placementOf? config uploads channel message r).map fun p => (message, p)).toList) r' := by
  rcases take_placed hsep hrun with ⟨hstill, hnone⟩ | ⟨draft, rfl, hentered, hplacement⟩
  · intro id root hroot
    rw [hstill.posts] at hroot
    exact h.append _ id root hroot
  · intro id root hroot
    rcases hentered.reason hfetches hroot with hknown | ⟨hid, hreason⟩
    · exact h.append _ id root hknown
    · rw [hplacement]
      exact ⟨_, List.mem_append_right _ (List.mem_singleton_self _), hid, hreason⟩

/-! ## All messages of a channel -/

/-- Where a store begins before a backend, it fetches what the texts have. -/
theorem fetches_start (c : Conversion) (name : String) :
    (start c (StoreSource.backend.storeFor name)).Fetches
      (Conversion.heldIn c.backend.entries name) := by
  intro id
  have hunknown : (start c (StoreSource.backend.storeFor name)).desk.threads.posts.find? id =
      none := by rw [Threads.posts_opened rfl, Table.find?_empty]
  rw [← Threads.content_of_none hunknown]
  exact congrFun Conversion.held_start id

theorem Fetches.of_sameBacking (h : r.Fetches held)
    (hback : r.desk.threads.SameBacking r'.desk.threads) : r'.Fetches held := by
  intro id
  rw [hback.kept]
  exact h id

/-- **All messages keep the store accounted for.** -/
theorem Accounted.takeAll (h : Accounted config held trace r)
    (hsep : r.desk.threads.Separate) (hfetches : r.Fetches held)
    (hrun : takeAll config uploads channel messages r = .ok () r') :
    Accounted config held (trace ++ placed config uploads channel messages r) r' := by
  induction messages generalizing r trace with
  | nil =>
    cases hrun
    exact h.append []
  | cons message rest ih =>
    unfold ChannelRun.takeAll at hrun
    rcases @take_cases config uploads channel r hsep message with
      ⟨r₁, htake, hpassed⟩ | ⟨error, r₁, htake, -⟩
    · rw [Running.bind_of_ok htake] at hrun
      rw [placed, Running.stateAfter_of_ok htake, ← List.append_assoc]
      exact ih (h.take hsep hfetches htake) hpassed.entered.separate
        (hfetches.of_sameBacking hpassed.entered.sameBacking) hrun
    · rw [Running.bind_of_error htake] at hrun
      cases hrun

/-- A store that has just been opened knows of nothing. -/
theorem accounted_start (c : Conversion) (source : StoreSource) (name : String) :
    Accounted config held [] (start c (source.storeFor name)) := by
  intro id root hroot
  rw [Threads.posts_opened (by cases source <;> rfl), Table.find?_empty] at hroot
  cases hroot

end ChannelRun

namespace Conversion

variable {config : Config} {uploads : Uploads} {channels : List Channel} {channel : Channel}
variable {name : String} {messages : List Slack.Message} {c c' c₁ : Conversion} {root : Post}
variable {entries : List (String × List Slack.Message)} {e : Export}

/-! ## What is emitted -/

/-- A root has come of the messages of a channel: they have been taken, in a store that
begins before the backend of a conversion, the store knows of the root in the end, and a
placement in its thread is the reason. -/
def ComesOf (config : Config) (uploads : Uploads) (channel : Channel) (name : String)
    (messages : List Slack.Message) (c : Conversion) (root : Post) : Prop :=
  let start := ChannelRun.start c (StoreSource.backend.storeFor name)
  ∃ r id, ChannelRun.takeAll config uploads channel (inTime messages) start = .ok () r ∧
    r.desk.threads.posts.find? id = some root ∧
    ∃ entry ∈ ChannelRun.placed config uploads channel (inTime messages) start,
      entry.1.threadId = id ∧
      Reason config.importWorkflowMessages (heldIn c.backend.entries name id) root entry.2

/-- The roots of a channel that gets through have come of its messages. -/
theorem comesOf_of_channelPosts {posts : List Post}
    (hrun : channelPosts config uploads .backend name channel messages c = .ok posts c')
    (hmem : root ∈ posts) : ComesOf config uploads channel name messages c root := by
  unfold channelPosts assembled at hrun
  rcases @ChannelRun.takeAll_cases config uploads channel _ (separate_start .backend)
      (inTime messages) with ⟨r, htake, hpassed⟩ | ⟨error, r, htake, -⟩
  · rw [Running.bind_of_ok htake] at hrun
    rcases Threads.flush_cases (hpassed.entered.sameBacking.keeping :
        r.desk.threads.store.keeping = .backend name) with
      ⟨t, hflush, hflushed⟩ | ⟨error, t, hflush, -⟩
    · rw [Running.bind_of_ok (ChannelRun.atDesk_of_ok (Desk.onThreads_of_ok hflush))] at hrun
      cases hrun
      have hvalue : root ∈ t.posts.values := by
        rw [Threads.values_posts]
        exact (List.mergeSort_perm _ _).subset hmem
      obtain ⟨id, hroot⟩ := Table.mem_values_iff.1 hvalue
      rw [hflushed.posts] at hroot
      obtain ⟨entry, hentry, hid, hreason⟩ := (ChannelRun.accounted_start c .backend name).takeAll
        (separate_start .backend) (ChannelRun.fetches_start c name) htake id root hroot
      exact ⟨r, id, htake, hroot, entry, hentry, hid, hreason⟩
    · rw [Running.bind_of_error (ChannelRun.atDesk_of_error (Desk.onThreads_of_error hflush))]
        at hrun
      cases hrun
  · rw [Running.bind_of_error htake] at hrun
    cases hrun

/-- A conversion comes to a channel: the names before it have been converted. -/
def Reaches (config : Config) (uploads : Uploads) (channels : List Channel)
    (entries : List (String × List Slack.Message)) (c : Conversion) (name : String)
    (channel : Channel) (messages : List Slack.Message) (c₁ : Conversion) : Prop :=
  channelNamed? channels name = some channel ∧ ∃ before after,
    entries = before ++ (name, messages) :: after ∧
    addAllPosts config uploads .backend channels before c = .ok () c₁

/-- After the messages of one name a root was there before, or it has come of them. -/
theorem comesOf_of_addPosts
    (hmem : root ∈ (Running.stateAfter (addPosts config uploads .backend channels name messages)
      c).content.posts) : root ∈ c.content.posts ∨ ∃ channel,
        channelNamed? channels name = some channel ∧
        ComesOf config uploads channel name messages c root := by
  rw [Running.stateAfter, addPosts] at hmem
  cases hchannel : channelNamed? channels name with
  | none =>
    rw [hchannel] at hmem
    exact Or.inl hmem
  | some channel =>
    simp only [hchannel] at hmem
    rcases channelPosts_cases config uploads name channel messages c with
      ⟨c₁, hrun, hcontinued⟩ | ⟨error, c₁, hrun, hstopped⟩
    · rw [Running.bind_of_ok hrun] at hmem
      have hposts := hcontinued.posts
      rw [List.flatMap_singleton] at hposts
      rcases List.mem_append.1 (hposts ▸ hmem) with hbefore | hroot
      · exact Or.inl hbefore
      · exact Or.inr ⟨channel, rfl, comesOf_of_channelPosts hrun hroot⟩
    · rw [Running.bind_of_error hrun] at hmem
      exact Or.inl (hstopped.posts ▸ hmem)

/-- **A root that was emitted was there before, or it has come of the messages of a
channel** that was reached, whichever way the conversion ends. -/
theorem comesOf_of_addAllPosts
    (hmem : root ∈ (Running.stateAfter (addAllPosts config uploads .backend channels entries)
      c).content.posts) : root ∈ c.content.posts ∨ ∃ name channel messages c₁,
        Reaches config uploads channels entries c name channel messages c₁ ∧
        ComesOf config uploads channel name messages c₁ root := by
  induction entries generalizing c with
  | nil => exact Or.inl hmem
  | cons entry rest ih =>
    obtain ⟨name, messages⟩ := entry
    have hfirst : root ∈ (Running.stateAfter
        (addPosts config uploads .backend channels name messages) c).content.posts →
        root ∈ c.content.posts ∨ ∃ name' channel messages' c₁, Reaches config uploads channels
          ((name, messages) :: rest) c name' channel messages' c₁ ∧
          ComesOf config uploads channel name' messages' c₁ root := fun hroot => by
      refine (comesOf_of_addPosts hroot).imp_right ?_
      rintro ⟨channel, hchannel, hcomes⟩
      exact ⟨name, channel, messages, c, ⟨hchannel, [], rest, rfl, rfl⟩, hcomes⟩
    rw [Running.stateAfter, addAllPosts] at hmem
    cases hrun : addPosts config uploads .backend channels name messages c with
    | error error c₁ =>
      rw [Running.bind_of_error hrun] at hmem
      refine hfirst ?_
      rw [Running.stateAfter, hrun]
      exact hmem
    | ok _ c₁ =>
      rw [Running.bind_of_ok hrun] at hmem
      rcases ih hmem with hbefore | ⟨later, channel, messages', c₂, hreaches, hcomes⟩
      · refine hfirst ?_
        rw [Running.stateAfter_of_ok hrun]
        exact hbefore
      · obtain ⟨hchannel, before, after, rfl, hbefore⟩ := hreaches
        exact Or.inr ⟨later, channel, messages', c₂, ⟨hchannel, (name, messages) :: before,
          after, rfl, (Running.bind_of_ok hrun).trans hbefore⟩, hcomes⟩

/-- **Every root that a run emits has a reason.** A conversion that begins without posts,
before any backend and whichever way it ends, emits a root only if in this run it was
stored, a reply was added to it, or it was fetched for a reply that was dropped, which is
one to a workflow while these are not imported; in the last case the root is as the
backend had it when the run came to its channel. -/
theorem convertWith_emits (config : Config) (e : Export) (password : String) (files : Files)
    (backend : Backend) :
    let c := fresh password files backend
    ∀ root ∈ (Running.stateAfter (convertWith config .backend e) c).content.posts,
      ∃ name channel messages c₁, Reaches config e.uploads (begun config e c).content.channels
          e.messages.entries (begun config e c) name channel messages c₁ ∧
        ComesOf config e.uploads channel name messages c₁ root := by
  intro c root hmem
  have hnone : root ∉ c.content.posts := List.not_mem_nil
  by_cases hleft : (config.skipChannels || config.skipPosts) = true
  · rw [Running.stateAfter, convertWith_of_skip hleft] at hmem
    exact absurd (posts_outset config e c ▸ hmem) hnone
  · obtain ⟨hchannels, hposts⟩ := Bool.or_eq_false_iff.1 (Bool.eq_false_iff.2 hleft)
    rw [Running.stateAfter, convertWith_backend_eq hchannels hposts] at hmem
    have hall : root ∈ (Running.stateAfter (addAllPosts config e.uploads .backend
        (begun config e c).content.channels e.messages.entries)
        (begun config e c)).content.posts := by
      rw [Running.stateAfter]
      cases hrun : addAllPosts config e.uploads .backend (begun config e c).content.channels
          e.messages.entries (begun config e c) with
      | ok _ c' =>
        rw [Running.bind_of_ok hrun] at hmem
        exact hmem
      | error error c' =>
        rw [Running.bind_of_error hrun] at hmem
        exact hmem
    exact (comesOf_of_addAllPosts hall).resolve_left fun hroot =>
      hnone (posts_begun config e c ▸ hroot)

/-! ## An announcement and a reply to it -/

/-- An export with what a workflow announces. -/
def announcing : Export :=
  oneChannel [{ saying "announcement" "10.000000" "" with subtype := "bot_message" }]

/-- The backend that the announcement has been put into. -/
def announced : Backend :=
  (Running.stateAfter (convertWith { withoutFiles with importWorkflowMessages := true } .backend
    announcing) (fresh "" Files.empty Backend.empty)).backend

/-- An export with a reply to the announcement. -/
def replying : Export := oneChannel [saying "reply" "11.000000" "10.000000"]

/-- The run of the reply emits the announcement, and for a reason. -/
theorem convertWith_emits_of_reply :
    ∃ root ∈ (Running.stateAfter (convertWith withoutFiles .backend replying)
        (fresh "" Files.empty announced)).content.posts, root.message = "announcement" ∧
      ∃ name channel messages c₁, Reaches withoutFiles replying.uploads
          (begun withoutFiles replying (fresh "" Files.empty announced)).content.channels
          replying.messages.entries (begun withoutFiles replying (fresh "" Files.empty announced))
          name channel messages c₁ ∧
        ComesOf withoutFiles replying.uploads channel name messages c₁ root := by
  have hposts : (Running.stateAfter (convertWith withoutFiles .backend replying)
      (fresh "" Files.empty announced)).content.posts.map Post.message = ["announcement"] := by
    decide +kernel
  obtain ⟨root, hmem, hmessage⟩ : ∃ root ∈ (Running.stateAfter (convertWith withoutFiles .backend
      replying) (fresh "" Files.empty announced)).content.posts, root.message = "announcement" :=
    List.mem_map.1 (hposts ▸ List.mem_cons_self)
  exact ⟨root, hmem, hmessage,
    convertWith_emits withoutFiles replying "" Files.empty announced root hmem⟩

/-- The announcement is emitted by a run that stores no root and adds no reply: its one
message is the reply, which is dropped. -/
theorem convertWith_emits_unchanged_of_reply :
    ∃ c', convertWith withoutFiles .backend replying (fresh "" Files.empty announced) =
        .ok () c' ∧
      c'.content.posts.map Post.message = ["announcement"] ∧
      c'.summary.roots = 0 ∧ c'.summary.overwrittenRoots = 0 ∧ c'.summary.replies = 0 := by
  have hevaluated : Running.endsWith (fun _ c' => decide (
      c'.content.posts.map Post.message = ["announcement"] ∧
      c'.summary.roots = 0 ∧ c'.summary.overwrittenRoots = 0 ∧ c'.summary.replies = 0))
      (convertWith withoutFiles .backend replying (fresh "" Files.empty announced)) = true := by
    decide +kernel
  obtain ⟨⟨⟩, c', hrun, hall⟩ := Running.exists_of_endsWith hevaluated
  exact ⟨c', hrun, of_decide_eq_true hall⟩

end Conversion

end ChatImport
