import ChatImport.Proofs.Conversion.Assembling
import ChatImport.Proofs.Thread.Order
/-!
# The posts of an import, channel by channel

A conversion tells its posts in chapters: one for each channel of the export
that was imported, in the order of the channels' names, each with the threads
of its channel in the order of their creation. `Conversion.convertWith_posts`
says so of every conversion that keeps its threads in memory, and
`Chapter.Orderly` what holds within a chapter. The messages are taken in the
order of their times, so the creation times that are claimed for them go
forward; threads inherit that order; and since no time is claimed twice, the
sorting of the threads leaves nothing to the order in which the store lists
them.
-/

namespace ChatImport

open Mattermost (Post Channel)

/-! ## Sorting -/

/-- Sorting by a key orders by the key. -/
theorem pairwise_mergeSort_key {α : Type} (key : α → Int) (l : List α) :
    (l.mergeSort fun a b => decide (key a ≤ key b)).Pairwise fun a b => key a ≤ key b := by
  have hsorted := @List.pairwise_mergeSort α (fun a b => decide (key a ≤ key b))
    (fun a b c hab hbc => by simp only [decide_eq_true_eq] at hab hbc ⊢; omega)
    (fun a b => by simp only [Bool.or_eq_true, decide_eq_true_eq]; omega) l
  exact hsorted.imp of_decide_eq_true

/-- What has different keys is sorted strictly. -/
theorem pairwise_mergeSort_of_nodup {α : Type} (key : α → Int) {l : List α}
    (h : (l.map key).Nodup) :
    (l.mergeSort fun a b => decide (key a ≤ key b)).Pairwise fun a b => key a < key b := by
  have hsorted := pairwise_mergeSort_key key l
  have hnodup : ((l.mergeSort fun a b => decide (key a ≤ key b)).map key).Nodup :=
    ((List.mergeSort_perm l _).map key).nodup_iff.2 h
  rw [List.Nodup, List.pairwise_map] at hnodup
  exact hsorted.imp₂ (fun a b hle hne => by omega) hnodup

/-- **The order in which things of different keys are listed makes no difference** once
they are sorted. -/
theorem mergeSort_key_of_perm {α : Type} (key : α → Int) {l listed : List α}
    (h : (l.map key).Nodup) (hperm : listed.Perm l) :
    (listed.mergeSort fun a b => decide (key a ≤ key b)) =
      l.mergeSort fun a b => decide (key a ≤ key b) := by
  have hlisted : (listed.map key).Nodup := (hperm.map _).nodup_iff.2 h
  refine List.Perm.eq_of_pairwise (fun a b _ _ hab hba => ?_)
    (pairwise_mergeSort_of_nodup key hlisted) (pairwise_mergeSort_of_nodup key h)
    ((List.mergeSort_perm _ _).trans (hperm.trans (List.mergeSort_perm _ _).symm))
  exact absurd hab (by omega)

/-- Posts of different times are sorted strictly. -/
theorem pairwise_inCreation {posts : List Post} (h : (posts.map Post.createAt).Nodup) :
    (inCreation posts).Pairwise fun a b => a.createAt < b.createAt :=
  pairwise_mergeSort_of_nodup Post.createAt h

/-- Posts of different times may be listed in any order. -/
theorem inCreation_perm {posts listed : List Post} (h : (posts.map Post.createAt).Nodup)
    (hperm : listed.Perm posts) : inCreation listed = inCreation posts :=
  mergeSort_key_of_perm Post.createAt h hperm

/-! ## Chapters -/

/-- What a conversion tells of one channel. -/
structure Chapter where
  /-- The name under which the export keeps the messages. -/
  name : String
  channel : Channel
  /-- The messages of the export. -/
  messages : List Slack.Message
  /-- The messages that became posts, with these. -/
  drafts : List Draft
  /-- The threads that the store has in the end. -/
  threads : Table Post

namespace Chapter

/-- The drafts as they entered their threads. -/
def entered (ch : Chapter) : List Draft := stamped ch.channel Ledger.empty ch.drafts

/-- The roots in the order of their creation. -/
def roots (ch : Chapter) : List Post := inCreation ch.threads.values

/-- Where the posts of a chapter ended up. -/
def placements (importWorkflows : Bool) (ch : Chapter) : List Placement :=
  Grouping.placements importWorkflows (fun _ => none) ch.entered

/-- The number of messages that became no posts. -/
def leftOut (ch : Chapter) : Nat := ch.messages.length - ch.drafts.length

/-- The summary once the messages of a chapter are counted. -/
def counted (importWorkflows : Bool) (s : Summary) (ch : Chapter) : Summary :=
  (s.recordAll (ch.placements importWorkflows)).skipping ch.leftOut

/-- What holds of the creation times in a chapter. -/
structure Orderly (importWorkflows : Bool) (ch : Chapter) : Prop where
  /-- The posts were made of messages in the order of their times. -/
  accepted : (ch.drafts.map Draft.message).Sublist (inTime ch.messages)
  /-- In this order their times go forward. -/
  increasing : (ch.entered.map fun d => d.post.createAt).Pairwise (· < ·)
  /-- No post is created before its message. -/
  notBefore : ∀ d ∈ ch.entered, d.message.createdAt ≤ d.post.createAt
  /-- The threads are those of the grouping. -/
  grouped : ∀ id, ch.threads.find? id =
    Grouping.thread importWorkflows (fun _ => none) ch.entered id
  /-- The replies come after their root, and one after the other. -/
  threadwise : ∀ root ∈ ch.threads.values, root.times.Pairwise (· < ·)
  /-- No two posts of the channel have the same time. -/
  distinct : (ch.threads.values.flatMap Post.times).Nodup
  /-- The roots come one after the other. -/
  rootwise : ch.roots.Pairwise fun a b => a.createAt < b.createAt
  /-- In whatever order the store lists the threads, the roots are the same. -/
  canonical : ∀ listed : List Post, listed.Perm ch.threads.values →
    inCreation listed = ch.roots

/-- The roots are among all posts. -/
theorem nodup_createAt {posts : List Post} (h : (posts.flatMap Post.times).Nodup) :
    (posts.map Post.createAt).Nodup := by
  refine h.sublist ?_
  induction posts with
  | nil => exact List.Sublist.refl _
  | cons post rest ih =>
    rw [List.map_cons, List.flatMap_cons, ← List.singleton_append]
    refine List.Sublist.append ?_ (ih (List.nodup_append.1 h).2.1)
    exact (List.nil_sublist _).cons_cons _

/-- Posts enter their threads without replies. -/
theorem replies_entered {ch : Chapter}
    (hnew : ∀ d ∈ ch.drafts, Conversion.NewPost d.message ch.channel d.post) :
    ∀ d ∈ ch.entered, d.post.replies = [] := by
  intro d hd
  obtain ⟨draft, hmem, time, -, rfl⟩ := mem_stamped hd
  rw [Draft.replies_entering]
  exact (hnew draft hmem).replies

/-- The posts of new drafts, made of messages in the order of their times, enter with times
that go forward. -/
theorem pairwise_entered {ch : Chapter}
    (haccepted : (ch.drafts.map Draft.message).Sublist (inTime ch.messages))
    (hnew : ∀ d ∈ ch.drafts, Conversion.NewPost d.message ch.channel d.post) :
    (ch.entered.map fun d => d.post.createAt).Pairwise (· < ·) := by
  refine pairwise_stamped ?_
  -- the messages are sorted by finer times than those that are claimed for them
  have hkeys := (pairwise_mergeSort_key Slack.Message.sortKey ch.messages).sublist haccepted
  rw [List.pairwise_map] at hkeys ⊢
  refine hkeys.imp_of_mem fun {a b} ha hb hle => ?_
  rw [(hnew a ha).createAt, (hnew b hb).createAt]
  exact Slack.Message.createdAt_le hle

/-- **A chapter is orderly** if its threads are the grouping of new posts, made of
messages in the order of their times. -/
theorem orderly {importWorkflows : Bool} {ch : Chapter}
    (haccepted : (ch.drafts.map Draft.message).Sublist (inTime ch.messages))
    (hnew : ∀ d ∈ ch.drafts, Conversion.NewPost d.message ch.channel d.post)
    (hgrouped : ∀ id, ch.threads.find? id =
      Grouping.thread importWorkflows (fun _ => none) ch.entered id) :
    ch.Orderly importWorkflows := by
  have hincreasing := pairwise_entered haccepted hnew
  have hdated : Grouping.Dated Set.univ
      (Grouping.thread importWorkflows (fun _ => none) ch.entered) :=
    Grouping.dated_none.thread Grouping.after_none (replies_entered hnew) hincreasing
  have hdistinct := hdated.nodup_times fun id post hpost =>
    ⟨Set.mem_univ id, (hgrouped id).symm.trans hpost⟩
  refine ⟨haccepted, hincreasing, fun d hd => ?_, hgrouped, fun root hroot => ?_, hdistinct,
    pairwise_inCreation (nodup_createAt hdistinct),
    fun listed hperm => inCreation_perm (nodup_createAt hdistinct) hperm⟩
  · obtain ⟨draft, hmem, time, hle, rfl⟩ := mem_stamped hd
    rw [Draft.createAt_entering]
    exact Int.le_trans (Int.le_of_eq (hnew draft hmem).createAt.symm) hle
  · obtain ⟨id, hid⟩ := Table.mem_values_iff.1 hroot
    exact hdated.pairwise (Set.mem_univ id) ((hgrouped id).symm.trans hid)

end Chapter

namespace Conversion

variable {config : Config} {uploads : Uploads} {channels : List Channel} {channel : Channel}
variable {name : String} {messages : List Slack.Message} {c c' : Conversion}

/-- The chapter of a channel, in a conversion that has come to it. -/
def chapter (config : Config) (uploads : Uploads) (name : String) (channel : Channel)
    (messages : List Slack.Message) (c : Conversion) : Chapter :=
  let start := ChannelRun.start c (StoreSource.memory.storeFor name)
  { name := name
    channel := channel
    messages := messages
    drafts := ChannelRun.drafts config uploads channel (inTime messages) start
    threads := (Running.stateAfter
      (ChannelRun.takeAll config uploads channel (inTime messages)) start).desk.threads.posts }

/-- The chapters of the names that are those of channels. -/
def chapters (config : Config) (uploads : Uploads) (channels : List Channel) :
    List (String × List Slack.Message) → Conversion → List Chapter
  | [], _ => []
  | (name, messages) :: rest, c =>
    let others := chapters config uploads channels rest
      (Running.stateAfter (addPosts config uploads .memory channels name messages) c)
    match channelNamed? channels name with
    | none => others
    | some channel => chapter config uploads name channel messages c :: others

/-- The conversion of an export when the posts are about to begin. -/
def prepared (config : Config) (e : Export) (c : Conversion) : Conversion :=
  ((((c.withUsers config.effectiveAuthService e.users).withChannels e).withMemberships)
    |>.withMemberNames).telling
      [.info ("Transforming posts using " ++ StoreSource.memory.words ++ " thread storage")]

/-- The chapters that a conversion of an export tells; none if posts are left
out. -/
def story (config : Config) (e : Export) (c : Conversion) : List Chapter :=
  if config.skipChannels || config.skipPosts then []
  else
    let c := prepared config e c
    chapters config e.uploads c.content.channels e.messages.entries c

/-- The names of an export that are those of channels. -/
def toldNames (config : Config) (e : Export) (c : Conversion) : List String :=
  if config.skipChannels || config.skipPosts then []
  else e.messages.keys.filter fun name =>
    (channelNamed? (prepared config e c).content.channels name).isSome

/-! ## One chapter -/

/-- **The roots of a channel are those of its chapter**, and the chapter is
orderly. Only where files are copied can it fail. -/
theorem assembled_spec (config : Config) (uploads : Uploads) (name : String) (channel : Channel)
    (messages : List Slack.Message) (c : Conversion) :
    (∃ r, assembled config uploads channel messages
        (.start c (StoreSource.memory.storeFor name)) =
          .ok (chapter config uploads name channel messages c).roots r ∧
      (chapter config uploads name channel messages c).Orderly config.importWorkflowMessages ∧
      ChannelRun.Took config channel Set.univ (fun _ => none)
        (.start c (StoreSource.memory.storeFor name)) r (inTime messages)
        (chapter config uploads name channel messages c).drafts) ∨
    config.skipAttachments = false ∧ ∃ error r, assembled config uploads channel messages
      (.start c (StoreSource.memory.storeFor name)) = .error error r := by
  set start := ChannelRun.start c (StoreSource.memory.storeFor name) with hstart
  have hholds : start.desk.Holds fun _ => none := Desk.holds_opened rfl
  unfold assembled
  rcases @ChannelRun.takeAll_spec config uploads channel _ _ start hholds (inTime messages)
    fun _ _ => Set.mem_univ _ with ⟨r, hrun, htook⟩ | ⟨hskip, error, r, hrun⟩
  · have hmemory : r.desk.threads.store.keeping = .memory := htook.sameBacking.keeping
    have hflush : Desk.onThreads Threads.flush r.desk = .ok () r.desk :=
      Desk.onThreads_of_ok (Threads.flush_of_memory hmemory)
    have hthreads : (chapter config uploads name channel messages c).threads =
        r.desk.threads.posts := by
      change (Running.stateAfter _ start).desk.threads.posts = _
      rw [Running.stateAfter_of_ok hrun]
    refine Or.inl ⟨r, ?_, ?_, htook⟩
    · rw [Running.bind_of_ok hrun, Running.bind_of_ok (ChannelRun.atDesk_of_ok hflush)]
      have hroots : (chapter config uploads name channel messages c).roots =
          inCreation (r.store.changed.map r.roots.get) := by
        rw [Chapter.roots, hthreads, Threads.values_posts]
        rfl
      rw [hroots]
      rfl
    · refine Chapter.orderly (ChannelRun.sublist_drafts _ _ _ _ _)
        (fun d hd => ChannelRun.newPost_of_mem_drafts hd) fun id => ?_
      rw [hthreads]
      exact htook.holds.find?_posts hmemory
  · rw [Running.bind_of_error hrun]
    exact Or.inr ⟨hskip, error, r, rfl⟩

/-! ## All chapters -/

/-- Chapters have been told: their roots come after the posts that were there,
and they are orderly. -/
def Told (config : Config) (c c' : Conversion) (chs : List Chapter) : Prop :=
  c'.content.posts = c.content.posts ++ chs.flatMap Chapter.roots ∧
    ∀ ch ∈ chs, ch.Orderly config.importWorkflowMessages

theorem told_nil (h : c'.content.posts = c.content.posts) : Told config c c' [] :=
  ⟨by rw [h, List.flatMap_nil, List.append_nil], fun _ hmem => nomatch hmem⟩

theorem Told.append {c'' : Conversion} {chs chs' : List Chapter} (h : Told config c c' chs)
    (h' : Told config c' c'' chs') : Told config c c'' (chs ++ chs') := by
  refine ⟨by rw [h'.1, h.1, List.append_assoc, List.flatMap_append], fun ch hmem => ?_⟩
  rcases List.mem_append.1 hmem with hmem | hmem
  · exact h.2 ch hmem
  · exact h'.2 ch hmem

/-- Chapters have been told, and this is all that has happened: their messages are
counted, and the users that came up with them are known. -/
structure Recorded (config : Config) (c c' : Conversion) (chs : List Chapter) : Prop where
  told : Told config c c' chs
  summary : c'.summary = chs.foldl (Chapter.counted config.importWorkflowMessages) c.summary
  grown : c.Grown c'
  /-- The names are what the messages have made of them. -/
  names : c'.username? =
    (chs.flatMap fun ch => inTime ch.messages).foldl (namesFor config) c.username?
  /-- The posts were made of their messages, and their authors are known. -/
  known : ∀ ch ∈ chs, ∀ d ∈ ch.drafts,
    NewPost d.message ch.channel d.post ∧ ∃ id, c'.username? id = some d.post.user
  drafts_le : ∀ ch ∈ chs, ch.drafts.length ≤ ch.messages.length

theorem recorded_nil (hcontent : c'.content = c.content) (hsummary : c'.summary = c.summary) :
    Recorded config c c' [] where
  told := told_nil (by rw [hcontent])
  summary := hsummary
  grown := .of_content (by rw [hcontent])
  names := username?_congr hcontent
  known := fun _ hmem => nomatch hmem
  drafts_le := fun _ hmem => nomatch hmem

theorem Recorded.append {c'' : Conversion} {chs chs' : List Chapter}
    (h : Recorded config c c' chs) (h' : Recorded config c' c'' chs') :
    Recorded config c c'' (chs ++ chs') where
  told := h.told.append h'.told
  summary := by rw [h'.summary, h.summary, List.foldl_append]
  grown := h.grown.trans h'.grown
  names := by rw [h'.names, h.names, List.flatMap_append, List.foldl_append]
  known := by
    intro ch hmem d hd
    rcases List.mem_append.1 hmem with hmem | hmem
    · obtain ⟨hnew, id, hid⟩ := h.known ch hmem d hd
      exact ⟨hnew, id, h'.grown.username?_of_some hid⟩
    · exact h'.known ch hmem d hd
  drafts_le := by
    intro ch hmem
    rcases List.mem_append.1 hmem with hmem | hmem
    · exact h.drafts_le ch hmem
    · exact h'.drafts_le ch hmem

/-- The messages of one name: the chapter of its channel, if there is one. -/
theorem addPosts_spec (config : Config) (uploads : Uploads) (channels : List Channel)
    (name : String) (messages : List Slack.Message) (c : Conversion) :
    (∃ c', addPosts config uploads .memory channels name messages c = .ok () c' ∧
      Recorded config c c' ((channelNamed? channels name).map fun channel =>
        chapter config uploads name channel messages c).toList) ∨
    config.skipAttachments = false ∧ ∃ error c',
      addPosts config uploads .memory channels name messages c = .error error c' := by
  unfold addPosts
  cases channelNamed? channels name with
  | none => exact Or.inl ⟨_, rfl, recorded_nil rfl rfl⟩
  | some channel =>
    rcases assembled_spec config uploads name channel messages c with
      ⟨r, hrun, horderly, htook⟩ | ⟨hskip, error, r, hrun⟩
    · have hchannel : channelPosts config uploads .memory name channel messages c =
          .ok (chapter config uploads name channel messages c).roots r.conversion := by
        rw [channelPosts, hrun]
      simp only []
      rw [Running.bind_of_ok hchannel]
      have hlength : (inTime messages).length = messages.length := List.length_mergeSort messages
      refine Or.inl ⟨_, rfl, ⟨?_, fun ch hmem => List.mem_singleton.1 hmem ▸ horderly⟩, ?_,
        htook.grown.trans (.of_content rfl), ?_, ?_, ?_⟩
      · change r.conversion.content.posts ++ _ = _
        rw [htook.posts, Option.map_some, Option.toList_some, List.flatMap_singleton]
        rfl
      · change r.conversion.summary = _
        rw [htook.summary, hlength]
        rfl
      · change r.conversion.username? = _
        rw [htook.names, Option.map_some, Option.toList_some, List.flatMap_singleton]
        rfl
      · intro ch hmem d hd
        rw [List.mem_singleton.1 hmem] at hd ⊢
        exact ⟨ChannelRun.newPost_of_mem_drafts hd, htook.known d hd⟩
      · intro ch hmem
        rw [List.mem_singleton.1 hmem]
        exact hlength ▸ htook.length_le
    · obtain ⟨c', hchannel⟩ : ∃ c', channelPosts config uploads .memory name channel messages c =
          .error error c' := by
        rw [channelPosts, hrun]
        exact ⟨_, rfl⟩
      simp only []
      rw [Running.bind_of_error hchannel]
      exact Or.inr ⟨hskip, error, c', rfl⟩

/-- The messages of several names: their chapters, one after the other. -/
theorem addAllPosts_spec (config : Config) (uploads : Uploads) (channels : List Channel)
    (entries : List (String × List Slack.Message)) (c : Conversion) :
    (∃ c', addAllPosts config uploads .memory channels entries c = .ok () c' ∧
      Recorded config c c' (chapters config uploads channels entries c)) ∨
    config.skipAttachments = false ∧ ∃ error c',
      addAllPosts config uploads .memory channels entries c = .error error c' := by
  induction entries generalizing c with
  | nil => exact Or.inl ⟨c, rfl, recorded_nil rfl rfl⟩
  | cons entry rest ih =>
    obtain ⟨name, messages⟩ := entry
    unfold addAllPosts chapters
    rcases addPosts_spec config uploads channels name messages c with
      ⟨c', hrun, hrecorded⟩ | ⟨hskip, error, c', hrun⟩
    · rw [Running.bind_of_ok hrun, Running.stateAfter_of_ok hrun]
      rcases ih c' with ⟨c'', hrun', hrecorded'⟩ | hfail
      · refine Or.inl ⟨c'', hrun', ?_⟩
        have hboth := hrecorded.append hrecorded'
        cases hchannel : channelNamed? channels name with
        | none =>
          rw [hchannel] at hboth
          exact hboth
        | some channel =>
          rw [hchannel] at hboth
          exact hboth
      · exact Or.inr hfail
    · rw [Running.bind_of_error hrun]
      exact Or.inr ⟨hskip, error, c', rfl⟩

/-- The chapters have the names that are those of channels. -/
theorem map_name_chapters (config : Config) (uploads : Uploads) (channels : List Channel)
    (entries : List (String × List Slack.Message)) (c : Conversion) :
    (chapters config uploads channels entries c).map Chapter.name =
      (entries.map (·.1)).filter fun name => (channelNamed? channels name).isSome := by
  induction entries generalizing c with
  | nil => rfl
  | cons entry rest ih =>
    obtain ⟨name, messages⟩ := entry
    unfold chapters
    rw [List.map_cons]
    cases hchannel : channelNamed? channels name with
    | none => rw [List.filter_cons_of_neg (by simp [hchannel]), ← ih]
    | some channel =>
      rw [List.filter_cons_of_pos (by simp [hchannel]), ← ih]
      rfl

/-- No two chapters of a story have one name. -/
theorem nodup_names_story {e : Export} : ((story config e c).map Chapter.name).Nodup := by
  unfold story
  split
  · exact List.nodup_nil
  · simp only []
    rw [map_name_chapters]
    exact Table.nodup_keys.filter _

/-! ## Whole conversions -/

/-- Users are all that comes of users, but for the log. -/
theorem exists_withUsers (c : Conversion) (service : Option String) (users : List Slack.User) :
    ∃ table log, c.withUsers service users =
      { c with content := { c.content with users := table }, log := log } := by
  refine List.foldlRecOn (motive := fun c' : Conversion => ∃ table log, c' =
    { c with content := { c.content with users := table }, log := log }) users _ ⟨_, _, rfl⟩ ?_
  rintro _ ⟨table, log, rfl⟩ user -
  exact ⟨_, _, rfl⟩

/-- Users and channels come first; then the posts are converted, and the log
tells the summary. -/
theorem convertWith_eq (hchannels : config.skipChannels = false)
    (hposts : config.skipPosts = false) (e : Export) (c : Conversion) :
    convertWith config .memory e c =
      (addAllPosts config e.uploads .memory (prepared config e c).content.channels
        e.messages.entries >>= fun _ => get >>= fun c => tell c.summary.notices)
        (prepared config e c) := by
  unfold convertWith
  simp only [hchannels, hposts]
  rfl

/-- The conversion when its posts begin, or when it ends without any. -/
def outset (config : Config) (e : Export) (c : Conversion) : Conversion :=
  if config.skipChannels then c.withUsers config.effectiveAuthService e.users
  else if config.skipPosts then
    (((c.withUsers config.effectiveAuthService e.users).withChannels e).withMemberships)
      |>.withMemberNames
  else prepared config e c

theorem outset_eq_prepared (hchannels : config.skipChannels = false)
    (hposts : config.skipPosts = false) (e : Export) (c : Conversion) :
    outset config e c = prepared config e c := by
  rw [outset, hchannels, hposts]
  rfl

theorem posts_outset (config : Config) (e : Export) (c : Conversion) :
    (outset config e c).content.posts = c.content.posts := by
  obtain ⟨table, log, husers⟩ := exists_withUsers c config.effectiveAuthService e.users
  unfold outset prepared
  rw [husers]
  split
  · rfl
  · split <;> rfl

/-- Before the first message nothing but channels is counted. -/
theorem exists_summary_outset (config : Config) (e : Export) (c : Conversion) :
    ∃ n, (outset config e c).summary = { c.summary with channels := n } := by
  obtain ⟨table, log, husers⟩ := exists_withUsers c config.effectiveAuthService e.users
  unfold outset prepared
  rw [husers]
  split
  · exact ⟨_, rfl⟩
  · split <;> exact ⟨_, rfl⟩

/-- Where channels or posts are left out, the conversion ends without posts, whatever
stores there would be. -/
theorem convertWith_of_skip (hskip : (config.skipChannels || config.skipPosts) = true)
    (source : StoreSource) (e : Export) (c : Conversion) : convertWith config source e c =
      .ok () ((outset config e c).telling (outset config e c).summary.notices) := by
  unfold convertWith outset
  cases hchannels : config.skipChannels with
  | true => rfl
  | false =>
    rw [hchannels, Bool.false_or] at hskip
    rw [hskip]
    rfl

/-- **A conversion in memory tells its chapters** once users and channels are there.
Only where files are copied can it fail. -/
theorem convertWith_recorded (config : Config) (e : Export) (c : Conversion) :
    (∃ c', convertWith config .memory e c = .ok () c' ∧
      Recorded config (outset config e c) c' (story config e c)) ∨
    config.skipAttachments = false ∧ ∃ error c',
      convertWith config .memory e c = .error error c' := by
  by_cases hskip : (config.skipChannels || config.skipPosts) = true
  · rw [convertWith_of_skip hskip, story, if_pos hskip]
    exact Or.inl ⟨_, rfl, recorded_nil rfl rfl⟩
  · obtain ⟨hchannels, hposts⟩ := Bool.or_eq_false_iff.1 (Bool.eq_false_iff.2 hskip)
    rw [convertWith_eq hchannels hposts, story, if_neg hskip,
      outset_eq_prepared hchannels hposts]
    rcases addAllPosts_spec config e.uploads (prepared config e c).content.channels
      e.messages.entries (prepared config e c) with
      ⟨c', hrun, hrecorded⟩ | ⟨hfail, error, c', hrun⟩
    · rw [Running.bind_of_ok hrun]
      -- the notices of the summary come last, and only the log sees them
      have hnotices := @recorded_nil config c' (c'.telling c'.summary.notices) rfl rfl
      have hall := hrecorded.append hnotices
      rw [List.append_nil] at hall
      exact Or.inl ⟨_, rfl, hall⟩
    · rw [Running.bind_of_error hrun]
      exact Or.inr ⟨hfail, error, c', rfl⟩

/-- A conversion in memory tells its chapters. Only where files are copied can
it fail. -/
theorem convertWith_spec (config : Config) (e : Export) (c : Conversion) :
    (∃ c', convertWith config .memory e c = .ok () c' ∧ Told config c c' (story config e c)) ∨
    config.skipAttachments = false ∧ ∃ error c',
      convertWith config .memory e c = .error error c' := by
  rcases convertWith_recorded config e c with ⟨c', hrun, hrecorded⟩ | hfail
  · refine Or.inl ⟨c', hrun, ?_, hrecorded.told.2⟩
    rw [hrecorded.told.1, posts_outset]
  · exact Or.inr hfail

/-- **A conversion that keeps its threads in memory tells its posts in
chapters.** If it succeeds, the posts are those of one chapter after the other,
one for each name of the export that is that of a channel, names ascending;
and each chapter is orderly. -/
theorem convertWith_posts (config : Config) (e : Export) (password : String) (files : Files)
    (backend : Backend) (c' : Conversion)
    (hrun : convertWith config .memory e (fresh password files backend) = .ok () c') :
    let chs := story config e (fresh password files backend)
    c'.content.posts = chs.flatMap Chapter.roots ∧
      chs.map Chapter.name = toldNames config e (fresh password files backend) ∧
      (chs.map Chapter.name).Pairwise (· < ·) ∧
      ∀ ch ∈ chs, ch.Orderly config.importWorkflowMessages := by
  intro chs
  have hnames : chs.map Chapter.name =
      toldNames config e (fresh password files backend) := by
    change (story config e _).map Chapter.name = _
    unfold story toldNames
    split
    · rfl
    · exact map_name_chapters _ _ _ _ _
  have htold : Told config (fresh password files backend) c' chs := by
    rcases convertWith_spec config e (fresh password files backend) with
      ⟨c'', hrun', htold⟩ | ⟨-, error, c'', hrun'⟩
    · rw [hrun] at hrun'
      cases hrun'
      exact htold
    · rw [hrun] at hrun'
      cases hrun'
  refine ⟨htold.1, hnames, ?_, htold.2⟩
  rw [hnames, toldNames]
  split
  · exact List.Pairwise.nil
  · exact Table.pairwise_keys.filter _

/-- An export with a root, a reply to it and another root, all within one
millisecond, and with messages of a channel that it does not list: one chapter is
told. -/
theorem convertWith_posts_of_one_channel :
    let config := { Config.standard with skipAttachments := true }
    let e : Export := { Export.empty with
      users := [⟨"U1", "ann", Slack.Profile.blank⟩]
      publicChannels :=
        [{ Slack.Channel.blank with id := "C1", name := "general", members := ["U1"] }]
      messages := (Table.empty.insert "general"
        [{ Slack.Message.blank with
            user := "U1", text := "later", timestamp := "12.000300", type := "message" },
          { Slack.Message.blank with
            user := "U1", text := "answer", timestamp := "12.000200",
            threadTimestamp := "12.000100", type := "message" },
          { Slack.Message.blank with
            user := "U1", text := "first", timestamp := "12.000100",
            type := "message" }]).insert "random" [] }
    let c := fresh "" Files.empty Backend.empty
    toldNames config e c = ["general"] ∧ ∃ c', convertWith config .memory e c = .ok () c' ∧
      c'.content.posts = (story config e c).flatMap Chapter.roots ∧
      (story config e c).map Chapter.name = toldNames config e c ∧
      ((story config e c).map Chapter.name).Pairwise (· < ·) ∧
      ∀ ch ∈ story config e c, ch.Orderly config.importWorkflowMessages := by
  intro config e c
  refine ⟨by decide +kernel, ?_⟩
  rcases convertWith_spec config e c with ⟨c', hrun, -⟩ | ⟨hskip, -⟩
  · exact ⟨c', hrun, convertWith_posts config e "" Files.empty Backend.empty c' hrun⟩
  · cases hskip

end Conversion

end ChatImport
