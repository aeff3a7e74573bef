import ChatImport.Proofs.Conversion.Tales
/-!
# Conversions before any backend

Before a backend a chapter of a channel goes on from what the backend has: a reply
that finds its root there brings the root, and all that hangs on it, back into the
chapter (`Conversion.episode`). In the end the threads of the chapter go to the
texts of the backend, where the next channel finds them (`Conversion.withTexts`).

The backend may be any: its texts need not read, and its calls may fail. Either
all chapters are told and kept (`Conversion.Continued`), or the conversion ends at
the first channel that fails, with what the channels before it have left and
nothing of its own (`Conversion.convertWith_cases`).
-/

namespace ChatImport

open Mattermost (Post Channel)

namespace Chapter

/-- The threads under the keys that they have in a backend. -/
def kept (ch : Chapter) : List (String × Post) :=
  ch.threads.entries.map fun entry => (threadKey ch.name entry.1, entry.2)

/-- The texts of the threads under their keys. -/
def texts (ch : Chapter) : List (String × String) :=
  ch.threads.entries.map fun entry => (threadKey ch.name entry.1, entry.2.json.text)

theorem texts_eq (ch : Chapter) :
    ch.texts = ch.kept.map fun entry => (entry.1, entry.2.json.text) := by
  rw [texts, kept, List.map_map]
  rfl

theorem mem_kept {ch : Chapter} {key : String} {root : Post} :
    (key, root) ∈ ch.kept ↔ ∃ id, ch.threads.find? id = some root ∧ key = threadKey ch.name id := by
  rw [kept, List.mem_map]
  constructor
  · rintro ⟨entry, hmem, heq⟩
    obtain ⟨hkey, hroot⟩ := Prod.mk.inj heq
    exact ⟨entry.1, hroot ▸ Table.mem_entries_iff.1 hmem, hkey.symm⟩
  · rintro ⟨id, hroot, rfl⟩
    exact ⟨(id, root), Table.mem_entries_iff.2 hroot, rfl⟩

end Chapter

namespace Conversion

variable {config : Config} {uploads : Uploads} {channels : List Channel} {channel : Channel}
variable {name : String} {messages : List Slack.Message} {c c' c'' : Conversion}
variable {chs chs' : List Chapter} {ch : Chapter} {names : String → Option String}
variable {texts : Table String} {error : Error}

/-- What texts have for a thread of a channel, as far as they read. -/
def heldIn (texts : Table String) (name id : String) : Option Post :=
  (texts.find? (threadKey name id)).bind fun text =>
    (Json.readString Post.decoder text).toOption

/-- The chapter of a channel before the backend of a conversion that has come to it. -/
def episode (config : Config) (uploads : Uploads) (name : String) (channel : Channel)
    (messages : List Slack.Message) (c : Conversion) : Chapter :=
  let drafts := ChannelRun.drafts config uploads channel (inTime messages)
    (.start c (StoreSource.backend.storeFor name))
  { name := name
    channel := channel
    messages := messages
    drafts := drafts
    threads := Grouping.known config.importWorkflowMessages (heldIn c.backend.entries name)
      (stamped channel Ledger.empty drafts) }

/-- The texts once chapters have been kept. -/
def withTexts (texts : Table String) (chs : List Chapter) : Table String :=
  texts.insertAll (chs.flatMap Chapter.texts)

/-- The chapter of a name before the backend, if it is that of a channel. -/
def episodeOf? (config : Config) (uploads : Uploads) (channels : List Channel)
    (entry : String × List Slack.Message) (c : Conversion) : Option Chapter :=
  (channelNamed? channels entry.1).map fun channel =>
    episode config uploads entry.1 channel entry.2 c

/-- The chapters of several names before the backend. -/
def episodes (config : Config) (uploads : Uploads) (channels : List Channel) :
    List (String × List Slack.Message) → Conversion → List Chapter
  | [], _ => []
  | entry :: rest, c =>
    (episodeOf? config uploads channels entry c).toList ++
      episodes config uploads channels rest
        (Running.stateAfter (addPosts config uploads .backend channels entry.1 entry.2) c)

@[simp] theorem withTexts_nil : withTexts texts [] = texts := rfl

theorem withTexts_append :
    withTexts texts (chs ++ chs') = withTexts (withTexts texts chs) chs' := by
  rw [withTexts, withTexts, withTexts, List.flatMap_append, Table.insertAll_append]

/-! ## What a conversion leaves -/

/-- Chapters have been told before a backend: their roots come after the posts that were
there, and their threads have gone to the texts that were there. -/
structure Continued (config : Config) (c c' : Conversion) (chs : List Chapter) : Prop where
  posts : c'.content.posts = c.content.posts ++ chs.flatMap Chapter.roots
  /-- The names are what the messages have made of them. -/
  names : c'.username? = namesAfter config chs c.username?
  entries : c'.backend.entries = withTexts c.backend.entries chs
  outage : c'.backend.outage = c.backend.outage

theorem continued_nil (hcontent : c'.content = c.content) (hbackend : c'.backend = c.backend) :
    Continued config c c' [] where
  posts := by rw [hcontent, List.flatMap_nil, List.append_nil]
  names := username?_congr hcontent
  entries := by rw [hbackend, withTexts_nil]
  outage := by rw [hbackend]

theorem namesAfter_append : namesAfter config (chs ++ chs') names =
    namesAfter config chs' (namesAfter config chs names) := by
  rw [namesAfter, namesAfter, namesAfter, List.flatMap_append, List.foldl_append]

theorem Continued.append (h : Continued config c c' chs) (h' : Continued config c' c'' chs') :
    Continued config c c'' (chs ++ chs') where
  posts := by rw [h'.posts, h.posts, List.append_assoc, List.flatMap_append]
  names := by rw [h'.names, h.names, namesAfter_append]
  entries := by rw [h'.entries, h.entries, withTexts_append]
  outage := h'.outage.trans h.outage

/-- Of the conversions at both ends only what they have made and the backend count. -/
theorem Continued.congr {d d' : Conversion} (h : Continued config c c' chs)
    (hcontent : d.content = c.content) (hbackend : d.backend = c.backend)
    (hcontent' : d'.content = c'.content) (hbackend' : d'.backend = c'.backend) :
    Continued config d d' chs where
  posts := by rw [hcontent', hcontent, h.posts]
  names := by rw [username?_congr hcontent', username?_congr hcontent, h.names]
  entries := by rw [hbackend', hbackend, h.entries]
  outage := by rw [hbackend', hbackend, h.outage]

/-- Why the messages of a name cannot be converted: the backend refuses a call, or what it
has for the thread of a message does not read. -/
inductive Obstruction (b : Backend) (name : String) (messages : List Slack.Message) :
    Error → Prop where
  | refused {reason : String} {number : Nat} {call : Backend.Call} :
    b.outage number call = some reason → Obstruction b name messages (.backend call.words reason)
  | unreadable {message : Slack.Message} {text : String} {problem : Json.Problem} :
    message ∈ messages → b.entries.find? (threadKey name message.threadId) = some text →
    Json.readString Post.decoder text = .error problem →
    Obstruction b name messages (.json problem)

/-- The conversion has ended at the messages of a name: the posts are the same, and so is
what the backend has. -/
structure Stopped (config : Config) (c c' : Conversion) (name : String)
    (messages : List Slack.Message) (error : Error) : Prop where
  posts : c'.content.posts = c.content.posts
  entries : c'.backend.entries = c.backend.entries
  outage : c'.backend.outage = c.backend.outage
  /-- A file was not to be copied, or something stood in the way. -/
  cause : config.skipAttachments = false ∨ Obstruction c.backend name messages error

/-! ## One channel -/

/-- The desk at which a channel begins. -/
theorem separate_start (source : StoreSource) :
    (ChannelRun.start c (source.storeFor name)).desk.threads.Separate := by
  cases source <;> exact Threads.separate_opened rfl

theorem content_start {id : String} :
    (ChannelRun.start c (StoreSource.backend.storeFor name)).desk.threads.content id =
      (c.backend.entries.find? (threadKey name id)).map (Json.readString Post.decoder) :=
  Threads.content_of_backend rfl (by rw [Threads.posts_opened rfl, Table.find?_empty])

theorem held_start : (fun id => ((ChannelRun.start c
    (StoreSource.backend.storeFor name)).desk.threads.content id).bind Except.toOption) =
      heldIn c.backend.entries name := by
  funext id
  rw [content_start, heldIn, Option.bind_map]
  rfl

/-- What stands in the way of a post of a message stands in the way of all of them. -/
theorem obstruction_of_obstacle {message : Slack.Message} (hmem : message ∈ messages)
    (h : (ChannelRun.start c (StoreSource.backend.storeFor name)).desk.threads.Obstacle
      message.threadId error) : Obstruction c.backend name messages error := by
  cases h with
  | refused hkeeping houtage => exact .refused houtage
  | unreadable hread =>
    rw [content_start, Option.map_eq_some_iff] at hread
    obtain ⟨text, hfind, hproblem⟩ := hread
    exact .unreadable hmem hfind hproblem

/-- **A channel before any backend** is assembled to its episode, whose threads are
flushed, or the assembly ends. -/
theorem assembled_cases (config : Config) (uploads : Uploads) (name : String) (channel : Channel)
    (messages : List Slack.Message) (c : Conversion) :
    let start := ChannelRun.start c (StoreSource.backend.storeFor name)
    let ch := episode config uploads name channel messages c
    (∃ r t, assembled config uploads channel messages start =
        .ok ch.roots (r.after { r.desk with threads := t }) ∧
      ChannelRun.Passed config channel start r (inTime messages) ch.drafts ∧
      r.desk.threads.posts = ch.threads ∧ r.desk.threads.Flushed name t) ∨
    ∃ error r, assembled config uploads channel messages start = .error error r ∧
      Stopped config c r.conversion name messages error := by
  intro start ch
  unfold assembled
  rcases @ChannelRun.takeAll_cases config uploads channel start (separate_start .backend)
      (inTime messages) with ⟨r, hrun, hpassed⟩ | ⟨error, r, hrun, hhalted⟩
  · have hthreads : r.desk.threads.posts = ch.threads := by
      rw [hpassed.entered.posts_eq (Threads.posts_opened rfl), held_start]
      rfl
    rw [Running.bind_of_ok hrun]
    rcases Threads.flush_cases (hpassed.entered.sameBacking.keeping :
        r.desk.threads.store.keeping = .backend name) with
      ⟨t, hflush, hflushed⟩ | ⟨error, t, hflush, hstill, -, hfail⟩
    · rw [Running.bind_of_ok (ChannelRun.atDesk_of_ok (Desk.onThreads_of_ok hflush))]
      have hroots : ch.roots = inCreation (t.store.changed.map t.roots.get) := by
        rw [Chapter.roots, ← hthreads, ← hflushed.posts, Threads.values_posts]
      rw [hroots]
      exact Or.inl ⟨r, t, rfl, hpassed, hthreads, hflushed⟩
    · -- the flush is refused as a whole
      rw [Running.bind_of_error (ChannelRun.atDesk_of_error (Desk.onThreads_of_error hflush))]
      obtain ⟨reason, houtage, rfl⟩ := Option.map_eq_some_iff.1 hfail
      have hback := hpassed.entered.sameBacking
      rw [hback.outage] at houtage
      exact Or.inr ⟨_, _, rfl, hpassed.posts, hstill.entries.trans hback.entries,
        hstill.outage.trans hback.outage, Or.inr (.refused houtage)⟩
  · rw [Running.bind_of_error hrun]
    refine Or.inr ⟨error, r, rfl, hhalted.posts, hhalted.sameBacking.entries,
      hhalted.sameBacking.outage, hhalted.cause.imp_right ?_⟩
    rintro ⟨message, hmem, hobstacle⟩
    exact obstruction_of_obstacle ((List.mergeSort_perm messages _).subset hmem) hobstacle

/-- So the chapter is told and kept, or nothing is. -/
theorem channelPosts_cases (config : Config) (uploads : Uploads) (name : String)
    (channel : Channel) (messages : List Slack.Message) (c : Conversion) :
    let ch := episode config uploads name channel messages c
    (∃ c', channelPosts config uploads .backend name channel messages c = .ok ch.roots c' ∧
      Continued config c (c'.changing fun i => { i with posts := i.posts ++ ch.roots }) [ch]) ∨
    ∃ error c', channelPosts config uploads .backend name channel messages c = .error error c' ∧
      Stopped config c c' name messages error := by
  intro ch
  unfold channelPosts
  rcases assembled_cases config uploads name channel messages c with
    ⟨r, t, hrun, hpassed, hthreads, hflushed⟩ | ⟨error, r, hrun, hstopped⟩
  · rw [hrun]
    refine Or.inl ⟨_, rfl, ?_, ?_, ?_, hflushed.outage.trans hpassed.entered.sameBacking.outage⟩
    · rw [List.flatMap_singleton]
      exact congrArg (· ++ ch.roots) hpassed.posts
    · rw [namesAfter, List.flatMap_singleton]
      exact hpassed.names
    · refine hflushed.entries_eq.trans ?_
      rw [hthreads, hpassed.entered.sameBacking.entries, withTexts, List.flatMap_singleton]
      rfl
  · rw [hrun]
    exact Or.inr ⟨error, _, rfl, hstopped.posts, hstopped.entries, hstopped.outage,
      hstopped.cause⟩

/-! ## All channels -/

/-- The messages of one name: the episode of its channel, if there is one. -/
theorem addPosts_cases (config : Config) (uploads : Uploads) (channels : List Channel)
    (entry : String × List Slack.Message) (c : Conversion) :
    (∃ c', addPosts config uploads .backend channels entry.1 entry.2 c = .ok () c' ∧
      Continued config c c' (episodeOf? config uploads channels entry c).toList) ∨
    ∃ error c', addPosts config uploads .backend channels entry.1 entry.2 c = .error error c' ∧
      (channelNamed? channels entry.1).isSome = true ∧
      Stopped config c c' entry.1 entry.2 error := by
  unfold episodeOf? addPosts
  cases channelNamed? channels entry.1 with
  | none => exact Or.inl ⟨_, rfl, continued_nil rfl rfl⟩
  | some channel =>
    simp only []
    rcases channelPosts_cases config uploads entry.1 channel entry.2 c with
      ⟨c', hrun, hcontinued⟩ | ⟨error, c', hrun, hstopped⟩
    · rw [Running.bind_of_ok hrun]
      exact Or.inl ⟨_, rfl, hcontinued.posts, hcontinued.names, hcontinued.entries,
        hcontinued.outage⟩
    · rw [Running.bind_of_error hrun]
      exact Or.inr ⟨error, c', rfl, rfl, hstopped⟩

/-- A conversion has ended at the messages of a name: those before it have been converted,
and the state is theirs but for what the failure has left beside posts and texts. -/
structure Interrupted (config : Config) (uploads : Uploads) (channels : List Channel)
    (entries : List (String × List Slack.Message)) (c c' : Conversion) (error : Error)
    (before : List (String × List Slack.Message)) (name : String)
    (messages : List Slack.Message) : Prop where
  /-- The names come in their order. -/
  entries_eq : ∃ after, entries = before ++ (name, messages) :: after
  isChannel : (channelNamed? channels name).isSome = true
  /-- The names before it are converted, and then the conversion ends. -/
  split : ∃ c₁, addAllPosts config uploads .backend channels before c = .ok () c₁ ∧
    Continued config c c₁ (episodes config uploads channels before c) ∧
    addPosts config uploads .backend channels name messages c₁ = .error error c' ∧
    Stopped config c₁ c' name messages error

/-- The chapters after those of a name are told in the conversion that it has led to. -/
theorem episodes_cons {entry : String × List Slack.Message}
    {later : List (String × List Slack.Message)}
    (h : addPosts config uploads .backend channels entry.1 entry.2 c = .ok () c') :
    episodes config uploads channels (entry :: later) c =
      (episodeOf? config uploads channels entry c).toList ++
        episodes config uploads channels later c' := by
  rw [episodes, Running.stateAfter_of_ok h]

/-- A conversion that gets through has told the chapter of the first name, if it has one, and
then gets through the names that are left. -/
theorem exists_of_addAllPosts_cons {entry : String × List Slack.Message}
    {later : List (String × List Slack.Message)}
    (h : addAllPosts config uploads .backend channels (entry :: later) c = .ok () c') :
    ∃ c₀, addPosts config uploads .backend channels entry.1 entry.2 c = .ok () c₀ ∧
      Continued config c c₀ (episodeOf? config uploads channels entry c).toList ∧
      addAllPosts config uploads .backend channels later c₀ = .ok () c' := by
  rw [addAllPosts] at h
  rcases addPosts_cases config uploads channels entry c with
    ⟨c₀, hrun, hcontinued⟩ | ⟨error, c₀, hrun, -, -⟩
  · rw [Running.bind_of_ok hrun] at h
    exact ⟨c₀, hrun, hcontinued, h⟩
  · rw [Running.bind_of_error hrun] at h
    cases h

/-- **Several channels before any backend.** Either all of them are told and kept, or the
conversion ends at the first that fails. -/
theorem addAllPosts_cases (config : Config) (uploads : Uploads) (channels : List Channel)
    (entries : List (String × List Slack.Message)) (c : Conversion) :
    (∃ c', addAllPosts config uploads .backend channels entries c = .ok () c' ∧
      Continued config c c' (episodes config uploads channels entries c)) ∨
    ∃ error c' before name messages,
      addAllPosts config uploads .backend channels entries c = .error error c' ∧
      Interrupted config uploads channels entries c c' error before name messages := by
  induction entries generalizing c with
  | nil => exact Or.inl ⟨c, rfl, continued_nil rfl rfl⟩
  | cons entry rest ih =>
    unfold addAllPosts
    rcases addPosts_cases config uploads channels entry c with
      ⟨c', hrun, hcontinued⟩ | ⟨error, c', hrun, hchannel, hstopped⟩
    · rw [Running.bind_of_ok hrun, episodes_cons hrun]
      rcases ih c' with ⟨c'', hrun', hcontinued'⟩ |
        ⟨error, c'', before, name, messages, hrun', hinterrupted⟩
      · exact Or.inl ⟨c'', hrun', hcontinued.append hcontinued'⟩
      · obtain ⟨⟨after, hafter⟩, hchannel, c₁, hbefore, hcontinued', hfail⟩ := hinterrupted
        refine Or.inr ⟨error, c'', entry :: before, name, messages, hrun',
          ⟨after, by rw [hafter, List.cons_append]⟩, hchannel, c₁,
          (Running.bind_of_ok hrun).trans hbefore, ?_, hfail⟩
        rw [episodes_cons hrun]
        exact hcontinued.append hcontinued'
    · rw [Running.bind_of_error hrun]
      exact Or.inr ⟨error, c', [], entry.1, entry.2, rfl, ⟨rest, rfl⟩, hchannel, c, rfl,
        continued_nil rfl rfl, hrun, hstopped⟩

/-! ## Which threads are kept -/

/-- An episode has only threads that its messages belong to. -/
theorem exists_of_contains_episode {id : String}
    (h : (episode config uploads name channel messages c).threads.contains id = true) :
    ∃ message ∈ messages, message.threadId = id := by
  obtain ⟨root, hroot⟩ := Table.contains_iff.1 h
  unfold episode at hroot
  rw [Grouping.find?_known] at hroot
  split at hroot
  · next hbelongs =>
    obtain ⟨d, hd, hid⟩ := exists_of_belongs hbelongs
    have hmessage := (ChannelRun.sublist_drafts config uploads channel (inTime messages) _).subset
      (List.mem_map_of_mem hd)
    exact ⟨d.message, (List.mergeSort_perm messages _).subset hmessage, hid⟩
  · cases hroot

/-- Each chapter is the episode of a name and its messages. -/
theorem exists_of_mem_episodes {entries : List (String × List Slack.Message)}
    (h : ch ∈ episodes config uploads channels entries c) : ∃ entry ∈ entries,
      ∃ channel c, ch = episode config uploads entry.1 channel entry.2 c := by
  induction entries generalizing c with
  | nil => cases h
  | cons entry rest ih =>
    unfold episodes at h
    rcases List.mem_append.1 h with h | h
    · obtain ⟨channel, -, rfl⟩ := Option.map_eq_some_iff.1 (Option.mem_toList.1 h)
      exact ⟨entry, List.mem_cons_self, channel, c, rfl⟩
    · obtain ⟨entry, hmem, hentry⟩ := ih h
      exact ⟨entry, List.mem_cons_of_mem _ hmem, hentry⟩

/-- The chapters have the names that are those of channels. -/
theorem map_name_episodes {entries : List (String × List Slack.Message)} :
    (episodes config uploads channels entries c).map Chapter.name =
      (entries.map (·.1)).filter fun name => (channelNamed? channels name).isSome := by
  induction entries generalizing c with
  | nil => rfl
  | cons entry rest ih =>
    rw [episodes, List.map_append, List.map_cons, ih, episodeOf?]
    cases hchannel : channelNamed? channels entry.1 with
    | none => rw [List.filter_cons_of_neg (by simp [hchannel])]; rfl
    | some channel => rw [List.filter_cons_of_pos (by simp [hchannel])]; rfl

/-- The threads of plain messages are plain. -/
theorem plain_of_episodes {entries : List (String × List Slack.Message)}
    (hplain : ∀ entry ∈ entries, ∀ message ∈ entry.2, message.Plain)
    (hmem : ch ∈ episodes config uploads channels entries c) {id : String}
    (hid : ch.threads.contains id = true) : id ∈ plainIds := by
  obtain ⟨entry, hentry, channel, c, rfl⟩ := exists_of_mem_episodes hmem
  obtain ⟨message, hmessage, rfl⟩ := exists_of_contains_episode hid
  exact (hplain entry hentry message hmessage).threadId

theorem mem_texts {key text : String} : (key, text) ∈ ch.texts ↔
    ∃ id root, ch.threads.find? id = some root ∧ key = threadKey ch.name id ∧
      text = root.json.text := by
  rw [Chapter.texts_eq, List.mem_map]
  constructor
  · rintro ⟨⟨_, root⟩, hmem, heq⟩
    obtain ⟨rfl, rfl⟩ := Prod.mk.inj heq
    obtain ⟨id, hroot, hkey⟩ := Chapter.mem_kept.1 hmem
    exact ⟨id, root, hroot, hkey, rfl⟩
  · rintro ⟨id, root, hroot, hkey, rfl⟩
    exact ⟨(key, root), Chapter.mem_kept.2 ⟨id, hroot, hkey⟩, rfl⟩

/-- The keys of chapters with different names and plain threads are different. -/
theorem nodup_keys_of_plain (hnames : (chs.map Chapter.name).Nodup)
    (hplain : ∀ ch ∈ chs, ∀ id, ch.threads.contains id = true → id ∈ plainIds) :
    ((chs.flatMap Chapter.texts).map (·.1)).Nodup := by
  rw [List.map_flatMap, List.nodup_flatMap]
  constructor
  · intro ch _
    have hkeys : ch.texts.map (·.1) = ch.threads.keys.map (threadKey ch.name) := by
      simp only [Chapter.texts, Table.keys, List.map_map, Function.comp_def]
    rw [hkeys]
    exact List.Pairwise.map _ (fun _ _ hne heq => hne (threadKey_inj heq)) Table.nodup_keys
  · rw [List.Nodup, List.pairwise_map] at hnames
    refine hnames.imp_of_mem fun {ch ch'} hmem hmem' hne key hkey hkey' => ?_
    obtain ⟨⟨key, text⟩, htext, rfl⟩ := List.mem_map.1 hkey
    obtain ⟨⟨key', text'⟩, htext', heq⟩ := List.mem_map.1 hkey'
    obtain ⟨id, root, hroot, rfl, -⟩ := mem_texts.1 htext
    obtain ⟨id', root', hroot', rfl, -⟩ := mem_texts.1 htext'
    exact hne (threadKey_inj_of_plain heq.symm (hplain ch hmem id (Table.contains_iff.2 ⟨_, hroot⟩))
      (hplain ch' hmem' id' (Table.contains_iff.2 ⟨_, hroot'⟩))).1

/-- A name that stands once among entries has the keys of its plain threads for itself. -/
theorem threadKey_ne_of_before {before after : List (String × List Slack.Message)}
    {entry : String × List Slack.Message} {c : Conversion} {ch : Chapter} {id id' : String}
    (hnodup : ((before ++ after).map (·.1)).Nodup)
    (hplain : ∀ entry ∈ before, ∀ message ∈ entry.2, message.Plain)
    (hentry : entry ∈ after) (hid : id ∈ plainIds)
    (hmem : ch ∈ episodes config uploads channels before c)
    (hid' : ch.threads.contains id' = true) : threadKey entry.1 id ≠ threadKey ch.name id' := by
  intro heq
  have hname := (threadKey_inj_of_plain heq hid (plain_of_episodes hplain hmem hid')).1
  obtain ⟨other, hother, channel, c, rfl⟩ := exists_of_mem_episodes hmem
  rw [List.map_append] at hnodup
  exact (List.nodup_append.1 hnodup).2.2 other.1 (List.mem_map_of_mem hother) entry.1
    (List.mem_map_of_mem hentry) hname.symm

/-- **Each thread goes to its own key**, where the keys are different. -/
theorem find?_withTexts_of_mem (hkeys : ((chs.flatMap Chapter.texts).map (·.1)).Nodup)
    (hmem : ch ∈ chs) {id : String} {root : Post} (hroot : ch.threads.find? id = some root) :
    (withTexts texts chs).find? (threadKey ch.name id) = some root.json.text :=
  Table.find?_insertAll_of_mem hkeys
    (List.mem_flatMap.2 ⟨ch, hmem, mem_texts.2 ⟨id, root, hroot, rfl, rfl⟩⟩)

/-- **Other texts are as they were.** -/
theorem find?_withTexts_of_not {key : String}
    (h : ∀ ch ∈ chs, ∀ id, ch.threads.contains id = true → key ≠ threadKey ch.name id) :
    (withTexts texts chs).find? key = texts.find? key := by
  refine Table.find?_insertAll_of_notMem fun hkey => ?_
  obtain ⟨⟨key, text⟩, htext, rfl⟩ := List.mem_map.1 hkey
  obtain ⟨ch, hmem, htext⟩ := List.mem_flatMap.1 htext
  obtain ⟨id, root, hroot, hkey, -⟩ := mem_texts.1 htext
  exact h ch hmem id (Table.contains_iff.2 ⟨root, hroot⟩) hkey

/-! ## Whole conversions -/

/-- The conversion when the posts are about to begin before a backend. -/
def begun (config : Config) (e : Export) (c : Conversion) : Conversion :=
  ((((c.withUsers config.effectiveAuthService e.users).withChannels e).withMemberships)
    |>.withMemberNames).telling
      [.info ("Transforming posts using " ++ StoreSource.backend.words ++ " thread storage")]

/-- The chapters that a conversion of an export tells before a backend; none if posts are
left out. -/
def continuation (config : Config) (e : Export) (c : Conversion) : List Chapter :=
  if config.skipChannels || config.skipPosts then []
  else
    episodes config e.uploads (begun config e c).content.channels e.messages.entries
      (begun config e c)

/-- It differs by its log from the one in memory. -/
theorem content_begun (config : Config) (e : Export) (c : Conversion) :
    (begun config e c).content = (prepared config e c).content := by
  simp only [begun, prepared, telling]

theorem backend_prepared_eq (config : Config) (e : Export) (c : Conversion) :
    (prepared config e c).backend = (begun config e c).backend := by
  simp only [begun, prepared, telling]

theorem convertWith_backend_eq {e : Export} (hchannels : config.skipChannels = false)
    (hposts : config.skipPosts = false) : convertWith config .backend e c =
      (addAllPosts config e.uploads .backend (begun config e c).content.channels
        e.messages.entries >>= fun _ => get >>= fun c => tell c.summary.notices)
        (begun config e c) := by
  unfold convertWith
  simp only [hchannels, hposts]
  rfl

theorem backend_outset (config : Config) (e : Export) (c : Conversion) :
    (outset config e c).backend = c.backend := by
  obtain ⟨table, log, husers⟩ := exists_withUsers c config.effectiveAuthService e.users
  unfold outset prepared
  rw [husers]
  split
  · rfl
  · split <;> rfl

theorem backend_begun (config : Config) (e : Export) (c : Conversion) :
    (begun config e c).backend = c.backend := by
  obtain ⟨table, log, husers⟩ := exists_withUsers c config.effectiveAuthService e.users
  unfold begun
  rw [husers]
  rfl

theorem posts_begun (config : Config) (e : Export) (c : Conversion) :
    (begun config e c).content.posts = c.content.posts := by
  obtain ⟨table, log, husers⟩ := exists_withUsers c config.effectiveAuthService e.users
  unfold begun
  rw [husers]
  rfl

/-- **A conversion before any backend** tells the continuation of the export and keeps it,
or it ends at the first channel that fails. -/
theorem convertWith_cases (config : Config) (e : Export) (c : Conversion) :
    (∃ c', convertWith config .backend e c = .ok () c' ∧
      Continued config (outset config e c) c' (continuation config e c)) ∨
    ∃ error c' before name messages, convertWith config .backend e c = .error error c' ∧
      (config.skipChannels || config.skipPosts) = false ∧
      Interrupted config e.uploads (begun config e c).content.channels e.messages.entries
        (begun config e c) c' error before name messages := by
  by_cases hleft : (config.skipChannels || config.skipPosts) = true
  · rw [convertWith_of_skip hleft, continuation, if_pos hleft]
    exact Or.inl ⟨_, rfl, continued_nil rfl rfl⟩
  · obtain ⟨hchannels, hposts⟩ := Bool.or_eq_false_iff.1 (Bool.eq_false_iff.2 hleft)
    rw [convertWith_backend_eq hchannels hposts, outset_eq_prepared hchannels hposts, continuation,
      if_neg hleft]
    rcases addAllPosts_cases config e.uploads (begun config e c).content.channels
        e.messages.entries (begun config e c) with
      ⟨c', hrun, hcontinued⟩ | ⟨error, c', before, name, messages, hrun, hinterrupted⟩
    · rw [Running.bind_of_ok hrun]
      exact Or.inl ⟨_, rfl, hcontinued.congr (content_begun config e c).symm
        (backend_prepared_eq config e c) rfl rfl⟩
    · rw [Running.bind_of_error hrun]
      exact Or.inr ⟨error, c', before, name, messages, rfl, Bool.eq_false_iff.2 hleft,
        hinterrupted⟩

end Conversion

end ChatImport
