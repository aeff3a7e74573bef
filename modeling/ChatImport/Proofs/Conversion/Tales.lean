import ChatImport.Proofs.Conversion.Chapters
import ChatImport.Proofs.Thread.Tally
/-!
# Chapters told by names

Where no files are copied, what becomes of the messages of a channel is told by
the messages and the names of the users alone, and the names in turn by the
messages that were met before. So a chapter can be told without running anything
(`Conversion.tale`), and so can all of them, one after the other
(`Conversion.tales`). In memory these are the chapters that a conversion tells
(`Conversion.chapters_eq_tales`).

The threads of a chapter are told apart from those of other chapters by the keys
that they would have before a backend, if their identifiers have no colon
(`threadKey_inj_of_plain`). These are the times of messages, so it is enough that
these have none (`Slack.Message.Plain`).
-/

namespace ChatImport

open Mattermost (Post Channel)

/-! ## Messages without a colon -/

/-- Neither the time of the message nor that of its thread has a colon. -/
structure Slack.Message.Plain (m : Slack.Message) : Prop where
  timestamp : m.timestamp ∈ plainIds
  threadTimestamp : m.threadTimestamp ∈ plainIds

instance (m : Slack.Message) : Decidable m.Plain :=
  decidable_of_iff (m.timestamp ∈ plainIds ∧ m.threadTimestamp ∈ plainIds)
    ⟨fun h => ⟨h.1, h.2⟩, fun h => ⟨h.timestamp, h.threadTimestamp⟩⟩

theorem Slack.Message.Plain.threadId {m : Slack.Message} (h : m.Plain) : m.threadId ∈ plainIds := by
  unfold Slack.Message.threadId
  split
  · exact h.threadTimestamp
  · exact h.timestamp

/-! ## Chapters told by names -/

namespace Conversion

variable {config : Config} {uploads : Uploads} {channels : List Channel} {channel : Channel}
variable {name : String} {messages : List Slack.Message} {c c' c'' : Conversion}
variable {chs chs' : List Chapter} {ch : Chapter} {names : String → Option String}

/-- The drafts that come of messages, told by the names of the users. -/
def draftsOf (config : Config) (channel : Channel) :
    List Slack.Message → (String → Option String) → List Draft
  | [], _ => []
  | message :: rest, names =>
    let names := namesFor config names message
    ((postOf? config names message channel).map fun post => ⟨message, post⟩).toList ++
      draftsOf config channel rest names

/-- The chapter of a channel, told by the names of the users. -/
def tale (config : Config) (name : String) (channel : Channel) (messages : List Slack.Message)
    (names : String → Option String) : Chapter :=
  let drafts := draftsOf config channel (inTime messages) names
  { name := name
    channel := channel
    messages := messages
    drafts := drafts
    threads := Grouping.table config.importWorkflowMessages
      (stamped channel Ledger.empty drafts) }

/-- The names once the messages of chapters have been met. -/
def namesAfter (config : Config) (chs : List Chapter) (names : String → Option String) :
    String → Option String :=
  (chs.flatMap fun ch => inTime ch.messages).foldl (namesFor config) names

/-- The chapter of a name, if it is that of a channel. -/
def taleOf? (config : Config) (channels : List Channel) (entry : String × List Slack.Message)
    (names : String → Option String) : Option Chapter :=
  (channelNamed? channels entry.1).map fun channel => tale config entry.1 channel entry.2 names

/-- The chapters of several names, told by the names of the users. -/
def tales (config : Config) (channels : List Channel) :
    List (String × List Slack.Message) → (String → Option String) → List Chapter
  | [], _ => []
  | entry :: rest, names =>
    let told := (taleOf? config channels entry names).toList
    told ++ tales config channels rest (namesAfter config told names)

theorem message_mem_of_draftsOf {d : Draft} (h : d ∈ draftsOf config channel messages names) :
    d.message ∈ messages := by
  induction messages generalizing names with
  | nil => cases h
  | cons message rest ih =>
    unfold draftsOf at h
    rcases List.mem_append.1 h with h | h
    · obtain ⟨post, -, rfl⟩ := Option.map_eq_some_iff.1 (Option.mem_toList.1 h)
      exact List.mem_cons_self
    · exact List.mem_cons_of_mem _ (ih h)

/-- A chapter has the threads that its drafts open. -/
theorem contains_tale {id : String} :
    (tale config name channel messages names).threads.contains id = true ↔
      ∃ d ∈ draftsOf config channel (inTime messages) names, d.opens id = true := by
  unfold tale Table.contains
  rw [Grouping.find?_table, Grouping.isSome_thread_iff, exists_opens_stamped]
  simp only [Option.isSome_none, Bool.false_eq_true, or_false]

/-- The threads of plain messages are plain. -/
theorem plain_of_tale {id : String} (hplain : ∀ message ∈ messages, message.Plain)
    (h : (tale config name channel messages names).threads.contains id = true) :
    id ∈ plainIds := by
  obtain ⟨d, hd, hopens⟩ := contains_tale.1 h
  have hmem : d.message ∈ messages :=
    (List.mergeSort_perm messages _).subset (message_mem_of_draftsOf hd)
  simp only [Draft.opens, Bool.and_eq_true, beq_iff_eq] at hopens
  exact hopens.2 ▸ (hplain _ hmem).timestamp

/-- Each chapter is that of a name and its messages. -/
theorem exists_of_mem_tales {entries : List (String × List Slack.Message)}
    (h : ch ∈ tales config channels entries names) : ∃ entry ∈ entries, ∃ channel names,
      ch = tale config entry.1 channel entry.2 names := by
  induction entries generalizing names with
  | nil => cases h
  | cons entry rest ih =>
    unfold tales at h
    rcases List.mem_append.1 h with h | h
    · obtain ⟨channel, -, rfl⟩ := Option.map_eq_some_iff.1 (Option.mem_toList.1 h)
      exact ⟨entry, List.mem_cons_self, channel, names, rfl⟩
    · obtain ⟨entry, hmem, hentry⟩ := ih h
      exact ⟨entry, List.mem_cons_of_mem _ hmem, hentry⟩

/-! ## What is told is what is made -/

/-- Where no files are copied, a message makes of the names what is told of it, whether or
not its post can be placed. -/
theorem username?_take (hskip : config.skipAttachments = true) (message : Slack.Message)
    (r : ChannelRun) :
    (Running.stateAfter (ChannelRun.take config uploads channel message) r).conversion.username? =
      namesFor config r.conversion.username? message := by
  obtain ⟨made, c, hpost, hmet⟩ :=
    of_skipAttachments hskip (postFor_spec config uploads message channel r.conversion)
  rw [← hmet.username?_eq, Running.stateAfter, ChannelRun.take,
    Running.bind_of_ok (ChannelRun.converting_of_ok hpost)]
  cases made with
  | none => rfl
  | some post =>
    simp only []
    cases hplace : Desk.place message post channel config.importWorkflowMessages
        { r with conversion := c }.desk with
    | ok placement d => rw [Running.bind_of_ok (ChannelRun.atDesk_of_ok hplace)]; rfl
    | error error d => rw [Running.bind_of_error (ChannelRun.atDesk_of_error hplace)]; rfl

/-- Where no files are copied, the drafts are told by the names of the users. -/
theorem drafts_eq_draftsOf (hskip : config.skipAttachments = true) (r : ChannelRun) :
    ChannelRun.drafts config uploads channel messages r =
      draftsOf config channel messages r.conversion.username? := by
  induction messages generalizing r with
  | nil => rfl
  | cons message rest ih =>
    have hdraft : ChannelRun.draftOf config uploads channel message r =
        ((postOf? config (namesFor config r.conversion.username? message) message channel).map
          fun post => ⟨message, post⟩).toList := by
      unfold ChannelRun.draftOf
      obtain ⟨made, c, hpost, hmet⟩ :=
        of_skipAttachments hskip (postFor_spec config uploads message channel r.conversion)
      rw [hpost, ← hmet.eq_postOf? hskip]
      cases made <;> rfl
    unfold ChannelRun.drafts draftsOf
    rw [hdraft, ih, username?_take hskip]

/-- In memory the chapter of a channel is told by the names of the users as well. -/
theorem chapter_eq_tale (hskip : config.skipAttachments = true) :
    chapter config uploads name channel messages c =
      tale config name channel messages c.username? := by
  have hdrafts : (chapter config uploads name channel messages c).drafts =
      draftsOf config channel (inTime messages) c.username? :=
    drafts_eq_draftsOf hskip _
  have hthreads : (chapter config uploads name channel messages c).threads =
      (tale config name channel messages c.username?).threads := by
    obtain ⟨r, -, horderly, -⟩ :=
      of_skipAttachments hskip (assembled_spec config uploads name channel messages c)
    have hgrouped := Grouping.eq_table horderly.grouped
    rwa [Chapter.entered, hdrafts] at hgrouped
  have hch : chapter config uploads name channel messages c =
      ⟨name, channel, messages, (chapter config uploads name channel messages c).drafts,
        (chapter config uploads name channel messages c).threads⟩ := rfl
  rw [hch, hdrafts, hthreads]
  rfl

theorem chapters_eq_tales {entries : List (String × List Slack.Message)}
    (hskip : config.skipAttachments = true) : chapters config uploads channels entries c =
      tales config channels entries c.username? := by
  induction entries generalizing c with
  | nil => rfl
  | cons entry rest ih =>
    obtain ⟨name, messages⟩ := entry
    have htold : ((channelNamed? channels name).map fun channel =>
        chapter config uploads name channel messages c).toList =
          (taleOf? config channels (name, messages) c.username?).toList := by
      simp only [taleOf?, chapter_eq_tale hskip]
    obtain ⟨c', hrun, hrecorded⟩ :=
      of_skipAttachments hskip (addPosts_spec config uploads channels name messages c)
    rw [htold] at hrecorded
    unfold chapters tales
    rw [Running.stateAfter_of_ok hrun, ih, hrecorded.names, ← htold]
    cases channelNamed? channels name <;> rfl

/-! ## The story is told by what has been made -/

section

variable {e : Export}

theorem content_withUsers (h : c.content = c'.content) (service : Option String)
    (users : List Slack.User) :
    (c.withUsers service users).content = (c'.withUsers service users).content := by
  refine List.foldl_rel (r := fun c c' : Conversion => c.content = c'.content) h
    fun user _ c c' h => ?_
  simp only [withUser, changing, telling, h]

/-- What there is when the posts begin is told by the settings and the export. -/
theorem content_prepared (h : c.content = c'.content) :
    (prepared config e c).content = (prepared config e c').content :=
  congrArg (fun content =>
    (({ c with content := content }.withChannels e).withMemberships).withMemberNames.content)
    (content_withUsers h config.effectiveAuthService e.users)

/-- And so is the story. -/
theorem story_eq_of_content (hskip : config.skipAttachments = true)
    (h : c.content = c'.content) : story config e c = story config e c' := by
  have hcontent : (prepared config e c).content = (prepared config e c').content :=
    content_prepared h
  have hnames := username?_congr hcontent
  unfold story
  simp only [chapters_eq_tales hskip]
  rw [hcontent, hnames]

end

end Conversion

end ChatImport
