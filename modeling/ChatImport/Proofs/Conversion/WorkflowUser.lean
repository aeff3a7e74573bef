import ChatImport.Proofs.Conversion.Announcing
import ChatImport.Proofs.Conversion.Integrity
import ChatImport.Proofs.Conversion.Tales
/-!
# The author of messages of bots

Messages of bots and workflows have no user of the workspace for their author. If they are
imported, a user of their own is made when the first of them comes up. That is before it is
known whether the message becomes a post: it may still be dropped for what goes with it
(`Conversion.Excessive`). So he is there if and only if such a message has come up, which is
more than that one has become a post (`Conversion.convertWith_workflowUser`). There is one of
him at most, and every message of a bot that becomes a post has him for its author.
-/

namespace ChatImport

open Mattermost (Post Channel)

namespace Conversion

variable {config : Config} {message : Slack.Message} {channel : Channel} {id : String}
variable {channels : List Channel} {messages : List Slack.Message} {e : Export} {c : Conversion}
variable {names : String → Option String} {author : String}

/-! ## Names -/

/-- Nobody else is known under the identifier of the author of messages of bots. -/
def Reserved (names : String → Option String) : Prop :=
  ∀ name, names workflowUserId = some name → name = workflowUsername

theorem namesFor_workflowUserId : namesFor config names message workflowUserId =
    if isAutomatic config message then some ((names workflowUserId).getD workflowUsername)
    else names workflowUserId := by
  simp only [namesFor, beq_self_eq_true, Bool.and_true]

/-- Messages leave it so. -/
theorem Reserved.namesFor (h : Reserved names) (message : Slack.Message) :
    Reserved (namesFor config names message) := by
  intro name hname
  rw [namesFor_workflowUserId] at hname
  split at hname
  · cases hnames : names workflowUserId with
    | none =>
      rw [hnames] at hname
      exact (Option.some.inj hname).symm
    | some known =>
      rw [hnames] at hname
      exact (Option.some.inj hname) ▸ h known hnames
  · exact h name hname

theorem Reserved.foldl (h : Reserved names) (messages : List Slack.Message) :
    Reserved (messages.foldl (Conversion.namesFor config) names) :=
  List.foldlRecOn messages _ h fun _ hnames message _ => hnames.namesFor message

/-- **He is known as soon as one of his messages has come up.** -/
theorem isSome_foldl_namesFor :
    (messages.foldl (namesFor config) names workflowUserId).isSome = true ↔
      (names workflowUserId).isSome = true ∨
        ∃ message ∈ messages, isAutomatic config message = true := by
  induction messages generalizing names with
  | nil => simp
  | cons message rest ih =>
    have hfirst : (namesFor config names message workflowUserId).isSome = true ↔
        (names workflowUserId).isSome = true ∨ isAutomatic config message = true := by
      rw [namesFor_workflowUserId]
      cases hauto : isAutomatic config message with
      | true => simp
      | false => simp
    rw [List.foldl_cons, ih, hfirst, List.exists_mem_cons_iff, or_assoc]

/-- Before the first message the names are those of the users of the workspace. -/
theorem username?_outset : (outset config e c).username? =
    (c.withUsers config.effectiveAuthService e.users).username? := by
  have htold : (((c.withUsers config.effectiveAuthService e.users).withChannels e
      ).withMemberships).username? =
      (c.withUsers config.effectiveAuthService e.users).username? := by
    funext id
    change (((c.withUsers config.effectiveAuthService e.users).content.users.map _).find? id).map
      _ = _
    rw [Table.find?_map, Option.map_map]
    rfl
  unfold outset
  split
  · rfl
  · split
    · exact htold
    · exact htold

theorem username?_outset_of_fresh {password : String} {files : Files} {backend : Backend}
    (hmembers : ∀ member ∈ e.users, member.id ≠ workflowUserId) :
    (outset config e (fresh password files backend)).username? workflowUserId = none := by
  have hnobody : e.users.reverse.find? (·.id == workflowUserId) = none :=
    List.find?_eq_none.2 fun member hmem => by simpa using hmembers member (List.mem_reverse.1 hmem)
  rw [username?_outset, username?, find?_withUsers_eq, hnobody]
  rfl

/-! ## Messages of bots -/

/-- Is the message one that is dropped for what goes with it? -/
def isExcessive (config : Config) (message : Slack.Message) : Bool :=
  config.discardInvalidProps && !message.attachments.isEmpty &&
    config.maxPropsChars <
      charCount (Json.object [("attachments", .array message.attachments)]).text

theorem isSome_propsFor :
    (propsFor config message).1.isSome = !isExcessive config message := by
  unfold propsFor isExcessive
  dsimp only
  cases hempty : message.attachments.isEmpty with
  | true => simp
  | false =>
    by_cases hfits : charCount (Json.object [("attachments", .array message.attachments)]).text ≤
        config.maxPropsChars
    · simp [hfits]
    · cases hdiscard : config.discardInvalidProps with
      | true => simp [hfits, Nat.not_le.1 hfits]
      | false => simp [hfits]

/-- **A message of a bot becomes a post** if it is imported and not dropped. -/
theorem isSome_postOf? (hkind : message.kind = .bot) :
    (postOf? config (namesFor config names message) message channel).isSome =
      (isAutomatic config message && !isExcessive config message) := by
  cases himport : config.importWorkflowMessages with
  | false => simp only [postOf?, author?, hkind, isAutomatic, himport, Bool.false_eq_true, if_false,
      Option.bind_none, Option.isSome_none, Bool.false_and]
  | true =>
    have hauto : isAutomatic config message = true := by simp [isAutomatic, himport, hkind]
    simp only [postOf?, author?, extras?, hkind, himport, if_true, namesFor_workflowUserId, hauto,
      Option.bind_some, Option.isSome_map, isSome_propsFor, Bool.true_and]

/-- He is its author. -/
theorem user_of_postOf? {post : Post} (h : Reserved names) (hkind : message.kind = .bot)
    (hpost : postOf? config (namesFor config names message) message channel = some post) :
    post.user = workflowUsername := by
  obtain ⟨author, hauthor, hpost⟩ := Option.bind_eq_some_iff.1 hpost
  obtain ⟨props, -, rfl⟩ := Option.map_eq_some_iff.1 hpost
  simp only [author?, hkind] at hauthor
  split at hauthor
  · exact h.namesFor message author hauthor
  · cases hauthor

/-! ## All messages -/

theorem filter_draftsOf : ((draftsOf config channel messages names).map Draft.message).filter
      (·.kind == .bot) =
    messages.filter fun message => isAutomatic config message && !isExcessive config message := by
  induction messages generalizing names with
  | nil => rfl
  | cons message rest ih =>
    have hmade : (((postOf? config (namesFor config names message) message channel).map
        fun post => (⟨message, post⟩ : Draft)).toList.map Draft.message) =
        if (postOf? config (namesFor config names message) message channel).isSome then [message]
        else [] := by
      cases postOf? config (namesFor config names message) message channel <;> rfl
    unfold draftsOf
    rw [List.map_append, List.filter_append, ih, List.filter_cons, hmade]
    by_cases hkind : message.kind = .bot
    · rw [isSome_postOf? hkind]
      split
      · rw [List.filter_cons_of_pos (by simpa using hkind)]
        rfl
      · rfl
    · -- messages of other kinds count on neither side
      have hauto : isAutomatic config message = false := by simp [isAutomatic, hkind]
      rw [hauto, Bool.false_and, if_neg Bool.false_ne_true]
      split
      · rw [List.filter_cons_of_neg (by simpa using hkind)]
        rfl
      · rfl

theorem user_of_mem_draftsOf {d : Draft} (h : Reserved names)
    (hmem : d ∈ draftsOf config channel messages names) (hkind : d.message.kind = .bot) :
    d.post.user = workflowUsername := by
  induction messages generalizing names with
  | nil => cases hmem
  | cons message rest ih =>
    unfold draftsOf at hmem
    rcases List.mem_append.1 hmem with hmem | hmem
    · obtain ⟨post, hpost, rfl⟩ := Option.map_eq_some_iff.1 (Option.mem_toList.1 hmem)
      exact user_of_postOf? h hkind hpost
    · exact ih (h.namesFor message) hmem

/-- What holds of a chapter that is told by reserved names. -/
structure BotsTold (config : Config) (ch : Chapter) : Prop where
  /-- The messages of bots that have become posts are those that are imported and not dropped. -/
  accepted : (ch.drafts.map Draft.message).filter (·.kind == .bot) =
    (inTime ch.messages).filter fun message =>
      isAutomatic config message && !isExcessive config message
  /-- Their author is the one user. -/
  author : ∀ d ∈ ch.drafts, d.message.kind = .bot → d.post.user = workflowUsername

theorem botsTold_of_mem_tales {entries : List (String × List Slack.Message)} {ch : Chapter}
    (h : Reserved names) (hmem : ch ∈ tales config channels entries names) :
    BotsTold config ch := by
  induction entries generalizing names with
  | nil => cases hmem
  | cons entry rest ih =>
    unfold tales at hmem
    rcases List.mem_append.1 hmem with hmem | hmem
    · obtain ⟨channel, -, rfl⟩ := Option.map_eq_some_iff.1 (Option.mem_toList.1 hmem)
      exact ⟨filter_draftsOf, fun d hd hkind => user_of_mem_draftsOf h hd hkind⟩
    · exact ih (h.foldl _) hmem

theorem botsTold_of_mem_story (hskip : config.skipAttachments = true) {ch : Chapter}
    (h : Reserved (outset config e c).username?) (hmem : ch ∈ story config e c) :
    BotsTold config ch := by
  unfold story at hmem
  split at hmem
  · cases hmem
  · next hnone =>
    obtain ⟨hchannels, hposts⟩ := Bool.or_eq_false_iff.1 (Bool.eq_false_iff.2 hnone)
    rw [outset_eq_prepared hchannels hposts] at h
    dsimp only at hmem
    rw [chapters_eq_tales hskip] at hmem
    exact botsTold_of_mem_tales h hmem

/-- In a chapter a message of a bot has become a post if one was imported and not dropped. -/
theorem BotsTold.exists_draft_iff {ch : Chapter} (h : BotsTold config ch) :
    (∃ d ∈ ch.drafts, d.message.kind = .bot) ↔
      ∃ message ∈ ch.messages, isAutomatic config message = true ∧
        isExcessive config message = false := by
  have hmem : ∀ message : Slack.Message,
      message ∈ (ch.drafts.map Draft.message).filter (·.kind == .bot) ↔
        message ∈ ch.messages ∧ isAutomatic config message = true ∧
          isExcessive config message = false := by
    intro message
    rw [h.accepted, List.mem_filter, inTime, List.mem_mergeSort]
    simp only [Bool.and_eq_true, Bool.not_eq_true']
  simp only [← hmem, List.mem_filter, List.mem_map, beq_iff_eq]
  constructor
  · rintro ⟨d, hd, hkind⟩
    exact ⟨d.message, ⟨d, hd, rfl⟩, hkind⟩
  · rintro ⟨-, ⟨d, hd, rfl⟩, hkind⟩
    exact ⟨d, hd, hkind⟩

/-- A message of a bot has become a post. -/
def BotAccepted (chs : List Chapter) : Prop := ∃ ch ∈ chs, ∃ d ∈ ch.drafts, d.message.kind = .bot

instance (chs : List Chapter) : Decidable (BotAccepted chs) :=
  inferInstanceAs (Decidable (∃ ch ∈ chs, ∃ d ∈ ch.drafts, d.message.kind = .bot))

/-- A message of a bot has been dropped for what goes with it. -/
def BotDropped (config : Config) (chs : List Chapter) : Prop :=
  ∃ ch ∈ chs, ∃ message ∈ ch.messages,
    isAutomatic config message = true ∧ isExcessive config message = true

/-- Every message of a bot that has come up is accepted or dropped. -/
theorem exists_automatic_iff {chs : List Chapter} (h : ∀ ch ∈ chs, BotsTold config ch) :
    (∃ ch ∈ chs, ∃ message ∈ ch.messages, isAutomatic config message = true) ↔
      BotAccepted chs ∨ BotDropped config chs := by
  constructor
  · rintro ⟨ch, hch, message, hmem, hauto⟩
    cases hexcess : isExcessive config message with
    | true => exact Or.inr ⟨ch, hch, message, hmem, hauto, hexcess⟩
    | false => exact Or.inl ⟨ch, hch, (h ch hch).exists_draft_iff.2 ⟨message, hmem, hauto, hexcess⟩⟩
  · rintro (⟨ch, hch, hdraft⟩ | ⟨ch, hch, message, hmem, hauto, -⟩)
    · obtain ⟨message, hmem, hauto, -⟩ := (h ch hch).exists_draft_iff.1 hdraft
      exact ⟨ch, hch, message, hmem, hauto⟩
    · exact ⟨ch, hch, message, hmem, hauto⟩

/-- Nothing is dropped unless the settings say so. -/
theorem not_botDropped {chs : List Chapter} (h : config.discardInvalidProps = false) :
    ¬ BotDropped config chs := by
  rintro ⟨-, -, message, -, -, hexcess⟩
  rw [isExcessive, h] at hexcess
  cases hexcess

/-- **He is there if and only if one of his messages has come up.** -/
theorem Recorded.contains_workflowUser {c' : Conversion} {chs : List Chapter}
    (h : Recorded config c c' chs) (hnone : c.username? workflowUserId = none) :
    c'.content.users.contains workflowUserId = true ↔
      ∃ ch ∈ chs, ∃ message ∈ ch.messages, isAutomatic config message = true := by
  have hmem : ∀ message : Slack.Message, (∃ ch ∈ chs, message ∈ inTime ch.messages) ↔
      ∃ ch ∈ chs, message ∈ ch.messages :=
    fun message => by simp only [inTime, List.mem_mergeSort]
  rw [contains_users, h.names, isSome_foldl_namesFor, hnone]
  simp only [Option.isSome_none, Bool.false_eq_true, false_or, List.mem_flatMap, hmem]
  constructor
  · rintro ⟨message, ⟨ch, hch, hmem⟩, hauto⟩
    exact ⟨ch, hch, message, hmem, hauto⟩
  · rintro ⟨ch, hch, message, hmem, hauto⟩
    exact ⟨message, ⟨ch, hch, hmem⟩, hauto⟩

/-- **The author of messages of bots.** Let no files be copied, let the stores be in memory, and
let nobody in the workspace have his identifier. Then a conversion succeeds. The messages
of bots that become posts are, in each channel, those that are imported and not dropped for what
goes with them. He is there if and only if one has become a post or one has been dropped; so where
none are dropped, he is there if and only if one has become a post. He is the author of all of
them, and the log says once that he was made if he is there, and never otherwise. -/
theorem convertWith_workflowUser (config : Config) (e : Export) (password : String)
    (files : Files) (backend : Backend) (hskip : config.skipAttachments = true)
    (hmembers : ∀ member ∈ e.users, member.id ≠ workflowUserId) :
    let c := fresh password files backend
    let chs := story config e c
    ∃ c', convertWith config .memory e c = .ok () c' ∧
      c'.content.posts = chs.flatMap Chapter.roots ∧
      (∀ ch ∈ chs, (ch.drafts.map Draft.message).filter (·.kind == .bot) =
        (inTime ch.messages).filter fun message =>
          isAutomatic config message && !isExcessive config message) ∧
      (c'.content.users.contains workflowUserId = true ↔
        BotAccepted chs ∨ BotDropped config chs) ∧
      (config.discardInvalidProps = false →
        (c'.content.users.contains workflowUserId = true ↔ BotAccepted chs)) ∧
      (∀ ch ∈ chs, ∀ d ∈ ch.drafts, d.message.kind = .bot →
        c'.username? workflowUserId = some d.post.user) ∧
      c'.log.toList.count creationNotice =
        if c'.content.users.contains workflowUserId then 1 else 0 := by
  intro c chs
  obtain ⟨c', hrun, hrecorded⟩ := of_skipAttachments hskip (convertWith_recorded config e c)
  have hnone : (outset config e c).username? workflowUserId = none :=
    username?_outset_of_fresh hmembers
  have hreserved : Reserved (outset config e c).username? :=
    fun name hname => nomatch hnone.symm.trans hname
  have hbots : ∀ ch ∈ chs, BotsTold config ch :=
    fun ch hch => botsTold_of_mem_story hskip hreserved hch
  have hthere : c'.content.users.contains workflowUserId = true ↔
      BotAccepted chs ∨ BotDropped config chs :=
    (hrecorded.contains_workflowUser hnone).trans (exists_automatic_iff hbots)
  have hposts : c'.content.posts = chs.flatMap Chapter.roots := by
    rw [hrecorded.told.1, posts_outset]
    rfl
  refine ⟨c', hrun, hposts, fun ch hch => (hbots ch hch).accepted, hthere, fun hkeep => ?_,
    fun ch hch d hd hkind => ?_, ?_⟩
  · rw [hthere, or_iff_left (not_botDropped hkeep)]
  · have hknown := hthere.2 (Or.inl ⟨ch, hch, d, hd, hkind⟩)
    rw [contains_users, Option.isSome_iff_exists] at hknown
    obtain ⟨name, hname⟩ := hknown
    have hreserved' : Reserved c'.username? := by
      rw [hrecorded.names]
      exact hreserved.foldl _
    rw [hname, hreserved' name hname, (hbots ch hch).author d hd hkind]
  · have hkeeps : Running.Keeps Announced (convertWith config .memory e) :=
      announced_convertWith hmembers
    have hannounced := hkeeps c rfl
    rw [Running.stateAfter_of_ok hrun] at hannounced
    exact hannounced

/-- A channel in which a bot has spoken. -/
def spoken : Export := { Export.empty with
  users := [⟨"U1", "ann", Slack.Profile.blank⟩]
  publicChannels :=
    [{ Slack.Channel.blank with id := "C1", name := "general", members := ["U1"] }]
  messages := Table.empty.insert "general"
    [{ Slack.Message.blank with
        subtype := "bot_message", text := "beep", timestamp := "12.000200", type := "message",
        attachments := [.string "much ado about nothing"] }] }

/-- Where a message of a bot has become a post, its author is there and was made once. -/
theorem convertWith_workflowUser_of_spoken :
    let config := { Config.standard with skipAttachments := true, importWorkflowMessages := true }
    let c := fresh "" Files.empty Backend.empty
    config.skipAttachments = true ∧ (∀ member ∈ spoken.users, member.id ≠ workflowUserId) ∧
    BotAccepted (story config spoken c) ∧
    ∃ c', convertWith config .memory spoken c = .ok () c' ∧
      c'.content.users.contains workflowUserId = true ∧
      c'.log.toList.count creationNotice = 1 := by
  intro config c
  have haccepted : BotAccepted (story config spoken c) := by decide +kernel
  obtain ⟨c', hrun, -, -, hthere, -, -, hcount⟩ :=
    convertWith_workflowUser config spoken "" Files.empty Backend.empty rfl (by decide)
  have hcontains := hthere.2 (Or.inl haccepted)
  rw [if_pos hcontains] at hcount
  exact ⟨rfl, by decide, haccepted, c', hrun, hcontains, hcount⟩

/-- **A message that is dropped leaves its author behind**: the settings allow less than what goes
with it, so nothing becomes a post, and still he is there. -/
theorem convertWith_author_of_dropped :
    let config := { Config.standard with
      skipAttachments := true, importWorkflowMessages := true, discardInvalidProps := true,
      maxPropsChars := 10 }
    let c := fresh "" Files.empty Backend.empty
    ∃ c', convertWith config .memory spoken c = .ok () c' ∧
      c'.content.users.contains workflowUserId = true ∧
      ¬ BotAccepted (story config spoken c) := by
  intro config c
  obtain ⟨_, c', hrun, hcontains⟩ : ∃ done c', convertWith config .memory spoken c = .ok done c' ∧
      c'.content.users.contains workflowUserId = true :=
    Running.exists_of_endsWith (by decide +kernel)
  exact ⟨c', hrun, hcontains, by decide +kernel⟩

end Conversion

end ChatImport
