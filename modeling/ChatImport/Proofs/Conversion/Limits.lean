import ChatImport.Proofs.Conversion.Integrity
/-!
# Imports within the limits of the destination

The destination takes no text that is too long and no user without an address. A
conversion sees to that in four places, each for what is made there: users and channels
are limited as they are made, the author of messages of bots when the first of them
comes up, the text of a post where it enters its thread, and its properties where the
files that go with the message are looked for. Nothing that comes later makes a text
longer: memberships and the names of members are all that is added to users and
channels, and a thread is made of posts as they have entered.

So nothing in the import of a conversion in memory exceeds a limit
(`Conversion.convertWith_within`).
-/

namespace ChatImport

open Mattermost (Post Channel)

/-! ## Imports within the limits -/

namespace Mattermost

/-- A post as the destination takes it. -/
structure Post.Within (maxProps : Nat) (p : Post) : Prop where
  message : charCount p.message ≤ 16383
  /-- There are no properties, or their text is short enough. -/
  props : p.props = [] ∨ charCount (Json.object p.props).text ≤ maxProps

/-- An import as the destination takes it. -/
structure Import.Within (maxProps : Nat) (i : Import) : Prop where
  /-- Replies have no replies of their own, so a thread is its root and its replies. -/
  flat : ∀ root ∈ i.posts, ∀ reply ∈ root.replies, reply.replies = []
  posts : ∀ root ∈ i.posts, ∀ post ∈ root :: root.replies, post.Within maxProps
  users : ∀ user ∈ i.users.values, user.Within
  channels : ∀ channel ∈ i.publicChannels ++ i.privateChannels ++ i.groupChannels,
    channel.Within

end Mattermost

/-! ## Channels and users -/

namespace Mattermost.Channel

variable {users : Table User} {channels : List Slack.Channel} {made : Channel}

/-- Of channels that are not direct come channels within the limits. -/
theorem within_of_mem_allOfWorkspace (hkind : ∀ channel ∈ channels, channel.kind ≠ .direct)
    (h : made ∈ (allOfWorkspace users channels).1) : made.Within := by
  obtain ⟨channel, hmem, -, rfl⟩ := mem_allOfWorkspace.1 h
  refine within_withinLimits ?_
  change (if isCrowd users channel then ChannelKind.inviteOnly else channel.kind) ≠ .direct
  split
  · decide
  · exact hkind channel hmem

end Mattermost.Channel

namespace Conversion

variable {config : Config} {e : Export} {c c' : Conversion} {chs : List Chapter}

/-- **When the posts begin, all users are within the limits.** -/
theorem within_users_outset (hnone : c.content.users = Table.empty) :
    ∀ id user, (outset config e c).content.users.find? id = some user → user.Within := by
  have hmade : ∀ id user, (c.withUsers config.effectiveAuthService
      e.users).content.users.find? id = some user → user.Within := by
    intro id user hfind
    rcases find?_withUsers hfind with hold | ⟨known, -, rfl⟩
    · rw [hnone] at hold
      cases hold
    · exact Mattermost.User.within_withinLimits _
  -- the channels tell the users of their memberships, and that is all
  have htold : ∀ id user, (((c.withUsers config.effectiveAuthService
      e.users).withChannels e).withMemberships).content.users.find? id = some user →
      user.Within := by
    intro id user hfind
    obtain ⟨known, hknown, rfl⟩ :=
      Option.map_eq_some_iff.1 ((Table.find?_map _).symm.trans hfind)
    exact (hmade id known hknown).withMemberships _
  unfold outset
  split
  · exact hmade
  · split
    · exact htold
    · exact htold

/-- Channels of a typed export are within the limits, but for direct conversations. -/
theorem within_withChannels (htyped : e.Typed) :
    let i := (((c.withChannels e).withMemberships).withMemberNames).content
    ∀ channel ∈ i.publicChannels ++ i.privateChannels ++ i.groupChannels, channel.Within := by
  intro i channel hmem
  have hwithin : ∀ {channels : List Slack.Channel} {kind : ChannelKind}, kind ≠ .direct →
      (∀ channel ∈ channels, channel.kind = kind) →
      ∀ made ∈ (Channel.allOfWorkspace c.content.users channels).1, made.Within :=
    fun hne hkind made hmade => Channel.within_of_mem_allOfWorkspace
      (fun channel hmem => (hkind channel hmem).symm ▸ hne) hmade
  have hopen := hwithin (by decide) htyped.openToAll
  have hinvite := hwithin (by decide) htyped.inviteOnly
  have hgroup := hwithin (by decide) htyped.group
  rcases List.mem_append.1 hmem with hmem | hmem
  · rcases List.mem_append.1 hmem with hmem | hmem
    · exact hopen channel hmem
    · rcases List.mem_append.1 hmem with hmem | hmem
      · exact hinvite channel hmem
      · exact hgroup channel (List.mem_of_mem_filter hmem)
  · -- groups have been told how their members are called
    obtain ⟨made, hmade, rfl⟩ := List.mem_map.1 hmem
    obtain ⟨hshown, hplural, hpurpose, hheader⟩ := hgroup made (List.mem_of_mem_filter hmade)
    exact ⟨hshown, hplural, hpurpose, hheader⟩

/-- **When the posts begin, all channels are within the limits**, but for direct
conversations. -/
theorem within_channels_outset (htyped : e.Typed) (config : Config) (password : String)
    (files : Files) (backend : Backend) :
    let i := (outset config e (fresh password files backend)).content
    ∀ channel ∈ i.publicChannels ++ i.privateChannels ++ i.groupChannels, channel.Within := by
  obtain ⟨table, log, husers⟩ := exists_withUsers (fresh password files backend)
    config.effectiveAuthService e.users
  unfold outset
  split
  · rw [husers]
    exact fun _ hmem => nomatch hmem
  · split
    · exact within_withChannels htyped
    · exact within_withChannels htyped

/-! ## Posts -/

/-- The properties of a draft are left out or short enough. -/
theorem props_of_mem_story {ch : Chapter} (h : ch ∈ story config e c) {d : Draft}
    (hd : d ∈ ch.drafts) :
    d.post.props = [] ∨ charCount (Json.object d.post.props).text ≤ config.maxPropsChars := by
  obtain ⟨name, messages, c', channel, -, rfl⟩ := exists_of_mem_story h
  obtain ⟨names, told, paths, htold, hpost⟩ := ChannelRun.exists_told_of_mem_drafts hd
  obtain ⟨author, -, htold⟩ := Option.bind_eq_some_iff.1 htold
  obtain ⟨props, hprops, rfl⟩ := Option.map_eq_some_iff.1 htold
  rw [hpost]
  exact (props_of_extras? hprops).imp_right And.right

/-- **A draft is within the limits when it has entered its thread.** -/
theorem within_entering {maxProps : Nat} {d : Draft}
    (h : d.post.props = [] ∨ charCount (Json.object d.post.props).text ≤ maxProps)
    (channel : Channel) (time : Int) : (d.entering channel time).post.Within maxProps := by
  refine ⟨Post.charCount_withinLimits_le _, ?_⟩
  rw [Draft.props_entering]
  exact h

/-! ## Whole imports -/

/-- **An import that tells chapters is within the limits** if users and channels were when
they began, and the properties of the drafts are. -/
theorem Recorded.within (h : Recorded config c c' chs) (hposts : c.content.posts = [])
    (husers : ∀ id user, c.content.users.find? id = some user → user.Within)
    (hchannels : ∀ channel ∈ c.content.publicChannels ++ c.content.privateChannels ++
      c.content.groupChannels, channel.Within)
    (hprops : ∀ ch ∈ chs, ∀ d ∈ ch.drafts, d.post.props = [] ∨
      charCount (Json.object d.post.props).text ≤ config.maxPropsChars) :
    c'.content.Within config.maxPropsChars := by
  have hroots : ∀ root ∈ c'.content.posts, ∃ ch ∈ chs, root ∈ ch.roots := by
    intro root hroot
    rw [h.told.1, hposts, List.nil_append] at hroot
    exact List.mem_flatMap.1 hroot
  have hdrafts : ∀ ch ∈ chs, ∀ root ∈ ch.roots, (∀ reply ∈ root.replies, reply.replies = []) ∧
      ∀ post ∈ root :: root.replies, ∃ d ∈ ch.drafts, ∃ time,
        post = { (d.entering ch.channel time).post with replies := post.replies } :=
    fun ch hch root hroot =>
      (h.told.2 ch hch).exists_draft (fun d hd => (h.known ch hch d hd).1) hroot
  refine ⟨fun root hroot => ?_, fun root hroot post hmem => ?_, fun user hmem => ?_, ?_⟩
  · obtain ⟨ch, hch, hroot⟩ := hroots root hroot
    exact (hdrafts ch hch root hroot).1
  · obtain ⟨ch, hch, hroot⟩ := hroots root hroot
    obtain ⟨d, hd, time, heq⟩ := (hdrafts ch hch root hroot).2 post hmem
    obtain ⟨hmessage, hprops⟩ := within_entering (hprops ch hch d hd) ch.channel time
    rw [heq]
    exact ⟨hmessage, hprops⟩
  · obtain ⟨id, hfind⟩ := Table.mem_values_iff.1 hmem
    rcases h.grown.added hfind with hold | ⟨password, rfl⟩
    · exact husers id user hold
    · exact Mattermost.User.within_withinLimits _
  · rw [h.grown.content]
    exact hchannels

/-- **Everything in an import is within the limits of the destination.** When a conversion
in memory of a typed export has succeeded, whichever its settings, the text of every post
has at most 16383 characters and its properties are empty or no longer than the settings
say; every user has an address, and position and names that are short enough, and so is
the author of messages of bots; and the channels, direct conversations apart, have
shown names of at most 64 characters and never of one, and purposes and headers that are
short enough. -/
theorem convertWith_within (config : Config) (e : Export) (password : String) (files : Files)
    (backend : Backend) (c' : Conversion) (htyped : e.Typed)
    (hrun : convertWith config .memory e (fresh password files backend) = .ok () c') :
    c'.content.Within config.maxPropsChars := by
  rcases convertWith_recorded config e (fresh password files backend) with
    ⟨c'', hrun', hrecorded⟩ | ⟨-, error, c'', hrun'⟩
  · rw [hrun] at hrun'
    cases hrun'
    exact hrecorded.within (posts_outset config e _) (within_users_outset rfl)
      (within_channels_outset htyped config password files backend)
      fun ch hch d hd => props_of_mem_story hch hd
  · rw [hrun] at hrun'
    cases hrun'

/-- A user without an address writes in a channel whose name is one character long, and a bot
brings along more than the settings allow. -/
theorem convertWith_within_of_excess :
    let config := { Config.standard with
      skipAttachments := true, importWorkflowMessages := true, maxPropsChars := 20 }
    let e : Export := { Export.empty with
      users := [⟨"U1", "ann", Slack.Profile.blank⟩]
      publicChannels :=
        [{ Slack.Channel.blank with id := "C1", name := "g", members := ["U1"] }]
      messages := Table.empty.insert "g"
        [{ Slack.Message.blank with
            user := "U1", text := "first", timestamp := "12.000100", type := "message" },
          { Slack.Message.blank with
            subtype := "bot_message", text := "beep", timestamp := "12.000200",
            threadTimestamp := "12.000100", type := "message",
            attachments := [.string "much ado about nothing"] }] }
    e.Typed ∧ ∃ c', convertWith config .memory e (fresh "" Files.empty Backend.empty) =
        .ok () c' ∧ c'.content.Within 20 := by
  intro config e
  have htyped : e.Typed := ⟨by decide, by decide, by decide, by decide⟩
  rcases convertWith_spec config e (fresh "" Files.empty Backend.empty) with
    ⟨c', hrun, -⟩ | ⟨hskip, -⟩
  · exact ⟨htyped, c', hrun,
      convertWith_within config e "" Files.empty Backend.empty c' htyped hrun⟩
  · cases hskip

end Conversion

end ChatImport
