import ChatImport.Proofs.Conversion.Channels
import ChatImport.Proofs.Conversion.Chapters
import ChatImport.Proofs.Export.Reading
/-!
# What an import names is in it

The destination takes an import only if whatever its lines name has a line of
its own. A conversion in memory sees to that (`Conversion.convertWith_sound`):
the authors of posts are users, posts that belong to no conversation have the
handle of a channel, those of a conversation have its members, these are users
again, and users belong to channels that are there.

Users and channels are all there when the posts begin (`Furnished`), and from
then on users are only added. What a post says of its channel is told by the
channel (`OfChannel`), whichever thread the post is in.
-/

namespace ChatImport

open Mattermost (Post Channel)

/-! ## Sound imports -/

namespace Mattermost.Import

/-- A user of the name is in the import, and his line in the file. -/
def HasUser (i : Import) (name : String) : Prop :=
  ∃ user ∈ i.users.values, user.username = name ∧
    ∀ team, Lines.userLine team user ∈ i.lines team

/-- The channel is one with a handle, and its line in the file. -/
def HasChannel (i : Import) (channel : Channel) : Prop :=
  channel ∈ i.publicChannels ++ i.privateChannels ∧
    ∀ team, Lines.channelLine team channel ∈ i.lines team

/-- The channel is a conversation, and its line in the file. -/
def HasConversation (i : Import) (channel : Channel) : Prop :=
  channel ∈ i.groupChannels ++ i.directChannels ∧
    ∀ team, Lines.directChannelLine channel ∈ i.lines team

/-- Whatever the import names is in it. -/
structure Sound (i : Import) : Prop where
  /-- Replies have no replies of their own, so a thread is its root and its replies. -/
  flat : ∀ root ∈ i.posts, ∀ reply ∈ root.replies, reply.replies = []
  authors : ∀ root ∈ i.posts, ∀ post ∈ root :: root.replies, i.HasUser post.user
  /-- A thread outside conversations is in a channel with a handle. -/
  handled : ∀ root ∈ i.posts, root.isDirect = false → ∃ channel, i.HasChannel channel ∧
    ∀ post ∈ root :: root.replies,
      post.isDirect = false ∧ post.channel = channel.name ∧ post.channelMembers = []
  /-- A thread of a conversation is among the members of one. -/
  direct : ∀ root ∈ i.posts, root.isDirect = true → ∃ channel, i.HasConversation channel ∧
    ∀ post ∈ root :: root.replies,
      post.isDirect = true ∧ post.channelMembers = channel.memberNames
  members : ∀ channel ∈ i.groupChannels ++ i.directChannels, ∀ name ∈ channel.memberNames,
    i.HasUser name
  memberships : ∀ user ∈ i.users.values, ∀ name ∈ user.memberships,
    ∃ channel, i.HasChannel channel ∧ channel.name = name

variable {i : Import} {channel : Channel} {id : String} {user : User}

theorem hasUser_of_find? (h : i.users.find? id = some user) : i.HasUser user.username := by
  have hmem : user ∈ i.users.values := Table.mem_values_iff.2 ⟨id, h⟩
  refine ⟨user, hmem, rfl, fun team => ?_⟩
  simp only [lines, List.mem_append]
  exact Or.inl (Or.inl (Or.inr (List.mem_map_of_mem hmem)))

theorem hasChannel_of_mem (h : channel ∈ i.publicChannels ++ i.privateChannels) :
    i.HasChannel channel := by
  refine ⟨h, fun team => ?_⟩
  simp only [lines, List.mem_append]
  exact Or.inl (Or.inl (Or.inl (Or.inr (List.mem_map_of_mem h))))

theorem hasConversation_of_mem (h : channel ∈ i.groupChannels ++ i.directChannels) :
    i.HasConversation channel := by
  refine ⟨h, fun team => ?_⟩
  simp only [lines, List.mem_append]
  exact Or.inl (Or.inr (List.mem_map_of_mem h))

end Mattermost.Import

/-! ## Users and channels -/

/-- The channels of each list are of its kind. -/
structure Mattermost.Import.Typed (i : Mattermost.Import) : Prop where
  openToAll : ∀ channel ∈ i.publicChannels, channel.kind = .openToAll
  inviteOnly : ∀ channel ∈ i.privateChannels, channel.kind = .inviteOnly
  group : ∀ channel ∈ i.groupChannels, channel.kind = .group
  direct : ∀ channel ∈ i.directChannels, channel.kind = .direct

/-- Users and channels are as the posts will need them. -/
structure Furnished (i : Mattermost.Import) : Prop where
  handled : ∀ channel ∈ i.publicChannels ++ i.privateChannels, channel.kind.isDirect = false
  direct : ∀ channel ∈ i.groupChannels ++ i.directChannels, channel.kind.isDirect = true
  members : ∀ channel ∈ i.groupChannels ++ i.directChannels, ∀ name ∈ channel.memberNames,
    ∃ id user, i.users.find? id = some user ∧ user.username = name
  memberships {id : String} {user : Mattermost.User} : i.users.find? id = some user →
    ∀ name ∈ user.memberships, ∃ channel ∈ i.publicChannels ++ i.privateChannels,
      channel.name = name

namespace Conversion

variable {config : Config} {e : Export} {c c' : Conversion} {chs : List Chapter}

/-- **The users of a workspace** are found by their identifiers. Of several with the same one
the last is found. -/
theorem find?_withUsers_eq {service : Option String} {members : List Slack.User} {id : String} :
    (c.withUsers service members).content.users.find? id =
      ((members.reverse.find? (·.id == id)).map fun member =>
        (Mattermost.User.ofWorkspace service member).withinLimits.1).or
          (c.content.users.find? id) := by
  unfold withUsers
  change _ = Option.or _ ((c.telling [.info "Transforming users"]).content.users.find? id)
  generalize c.telling [.info "Transforming users"] = c
  induction members generalizing c with
  | nil => rfl
  | cons member rest ih =>
    rw [List.foldl_cons, ih, List.reverse_cons, List.find?_append, Option.map_or, Option.or_assoc]
    -- the rest may have the identifier again, and then the first is not looked at
    congr 1
    refine Table.find?_insert.trans ?_
    by_cases hid : member.id = id
    · rw [List.find?_cons_of_pos (by simpa using hid)]
      exact if_pos hid
    · rw [List.find?_cons_of_neg (by simpa using hid)]
      exact if_neg hid

/-- Users come of those of the workspace. -/
theorem find?_withUsers {service : Option String} {users : List Slack.User} {id : String}
    {made : Mattermost.User}
    (h : (c.withUsers service users).content.users.find? id = some made) :
    c.content.users.find? id = some made ∨
      ∃ user ∈ users, made = (Mattermost.User.ofWorkspace service user).withinLimits.1 := by
  rw [find?_withUsers_eq, Option.or_eq_some_iff] at h
  obtain hmade | ⟨-, hold⟩ := h
  · obtain ⟨user, hfind, rfl⟩ := Option.map_eq_some_iff.1 hmade
    exact Or.inr ⟨user, List.mem_reverse.1 (List.mem_of_find?_eq_some hfind), rfl⟩
  · exact Or.inl hold

/-- A conversation names members that are users. -/
theorem exists_user_of_naming {users : Table Mattermost.User} {channel : Channel} {name : String}
    (h : name ∈ (naming users channel).memberNames) :
    ∃ id user, users.find? id = some user ∧ user.username = name := by
  obtain ⟨id, -, hname⟩ := List.mem_filterMap.1 h
  obtain ⟨user, hfind, rfl⟩ := Option.map_eq_some_iff.1 hname
  exact ⟨id, user, hfind, rfl⟩

/-- **Kinds are kept apart** by the lists of an import if they are by those of the export. -/
theorem typed_withChannels (htyped : e.Typed) :
    (((c.withChannels e).withMemberships).withMemberNames).content.Typed := by
  have hkept : ∀ {kind : ChannelKind} {channels : List Slack.Channel}, kind ≠ .group →
      (∀ channel ∈ channels, channel.kind = kind) →
        ∀ made ∈ (Channel.allOfWorkspace c.content.users channels).1, made.kind = kind := by
    intro kind channels hne hkind made hmem
    rcases Channel.kind_of_mem_allOfWorkspace hkind hmem with h | ⟨h, -⟩
    · exact h
    · exact absurd h hne
  refine ⟨hkept (by decide) htyped.openToAll, fun channel hmem => ?_, fun channel hmem => ?_,
    fun channel hmem => ?_⟩
  · -- private channels, and after them the groups that were too large
    rcases List.mem_append.1 hmem with hmem | hmem
    · exact hkept (by decide) htyped.inviteOnly channel hmem
    · exact of_decide_eq_true (List.mem_filter.1 hmem).2
  · obtain ⟨made, hmade, rfl⟩ := List.mem_map.1 hmem
    obtain ⟨hmade, hkind⟩ := List.mem_filter.1 hmade
    rcases Channel.kind_of_mem_allOfWorkspace htyped.group hmade with h | ⟨-, h⟩
    · exact h
    · simp [h] at hkind
  · obtain ⟨made, hmade, rfl⟩ := List.mem_map.1 hmem
    exact hkept (by decide) htyped.direct made hmade

/-- **The channels of a typed export furnish the import.** -/
theorem furnished_withChannels (htyped : e.Typed) :
    Furnished (((c.withChannels e).withMemberships).withMemberNames).content := by
  obtain ⟨hopen, hinvite, hgroup, hdirect⟩ := typed_withChannels (c := c) htyped
  refine ⟨fun channel hmem => ?_, fun channel hmem => ?_, fun channel hmem name hname => ?_,
    fun {id user} hfind name hname => ?_⟩
  · rcases List.mem_append.1 hmem with hmem | hmem
    · rw [hopen channel hmem]
      rfl
    · rw [hinvite channel hmem]
      rfl
  · rcases List.mem_append.1 hmem with hmem | hmem
    · rw [hgroup channel hmem]
      rfl
    · rw [hdirect channel hmem]
      rfl
  · rcases List.mem_append.1 hmem with hmem | hmem
    · obtain ⟨made, -, rfl⟩ := List.mem_map.1 hmem
      exact exists_user_of_naming hname
    · obtain ⟨made, -, rfl⟩ := List.mem_map.1 hmem
      exact exists_user_of_naming hname
  · obtain ⟨known, -, rfl⟩ := Option.map_eq_some_iff.1 ((Table.find?_map _).symm.trans hfind)
    obtain ⟨channel, hmem, rfl⟩ := List.mem_map.1 hname
    exact ⟨channel, List.mem_of_mem_filter hmem, rfl⟩

/-- **When the posts begin everything is furnished.** -/
theorem furnished_outset (htyped : e.Typed) (config : Config) (password : String) (files : Files)
    (backend : Backend) : Furnished (outset config e (fresh password files backend)).content := by
  obtain ⟨table, log, husers⟩ := exists_withUsers (fresh password files backend)
    config.effectiveAuthService e.users
  unfold outset
  split
  · -- without channels the users are all there is
    have hnone : ∀ id user, ((fresh password files backend).withUsers
        config.effectiveAuthService e.users).content.users.find? id = some user →
        user.memberships = [] := by
      intro id user hfind
      rcases find?_withUsers hfind with hold | ⟨-, -, rfl⟩
      · cases hold
      · rfl
    rw [husers] at hnone ⊢
    refine ⟨(fun _ hmem => nomatch hmem), (fun _ hmem => nomatch hmem),
      (fun _ hmem => nomatch hmem), fun {id user} hfind name hname => ?_⟩
    rw [hnone id user hfind] at hname
    cases hname
  · split
    · exact furnished_withChannels htyped
    · exact furnished_withChannels htyped

/-- Users that come up with the posts change nothing of that. -/
theorem Grown.furnished (h : c.Grown c') (hfurnished : Furnished c.content) :
    Furnished c'.content := by
  have hcontent := h.content
  refine ⟨?_, ?_, ?_, ?_⟩
  · rw [hcontent]
    exact hfurnished.handled
  · rw [hcontent]
    exact hfurnished.direct
  · intro channel hmem name hname
    rw [hcontent] at hmem
    obtain ⟨id, user, hfind, hname⟩ := hfurnished.members channel hmem name hname
    exact ⟨id, user, h.kept hfind, hname⟩
  · intro id user hfind name hname
    have hlists : c'.content.publicChannels ++ c'.content.privateChannels =
        c.content.publicChannels ++ c.content.privateChannels := by rw [hcontent]
    rw [hlists]
    rcases h.added hfind with hold | ⟨password, rfl⟩
    · exact hfurnished.memberships hold name hname
    · cases hname

end Conversion

/-! ## The posts of a channel -/

/-- What a post says of its channel is true. -/
structure OfChannel (channel : Channel) (post : Post) : Prop where
  handle : post.channel = channel.name
  isDirect : post.isDirect = channel.kind.isDirect
  channelMembers : post.channelMembers =
    if channel.kind.isDirect then channel.memberNames else []

theorem Conversion.NewPost.ofChannel {d : Draft} {channel : Channel} {time : Int}
    (h : NewPost d.message channel d.post) :
    OfChannel channel (d.entering channel time).post := by
  unfold Draft.entering Mattermost.Post.inChannel
  cases hdirect : channel.kind.isDirect with
  | true => exact ⟨h.channel, hdirect.symm, by rw [hdirect]; rfl⟩
  | false => exact ⟨h.channel, hdirect.symm, by rw [hdirect]; exact h.channelMembers⟩

/-- A thread is a draft with others as its replies. -/
theorem Grouping.exists_draft {w : Bool} {drafts : List Draft} {id : String} {root : Post}
    (h : thread w (fun _ => none) drafts id = some root)
    (hnew : ∀ d ∈ drafts, d.post.replies = []) :
    ∃ d ∈ drafts, root = { d.post with replies := root.replies } ∧
      ∀ reply ∈ root.replies, ∃ d ∈ drafts, reply = d.post := by
  rw [thread, root?, Option.or_none, Option.map_eq_some_iff] at h
  obtain ⟨first, hfirst, rfl⟩ := h
  have hposts : ∀ post ∈ first :: replies id drafts, ∃ d ∈ drafts, post = d.post := by
    intro post hmem
    obtain ⟨d, hd, rfl⟩ := List.mem_map.1 ((sublist_thread hfirst).subset hmem)
    exact ⟨d, List.mem_of_mem_filter hd, rfl⟩
  obtain ⟨d, hd, rfl⟩ := hposts first List.mem_cons_self
  refine ⟨d, hd, ?_⟩
  by_cases hclosed : d.post.closed w = true
  · rw [Post.withReplies_of_closed hclosed]
    constructor
    · cases d.post
      rfl
    · rw [hnew d hd]
      exact fun _ hmem => absurd hmem List.not_mem_nil
  · rw [Post.withReplies_of_open hclosed, hnew d hd, List.nil_append]
    exact ⟨rfl, fun reply hmem => hposts reply (List.mem_cons_of_mem _ hmem)⟩

/-- **Each post of a chapter is that of a draft** as it entered its thread, but for the
replies, of which only roots have any. -/
theorem Chapter.Orderly.exists_draft {w : Bool} {ch : Chapter} (h : ch.Orderly w)
    (hnew : ∀ d ∈ ch.drafts, Conversion.NewPost d.message ch.channel d.post) {root : Post}
    (hroot : root ∈ ch.roots) : (∀ reply ∈ root.replies, reply.replies = []) ∧
      ∀ post ∈ root :: root.replies, ∃ d ∈ ch.drafts, ∃ time,
        post = { (d.entering ch.channel time).post with replies := post.replies } := by
  have hflat := Chapter.replies_entered hnew
  obtain ⟨id, hfind⟩ := Table.mem_values_iff.1 ((List.mergeSort_perm _ _).subset hroot)
  rw [h.grouped] at hfind
  obtain ⟨d, hd, heq, hreplies⟩ := Grouping.exists_draft hfind hflat
  refine ⟨fun reply hmem => ?_, fun post hmem => ?_⟩
  · obtain ⟨d', hd', rfl⟩ := hreplies reply hmem
    exact hflat d' hd'
  · rcases List.mem_cons.1 hmem with rfl | hmem
    · obtain ⟨draft, hdraft, time, -, rfl⟩ := mem_stamped hd
      exact ⟨draft, hdraft, time, heq⟩
    · obtain ⟨d', hd', rfl⟩ := hreplies post hmem
      obtain ⟨draft, hdraft, time, -, rfl⟩ := mem_stamped hd'
      exact ⟨draft, hdraft, time, rfl⟩

/-- **What the posts of a chapter say of their channel is true**, and their authors
are those of its drafts. -/
theorem Chapter.Orderly.ofChannel {w : Bool} {ch : Chapter} (h : ch.Orderly w)
    (hnew : ∀ d ∈ ch.drafts, Conversion.NewPost d.message ch.channel d.post) {root : Post}
    (hroot : root ∈ ch.roots) : (∀ reply ∈ root.replies, reply.replies = []) ∧
      ∀ post ∈ root :: root.replies, OfChannel ch.channel post ∧
        ∃ d ∈ ch.drafts, post.user = d.post.user := by
  obtain ⟨hflat, hall⟩ := h.exists_draft hnew hroot
  refine ⟨hflat, fun post hmem => ?_⟩
  obtain ⟨d, hd, time, heq⟩ := hall post hmem
  obtain ⟨hhandle, hdirect, hmembers⟩ := @Conversion.NewPost.ofChannel d _ time (hnew d hd)
  have huser := @Draft.user_entering ch.channel d time
  rw [heq]
  exact ⟨⟨hhandle, hdirect, hmembers⟩, d, hd, huser⟩

namespace Conversion

variable {config : Config} {e : Export} {c c' : Conversion} {chs : List Chapter}

/-! ## Whole imports -/

/-- Each chapter is that of a channel, in a conversion that has come to it. -/
theorem exists_of_mem_chapters {uploads : Uploads} {channels : List Channel}
    {entries : List (String × List Slack.Message)} {ch : Chapter}
    (h : ch ∈ chapters config uploads channels entries c) : ∃ name messages c',
      ∃ channel ∈ channels, ch = chapter config uploads name channel messages c' := by
  induction entries generalizing c with
  | nil => cases h
  | cons entry rest ih =>
    obtain ⟨name, messages⟩ := entry
    unfold chapters at h
    cases hchannel : channelNamed? channels name with
    | none =>
      rw [hchannel] at h
      exact ih h
    | some channel =>
      rw [hchannel] at h
      rcases List.mem_cons.1 h with rfl | h
      · exact ⟨name, messages, c, channel,
          List.mem_reverse.1 (List.mem_of_find?_eq_some hchannel), rfl⟩
      · exact ih h

/-- Each chapter of a conversion is that of one of its channels. -/
theorem exists_of_mem_story {ch : Chapter} (h : ch ∈ story config e c) :
    ∃ name messages c', ∃ channel ∈ (outset config e c).content.channels,
      ch = chapter config e.uploads name channel messages c' := by
  unfold story at h
  split at h
  · cases h
  · next hskip =>
    obtain ⟨hchannels, hposts⟩ := Bool.or_eq_false_iff.1 (Bool.eq_false_iff.2 hskip)
    rw [outset_eq_prepared hchannels hposts]
    exact exists_of_mem_chapters h

/-- The chapters of a conversion are about its channels. -/
theorem channel_mem_story {ch : Chapter} (h : ch ∈ story config e c) :
    ch.channel ∈ (outset config e c).content.channels := by
  obtain ⟨name, messages, c', channel, hmem, rfl⟩ := exists_of_mem_story h
  exact hmem

/-- Each root is of a chapter, which is about a channel of the import. -/
theorem Recorded.exists_chapter (h : Recorded config c c' chs) (hposts : c.content.posts = [])
    (hchannels : ∀ ch ∈ chs, ch.channel ∈ c.content.channels) {root : Post}
    (hroot : root ∈ c'.content.posts) : ∃ ch ∈ chs,
      (ch.channel ∈ c'.content.publicChannels ++ c'.content.privateChannels ∨
        ch.channel ∈ c'.content.groupChannels ++ c'.content.directChannels) ∧
      (∀ reply ∈ root.replies, reply.replies = []) ∧
      ∀ post ∈ root :: root.replies, OfChannel ch.channel post ∧
        ∃ d ∈ ch.drafts, post.user = d.post.user := by
  rw [h.told.1, hposts, List.nil_append] at hroot
  obtain ⟨ch, hmem, hroot⟩ := List.mem_flatMap.1 hroot
  refine ⟨ch, hmem, ?_, (h.told.2 ch hmem).ofChannel (fun d hd => (h.known ch hmem d hd).1) hroot⟩
  have hchannel := hchannels ch hmem
  rw [h.grown.content]
  rw [Mattermost.Import.channels, List.append_assoc] at hchannel
  exact List.mem_append.1 hchannel

/-- **An import that tells chapters about its channels is sound** if it was
furnished when they began. -/
theorem Recorded.sound (h : Recorded config c c' chs) (hfurnished : Furnished c.content)
    (hposts : c.content.posts = []) (hchannels : ∀ ch ∈ chs, ch.channel ∈ c.content.channels) :
    c'.content.Sound := by
  obtain ⟨hhandled, hdirect, hmembers, hmemberships⟩ := h.grown.furnished hfurnished
  refine ⟨fun root hroot => ?_, fun root hroot post hmem => ?_, fun root hroot hnot => ?_,
    fun root hroot his => ?_, fun channel hmem name hname => ?_,
    fun user hmem name hname => ?_⟩
  · obtain ⟨ch, -, -, hflat, -⟩ := h.exists_chapter hposts hchannels hroot
    exact hflat
  · obtain ⟨ch, hch, -, -, hall⟩ := h.exists_chapter hposts hchannels hroot
    obtain ⟨-, d, hd, hauthor⟩ := hall post hmem
    obtain ⟨-, id, hname⟩ := h.known ch hch d hd
    obtain ⟨user, hfind, hname⟩ := Option.map_eq_some_iff.1 hname
    rw [hauthor, ← hname]
    exact Mattermost.Import.hasUser_of_find? hfind
  · obtain ⟨ch, -, hlists, -, hall⟩ := h.exists_chapter hposts hchannels hroot
    have hkind : ch.channel.kind.isDirect = false :=
      (hall root List.mem_cons_self).1.isDirect.symm.trans hnot
    rcases hlists with hmem | hmem
    · refine ⟨ch.channel, Mattermost.Import.hasChannel_of_mem hmem, fun post hpost => ?_⟩
      obtain ⟨⟨hname, his, hnone⟩, -⟩ := hall post hpost
      rw [hkind] at his hnone
      exact ⟨his, hname, hnone⟩
    · rw [hdirect _ hmem] at hkind
      cases hkind
  · obtain ⟨ch, -, hlists, -, hall⟩ := h.exists_chapter hposts hchannels hroot
    have hkind : ch.channel.kind.isDirect = true :=
      (hall root List.mem_cons_self).1.isDirect.symm.trans his
    rcases hlists with hmem | hmem
    · rw [hhandled _ hmem] at hkind
      cases hkind
    · refine ⟨ch.channel, Mattermost.Import.hasConversation_of_mem hmem, fun post hpost => ?_⟩
      obtain ⟨⟨-, his, hnames⟩, -⟩ := hall post hpost
      rw [hkind] at his hnames
      exact ⟨his, hnames⟩
  · obtain ⟨id, user, hfind, rfl⟩ := hmembers channel hmem name hname
    exact Mattermost.Import.hasUser_of_find? hfind
  · obtain ⟨id, hfind⟩ := Table.mem_values_iff.1 hmem
    obtain ⟨channel, hchannel, rfl⟩ := hmemberships hfind name hname
    exact ⟨channel, Mattermost.Import.hasChannel_of_mem hchannel, rfl⟩

/-- **What an import names is in it.** When a conversion in memory of a typed export
has succeeded, whichever its settings, the authors of all posts are users of the
import, posts outside conversations have the handle of a channel and no members,
those of a conversation have its members, members of conversations are users,
and users belong to channels with handles. -/
theorem convertWith_sound (config : Config) (e : Export) (password : String) (files : Files)
    (backend : Backend) (c' : Conversion) (htyped : e.Typed)
    (hrun : convertWith config .memory e (fresh password files backend) = .ok () c') :
    c'.content.Sound := by
  rcases convertWith_recorded config e (fresh password files backend) with
    ⟨c'', hrun', hrecorded⟩ | ⟨-, error, c'', hrun'⟩
  · rw [hrun] at hrun'
    cases hrun'
    exact hrecorded.sound (furnished_outset htyped config password files backend)
      (posts_outset config e _) fun ch hmem => channel_mem_story hmem
  · rw [hrun] at hrun'
    cases hrun'

/-- An import with a channel, to which a bot writes too, and a conversation of two. -/
theorem convertWith_sound_of_conversation :
    let config := { Config.standard with
      skipAttachments := true, importWorkflowMessages := true }
    let e : Export := { Export.empty with
      users := [⟨"U1", "ann", Slack.Profile.blank⟩, ⟨"U2", "bob", Slack.Profile.blank⟩]
      publicChannels :=
        [{ Slack.Channel.blank with id := "C1", name := "general", members := ["U1"] }]
      directChannels :=
        [{ Slack.Channel.blank with id := "D1", members := ["U1", "U2"], kind := .direct }]
      messages := (Table.empty.insert "general"
        [{ Slack.Message.blank with
            user := "U1", text := "first", timestamp := "12.000100", type := "message" },
          { Slack.Message.blank with
            subtype := "bot_message", text := "beep", timestamp := "12.000200",
            threadTimestamp := "12.000100", type := "message" }]).insert "D1"
        [{ Slack.Message.blank with
            user := "U2", text := "hello", timestamp := "13.000000", type := "message" }] }
    e.Typed ∧ ∃ c', convertWith config .memory e (fresh "" Files.empty Backend.empty) =
        .ok () c' ∧ c'.content.Sound := by
  intro config e
  have htyped : e.Typed := ⟨by decide, by decide, by decide, by decide⟩
  rcases convertWith_spec config e (fresh "" Files.empty Backend.empty) with
    ⟨c', hrun, -⟩ | ⟨hskip, -⟩
  · exact ⟨htyped, c', hrun,
      convertWith_sound config e "" Files.empty Backend.empty c' htyped hrun⟩
  · cases hskip

end Conversion

end ChatImport
