import ChatImport.Conversion.Users
import ChatImport.Proofs.Conversion.Channels
import ChatImport.Proofs.Export.Reading
/-!
# The lists of channels, and who takes part

An import lists its channels by their kinds, as the export does, and this file says
what goes where. All five stretches of the lists come about in one way: some of the
channels of a list of the export are picked, in their order, and each is made into one
of the import (`Mattermost.Channel.listed_filter`). Which are picked is decided by kind
and by the number of known members, so `Conversion.withChannels_lists` can say it in
numbers.

The number is that of the entries in the list of members, where the same user may stand
more than once. So a conversation that is not left out has two entries, but these may be
one and the same user: a monologue. `Conversion.conversations_between_iff` says that
monologues are all that can go wrong: without them each conversation is between
different users, all of them known, and names them.
-/

namespace ChatImport

namespace Mattermost.Channel

variable {users : Table User} {channels : List Slack.Channel} {channel : Slack.Channel}
variable {kind : ChannelKind} {ids : List String} {made : Channel}

/-! ## Lists of one kind -/

/-- The channel is listed as one of a kind, and is made of one of the workspace. -/
structure ListedAs (kind : ChannelKind) (users : Table User) (channel : Slack.Channel)
    (made : Channel) : Prop extends MadeOf users channel made where
  kind : made.kind = kind

theorem kind_made : (ofWorkspace users channel).withinLimits.1.kind =
    if isCrowd users channel then .inviteOnly else channel.kind :=
  kind_withinLimits _

theorem isCrowd_of_ne (h : channel.kind ≠ .group) : isCrowd users channel = false := by
  simp [isCrowd, h]

theorem isCrowd_iff_of_group (h : channel.kind = .group) : isCrowd users channel = true ↔
    groupLimit < (knownMembers users channel).length := by
  simp [isCrowd, h]

/-- What is made of a group is a group no more if it is too large. -/
theorem kind_made_iff_of_group (h : channel.kind = .group) :
    (ofWorkspace users channel).withinLimits.1.kind = .inviteOnly ↔
      groupLimit < (knownMembers users channel).length := by
  rw [kind_made, ← isCrowd_iff_of_group h]
  by_cases hcrowd : isCrowd users channel = true
  · simp [hcrowd]
  · simp [hcrowd, h]

theorem isLonely_iff_of_direct (h : channel.kind.isDirect = true) :
    isLonely users channel = false ↔ 2 ≤ (knownMembers users channel).length := by
  simp only [isLonely, h, Bool.true_and, decide_eq_false_iff_not]
  omega

/-- Those channels of an import that pass a test are made of channels of the workspace that
are picked by another, if the tests agree. -/
theorem filter_allOfWorkspace {test : Channel → Bool} {pick : Slack.Channel → Bool}
    (hpick : ∀ channel ∈ channels, pick channel = true ↔
      isLonely users channel = false ∧ test (ofWorkspace users channel).withinLimits.1 = true) :
    (allOfWorkspace users channels).1.filter test =
      (channels.filter pick).map fun channel => (ofWorkspace users channel).withinLimits.1 := by
  have hpicked : (channels.filter fun channel => !isLonely users channel).filter
      (test ∘ fun channel => (ofWorkspace users channel).withinLimits.1) =
        channels.filter pick := by
    rw [List.filter_filter]
    refine List.filter_congr fun channel hmem => Bool.eq_iff_iff.2 ?_
    rw [hpick channel hmem, Bool.and_eq_true, Bool.not_eq_true', and_comm]
    rfl
  rw [allOfWorkspace_eq, List.filter_map, hpicked]

/-- **Picked in their order.** Each of them is listed as one of a kind if it is made of
that kind. -/
theorem listed_filter {test : Channel → Bool} {pick : Slack.Channel → Bool}
    (hpick : ∀ channel ∈ channels, pick channel = true ↔
      isLonely users channel = false ∧ test (ofWorkspace users channel).withinLimits.1 = true)
    (hkind : ∀ channel ∈ channels, pick channel = true →
      (ofWorkspace users channel).withinLimits.1.kind = kind) :
    List.Forall₂ (ListedAs kind users) (channels.filter pick)
      ((allOfWorkspace users channels).1.filter test) := by
  rw [filter_allOfWorkspace hpick, List.forall₂_map_right_iff, List.forall₂_same]
  intro channel hmem
  obtain ⟨hmem, hpick⟩ := List.mem_filter.1 hmem
  exact ⟨madeOf_withinLimits users channel, hkind channel hmem hpick⟩

/-- Channels that are no conversations are all listed. -/
theorem listed_all (hchannels : ∀ channel ∈ channels, channel.kind = kind)
    (hdirect : kind.isDirect = false) :
    List.Forall₂ (ListedAs kind users) channels (allOfWorkspace users channels).1 := by
  have hne : kind ≠ .group := fun heq => by
    rw [heq] at hdirect
    cases hdirect
  rw [allOfWorkspace_eq_map fun channel hmem => hchannels channel hmem ▸ hdirect,
    List.forall₂_map_right_iff, List.forall₂_same]
  intro channel hmem
  refine ⟨madeOf_withinLimits users channel, ?_⟩
  rw [kind_made, isCrowd_of_ne (hchannels channel hmem ▸ hne), hchannels channel hmem]
  rfl

/-- Conversations of two are listed if they have two members at least. -/
theorem listed_direct (hchannels : ∀ channel ∈ channels, channel.kind = .direct) :
    List.Forall₂ (ListedAs .direct users)
      (channels.filter fun channel => 2 ≤ (knownMembers users channel).length)
      (allOfWorkspace users channels).1 := by
  have hlisted : List.Forall₂ (ListedAs .direct users)
      (channels.filter fun channel => 2 ≤ (knownMembers users channel).length)
      ((allOfWorkspace users channels).1.filter fun _ => true) := by
    refine listed_filter (fun channel hmem => ?_) fun channel hmem _ => ?_
    · rw [isLonely_iff_of_direct (by rw [hchannels channel hmem]; rfl)]
      simp
    · rw [kind_made, isCrowd_of_ne (by simp [hchannels channel hmem]), hchannels channel hmem]
      rfl
  rwa [List.filter_true] at hlisted

/-- Groups are private channels if they have too many members. -/
theorem groupLimit_lt_iff (h : channel.kind = .group) :
    decide (groupLimit < (knownMembers users channel).length) = true ↔
      isLonely users channel = false ∧
        decide ((ofWorkspace users channel).withinLimits.1.kind = .inviteOnly) = true := by
  have hlimit : 2 ≤ groupLimit := by decide
  rw [isLonely_iff_of_direct (by rw [h]; rfl), decide_eq_true_iff, decide_eq_true_iff,
    kind_made_iff_of_group h]
  omega

/-- Groups with too many members come to be private channels. -/
theorem listed_crowds (hchannels : ∀ channel ∈ channels, channel.kind = .group) :
    List.Forall₂ (ListedAs .inviteOnly users)
      (channels.filter fun channel => groupLimit < (knownMembers users channel).length)
      ((allOfWorkspace users channels).1.filter (·.kind = .inviteOnly)) :=
  listed_filter (fun channel hmem => groupLimit_lt_iff (hchannels channel hmem))
    fun channel hmem hpick =>
      (kind_made_iff_of_group (hchannels channel hmem)).2 (of_decide_eq_true hpick)

/-- The other groups are listed as groups if they have two members at least. -/
theorem listed_groups (hchannels : ∀ channel ∈ channels, channel.kind = .group) :
    List.Forall₂ (ListedAs .group users)
      (channels.filter fun channel => 2 ≤ (knownMembers users channel).length ∧
        (knownMembers users channel).length ≤ groupLimit)
      ((allOfWorkspace users channels).1.filter (·.kind ≠ .inviteOnly)) := by
  refine listed_filter (fun channel hmem => ?_) fun channel hmem hpick => ?_
  · rw [isLonely_iff_of_direct (by rw [hchannels channel hmem]; rfl), decide_eq_true_iff,
      decide_eq_true_iff, Ne, kind_made_iff_of_group (hchannels channel hmem), Nat.not_lt]
  · have hfew : ¬ isCrowd users channel = true := by
      rw [isCrowd_iff_of_group (hchannels channel hmem), Nat.not_lt]
      exact (of_decide_eq_true hpick).2
    rw [kind_made, if_neg hfew, hchannels channel hmem]

end Mattermost.Channel

/-! ## All lists -/

namespace Conversion

open Mattermost (Channel)

/-- **What is listed where.** Let each list of an export have the channels of its kind,
and let any users be known. Then the public channels of the import are those of the export;
the private ones are those of the export and after them the groups with more than eight
known members; the groups are those with two to eight, and the conversations of two those
with two at least; all in their order, each of the kind of its list and with its known
members. And so many are counted. -/
theorem withChannels_lists (c : Conversion) (e : Export) (htyped : e.Typed) :
    let users := c.content.users
    let count := fun channel => (Channel.knownMembers users channel).length
    let i := (c.withChannels e).content
    List.Forall₂ (Channel.ListedAs .openToAll users) e.publicChannels i.publicChannels ∧
    (∃ others crowds, i.privateChannels = others ++ crowds ∧
      List.Forall₂ (Channel.ListedAs .inviteOnly users) e.privateChannels others ∧
      List.Forall₂ (Channel.ListedAs .inviteOnly users)
        (e.groupChannels.filter fun channel => 8 < count channel) crowds) ∧
    List.Forall₂ (Channel.ListedAs .group users)
      (e.groupChannels.filter fun channel => 2 ≤ count channel ∧ count channel ≤ 8)
      i.groupChannels ∧
    List.Forall₂ (Channel.ListedAs .direct users)
      (e.directChannels.filter fun channel => 2 ≤ count channel) i.directChannels ∧
    (c.withChannels e).summary.channels = i.publicChannels.length + i.privateChannels.length +
      i.groupChannels.length + i.directChannels.length := by
  intro users count i
  refine ⟨Channel.listed_all htyped.openToAll rfl, ⟨_, _, rfl,
    Channel.listed_all htyped.inviteOnly rfl, Channel.listed_crowds htyped.group⟩,
    Channel.listed_groups htyped.group, Channel.listed_direct htyped.direct, ?_⟩
  change i.channels.length = _
  simp only [Mattermost.Import.channels, List.length_append]

/-- An export of nine users with channels of all kinds. In all of them someone is listed who
is not known, and in some of the conversations there are then too few who are. -/
def assorted : Export :=
  let ids := ["U1", "U2", "U3", "U4", "U5", "U6", "U7", "U8", "U9"]
  let of := fun kind id members =>
    { Slack.Channel.blank with id := id, name := id, members := members, kind := kind }
  { Export.empty with
    users := ids.map fun id => ⟨id, lowerCase id, Slack.Profile.blank⟩
    publicChannels := [of .openToAll "C1" ["U1", "X"]]
    privateChannels := [of .inviteOnly "P1" ["X"]]
    groupChannels := [of .group "G1" ("X" :: ids), of .group "G2" ["U1", "X", "U2"],
      of .group "G3" ["U1", "X", "Y"], of .group "G4" (ids.take 8)]
    directChannels := [of .direct "D1" ["U1", "X"], of .direct "D2" ["U2", "U1"]] }

/-- The largest group is a private channel, and two of the conversations are left out. -/
theorem withChannels_lists_of_assorted :
    let c := (fresh "" Files.empty Backend.empty).withUsers none assorted.users
    let i := (c.withChannels assorted).content
    assorted.Typed ∧ i.publicChannels.map (·.id) = ["C1"] ∧
    i.privateChannels.map (·.id) = ["P1", "G1"] ∧ i.groupChannels.map (·.id) = ["G2", "G4"] ∧
    i.directChannels.map (·.id) = ["D2"] ∧
    List.Forall₂ (Channel.ListedAs .direct c.content.users)
      (assorted.directChannels.filter fun channel =>
        2 ≤ (Channel.knownMembers c.content.users channel).length) i.directChannels ∧
    (c.withChannels assorted).summary.channels = 6 := by
  intro c i
  have htyped : assorted.Typed := ⟨by decide, by decide, by decide, by decide⟩
  obtain ⟨-, -, -, hdirect, hcount⟩ := withChannels_lists c assorted htyped
  refine ⟨htyped, by decide +kernel, by decide +kernel, by decide +kernel, by decide +kernel,
    hdirect, hcount.trans (by decide +kernel)⟩

/-! ## Who takes part -/

/-- The members of the channel are known, and they are named one by one. -/
structure Named (users : Table Mattermost.User) (channel : Channel) : Prop where
  known : ∀ id ∈ channel.members, users.contains id = true
  names : List.Forall₂ (fun id name => ∃ user, users.find? id = some user ∧ user.username = name)
    channel.members channel.memberNames

/-- The channel is between different users, who are known and named. -/
structure Between (users : Table Mattermost.User) (channel : Channel) : Prop where
  known : ∀ id ∈ channel.members, users.contains id = true
  different : ∃ id ∈ channel.members, ∃ other ∈ channel.members, id ≠ other
  /-- Two of the names are those of different users. -/
  names : ∃ id other user user', id ≠ other ∧ users.find? id = some user ∧
    users.find? other = some user' ∧ user.username ∈ channel.memberNames ∧
    user'.username ∈ channel.memberNames

/-- The known members of the conversation are one user, who is listed several times. -/
def IsMonologue (users : Table Mattermost.User) (channel : Slack.Channel) : Prop :=
  Channel.isCrowd users channel = false ∧
    ∃ id count, 2 ≤ count ∧ Channel.knownMembers users channel = List.replicate count id

variable {users : Table Mattermost.User} {channel made : Channel} {c : Conversion} {e : Export}

/-- A list of two entries at least has different ones, or one several times. -/
theorem not_different_iff {ids : List String} (h : 2 ≤ ids.length) :
    (¬ ∃ id ∈ ids, ∃ other ∈ ids, id ≠ other) ↔
      ∃ id count, 2 ≤ count ∧ ids = List.replicate count id := by
  constructor
  · intro hsame
    obtain ⟨id, hid⟩ := List.exists_mem_of_length_pos (Nat.lt_of_lt_of_le Nat.two_pos h)
    refine ⟨id, ids.length, h, List.eq_replicate_iff.2 ⟨rfl, fun other hother => ?_⟩⟩
    by_contra hne
    exact hsame ⟨other, hother, id, hid, hne⟩
  · rintro ⟨id, count, -, rfl⟩ ⟨a, ha, b, hb, hne⟩
    exact hne ((List.eq_of_mem_replicate ha).trans (List.eq_of_mem_replicate hb).symm)

/-- Known members are named one by one. -/
theorem named_naming (h : ∀ id ∈ channel.members, users.contains id = true) :
    Named users (naming users channel) := by
  refine ⟨h, ?_⟩
  have hall : ∀ ids : List String, (∀ id ∈ ids, users.contains id = true) →
      List.Forall₂ (fun id name => ∃ user, users.find? id = some user ∧ user.username = name)
        ids (ids.filterMap fun id => (users.find? id).map (·.username)) := by
    intro ids hids
    induction ids with
    | nil => exact .nil
    | cons id rest ih =>
      obtain ⟨user, hfind⟩ := Table.contains_iff.1 (hids id List.mem_cons_self)
      rw [List.filterMap_cons_some (by rw [hfind]; rfl)]
      exact .cons ⟨user, hfind, rfl⟩ (ih fun id hmem => hids id (List.mem_cons_of_mem _ hmem))
  exact hall channel.members h

/-- A member has a name among the names. -/
theorem Named.exists_name {id : String} (h : Named users channel) (hid : id ∈ channel.members) :
    ∃ user, users.find? id = some user ∧ user.username ∈ channel.memberNames := by
  have hnames := h.names
  generalize channel.members = ids at hid hnames
  generalize channel.memberNames = names at hnames ⊢
  induction hnames with
  | nil => cases hid
  | cons hname _ ih =>
    rcases List.mem_cons.1 hid with rfl | hid
    · obtain ⟨user, hfind, rfl⟩ := hname
      exact ⟨user, hfind, List.mem_cons_self⟩
    · obtain ⟨user, hfind, hmem⟩ := ih hid
      exact ⟨user, hfind, List.mem_cons_of_mem _ hmem⟩

/-- A channel with named members is between different users if two of them differ. -/
theorem Named.between_iff (h : Named users channel) : Between users channel ↔
    ∃ id ∈ channel.members, ∃ other ∈ channel.members, id ≠ other := by
  refine ⟨fun hbetween => hbetween.different, fun hdifferent => ⟨h.known, hdifferent, ?_⟩⟩
  obtain ⟨id, hid, other, hother, hne⟩ := hdifferent
  obtain ⟨user, hfind, hname⟩ := h.exists_name hid
  obtain ⟨user', hfind', hname'⟩ := h.exists_name hother
  exact ⟨id, other, user, user', hne, hfind, hfind', hname, hname'⟩

/-- The import when channels and users know of each other. -/
def acquainted (c : Conversion) (e : Export) : Mattermost.Import :=
  (((c.withChannels e).withMemberships).withMemberNames).content

/-- The channel that is made of one of the workspace and given the names of its members. -/
def conversation (c : Conversion) (e : Export) (channel : Slack.Channel) : Channel :=
  naming (acquainted c e).users (Channel.ofWorkspace c.content.users channel).withinLimits.1

section

variable {channel : Slack.Channel}

/-- The users are those who were known before. -/
theorem contains_users_acquainted {id : String} :
    (acquainted c e).users.contains id = c.content.users.contains id := by
  change (Table.map _ _).contains id = _
  rw [Table.contains, Table.find?_map, Option.isSome_map]
  rfl

@[simp] theorem members_conversation :
    (conversation c e channel).members = Channel.knownMembers c.content.users channel :=
  (Channel.madeOf_withinLimits c.content.users channel).members

theorem named_conversation : Named (acquainted c e).users (conversation c e channel) := by
  refine named_naming fun id hid => ?_
  have hknown : id ∈ Channel.knownMembers c.content.users channel :=
    members_conversation (c := c) (e := e) ▸ hid
  rw [contains_users_acquainted]
  exact (List.mem_filter.1 hknown).2

theorem isDirect_conversation_iff : (conversation c e channel).kind.isDirect = true ↔
    channel.kind.isDirect = true ∧ Channel.isCrowd c.content.users channel = false := by
  change (Channel.ofWorkspace c.content.users channel).withinLimits.1.kind.isDirect = true ↔ _
  rw [Channel.kind_made]
  by_cases hcrowd : Channel.isCrowd c.content.users channel = true
  · simp [hcrowd, ChannelKind.isDirect]
  · simp [hcrowd]

theorem mem_groupChannels_iff : made ∈ (acquainted c e).groupChannels ↔
    ∃ channel ∈ e.groupChannels, Channel.isLonely c.content.users channel = false ∧
      (conversation c e channel).kind ≠ .inviteOnly ∧ made = conversation c e channel := by
  have hgroups : (acquainted c e).groupChannels =
      ((Channel.allOfWorkspace c.content.users e.groupChannels).1.filter
        (·.kind ≠ .inviteOnly)).map (naming (acquainted c e).users) := rfl
  rw [hgroups, List.mem_map]
  constructor
  · rintro ⟨former, hmem, rfl⟩
    obtain ⟨hformer, hkind⟩ := List.mem_filter.1 hmem
    obtain ⟨channel, hlisted, hlonely, rfl⟩ := Channel.mem_allOfWorkspace.1 hformer
    exact ⟨channel, hlisted, hlonely, of_decide_eq_true hkind, rfl⟩
  · rintro ⟨channel, hmem, hlonely, hkind, rfl⟩
    exact ⟨_, List.mem_filter.2 ⟨Channel.mem_allOfWorkspace.2 ⟨channel, hmem, hlonely, rfl⟩,
      decide_eq_true hkind⟩, rfl⟩

theorem mem_directChannels_iff : made ∈ (acquainted c e).directChannels ↔
    ∃ channel ∈ e.directChannels, Channel.isLonely c.content.users channel = false ∧
      made = conversation c e channel := by
  have hdirect : (acquainted c e).directChannels =
      (Channel.allOfWorkspace c.content.users e.directChannels).1.map
        (naming (acquainted c e).users) := rfl
  rw [hdirect, List.mem_map]
  constructor
  · rintro ⟨former, hformer, rfl⟩
    obtain ⟨channel, hlisted, hlonely, rfl⟩ := Channel.mem_allOfWorkspace.1 hformer
    exact ⟨channel, hlisted, hlonely, rfl⟩
  · rintro ⟨channel, hmem, hlonely, rfl⟩
    exact ⟨_, Channel.mem_allOfWorkspace.2 ⟨channel, hmem, hlonely, rfl⟩, rfl⟩

/-- **The conversations of an import** come of those of the export that are no crowds and
have two members, counted as they are listed. -/
theorem mem_conversations_iff :
    (made ∈ (acquainted c e).groupChannels ++ (acquainted c e).directChannels ∧
      made.kind.isDirect = true) ↔
    ∃ channel ∈ e.groupChannels ++ e.directChannels, channel.kind.isDirect = true ∧
      Channel.isCrowd c.content.users channel = false ∧
      2 ≤ (Channel.knownMembers c.content.users channel).length ∧
      made = conversation c e channel := by
  constructor
  · rintro ⟨hmem, hkind⟩
    obtain ⟨channel, hlisted, hlonely, rfl⟩ : ∃ channel ∈ e.groupChannels ++ e.directChannels,
        Channel.isLonely c.content.users channel = false ∧ made = conversation c e channel := by
      rcases List.mem_append.1 hmem with hmem | hmem
      · obtain ⟨channel, hmem, hlonely, -, hmade⟩ := mem_groupChannels_iff.1 hmem
        exact ⟨channel, List.mem_append_left _ hmem, hlonely, hmade⟩
      · obtain ⟨channel, hmem, hlonely, hmade⟩ := mem_directChannels_iff.1 hmem
        exact ⟨channel, List.mem_append_right _ hmem, hlonely, hmade⟩
    obtain ⟨hdirect, hcrowd⟩ := isDirect_conversation_iff.1 hkind
    exact ⟨channel, hlisted, hdirect, hcrowd, (Channel.isLonely_iff_of_direct hdirect).1 hlonely,
      rfl⟩
  · rintro ⟨channel, hlisted, hdirect, hcrowd, htwo, rfl⟩
    have hlonely := (Channel.isLonely_iff_of_direct hdirect).2 htwo
    have hkind := isDirect_conversation_iff (e := e).2 ⟨hdirect, hcrowd⟩
    refine ⟨List.mem_append.2 ?_, hkind⟩
    rcases List.mem_append.1 hlisted with hmem | hmem
    · refine Or.inl (mem_groupChannels_iff.2 ⟨channel, hmem, hlonely, fun heq => ?_, rfl⟩)
      rw [heq] at hkind
      cases hkind
    · exact Or.inr (mem_directChannels_iff.2 ⟨channel, hmem, hlonely, rfl⟩)

end

/-- **Who takes part in the conversations of an import.** Whatever the export and whoever the
users are, the members of each conversation are known, at least two are listed, and they are
named one by one. All conversations are between different users if and only if none of
the export is a monologue. -/
theorem conversations_between_iff (c : Conversion) (e : Export) :
    (∀ channel ∈ (acquainted c e).groupChannels ++ (acquainted c e).directChannels,
      channel.kind.isDirect = true →
        Named (acquainted c e).users channel ∧ 2 ≤ channel.members.length) ∧
    ((∀ channel ∈ (acquainted c e).groupChannels ++ (acquainted c e).directChannels,
      channel.kind.isDirect = true → Between (acquainted c e).users channel) ↔
      ∀ channel ∈ e.groupChannels ++ e.directChannels, channel.kind.isDirect = true →
        ¬ IsMonologue c.content.users channel) := by
  refine ⟨fun made hmade hkind => ?_, fun hall channel hlisted hdirect => ?_,
    fun hall made hmade hkind => ?_⟩
  · obtain ⟨channel, -, -, -, htwo, rfl⟩ := mem_conversations_iff.1 ⟨hmade, hkind⟩
    exact ⟨named_conversation, members_conversation (e := e) ▸ htwo⟩
  · rintro ⟨hcrowd, id, count, htwo, hsame⟩
    have hlength : 2 ≤ (Channel.knownMembers c.content.users channel).length := by
      rwa [hsame, List.length_replicate]
    obtain ⟨hmade, hkind⟩ :=
      mem_conversations_iff.2 ⟨channel, hlisted, hdirect, hcrowd, hlength, rfl⟩
    have hdifferent := (hall _ hmade hkind).different
    rw [members_conversation] at hdifferent
    exact (not_different_iff hlength).2 ⟨id, count, htwo, hsame⟩ hdifferent
  · obtain ⟨channel, hlisted, hdirect, hcrowd, htwo, rfl⟩ :=
      mem_conversations_iff.1 ⟨hmade, hkind⟩
    rw [named_conversation.between_iff, members_conversation]
    by_contra hsame
    exact hall channel hlisted hdirect ⟨hcrowd, (not_different_iff htwo).1 hsame⟩

/-- An export of one user with a conversation in which she is listed twice. -/
def noteToSelf : Export :=
  { Export.empty with
    users := [⟨"U1", "ann", Slack.Profile.blank⟩]
    directChannels :=
      [{ Slack.Channel.blank with id := "D1", members := ["U1", "U1"], kind := .direct }] }

/-- **A conversation of one user with herself** is not left out, and it names her twice. -/
theorem not_between_of_noteToSelf :
    let i := acquainted ((fresh "" Files.empty Backend.empty).withUsers none noteToSelf.users)
      noteToSelf
    noteToSelf.Typed ∧
    ∃ channel ∈ i.groupChannels ++ i.directChannels, channel.kind.isDirect = true ∧
      channel.members = ["U1", "U1"] ∧ channel.memberNames = ["ann", "ann"] ∧
      ¬ Between i.users channel := by
  intro i
  have hlist : i.directChannels.map
      (fun channel => (channel.kind, channel.members, channel.memberNames)) =
        [(.direct, ["U1", "U1"], ["ann", "ann"])] := by decide +kernel
  obtain ⟨channel, rest, hchannels, heq, -⟩ := List.map_eq_cons_iff.1 hlist
  obtain ⟨hkind, hmembers, hnames⟩ : channel.kind = .direct ∧ channel.members = ["U1", "U1"] ∧
      channel.memberNames = ["ann", "ann"] := by simpa using heq
  have hmem : channel ∈ i.directChannels := hchannels ▸ List.mem_cons_self
  refine ⟨⟨by decide, by decide, by decide, by decide⟩, channel, List.mem_append_right _ hmem,
    by rw [hkind]; rfl, hmembers, hnames, fun hbetween => ?_⟩
  have hdifferent := hbetween.different
  rw [hmembers] at hdifferent
  exact (not_different_iff (by decide)).2 ⟨"U1", 2, Nat.le_refl _, rfl⟩ hdifferent

end Conversion

end ChatImport
