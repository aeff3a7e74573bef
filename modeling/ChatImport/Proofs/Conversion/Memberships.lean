import ChatImport.Proofs.Conversion.Integrity
import ChatImport.Proofs.Conversion.Listing
/-!
# Who belongs where

When users and channels are made, two passes tell them of each other: users learn which
channels with a handle they belong to, and conversations how their members are called. The
passes divide the channels between them by the lists that these stand in, which is by their
kinds (`Conversion.typed_withChannels`). A group that was too large stands among the private
channels by then, and so its members belong to it.

Neither pass reads what the other writes. Memberships depend on members, handles and
identifiers, names of members on members and names of users, and none of these is written.
So what the passes write is what they would write again (`Conversion.settled_withMemberNames`),
and an import of which that is true is left as it is by both.

Users and members may be listed several times in an export, and members need not be users.
`Conversion.joined_named_settled` says what comes of them all the same.
-/

namespace ChatImport

namespace Mattermost

/-! ## Memberships -/

/-- The names are the handles of those channels of a list that have a member, one for each
channel and in their order. -/
inductive Joined (id : String) : List Channel → List String → Prop where
  | nil : Joined id [] []
  | member {channel : Channel} {rest : List Channel} {names : List String} :
    id ∈ channel.members → Joined id rest names →
      Joined id (channel :: rest) (channel.name :: names)
  | other {channel : Channel} {rest : List Channel} {names : List String} :
    id ∉ channel.members → Joined id rest names → Joined id (channel :: rest) names

end Mattermost

namespace Conversion

open Mattermost (Channel Joined)

variable {c : Conversion} {e : Export} {users : Table Mattermost.User} {id : String}
variable {user : Mattermost.User}

/-- **What a user is told** is which channels he has joined. -/
theorem joined_membershipsOf (channels : List Channel) (id : String) :
    Joined id channels (membershipsOf channels id) := by
  unfold membershipsOf
  induction channels with
  | nil => exact .nil
  | cons channel rest ih =>
    by_cases hmem : id ∈ channel.members
    · rw [List.filter_cons_of_pos (by simpa using hmem)]
      exact .member hmem ih
    · rw [List.filter_cons_of_neg (by simpa using hmem)]
      exact .other hmem ih

/-! ## Both passes -/

/-- What the passes tell users and conversations is what they know already. -/
structure Settled (i : Mattermost.Import) : Prop where
  memberships {id : String} {user : Mattermost.User} : i.users.find? id = some user →
    membershipsOf (i.publicChannels ++ i.privateChannels) user.id = user.memberships
  names : ∀ channel ∈ i.groupChannels ++ i.directChannels, naming i.users channel = channel

/-- Where all is settled the first pass changes nothing but the log. -/
theorem Settled.withMemberships (h : Settled c.content) :
    c.withMemberships = c.telling [.info "Populating user memberships"] := by
  have hsame : (c.content.users.map fun user =>
      { user with
        memberships :=
          membershipsOf (c.content.publicChannels ++ c.content.privateChannels) user.id }) =
      c.content.users :=
    Table.map_eq_self fun id user hfind => by rw [h.memberships hfind]
  simp only [Conversion.withMemberships, changing, telling, hsame]

/-- Neither does the second. -/
theorem Settled.withMemberNames (h : Settled c.content) :
    c.withMemberNames = c.telling [.info "Populating channel memberships"] := by
  have hsame : ∀ channels : List Channel,
      (∀ channel ∈ channels, channel ∈ c.content.groupChannels ++ c.content.directChannels) →
        channels.map (naming c.content.users) = channels := fun channels hsub =>
    (List.map_congr_left fun channel hmem => h.names channel (hsub channel hmem)).trans
      (List.map_id channels)
  simp only [Conversion.withMemberNames, changing, telling,
    hsame _ fun _ => List.mem_append_left _, hsame _ fun _ => List.mem_append_right _]

/-- So both in a row change nothing but the log. -/
theorem Settled.withMemberships_withMemberNames (h : Settled c.content) :
    (c.withMemberships).withMemberNames = c.telling
      [.info "Populating user memberships", .info "Populating channel memberships"] := by
  have hnext : Settled (c.telling [.info "Populating user memberships"]).content := h
  rw [h.withMemberships, hnext.withMemberNames]
  simp [telling]

/-- **After both passes all is settled**, for neither reads what they write. -/
theorem settled_withMemberNames (c : Conversion) :
    Settled (c.withMemberships.withMemberNames).content := by
  refine ⟨fun {id user} hfind => ?_, fun channel hmem => ?_⟩
  · obtain ⟨known, -, rfl⟩ := Option.map_eq_some_iff.1 ((Table.find?_map _).symm.trans hfind)
    rfl
  · rcases List.mem_append.1 hmem with hmem | hmem
    · obtain ⟨made, -, rfl⟩ := List.mem_map.1 hmem
      rfl
    · obtain ⟨made, -, rfl⟩ := List.mem_map.1 hmem
      rfl

/-! ## Users -/

/-- A user of a workspace has his own identifier. -/
theorem id_of_find?_withUsers {service : Option String} {members : List Slack.User}
    {password : String} {files : Files} {backend : Backend}
    (h : ((fresh password files backend).withUsers service members).content.users.find? id =
      some user) : user.id = id := by
  rw [find?_withUsers_eq, Option.or_eq_some_iff] at h
  obtain hfind | ⟨-, hfind⟩ := h
  · obtain ⟨member, hmember, rfl⟩ := Option.map_eq_some_iff.1 hfind
    have hid := List.find?_some hmember
    exact eq_of_beq hid
  · cases hfind

/-- Users are told of channels, and nothing else becomes of them. -/
theorem find?_users_acquainted : (acquainted c e).users.find? id =
    (c.content.users.find? id).map fun known =>
      { known with
        memberships := membershipsOf
          ((acquainted c e).publicChannels ++ (acquainted c e).privateChannels) known.id } :=
  Table.find?_map _

/-! ## Names -/

/-- A conversation has as many names as members. -/
theorem Named.length_eq {channel : Channel} (h : Named users channel) :
    channel.memberNames.length = channel.members.length :=
  h.names.length_eq.symm

/-- Each of the names is that of the member in the same place. -/
theorem Named.exists_getElem {channel : Channel} (h : Named users channel) {n : ℕ}
    (hn : n < channel.members.length) : ∃ user, users.find? channel.members[n] = some user ∧
      channel.memberNames[n]? = some user.username := by
  have hn' : n < channel.memberNames.length := h.length_eq.symm ▸ hn
  obtain ⟨user, hfind, hname⟩ := h.names.get hn hn'
  exact ⟨user, hfind, (List.getElem?_eq_getElem hn').trans (congrArg some hname.symm)⟩

/-- The members of every conversation are named. -/
theorem named_of_mem {channel : Channel}
    (h : channel ∈ (acquainted c e).groupChannels ++ (acquainted c e).directChannels) :
    Named (acquainted c e).users channel := by
  rcases List.mem_append.1 h with hmem | hmem
  · obtain ⟨listed, -, -, -, rfl⟩ := mem_groupChannels_iff.1 hmem
    exact named_conversation
  · obtain ⟨listed, -, -, rfl⟩ := mem_directChannels_iff.1 hmem
    exact named_conversation

/-! ## Who belongs where -/

/-- The channels of an export whose members are told of it: those that are public or private,
and the groups that are too large for groups. -/
def joinable (users : Table Mattermost.User) (e : Export) : List Slack.Channel :=
  e.publicChannels ++ e.privateChannels ++
    e.groupChannels.filter fun channel => groupLimit < (Channel.knownMembers users channel).length

/-- **The channels with a handle** are made of those whose members are told of it. -/
theorem handled_acquainted (htyped : e.Typed) :
    (acquainted c e).publicChannels ++ (acquainted c e).privateChannels =
      (joinable c.content.users e).map fun channel =>
        (Channel.ofWorkspace c.content.users channel).withinLimits.1 := by
  have hcrowds : (Channel.allOfWorkspace c.content.users e.groupChannels).1.filter
      (·.kind = .inviteOnly) =
        (e.groupChannels.filter fun channel =>
          groupLimit < (Channel.knownMembers c.content.users channel).length).map fun channel =>
            (Channel.ofWorkspace c.content.users channel).withinLimits.1 :=
    Channel.filter_allOfWorkspace fun channel hmem =>
      Channel.groupLimit_lt_iff (htyped.group channel hmem)
  -- the large groups stand behind the private channels in the lists of the import
  change (Channel.allOfWorkspace c.content.users e.publicChannels).1 ++
    ((Channel.allOfWorkspace c.content.users e.privateChannels).1 ++
      (Channel.allOfWorkspace c.content.users e.groupChannels).1.filter _) = _
  rw [Channel.allOfWorkspace_eq_map fun channel hmem => htyped.openToAll channel hmem ▸ rfl,
    Channel.allOfWorkspace_eq_map fun channel hmem => htyped.inviteOnly channel hmem ▸ rfl,
    hcrowds, joinable, List.map_append, List.map_append, List.append_assoc]

/-- **What a known user is told** is what those channels are called that list him. -/
theorem membershipsOf_acquainted (htyped : e.Typed) (hknown : c.content.users.contains id = true) :
    membershipsOf ((acquainted c e).publicChannels ++ (acquainted c e).privateChannels) id =
      ((joinable c.content.users e).filter (id ∈ ·.members)).map fun channel =>
        (Channel.ofWorkspace c.content.users channel).withinLimits.1.name := by
  -- only members who are not known were dropped, and he is
  have hmember : ∀ channel : Slack.Channel,
      (Channel.ofWorkspace c.content.users channel).withinLimits.1.members.contains id =
        decide (id ∈ channel.members) := by
    intro channel
    rw [(Channel.madeOf_withinLimits c.content.users channel).members]
    simp [hknown]
  rw [membershipsOf, handled_acquainted htyped, List.filter_map, List.map_map]
  refine congrArg (List.map _) (List.filter_congr fun channel _ => ?_)
  exact hmember channel

/-- **Users and conversations know of each other.** Let each list of an export have the
channels of its kind, and let all that is in it be converted and told of each other. Then each
list of the import has the channels of its kind, and users are called as the last of those of
the export with their identifiers. Each user belongs to the public and the private channels
of which he is a member, to each once and in their order; these are those of the export that
list him, groups with more than eight known members being last. Each conversation has a
name for each of its members, in the same place. And to tell them again changes nothing
but the log. -/
theorem joined_named_settled (e : Export) (service : Option String) (password : String)
    (files : Files) (backend : Backend) (htyped : e.Typed) :
    let known := (fresh password files backend).withUsers service e.users
    let done := ((known.withChannels e).withMemberships).withMemberNames
    let i := done.content
    i.Typed ∧
    (∀ id, (i.users.find? id).map (·.username) =
      (e.users.reverse.find? (·.id == id)).map (·.username)) ∧
    (∀ id user, i.users.find? id = some user → user.id = id ∧
      Joined id (i.publicChannels ++ i.privateChannels) user.memberships ∧
      user.memberships = ((joinable known.content.users e).filter (id ∈ ·.members)).map
        fun channel => (Channel.ofWorkspace known.content.users channel).withinLimits.1.name) ∧
    (∀ channel ∈ i.groupChannels ++ i.directChannels,
      channel.memberNames.length = channel.members.length ∧
      ∀ n (hn : n < channel.members.length), ∃ user,
        i.users.find? channel.members[n] = some user ∧
          channel.memberNames[n]? = some user.username) ∧
    (done.withMemberships).withMemberNames = done.telling
      [.info "Populating user memberships", .info "Populating channel memberships"] := by
  intro known done i
  have hsettled : Settled i := settled_withMemberNames (known.withChannels e)
  refine ⟨typed_withChannels htyped, fun id => ?_, fun id user hfind => ?_,
    fun channel hmem => ?_, ?_⟩
  · change ((acquainted known e).users.find? id).map _ = _
    rw [find?_users_acquainted, find?_withUsers_eq, Option.map_map]
    cases e.users.reverse.find? (·.id == id) with
    | none => rfl
    | some member => rfl
  · obtain ⟨former, hformer, rfl⟩ :=
      Option.map_eq_some_iff.1 (find?_users_acquainted.symm.trans hfind)
    -- memberships go by the identifier in the user, and he is found by this one
    have hid : former.id = id := id_of_find?_withUsers hformer
    subst hid
    exact ⟨rfl, joined_membershipsOf _ _,
      membershipsOf_acquainted htyped (Table.contains_iff.2 ⟨former, hformer⟩)⟩
  · have hnamed : Named i.users channel := named_of_mem hmem
    exact ⟨hnamed.length_eq, fun n hn => hnamed.exists_getElem hn⟩
  · exact hsettled.withMemberships_withMemberNames

/-- An export that lists one of its nine users twice, members of channels too, and members who
are not users. One of the groups is too large. -/
def overlapping : Export :=
  let ids := ["U1", "U2", "U3", "U4", "U5", "U6", "U7", "U8", "U9"]
  let of := fun kind id members =>
    { Slack.Channel.blank with id := id, name := id, members := members, kind := kind }
  { Export.empty with
    users := ⟨"U1", "ann", Slack.Profile.blank⟩ ::
      ids.map fun id => ⟨id, lowerCase id, Slack.Profile.blank⟩
    publicChannels := [of .openToAll "C1" ["U1", "X", "U1"], of .openToAll "C2" ["U2"]]
    privateChannels := [of .inviteOnly "P1" ["X", "U2", "U1"]]
    groupChannels := [of .group "G1" ("X" :: ids), of .group "G2" ["U2", "X", "U1", "U1"]]
    directChannels := [of .direct "D1" ["U1", "U2"]] }

/-- The user belongs to the large group too, after her private channel, and to no channel
twice. In the small group she is named twice. -/
theorem joined_named_settled_of_overlapping :
    let known := (fresh "" Files.empty Backend.empty).withUsers none overlapping.users
    let done := ((known.withChannels overlapping).withMemberships).withMemberNames
    let i := done.content
    overlapping.Typed ∧
    (∃ user, i.users.find? "U1" = some user ∧ user.username = "u1" ∧
      user.memberships = ["c1", "p1", "g1"] ∧
      Joined "U1" (i.publicChannels ++ i.privateChannels) user.memberships) ∧
    i.groupChannels.map (·.memberNames) = [["u2", "u1", "u1"]] ∧
    i.directChannels.map (·.memberNames) = [["u1", "u2"]] ∧
    (done.withMemberships).withMemberNames = done.telling
      [.info "Populating user memberships", .info "Populating channel memberships"] := by
  intro known done i
  have htyped : overlapping.Typed := ⟨by decide, by decide, by decide, by decide⟩
  obtain ⟨-, -, husers, -, hagain⟩ :=
    joined_named_settled overlapping none "" Files.empty Backend.empty htyped
  have hfound : (i.users.find? "U1").map (fun user => (user.username, user.memberships)) =
      some ("u1", ["c1", "p1", "g1"]) := by decide +kernel
  obtain ⟨user, hfind, heq⟩ := Option.map_eq_some_iff.1 hfound
  obtain ⟨hname, hmemberships⟩ := Prod.mk.inj heq
  exact ⟨htyped, ⟨user, hfind, hname, hmemberships, (husers "U1" user hfind).2.1⟩,
    by decide +kernel, by decide +kernel, hagain⟩

end Conversion

end ChatImport
