import ChatImport.Mattermost.Import
import ChatImport.Proofs.Json.Omitting
import ChatImport.Proofs.Json.Regular
import ChatImport.Proofs.Mattermost.Post
import Mathlib.Data.List.Permutation
/-!
# Posts and imports read back from their text

What a program holds is *regular*: the times are whole numbers of 64 bits, and what goes
with a post is made of such numbers, of texts and of members in the order of their
names. A regular post and a regular import are read back from their text if it opens no
more levels than a reader allows; the depth of a post bounds the depth of its replies,
two levels further in, so nothing is asked of them beside that they are regular.

An object that reads as a post does so without the members that have a default
(`Post.omits`), whatever their order, its blanks and what else stands in it.
-/

namespace ChatImport

namespace Mattermost

open Json (Cell Decoder Record ObjectText Token Tree deepestNesting tree)

/-! ## Posts -/

namespace Post

/-- A post as a program holds it, without doubles: what goes with it is a regular value,
its time is a whole number of 64 bits, and its replies are such posts. -/
inductive Regular : Post → Prop where
  | mk {p : Post} : (Json.object p.props).Regular → Json.leastInteger ≤ p.createAt →
    p.createAt ≤ Json.greatestInteger → (∀ reply ∈ p.replies, Regular reply) → Regular p

/-- What goes with a post stands one level in its text, and its replies two. -/
theorem exists_of_depth_le {p : Post} {level : Nat} (h : p.json.depth ≤ level) :
    ∃ inner, level = inner + 2 ∧ (Json.object p.props).depth ≤ inner + 1 ∧
      ∀ reply ∈ p.replies, reply.json.depth ≤ inner := by
  rw [json_eq decoder p] at h
  obtain ⟨outer, rfl, hmembers⟩ := Json.depth_object_le_iff.1 h
  have hprops := hmembers ("props", .object p.props) (by simp [Record.membersOf, cells, record,
    Json.Field.of])
  have hreplies := hmembers ("replies", .array (p.replies.map json)) (by simp [Record.membersOf,
    cells, record, Json.Field.of])
  obtain ⟨inner, rfl, hitems⟩ := Json.depth_array_le_iff.1 hreplies
  exact ⟨inner, rfl, hprops, fun reply hmem => hitems _ (List.mem_map_of_mem hmem)⟩

/-- **A regular post reads back where its depth may be opened.** -/
theorem Regular.readable {p : Post} (h : p.Regular) :
    ∀ level, p.json.depth ≤ level → p.Readable level := by
  induction h with
  | mk hprops hleast hgreatest _ ih =>
    intro level hdepth
    obtain ⟨inner, rfl, hdeep, hreplies⟩ := exists_of_depth_le hdepth
    exact .mk (hprops.readable _ hdeep) hleast hgreatest fun reply hmem =>
      ih reply hmem inner (hreplies reply hmem)

theorem Regular.decoder_tree {p : Post} {level : Nat} (h : p.Regular)
    (hdepth : p.json.depth ≤ level) : decoder level (tree p.json) = .ok p :=
  decoderWithin_tree (h.readable level hdepth) level (Nat.le_refl _)

/-! ## Fields that may be absent -/

/-- The names of the fields that have a default. -/
def defaulted : List String :=
  ["props", "attachments", "replies", "is_direct", "channel_members"]

/-- They are those that the record of a post says may be absent. -/
theorem defaulted_eq (reply : Decoder Post) :
    ((record reply).fields.filter fun field => field.presence = .defaulted).map
      Json.Field.name = defaulted := rfl

/-- A post with fields of some names put back to their defaults. -/
def resetting (names : List String) (p : Post) : Post :=
  { p with
    props := if "props" ∈ names then [] else p.props
    attachments := if "attachments" ∈ names then [] else p.attachments
    replies := if "replies" ∈ names then [] else p.replies
    isDirect := if "is_direct" ∈ names then false else p.isDirect
    channelMembers := if "channel_members" ∈ names then [] else p.channelMembers }

/-- **The fields with a default may be left out of a post.** -/
theorem omits (reply : Decoder Post) {names : List String}
    (h : ∀ name ∈ names, name ∈ defaulted) : (record reply).Omits names (resetting names) where
  blank := by simp only [record, resetting, blank, ite_self]
  fields := by
    have hkept : ∀ name, name ∉ defaulted → name ∉ names := fun name hnot hmem =>
      hnot (h name hmem)
    simp only [record, List.forall_mem_cons]
    have hmay : Json.Presence.defaulted ≠ .required := by decide
    -- in the order of the record: the fields that must be there are not touched
    refine ⟨Json.Field.resets_of_notMem (hkept _ (by decide)) fun _ _ => rfl,
      Json.Field.resets_of_notMem (hkept _ (by decide)) fun _ _ => rfl,
      Json.Field.resets_of_notMem (hkept _ (by decide)) fun _ _ => rfl,
      Json.Field.resets_of (absurd · hmay) ?_ ?_,
      Json.Field.resets_of_notMem (hkept _ (by decide)) fun _ _ => rfl,
      Json.Field.resets_of (absurd · hmay) ?_ ?_, Json.Field.resets_of (absurd · hmay) ?_ ?_,
      Json.Field.resets_of (absurd · hmay) ?_ ?_, Json.Field.resets_of (absurd · hmay) ?_ ?_,
      List.forall_mem_nil _⟩
    all_goals
      intro hmem _ _
      simp only [resetting, hmem, if_true, if_false]

/-- **A text without members that have a default reads as the same post**, with these
fields at their defaults. -/
theorem decoder_without {names : List String} (h : ∀ name ∈ names, name ∈ defaulted)
    {level : Nat} {members : List (Token × Tree)} {fault : Option Json.Fault} {p : Post}
    (hread : decoder level (.object members fault) = .ok p) :
    decoder level (.object (Json.without names members) fault) = .ok (p.resetting names) := by
  obtain ⟨reply, heq⟩ := exists_decoderWithin level
  rw [decoder, heq] at hread ⊢
  exact Record.decode_without (omits reply h) hread

end Post

/-! ## Channels -/

namespace Channel

/-- The fields of a channel with what stands in their places. -/
def cells (c : Channel) : List (Cell Channel) :=
  List.zipWith (fun field content => ⟨field, content.1, content.2⟩) record.fields
    [(.string c.id, fun d => { d with id := c.id }),
      (.string c.exportName, fun d => { d with exportName := c.exportName }),
      (.string c.name, fun d => { d with name := c.name }),
      (.string c.displayName, fun d => { d with displayName := c.displayName }),
      (Json.strings c.members, fun d => { d with members := c.members }),
      (Json.strings c.memberNames, fun d => { d with memberNames := c.memberNames }),
      (.string c.purpose, fun d => { d with purpose := c.purpose }),
      (.string c.header, fun d => { d with header := c.header }),
      (.string c.topic, fun d => { d with topic := c.topic }),
      (c.kind.json, fun d => { d with kind := c.kind })]

theorem nodup_cells (c : Channel) : (c.cells.map fun cell => cell.field.name).Nodup := by
  change ["id", "original_name", "name", "display_name", "members", "members_usernames",
    "purpose", "header", "topic", "type"].Nodup
  decide

theorem kind_tree (kind : ChannelKind) (level : Nat) :
    ChannelKind.decoder level (tree kind.json) = .ok kind := by
  cases kind with
  | openToAll => rfl
  | inviteOnly => rfl
  | group => rfl
  | direct => rfl

/-- A channel opens two levels and is read as itself. -/
theorem decoder_tree (c : Channel) (level : Nat) :
    decoder (level + 2) (tree c.json) = .ok c := by
  refine (@Record.decode_of_cells _ record (level + 1) c.cells rfl (nodup_cells c) ?_).trans ?_
  · simp only [cells, record, List.zipWith_cons_cons, List.zipWith_nil_left,
      List.forall_mem_cons]
    exact ⟨Json.Field.read_of rfl, Json.Field.read_of rfl, Json.Field.read_of rfl,
      Json.Field.read_of rfl, Json.Field.read_of Decoder.strings_tree,
      Json.Field.read_of Decoder.strings_tree, Json.Field.read_of rfl, Json.Field.read_of rfl,
      Json.Field.read_of rfl, Json.Field.read_of (kind_tree c.kind _),
      List.forall_mem_nil _⟩
  · cases c
    rfl

end Channel

/-! ## Users -/

namespace User

/-- The fields of a user with what stands in their places. -/
def cells (u : User) : List (Cell User) :=
  List.zipWith (fun field content => ⟨field, content.1, content.2⟩) record.fields
    [(.string u.id, fun v => { v with id := u.id }),
      (.string u.username, fun v => { v with username := u.username }),
      (.string u.firstName, fun v => { v with firstName := u.firstName }),
      (.string u.lastName, fun v => { v with lastName := u.lastName }),
      (.string u.position, fun v => { v with position := u.position }),
      (.string u.email, fun v => { v with email := u.email }),
      (.string u.password, fun v => { v with password := u.password }),
      (Json.strings u.memberships, fun v => { v with memberships := u.memberships }),
      (Json.optional u.authData, fun v => { v with authData := u.authData }),
      (.string u.authService, fun v => { v with authService := u.authService })]

theorem nodup_cells (u : User) : (u.cells.map fun cell => cell.field.name).Nodup := by
  change ["id", "username", "first_name", "last_name", "position", "email", "password",
    "memberships", "auth_data", "auth_service"].Nodup
  decide

/-- A user opens two levels and is read as itself. -/
theorem decoder_tree (u : User) (level : Nat) : decoder (level + 2) (tree u.json) = .ok u := by
  have hauth : Decoder.nullable Decoder.text (level + 1) (tree (Json.optional u.authData)) =
      .ok u.authData := by
    cases u.authData with
    | none => rfl
    | some data => rfl
  refine (@Record.decode_of_cells _ record (level + 1) u.cells rfl (nodup_cells u) ?_).trans ?_
  · simp only [cells, record, List.zipWith_cons_cons, List.zipWith_nil_left,
      List.forall_mem_cons]
    exact ⟨Json.Field.read_of rfl, Json.Field.read_of rfl, Json.Field.read_of rfl,
      Json.Field.read_of rfl, Json.Field.read_of rfl, Json.Field.read_of rfl,
      Json.Field.read_of rfl, Json.Field.read_of Decoder.strings_tree, Json.Field.read_of hauth,
      Json.Field.read_of rfl, List.forall_mem_nil _⟩
  · cases u
    rfl

end User

/-! ## Imports -/

namespace Import

/-- An import as a program holds it, without doubles. -/
def Regular (i : Import) : Prop := ∀ p ∈ i.posts, p.Regular

/-- The fields of an import with what stands in their places. -/
def cells (i : Import) : List (Cell Import) :=
  List.zipWith (fun field content => ⟨field, content.1, content.2⟩) record.fields
    [(.array (i.publicChannels.map Channel.json),
        fun k => { k with publicChannels := i.publicChannels }),
      (.array (i.privateChannels.map Channel.json),
        fun k => { k with privateChannels := i.privateChannels }),
      (.array (i.groupChannels.map Channel.json),
        fun k => { k with groupChannels := i.groupChannels }),
      (.array (i.directChannels.map Channel.json),
        fun k => { k with directChannels := i.directChannels }),
      (.object (i.users.entries.map fun entry => (entry.1, entry.2.json)),
        fun k => { k with users := i.users }),
      (.array (i.posts.map Post.json), fun k => { k with posts := i.posts })]

theorem nodup_cells (i : Import) : (i.cells.map fun cell => cell.field.name).Nodup := by
  change ["public_channels", "private_channels", "group_channels", "direct_channels", "users",
    "posts"].Nodup
  decide

/-- **A regular import is read as itself** where four levels may be opened, for its users
and channels, and its posts are no deeper than the levels that are left. -/
theorem decoder_tree {i : Import} {level : Nat} (h : i.Regular)
    (hdepth : ∀ p ∈ i.posts, p.json.depth ≤ level + 2) :
    decoder (level + 4) (tree i.json) = .ok i := by
  have hchannels : ∀ channels : List Channel, Decoder.list Channel.decoder (level + 3)
      (tree (.array (channels.map Channel.json))) = .ok channels := fun channels =>
    Decoder.list_tree fun c _ => Channel.decoder_tree c level
  have husers : Decoder.table User.decoder (level + 3)
      (tree (.object (i.users.entries.map fun entry => (entry.1, entry.2.json)))) =
        .ok i.users :=
    Decoder.table_tree fun entry _ => User.decoder_tree entry.2 level
  have hposts : Decoder.list Post.decoder (level + 3)
      (tree (.array (i.posts.map Post.json))) = .ok i.posts :=
    Decoder.list_tree fun p hmem => (h p hmem).decoder_tree (hdepth p hmem)
  refine (@Record.decode_of_cells _ record (level + 3) i.cells rfl (nodup_cells i) ?_).trans ?_
  · simp only [cells, record, List.zipWith_cons_cons, List.zipWith_nil_left,
      List.forall_mem_cons]
    exact ⟨Json.Field.read_of (hchannels _), Json.Field.read_of (hchannels _),
      Json.Field.read_of (hchannels _), Json.Field.read_of (hchannels _),
      Json.Field.read_of husers, Json.Field.read_of hposts, List.forall_mem_nil _⟩
  · cases i
    rfl

/-- The posts of an import stand two levels in its text. -/
theorem depth_of_mem_posts {i : Import} {level : Nat} (h : i.json.depth ≤ level + 2) :
    ∀ p ∈ i.posts, p.json.depth ≤ level := by
  obtain ⟨outer, houter, hmembers⟩ := Json.depth_object_le_iff.1 h
  obtain ⟨inner, hinner, hitems⟩ := Json.depth_array_le_iff.1
    (hmembers ("posts", .array (i.posts.map Post.json)) (by simp))
  intro p hmem
  have hdepth := hitems p.json (List.mem_map_of_mem hmem)
  omega

end Import

/-! ## Whole texts -/

/-- **Posts and imports are read back from their text**, and a post is read without the
members that have a default: what it is serialised to parses to an equal value wherever
no more levels are opened than a reader allows, and an object that reads as a post still
does when members with a default are taken out, as the same post with these fields at
their defaults. -/
theorem written_read_back :
    (∀ p : Post, p.Regular → p.json.depth ≤ deepestNesting →
      Json.readString Post.decoder p.json.text = .ok p) ∧
    (∀ i : Import, i.Regular → i.json.depth ≤ deepestNesting →
      Json.readString Import.decoder i.json.text = .ok i) ∧
    ∀ (names : List String) (members : List (Token × Tree)) (s s' : String) (p : Post),
      (∀ name ∈ names, name ∈ Post.defaulted) → ObjectText s members →
      ObjectText s' (Json.without names members) → Json.readString Post.decoder s = .ok p →
      Json.readString Post.decoder s' = .ok (p.resetting names) := by
  refine ⟨fun p hregular hdepth => ?_, fun i hregular hdepth => ?_, ?_⟩
  · exact Post.readString_text (hregular.readable _ hdepth)
  · rw [Json.readString_text]
    exact Import.decoder_tree hregular (Import.depth_of_mem_posts hdepth)
  · intro names members s s' p hnames hs hs' hread
    rw [hs.read_eq] at hread
    rw [hs'.read_eq]
    exact Post.decoder_without hnames hread

/-- A post with a reply, with a file and with something else that goes with it. -/
def answered : Post :=
  { Post.plain "ann" "town" "say \"hi\"\n" 7 with
    props := [("by", .object [("bot", .boolean true), ("no", .integer 3)])]
    attachments := ["a.png"]
    replies := [Post.plain "bob" "town" "\\o/" (-8)] }

theorem regular_answered : answered.Regular := by
  have hnested : (Json.object [("bot", .boolean true), ("no", .integer 3)]).Regular :=
    .object (by decide) (List.forall_mem_cons.2 ⟨.boolean,
      List.forall_mem_singleton.2 (.integer (by decide) (by decide))⟩)
  have hreply : (Post.plain "bob" "town" "\\o/" (-8)).Regular :=
    .mk (.object .nil nofun) (by decide) (by decide) nofun
  exact .mk (.object (by decide) (List.forall_mem_singleton.2 hnested)) (by decide) (by decide)
    (List.forall_mem_singleton.2 hreply)

/-- The post comes back, alone and in an import. Without its properties, its files and its
replies it comes back from a text that lacks them, blanks or not. -/
theorem written_read_back_answered :
    Json.readString Post.decoder answered.json.text = .ok answered ∧
    Json.readString Import.decoder { Import.empty with posts := [answered] }.json.text =
      .ok { Import.empty with posts := [answered] } ∧
    Json.readString Post.decoder ("\x7b \"user\":\"ann\", \"channel\":\"town\", " ++
        "\"message\":\"say \\\"hi\\\"\\n\", \"create_at\":7 \x7d") =
      .ok (Post.plain "ann" "town" "say \"hi\"\n" 7) := by
  have hpost := written_read_back.1 answered regular_answered (by decide)
  refine ⟨hpost, written_read_back.2.1 _ (List.forall_mem_singleton.2 regular_answered)
    (by decide), ?_⟩
  exact written_read_back.2.2 Post.defaulted _ _ _ answered (fun _ hmem => hmem)
    (Json.objectText_text _) (by cbv) hpost

end Mattermost

end ChatImport
