import ChatImport.Mattermost.Post
import ChatImport.Proofs.Json.Admitting
/-!
# Posts read back from their text

A post is put away as text between two runs. It comes back as it was
(`Post.readString_text`), replies and all, if what goes with it reads back
and its text opens no more levels than a reader allows: a post opens one
level, its properties and its list of replies one more, and each reply is
again a post.

Whatever goes with a post, if its text reads then it reads as a post of the same
creation times (`Post.createAt_of_readString`), and what goes with its replies is not
too deep (`Post.depth_of_readString`).
-/

namespace ChatImport

namespace Mattermost

namespace Post

open Json (Cell Decoder Record tree)

/-- A post that reads back from its text where so many levels may be opened:
its properties do and so do its replies, and its time is a whole number of 64
bits. -/
inductive Readable : Nat → Post → Prop where
  /-- The properties and replies stand two levels further in. -/
  | mk {level : Nat} {p : Post} : (Json.object p.props).Readable (level + 1) →
    Json.leastInteger ≤ p.createAt → p.createAt ≤ Json.greatestInteger →
    (∀ reply ∈ p.replies, Readable level reply) → Readable (level + 2) p

theorem Readable.mono {level : Nat} {p : Post} (h : p.Readable level) :
    ∀ level', level ≤ level' → p.Readable level' := by
  induction h with
  | mk hprops hleast hgreatest _ ih =>
    intro level' hle
    obtain ⟨inner, rfl⟩ : ∃ n, level' = n + 2 := ⟨level' - 2, by omega⟩
    exact .mk (hprops.mono _ (by omega)) hleast hgreatest fun reply hmem =>
      ih reply hmem inner (by omega)

theorem repliesJson_eq_map (replies : List Post) : repliesJson replies = replies.map json := by
  induction replies with
  | nil => rfl
  | cons reply rest ih => rw [repliesJson, ih, List.map_cons]

/-- The fields of a post with what stands in their places. -/
def cells (reply : Decoder Post) (p : Post) : List (Cell Post) :=
  List.zipWith (fun field content => ⟨field, content.1, content.2⟩) (record reply).fields
    [(.string p.user, fun q => { q with user := p.user }),
      (.string p.channel, fun q => { q with channel := p.channel }),
      (.string p.message, fun q => { q with message := p.message }),
      (.object p.props, fun q => { q with props := p.props }),
      (.integer p.createAt, fun q => { q with createAt := p.createAt }),
      (Json.strings p.attachments, fun q => { q with attachments := p.attachments }),
      (.array (p.replies.map json), fun q => { q with replies := p.replies }),
      (.boolean p.isDirect, fun q => { q with isDirect := p.isDirect }),
      (Json.strings p.channelMembers, fun q => { q with channelMembers := p.channelMembers })]

theorem nodup_cells (reply : Decoder Post) (p : Post) :
    ((cells reply p).map fun cell => cell.field.name).Nodup := by
  change ["user", "channel", "message", "props", "create_at", "attachments", "replies",
    "is_direct", "channel_members"].Nodup
  decide

theorem json_eq (reply : Decoder Post) (p : Post) :
    p.json = .object (Record.membersOf (cells reply p)) := by
  obtain ⟨user, channel, message, props, createAt, attachments, replies, isDirect, members⟩ := p
  rw [json, repliesJson_eq_map]
  rfl

/-- **A post is read as itself**, by a reader of replies that go as deep. -/
theorem decoderWithin_tree {level : Nat} {p : Post} (h : p.Readable level) :
    ∀ bound, level ≤ bound → decoderWithin bound level (tree p.json) = .ok p := by
  induction h with
  | @mk level p hprops hleast hgreatest _ ih =>
    intro bound hbound
    obtain ⟨bound, rfl⟩ : ∃ b, bound = b + 1 := ⟨bound - 1, by omega⟩
    -- the bound goes down by one where the levels go down by two
    have hreplies : Decoder.list (decoderWithin bound) (level + 1)
        (tree (.array (p.replies.map json))) = .ok p.replies :=
      Decoder.list_tree fun reply hmem => ih reply hmem bound (by omega)
    rw [decoderWithin, json_eq (decoderWithin bound) p]
    refine (Record.decode_of_cells rfl (nodup_cells _ p) ?_).trans ?_
    · simp only [cells, record, List.zipWith_cons_cons, List.zipWith_nil_left,
        List.forall_mem_cons]
      exact ⟨Json.Field.read_of rfl, Json.Field.read_of rfl, Json.Field.read_of rfl,
        Json.Field.read_of (Decoder.members_tree hprops),
        Json.Field.read_of (Decoder.signed_tree hleast hgreatest),
        Json.Field.read_of Decoder.strings_tree, Json.Field.read_of hreplies,
        Json.Field.read_of rfl, Json.Field.read_of Decoder.strings_tree,
        fun _ hmem => nomatch hmem⟩
    · cases p
      rfl

/-- **A post is read back from its text.** -/
theorem readString_text {p : Post} (h : p.Readable Json.deepestNesting) :
    Json.readString decoder p.json.text = .ok p := by
  rw [Json.readString_text]
  exact decoderWithin_tree h _ (Nat.le_refl _)

/-! ## What reading tells -/

/-- What is read of the text of a post has its time, and of its replies what is read of
their list; and its properties were read as well. -/
theorem fields_of_decode {reply : Decoder Post} {level : Nat} {p q : Post}
    (h : (record reply).decode level (tree p.json) = .ok q) :
    ∃ inner, level = inner + 1 ∧ q.createAt = p.createAt ∧
      Decoder.list reply inner (tree (.array (p.replies.map json))) = .ok q.replies ∧
      Decoder.members inner (tree (.object p.props)) = .ok q.props := by
  rw [json_eq reply p] at h
  obtain ⟨inner, changes, hlevel, hchanges, rfl⟩ :=
    Record.exists_of_decode_cells rfl (nodup_cells reply p) h
  -- one field after the other
  obtain _ | ⟨huser, _ | ⟨hchannel, _ | ⟨hmessage, _ | ⟨hprops, _ | ⟨htime, _ | ⟨hpaths,
    _ | ⟨hreplies, _ | ⟨hdirect, _ | ⟨hmembers, _ | _⟩⟩⟩⟩⟩⟩⟩⟩⟩ := hchanges
  obtain ⟨_, -, rfl⟩ := Json.Field.exists_of_read_of huser
  obtain ⟨_, -, rfl⟩ := Json.Field.exists_of_read_of hchannel
  obtain ⟨_, -, rfl⟩ := Json.Field.exists_of_read_of hmessage
  obtain ⟨props, hobject, rfl⟩ := Json.Field.exists_of_read_of hprops
  obtain ⟨time, hsigned, rfl⟩ := Json.Field.exists_of_read_of htime
  obtain ⟨_, -, rfl⟩ := Json.Field.exists_of_read_of hpaths
  obtain ⟨replies, hlist, rfl⟩ := Json.Field.exists_of_read_of hreplies
  obtain ⟨_, -, rfl⟩ := Json.Field.exists_of_read_of hdirect
  obtain ⟨_, -, rfl⟩ := Json.Field.exists_of_read_of hmembers
  exact ⟨inner, hlevel, Decoder.eq_of_signed_tree hsigned, hlist, hobject⟩

theorem exists_decoderWithin (bound : Nat) :
    ∃ reply, decoderWithin bound = (record reply).decode := by
  cases bound with
  | zero => exact ⟨_, rfl⟩
  | succ bound => exact ⟨_, rfl⟩

/-- **A text of a post that reads has the times of the post**, those of its replies
included, whatever goes with it. -/
theorem createAt_of_readString {p q : Post}
    (h : Json.readString decoder p.json.text = .ok q) :
    q.createAt = p.createAt ∧ q.replies.map createAt = p.replies.map createAt := by
  rw [Json.readString_text] at h
  obtain ⟨inner, -, htime, hreplies, -⟩ := fields_of_decode h
  refine ⟨htime, (Decoder.map_eq_of_list_tree (fun level reply q hread => ?_) hreplies).symm⟩
  obtain ⟨reply', heq⟩ := exists_decoderWithin 126
  rw [heq] at hread
  obtain ⟨-, -, htime, -⟩ := fields_of_decode hread
  exact htime.symm

/-- **The properties of replies leave three levels** in a text of a post that reads. -/
theorem depth_of_readString {p q : Post} (h : Json.readString decoder p.json.text = .ok q) :
    ∀ reply ∈ p.replies, (Json.object reply.props).depth + 3 ≤ Json.deepestNesting := by
  rw [Json.readString_text] at h
  obtain ⟨inner, hinner, -, hreplies, -⟩ := fields_of_decode h
  intro reply hmem
  obtain ⟨further, read, hfurther, hread⟩ := Decoder.exists_of_list_tree hreplies hmem
  obtain ⟨reply', heq⟩ := exists_decoderWithin 126
  rw [heq] at hread
  obtain ⟨innermost, hinnermost, -, -, hprops⟩ := fields_of_decode hread
  have hdepth := Decoder.depth_le_of_members hprops
  omega

end Post

end Mattermost

end ChatImport
