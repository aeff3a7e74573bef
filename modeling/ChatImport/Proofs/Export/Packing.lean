import ChatImport.Proofs.Export.Holding
import Mathlib.Data.List.Sort
/-!
# What an archive of files exports

An archive packs a tree if it gives each file of the tree under the names that
lead to it (`Archive.Packs`). Its names come in one order, and each name is met for
what it is: the list of users, a list of channels, a day of a channel, a file of an
upload, or nothing of the export. One name changes what has been gathered as its
part of the layout says (`Export.Takes`), and so do all names one after the
other (`Export.Gathers`).

In the order of all names the days of one channel come as they do in its
directory, and so do the files of one upload. So the reader of archives gives the
export that the packed tree tells (`Export.ends_readArchive`).
-/

namespace ChatImport

/-! ## Packed trees -/

namespace Archive

/-- The content under a name, if it can be had without a fault. -/
def unpacked? (archive : Archive) (file : ByteArray) (name : String) : Option ByteArray := do
  let entry ← archive.entries.find? name
  let start ← entry.open? file
  match entry.content file start with
  | (content, none) => some content
  | (_, some _) => none

/-- The archive that a file holds gives the files of a tree, and no others. It may have names that
end in a slash besides, as those of directories do. -/
structure Packs (archive : Archive) (file : ByteArray) (tree : Node) : Prop where
  /-- The file holds the archive. -/
  read : read? file = some archive
  /-- The names are those of the files. -/
  named : ∀ name ∈ archive.names, name.toList.getLast? ≠ some '/' →
    ∃ leaf ∈ tree.leaves, name = "/".intercalate leaf.1
  /-- The files have their contents. -/
  given : ∀ leaf ∈ tree.leaves, archive.unpacked? file ("/".intercalate leaf.1) = some leaf.2

namespace Packs

variable {archive : Archive} {file content : ByteArray} {entries : List (String × Node)}
variable {name : String} {names : List String}

/-- Files have names in the archive. -/
theorem intercalate_mem_names {tree : Node} (h : archive.Packs file tree)
    (hleaf : (names, content) ∈ tree.leaves) : "/".intercalate names ∈ archive.names := by
  have hgiven := h.given _ hleaf
  rw [Archive.names, Table.mem_keys_iff, Table.contains_iff]
  cases hfind : archive.entries.find? ("/".intercalate names) with
  | none => simp [unpacked?, hfind] at hgiven
  | some entry => exact ⟨entry, rfl⟩

/-- A name with something behind its last slash is that of a file. -/
theorem exists_leaf (h : archive.Packs file (.directory entries))
    (horderly : (Node.directory entries).Orderly) (hname : name ∈ archive.names)
    (hlast : (Path.parts name).getLast? ≠ some "") :
    ∃ content, (Path.parts name, content) ∈ (Node.directory entries).leaves := by
  obtain ⟨⟨names, content⟩, hleaf, rfl⟩ :=
    h.named name hname fun hslash => hlast (Path.getLast?_parts hslash)
  have hne : names ≠ [] := by
    rintro rfl
    cases Node.nil_mem_leaves.1 hleaf
  rw [Path.parts_intercalate hne fun part hpart =>
    (horderly.proper_of_mem_leaves hleaf part hpart).oneStep]
  exact ⟨content, hleaf⟩

end Packs

end Archive

namespace Export

open Running

variable {archive : Archive} {file content : ByteArray} {name channel id : String}
variable {names more : List String} {g g' g'' : Gathered}

/-! ## Single entries -/

/-- What a decoder makes of an entry, if it can be read. -/
def valueAt? {α : Type} (decoder : Json.Decoder α) (archive : Archive) (file : ByteArray)
    (name : String) : Option α := do
  let content ← archive.unpacked? file name
  let text ← String.fromUTF8? content
  (Json.readString decoder text).toOption

theorem ends_entryValue {α : Type} {decoder : Json.Decoder α} :
    Ends (fun value => valueAt? decoder archive file name = some value)
      (valueAt? decoder archive file name = none) (entryValue decoder archive file name) := by
  unfold entryValue
  split
  · next hfind => exact ends_throw (by simp [valueAt?, Archive.unpacked?, hfind])
  next entry hfind =>
  split
  · next hopen => exact ends_throw (by simp [valueAt?, Archive.unpacked?, hfind, hopen])
  next start hopen =>
  split
  · next fault hcontent =>
    exact ends_throw (by simp [valueAt?, Archive.unpacked?, hfind, hopen, hcontent])
  next content hcontent =>
  split
  · next htext =>
    exact ends_throw (by simp [valueAt?, Archive.unpacked?, hfind, hopen, hcontent, htext])
  · next text htext =>
    have hvalue : valueAt? decoder archive file name =
        (Json.read decoder (Symbol.ofString text)).toOption := by
      simp [valueAt?, Archive.unpacked?, hfind, hopen, hcontent, htext, Json.readString]
    rw [hvalue]
    exact ends_decoded

/-- Text is read from an archive as it is from a file. -/
theorem valueAt?_eq {α : Type} {decoder : Json.Decoder α}
    (hgiven : archive.unpacked? file name = some content)
    (htext : (String.fromUTF8? content).isSome) :
    valueAt? decoder archive file name = told? decoder content := by
  obtain ⟨text, htext⟩ := Option.isSome_iff_exists.1 htext
  simp only [valueAt?, hgiven, htext, Option.bind_eq_bind, Option.bind_some, told?,
    Symbol.ofOctets, Json.readString]

/-! ## What names stand for -/

/-- The channel of which a name is a day. -/
def dayOf? (name : String) : Option String :=
  match Path.parts name with
  | [channel, day] =>
    if channel ≠ uploadsName ∧ ".json".toList.isSuffixOf day.toList then some channel else none
  | _ => none

/-- A name has the ending of data and is not that ending. -/
theorem typeEnding?_json {day : String} :
    Path.typeEnding? day = some "json" ↔ ".json".toList <:+ day.toList ∧ day ≠ ".json" := by
  rw [Path.typeEnding?_eq_some (by decide), ← String.toList_inj.ne]
  rfl

/-- Uploads are no channel. -/
theorem ne_of_dayOf? (h : dayOf? name = some channel) : channel ≠ uploadsName := by
  unfold dayOf? at h
  split at h
  · simp only [Option.ite_none_right_eq_some, Option.some.injEq] at h
    exact h.2 ▸ h.1.1
  · cases h

/-- The identifier of the upload of which a name is a file. -/
def uploadIn? (name : String) : Option String :=
  match Path.parts name with
  | [top, id, upload] => if top = uploadsName ∧ id ≠ "" ∧ upload ≠ "" then some id else none
  | _ => none

/-- A name without a slash is the part of the path it makes. -/
theorem eq_of_parts {single : String} (h : Path.parts name = [single]) : name = single := by
  rw [← Path.intercalate_parts name, h, String.intercalate_singleton]

/-- The names of lists are as different as the kinds of their channels. -/
theorem channelLists_injective :
    ∀ list ∈ channelLists, ∀ other ∈ channelLists, list.1 = other.1 ↔ list.2 = other.2 := by
  decide

/-- The name lists neither users nor channels. -/
def Unlisted (name : String) : Prop := name ≠ usersName ∧ ∀ list ∈ channelLists, name ≠ list.1

/-- A name with a slash lists nothing. -/
theorem unlisted_of_parts (h : ∀ single, Path.parts name ≠ [single]) : Unlisted name := by
  have hne : ∀ other, Path.Proper other → name ≠ other := by
    rintro other hother rfl
    exact h name (Path.parts_of_notMem hother.oneStep)
  exact ⟨hne _ proper_usersName, fun list hmem => hne _ (proper_of_mem_channelLists list hmem)⟩

/-! ## What one name changes -/

/-- What one name changes in what has been gathered. -/
structure Takes (archive : Archive) (file : ByteArray) (name : String) (g g' : Gathered) :
    Prop where
  users : g'.users =
    if name = usersName then valueAt? usersDecoder archive file name else g.users
  channels : ∀ list ∈ channelLists, some (g'.rest.channelsOf list.2) =
    if name = list.1 then (valueAt? channelsDecoder archive file name).map (ofKind list.2)
    else some (g.rest.channelsOf list.2)
  messages : ∀ channel, some ((g'.rest.messages.find? channel).getD []) =
    if dayOf? name = some channel then (valueAt? messagesDecoder archive file name).map
      ((g.rest.messages.find? channel).getD [] ++ ·)
    else some ((g.rest.messages.find? channel).getD [])
  uploads : ∀ id, g'.uploads.find? id =
    if uploadIn? name = some id then (g.uploads.find? id).or (some name) else g.uploads.find? id

/-- An entry that belongs to the export cannot be read. -/
inductive Unreadable (archive : Archive) (file : ByteArray) (name : String) : Prop where
  /-- The list of users cannot be read. -/
  | users (hname : name = usersName) (h : valueAt? usersDecoder archive file name = none)
  /-- A list of channels cannot be read. -/
  | channels {list : String × ChannelKind} (hmem : list ∈ channelLists) (hname : name = list.1)
    (h : valueAt? channelsDecoder archive file name = none)
  /-- A day of a channel cannot be read. -/
  | messages {channel : String} (hday : dayOf? name = some channel)
    (h : valueAt? messagesDecoder archive file name = none)

/-- What is nothing of the export changes nothing. -/
theorem takes_self (hlists : Unlisted name) (hday : dayOf? name = none)
    (hupload : ∀ id, uploadIn? name = some id → (g.uploads.find? id).isSome) :
    Takes archive file name g g where
  users := by rw [if_neg hlists.1]
  channels list hmem := by rw [if_neg (hlists.2 list hmem)]
  messages channel := by rw [if_neg (by simp [hday])]
  uploads id := by
    split
    · next hid => rw [Option.or_of_isSome (hupload id hid)]
    · rfl

theorem takes_users {users : List Slack.User}
    (hvalue : valueAt? usersDecoder archive file usersName = some users) :
    Takes archive file usersName g { g with users := some users } where
  users := by rw [if_pos rfl, hvalue]
  channels := by
    have hlists : ∀ list ∈ channelLists, usersName ≠ list.1 := by decide
    exact fun list hmem => by rw [if_neg (hlists list hmem)]
  messages channel := rfl
  uploads id := rfl

theorem takes_channels {list : String × ChannelKind} {channels : List Slack.Channel}
    (hmem : list ∈ channelLists)
    (hvalue : valueAt? channelsDecoder archive file list.1 = some channels) :
    Takes archive file list.1 g { g with rest := g.rest.withChannels list.2 channels } where
  users := by
    have husers : ∀ list ∈ channelLists, list.1 ≠ usersName := by decide
    rw [if_neg (husers list hmem)]
  channels other hother := by
    rw [channelsOf_withChannels, hvalue]
    simp only [channelLists_injective list hmem other hother]
    split
    · next hkind => rw [hkind, Option.map_some]
    · rfl
  messages channel := by
    have hparts := Path.parts_of_notMem (proper_of_mem_channelLists list hmem).oneStep
    rw [messages_withChannels, dayOf?, hparts]
    rfl
  uploads id := by
    have hparts := Path.parts_of_notMem (proper_of_mem_channelLists list hmem).oneStep
    rw [uploadIn?, hparts]
    rfl

theorem takes_messages {messages : List Slack.Message} (hlists : Unlisted name)
    (hday : dayOf? name = some channel) (hupload : uploadIn? name = none)
    (hvalue : valueAt? messagesDecoder archive file name = some messages) :
    Takes archive file name g { g with rest := g.rest.withMessages channel messages } where
  users := by rw [if_neg hlists.1]
  channels list hmem := by rw [if_neg (hlists.2 list hmem), channelsOf_withMessages]
  messages other := by
    rw [find?_withMessages, hvalue, hday]
    by_cases hother : channel = other
    · subst hother
      simp
    · simp [hother]
  uploads id := by rw [if_neg (by simp [hupload])]

theorem takes_upload (hlists : Unlisted name) (hday : dayOf? name = none)
    (hupload : uploadIn? name = some id) (hfirst : g.uploads.find? id = none) :
    Takes archive file name g { g with uploads := g.uploads.insert id name } where
  users := by rw [if_neg hlists.1]
  channels list hmem := by rw [if_neg (hlists.2 list hmem)]
  messages channel := by rw [if_neg (by simp [hday])]
  uploads other := by
    rw [Table.find?_insert, hupload]
    by_cases hother : id = other
    · subst hother
      simp [hfirst]
    · simp [hother]

/-- **One name changes what its part of the layout says**, unless it cannot be read. -/
theorem ends_gather :
    Ends (Takes archive file name g) (Unreadable archive file name)
      (gather archive file g name) := by
  unfold gather
  split
  · next single hsplit =>
    have hparts : Path.parts name = [single] := hsplit
    obtain rfl := eq_of_parts hparts
    split
    · next husers =>
      refine (ends_entryValue.imp (fun _ => id) (.users husers)).bind
        fun users hvalue => ends_pure ?_
      subst husers
      exact takes_users hvalue
    next husers =>
    split
    · next hnone =>
      refine ends_pure (takes_self ⟨husers, fun list hmem hname => ?_⟩ ?_ ?_)
      · exact List.find?_eq_none.1 hnone list hmem (beq_iff_eq.2 hname.symm)
      · rw [dayOf?, hparts]
      · simp [uploadIn?, hparts]
    · next list hfound =>
      have hmem := List.mem_of_find?_eq_some hfound
      obtain rfl : list.1 = name := by simpa using List.find?_some hfound
      exact (ends_entryValue.imp (fun _ => id) (.channels hmem rfl)).bind
        fun channels hvalue => ends_pure (takes_channels hmem hvalue)
  · next channel day hsplit =>
    have hparts : Path.parts name = [channel, day] := hsplit
    have hlists : Unlisted name := unlisted_of_parts (by simp [hparts])
    have hupload : uploadIn? name = none := by rw [uploadIn?, hparts]
    split
    · next hlayout =>
      have hday : dayOf? name = some channel := by simp only [dayOf?, hparts, if_pos hlayout]
      exact (ends_entryValue.imp (fun _ => id) (.messages hday)).bind
        fun messages hvalue => ends_pure (takes_messages hlists hday hupload hvalue)
    · next hlayout =>
      have hday : dayOf? name = none := by simp only [dayOf?, hparts, if_neg hlayout]
      exact ends_pure (takes_self hlists hday (by simp [hupload]))
  · next top id upload hsplit =>
    have hparts : Path.parts name = [top, id, upload] := hsplit
    have hlists : Unlisted name := unlisted_of_parts (by simp [hparts])
    have hday : dayOf? name = none := by rw [dayOf?, hparts]
    split
    · next hlayout =>
      obtain ⟨htop, hid, hname, hfirst⟩ := hlayout
      have hupload : uploadIn? name = some id := by
        rw [uploadIn?, hparts]
        exact if_pos ⟨htop, hid, hname⟩
      exact ends_pure (takes_upload hlists hday hupload (by simpa [Table.contains] using hfirst))
    · next hlayout =>
      -- a name that would be a file of an upload comes after the first one
      refine ends_pure (takes_self hlists hday fun other hother => ?_)
      simp only [uploadIn?, hparts, Option.ite_none_right_eq_some, Option.some.injEq] at hother
      obtain ⟨⟨htop, hid, hname⟩, rfl⟩ := hother
      cases hfind : g.uploads.find? id with
      | none => exact absurd ⟨htop, hid, hname, by simp [Table.contains, hfind]⟩ hlayout
      | some first => rfl
  · next hone htwo hthree =>
    refine ends_pure (takes_self (unlisted_of_parts hone) ?_ fun id hid => ?_)
    · unfold dayOf?
      split
      · next channel day hparts => exact absurd hparts (htwo channel day)
      · rfl
    · unfold uploadIn? at hid
      split at hid
      · next top id upload hparts => exact absurd hparts (hthree top id upload)
      · cases hid

/-! ## What all names change -/

/-- What names change one after the other: lists are put in place, the days of a channel stand one
behind the other, and the first name counts for an upload. -/
structure Gathers (archive : Archive) (file : ByteArray) (names : List String) (g g' : Gathered) :
    Prop where
  users : g'.users =
    if usersName ∈ names then valueAt? usersDecoder archive file usersName else g.users
  channels : ∀ list ∈ channelLists, some (g'.rest.channelsOf list.2) =
    if list.1 ∈ names then (valueAt? channelsDecoder archive file list.1).map (ofKind list.2)
    else some (g.rest.channelsOf list.2)
  messages : ∀ channel, some ((g'.rest.messages.find? channel).getD []) =
    (collected? (valueAt? messagesDecoder archive file)
      (names.filter fun name => dayOf? name == some channel)).map
        ((g.rest.messages.find? channel).getD [] ++ ·)
  uploads : ∀ id, g'.uploads.find? id =
    (g.uploads.find? id).or (names.find? fun name => uploadIn? name == some id)

/-- One name more in front. -/
theorem Takes.gathers (h : Takes archive file name g g')
    (hrest : Gathers archive file names g' g'') :
    Gathers archive file (name :: names) g g'' where
  users := by
    rw [hrest.users, h.users]
    by_cases hname : name = usersName
    · subst hname
      simp
    · simp [hname, Ne.symm hname]
  channels list hmem := by
    rw [hrest.channels list hmem, h.channels list hmem]
    by_cases hname : name = list.1
    · subst hname
      simp
    · simp [hname, Ne.symm hname]
  messages channel := by
    -- what a day of the channel says stands behind what was there and before the days that follow
    have hfirst := h.messages channel
    rw [hrest.messages channel]
    by_cases hday : dayOf? name = some channel
    · rw [if_pos hday] at hfirst
      obtain ⟨messages, hvalue, hafter⟩ := Option.map_eq_some_iff.1 hfirst.symm
      rw [List.filter_cons, if_pos (beq_iff_eq.2 hday), collected?, hvalue, ← hafter]
      simp [Function.comp_def]
    · rw [if_neg hday] at hfirst
      rw [List.filter_cons, if_neg (by simpa using hday), Option.some.inj hfirst]
  uploads id := by
    rw [hrest.uploads id, h.uploads id]
    by_cases hupload : uploadIn? name = some id
    · simp [hupload]
    · simp [hupload]

/-- **All names change what each of them changes**, one after the other. -/
theorem ends_gatherAll :
    Ends (Gathers archive file names g) (∃ name ∈ names, Unreadable archive file name)
      (gatherAll archive file names g) := by
  induction names generalizing g with
  | nil => exact ends_pure ⟨rfl, fun _ _ => rfl, fun _ => by simp [collected?], fun _ => by simp⟩
  | cons name rest ih =>
    unfold gatherAll
    refine (ends_gather.imp (fun _ => id) fun h => ⟨name, List.mem_cons_self, h⟩).bind
      fun g' htakes => ?_
    exact ih.imp (fun g'' hgathers => htakes.gathers hgathers)
      (Exists.imp fun other h => ⟨List.mem_cons_of_mem _ h.1, h.2⟩)

/-! ## Names in order -/

variable {entries : List (String × Node)}

/-- Names that go on alike behind a common front stand in the order of what goes on. -/
theorem append_lt_append {front a b : String} (h : a < b) : front ++ a < front ++ b := by
  change (front ++ a).toList < (front ++ b).toList
  rw [String.toList_append, String.toList_append]
  exact List.append_left_lt h

theorem pairwise_names : archive.names.Pairwise (· < ·) := archive.entries.pairwise_keys

theorem pairwise_fileNames (horderly : (Node.directory entries).Orderly) :
    (fileNames entries).Pairwise (· < ·) :=
  List.pairwise_map.2 (horderly.pairwise.filter _)

theorem pairwise_days (horderly : (Node.directory entries).Orderly) :
    (days entries).Pairwise fun a b => a.1 < b.1 := by
  rw [← List.pairwise_map (f := fun day : String × ByteArray => day.1) (R := (· < ·)),
    ← filter_fileNames]
  exact (pairwise_fileNames horderly).filter _

/-- What stands in a directory of an orderly tree is orderly. -/
theorem orderly_directoryAt (horderly : (Node.directory entries).Orderly) :
    (Node.directory (directoryAt entries name)).Orderly := by
  unfold directoryAt
  split
  · next inner hchild => exact horderly.child (horderly.child?_eq_some.1 hchild)
  · exact ⟨List.Pairwise.nil, trivial⟩

/-- The files below a directory are those that its directories hold. -/
theorem mem_leaves_cons (horderly : (Node.directory entries).Orderly) {next : String} :
    (name :: next :: names, content) ∈ (Node.directory entries).leaves ↔
      (next :: names, content) ∈ (Node.directory (directoryAt entries name)).leaves := by
  rw [Node.cons_mem_leaves]
  constructor
  · rintro ⟨node, hmem, hleaf⟩
    cases node with
    | file other => simp [Node.leaves] at hleaf
    | directory inner => rwa [directoryAt, horderly.child?_eq_some.2 hmem]
  · intro hleaf
    unfold directoryAt at hleaf
    split at hleaf
    · next inner hchild => exact ⟨_, horderly.child?_eq_some.1 hchild, hleaf⟩
    · obtain ⟨_, hnone, -⟩ := Node.cons_mem_leaves.1 hleaf
      cases hnone

theorem mem_leaves_singleton :
    ([name], content) ∈ (Node.directory entries).leaves ↔ (name, .file content) ∈ entries := by
  rw [Node.cons_mem_leaves]
  constructor
  · rintro ⟨node, hmem, hleaf⟩
    rwa [← Node.nil_mem_leaves.1 hleaf]
  · exact fun hmem => ⟨_, hmem, Node.nil_mem_leaves.2 rfl⟩

section

variable (hpacks : archive.Packs file (.directory entries))
variable (horderly : (Node.directory entries).Orderly)
include hpacks horderly

/-- A name is a day of a channel if the directory of the channel holds the day. -/
theorem mem_names_day
    (hpoint : ∀ content, ([channel, ".json"], content) ∉ (Node.directory entries).leaves)
    (hchannel : channel ≠ uploadsName) :
    name ∈ archive.names ∧ dayOf? name = some channel ↔
      ∃ day ∈ days (directoryAt entries channel), "/".intercalate [channel, day.1] = name := by
  constructor
  · rintro ⟨hname, hday⟩
    unfold dayOf? at hday
    split at hday
    · next top day hparts =>
      simp only [Option.ite_none_right_eq_some, Option.some.injEq] at hday
      obtain ⟨⟨-, hsuffix⟩, rfl⟩ := hday
      -- a name that ends as data does is not that of a directory, so a file has it
      have hlast : (Path.parts name).getLast? ≠ some "" := by
        rw [hparts]
        intro hempty
        obtain rfl : day = "" := by simpa using hempty
        exact absurd hsuffix (by decide)
      obtain ⟨content, hleaf⟩ := hpacks.exists_leaf horderly hname hlast
      rw [hparts] at hleaf
      refine ⟨(day, content), mem_days.2 ⟨?_, typeEnding?_json.2 ⟨?_, ?_⟩⟩, ?_⟩
      · exact mem_leaves_singleton.1 ((mem_leaves_cons horderly).1 hleaf)
      · exact List.isSuffixOf_iff_suffix.1 hsuffix
      · rintro rfl
        exact hpoint content hleaf
      · rw [← hparts, Path.intercalate_parts]
    · cases hday
  · rintro ⟨⟨day, content⟩, hmem, rfl⟩
    obtain ⟨hday, hending⟩ := mem_days.1 hmem
    have hleaf : ([channel, day], content) ∈ (Node.directory entries).leaves :=
      (mem_leaves_cons horderly).2 (mem_leaves_singleton.2 hday)
    refine ⟨hpacks.intercalate_mem_names hleaf, ?_⟩
    rw [dayOf?, Path.parts_intercalate (List.cons_ne_nil _ _) fun part hpart =>
      (horderly.proper_of_mem_leaves hleaf part hpart).oneStep]
    exact if_pos ⟨hchannel, List.isSuffixOf_iff_suffix.2 (typeEnding?_json.1 hending).1⟩

/-- A name is a file of an upload if the directory of the upload holds the file. -/
theorem mem_names_upload :
    name ∈ archive.names ∧ uploadIn? name = some id ↔
      ∃ upload ∈ fileNames (directoryAt (directoryAt entries uploadsName) id),
        "/".intercalate [uploadsName, id, upload] = name := by
  constructor
  · rintro ⟨hname, hin⟩
    unfold uploadIn? at hin
    split at hin
    · next top inside upload hparts =>
      simp only [Option.ite_none_right_eq_some, Option.some.injEq] at hin
      obtain ⟨⟨rfl, -, hupload⟩, rfl⟩ := hin
      have hlast : (Path.parts name).getLast? ≠ some "" := by
        rw [hparts]
        simpa using hupload
      obtain ⟨content, hleaf⟩ := hpacks.exists_leaf horderly hname hlast
      rw [hparts, mem_leaves_cons horderly, mem_leaves_cons (orderly_directoryAt horderly),
        mem_leaves_singleton] at hleaf
      exact ⟨upload, mem_fileNames.2 ⟨content, hleaf⟩, by rw [← hparts, Path.intercalate_parts]⟩
    · cases hin
  · rintro ⟨upload, hmem, rfl⟩
    obtain ⟨content, hfile⟩ := mem_fileNames.1 hmem
    have hleaf : ([uploadsName, id, upload], content) ∈ (Node.directory entries).leaves := by
      rwa [mem_leaves_cons horderly, mem_leaves_cons (orderly_directoryAt horderly),
        mem_leaves_singleton]
    have hproper := horderly.proper_of_mem_leaves hleaf
    refine ⟨hpacks.intercalate_mem_names hleaf, ?_⟩
    rw [uploadIn?, Path.parts_intercalate (List.cons_ne_nil _ _) fun part hpart =>
      (hproper part hpart).oneStep]
    exact if_pos ⟨rfl, (hproper id (by simp)).nonempty, (hproper upload (by simp)).nonempty⟩

/-- **In the order of all names the days of a channel come as they do in its directory.** -/
theorem filter_days
    (hpoint : ∀ content, ([channel, ".json"], content) ∉ (Node.directory entries).leaves)
    (hchannel : channel ≠ uploadsName) :
    (archive.names.filter fun name => dayOf? name == some channel) =
      (days (directoryAt entries channel)).map fun day => "/".intercalate [channel, day.1] := by
  refine (pairwise_names.filter _).eq_of_mem_iff (List.pairwise_map.2 ?_) fun name => ?_
  · refine (pairwise_days (orderly_directoryAt horderly)).imp fun hlt => ?_
    rw [String.intercalate_cons_cons, String.intercalate_cons_cons]
    simpa only [String.intercalate_singleton] using append_lt_append hlt
  · rw [List.mem_filter, beq_iff_eq, mem_names_day hpacks horderly hpoint hchannel, List.mem_map]

/-- **In the order of all names the first file of an upload is the first of its directory.** -/
theorem find?_upload :
    (archive.names.find? fun name => uploadIn? name == some id) = uploadOf? entries id := by
  have hfilter : (archive.names.filter fun name => uploadIn? name == some id) =
      (fileNames (directoryAt (directoryAt entries uploadsName) id)).map fun upload =>
        "/".intercalate [uploadsName, id, upload] := by
    refine (pairwise_names.filter _).eq_of_mem_iff (List.pairwise_map.2 ?_) fun name => ?_
    · refine (pairwise_fileNames (orderly_directoryAt (orderly_directoryAt horderly))).imp
        fun hlt => ?_
      simp only [String.intercalate_cons_cons, String.intercalate_singleton]
      exact append_lt_append (append_lt_append hlt)
    · rw [List.mem_filter, beq_iff_eq, mem_names_upload hpacks horderly, List.mem_map]
  rw [← List.head?_filter, hfilter, List.head?_map, uploadOf?]

end

/-! ## Whole archives -/

/-- Do the names lead to a file with data? -/
def leadToData (names : List String) : Bool :=
  names.getLast?.any fun name => ".json".toList.isSuffixOf name.toList

/-- A tree of which an export can be made: its directories are orderly, its data are texts, and no
day of a channel is called by its ending alone. -/
structure Tidy (tree : Node) : Prop where
  /-- Directories hold proper names, each once and in order. -/
  orderly : tree.Orderly
  /-- The files with data are texts. -/
  text : ∀ leaf ∈ tree.leaves, leadToData leaf.1 → (String.fromUTF8? leaf.2).isSome
  /-- A day has a name before its ending. -/
  named : ∀ leaf ∈ tree.leaves, ∀ channel, leaf.1 = [channel, ".json"] → channel = uploadsName

theorem data_of_mem_channelLists : ∀ list ∈ channelLists, leadToData [list.1] := by decide

section

variable (hpacks : archive.Packs file (.directory entries)) (htidy : Tidy (.directory entries))
include hpacks htidy

/-- Data is read from the archive as it is from the files. -/
theorem valueAt?_of_leaf {α : Type} (decoder : Json.Decoder α)
    (hleaf : (names, content) ∈ (Node.directory entries).leaves) (hdata : leadToData names) :
    valueAt? decoder archive file ("/".intercalate names) = told? decoder content :=
  valueAt?_eq (hpacks.given _ hleaf) (htidy.text _ hleaf hdata)

/-- A list is in the archive if it is among the files, and it says the same. -/
theorem valueAt?_list {α : Type} (decoder : Json.Decoder α) (hname : Path.Proper name)
    (hdata : leadToData [name]) :
    (if name ∈ archive.names then some (valueAt? decoder archive file name) else none) =
      (fileAt? entries name).map (told? decoder) := by
  cases hfile : fileAt? entries name with
  | some content =>
    have hleaf := mem_leaves_singleton.2
      (htidy.orderly.child?_eq_some.1 (fileAt?_eq_some.1 hfile))
    have hmem := hpacks.intercalate_mem_names hleaf
    have hvalue := valueAt?_of_leaf hpacks htidy decoder hleaf hdata
    rw [String.intercalate_singleton] at hmem hvalue
    rw [if_pos hmem, hvalue, Option.map_some]
  | none =>
    -- a name without a slash could only be that of a file at the top
    refine if_neg fun hmem => ?_
    have hparts := Path.parts_of_notMem hname.oneStep
    obtain ⟨content, hleaf⟩ := hpacks.exists_leaf htidy.orderly hmem
      (by simpa [hparts] using hname.nonempty)
    rw [hparts, mem_leaves_singleton, ← htidy.orderly.child?_eq_some, ← fileAt?_eq_some,
      hfile] at hleaf
    cases hleaf

/-- The days of a channel say in the archive what they say in its directory. -/
theorem collected?_days :
    collected? (valueAt? messagesDecoder archive file)
      (archive.names.filter fun name => dayOf? name == some channel) =
        messagesOf? entries channel := by
  unfold messagesOf?
  split
  · next huploads =>
    have hnone : (archive.names.filter fun name => dayOf? name == some channel) = [] :=
      List.filter_eq_nil_iff.2 fun name _ hday => ne_of_dayOf? (beq_iff_eq.1 hday) huploads
    rw [hnone]
    rfl
  · next hchannel =>
    rw [filter_days hpacks htidy.orderly
      (fun content hleaf => hchannel (htidy.named _ hleaf channel rfl)) hchannel, collected?_map]
    refine collected?_congr fun day hday => ?_
    obtain ⟨hmem, hending⟩ := mem_days.1 hday
    refine valueAt?_of_leaf hpacks htidy messagesDecoder
      ((mem_leaves_cons htidy.orderly).2 (mem_leaves_singleton.2 hmem)) ?_
    exact List.isSuffixOf_iff_suffix.2 (typeEnding?_json.1 hending).1

/-- Where an entry cannot be read the tree is spoilt. -/
theorem spoilt_of_unreadable (hmem : name ∈ archive.names)
    (h : Unreadable archive file name) : Spoilt entries := by
  cases h with
  | users hname hnone =>
    subst hname
    have hlist := valueAt?_list hpacks htidy usersDecoder proper_usersName (by decide)
    rw [if_pos hmem, hnone] at hlist
    obtain ⟨content, hfile, htold⟩ := Option.map_eq_some_iff.1 hlist.symm
    exact .users (by rw [usersOf?, hfile, Option.bind_some, htold])
  | channels hchannels hname hnone =>
    subst hname
    have hlist := valueAt?_list hpacks htidy channelsDecoder
      (proper_of_mem_channelLists _ hchannels) (data_of_mem_channelLists _ hchannels)
    rw [if_pos hmem, hnone] at hlist
    obtain ⟨content, hfile, htold⟩ := Option.map_eq_some_iff.1 hlist.symm
    exact .channels hchannels (by rw [listOf?, hfile, Option.elim_some, htold])
  | @messages channel hday hnone =>
    have hfilter : name ∈ archive.names.filter fun name => dayOf? name == some channel :=
      List.mem_filter.2 ⟨hmem, beq_iff_eq.2 hday⟩
    have hdays := collected?_eq_none.2 ⟨name, hfilter, hnone⟩
    rw [collected?_days hpacks htidy] at hdays
    exact .messages hdays

/-- The users that are gathered from all names are those that the files tell. -/
theorem users_of_gathers
    (h : Gathers archive file archive.names ⟨none, empty, Table.empty⟩ g) :
    g.users = usersOf? entries := by
  have hlist := valueAt?_list hpacks htidy usersDecoder proper_usersName (by decide)
  rw [h.users, usersOf?]
  split
  · next hmem =>
    rw [if_pos hmem] at hlist
    obtain ⟨content, hfile, htold⟩ := Option.map_eq_some_iff.1 hlist.symm
    rw [hfile, Option.bind_some, htold]
  · next hmem =>
    rw [if_neg hmem] at hlist
    rw [Option.map_eq_none_iff.1 hlist.symm, Option.bind_none]

/-- The channels that are gathered from all names are those that the files tell. -/
theorem channels_of_gathers {list : String × ChannelKind} (hmem : list ∈ channelLists)
    (h : Gathers archive file archive.names ⟨none, empty, Table.empty⟩ g) :
    (listOf? entries list.1).map (ofKind list.2) = some (g.rest.channelsOf list.2) := by
  have hlist := valueAt?_list hpacks htidy channelsDecoder
    (proper_of_mem_channelLists _ hmem) (data_of_mem_channelLists _ hmem)
  rw [h.channels list hmem, listOf?]
  split
  · next hname =>
    rw [if_pos hname] at hlist
    obtain ⟨content, hfile, htold⟩ := Option.map_eq_some_iff.1 hlist.symm
    rw [hfile, Option.elim_some, htold]
  · next hname =>
    rw [if_neg hname] at hlist
    rw [Option.map_eq_none_iff.1 hlist.symm, Option.elim_none]
    cases list.2 <;> rfl

/-- **What is gathered from all names is what the packed files tell.** -/
theorem told_of_gathers {users : List Slack.User} {path : String}
    (h : Gathers archive file archive.names ⟨none, empty, Table.empty⟩ g)
    (husers : g.users = some users) :
    Told entries (fun name => name)
      { g.rest with users := users, uploads := .inArchive path archive g.uploads } where
  users := (users_of_gathers hpacks htidy h).symm.trans husers
  channels list hmem := (channels_of_gathers hpacks htidy hmem h).trans (by cases list.2 <;> rfl)
  messages channel := by
    have hmessages := h.messages channel
    rw [collected?_days hpacks htidy] at hmessages
    rw [hmessages]
    simp [empty]
  uploads id := by
    rw [Option.map_id', ← find?_upload hpacks htidy.orderly]
    exact (h.uploads id).trans (Option.none_or)

/-- **The reader of archives gives what the packed files tell**, and fails only where they are
spoilt. -/
theorem ends_readArchive {files : Files} {path : String} (hfile : files.content path = .ok file) :
    Ends (Told entries fun name => name) (Spoilt entries) (readArchive files path) := by
  unfold readArchive
  refine ends_note.bind fun _ _ => (ends_orFault hfile).bind fun _ heq => ?_
  subst heq
  simp only [hpacks.read]
  refine (ends_gatherAll.imp (fun _ => id) fun ⟨name, hmem, hunreadable⟩ =>
    spoilt_of_unreadable hpacks htidy hmem hunreadable).bind fun g hgathers => ?_
  cases husers : g.users with
  | none => exact ends_throw (.users ((users_of_gathers hpacks htidy hgathers).symm.trans husers))
  | some users =>
    refine Ends.bind (P := fun _ => True) (fun _ => trivial) fun _ _ => ends_pure ?_
    exact told_of_gathers hpacks htidy hgathers husers

end

end Export

end ChatImport
