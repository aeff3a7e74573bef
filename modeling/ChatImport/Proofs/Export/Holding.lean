import ChatImport.Export.Reading
import ChatImport.Proofs.Files.Resolving
import ChatImport.Proofs.Running
/-!
# What a tree of files exports

What an export says is told by the tree of its files alone: by the users and the
lists of channels that stand in it, by the days of each channel one after the
other, and by the first file of each upload (`Export.Told`). Either all of
these files can be read, or the tree is spoilt (`Export.Spoilt`), and never both.

The reader of directories gives the export that the tree tells, and it fails only
where the tree is spoilt (`Export.ends_readDirectory`).
-/

namespace ChatImport

namespace Export

open Running

/-! ## The lists of an export -/

/-- The channels of a kind. -/
def channelsOf (e : Export) : ChannelKind → List Slack.Channel
  | .openToAll => e.publicChannels
  | .inviteOnly => e.privateChannels
  | .group => e.groupChannels
  | .direct => e.directChannels

section

variable {e : Export} {kind other : ChannelKind} {channels : List Slack.Channel} {name : String}
variable {messages : List Slack.Message}

@[simp] theorem channelsOf_withChannels :
    (e.withChannels kind channels).channelsOf other =
      if kind = other then ofKind kind channels else e.channelsOf other := by
  cases kind <;> cases other <;> rfl

@[simp] theorem users_withChannels : (e.withChannels kind channels).users = e.users := by
  cases kind <;> rfl

@[simp] theorem messages_withChannels :
    (e.withChannels kind channels).messages = e.messages := by
  cases kind <;> rfl

@[simp] theorem channelsOf_withMessages :
    (e.withMessages name messages).channelsOf kind = e.channelsOf kind := by
  cases kind <;> rfl

@[simp] theorem users_withMessages : (e.withMessages name messages).users = e.users := rfl

/-- More messages of a channel stand behind those it has. -/
theorem find?_withMessages {channel : String} :
    (e.withMessages name messages).messages.find? channel =
      if name = channel then some ((e.messages.find? name).getD [] ++ messages)
      else e.messages.find? channel := Table.find?_insert

end

/-! ## What files say -/

/-- What a decoder makes of a file, if it can be read. -/
def told? {α : Type} (decoder : Json.Decoder α) (content : ByteArray) : Option α :=
  (Json.read decoder (Symbol.ofOctets content)).toOption

/-- The file of a name. -/
def fileAt? (entries : List (String × Node)) (name : String) : Option ByteArray :=
  match Node.child? entries name with
  | some (.file content) => some content
  | _ => none

/-- What the directory of a name holds; nothing if there is none. -/
def directoryAt (entries : List (String × Node)) (name : String) : List (String × Node) :=
  match Node.child? entries name with
  | some (.directory inner) => inner
  | _ => []

/-- The files of a channel that hold its days, with their names. -/
def days (entries : List (String × Node)) : List (String × ByteArray) :=
  entries.filterMap fun entry =>
    match entry.2 with
    | .file content =>
      if Path.typeEnding? entry.1 == some "json" then some (entry.1, content) else none
    | .directory _ => none

/-- What is read of several things, one after the other, if all can be read. -/
def collected? {α β : Type} (value? : β → Option (List α)) : List β → Option (List α)
  | [] => some []
  | b :: rest => (value? b).bind fun first => (collected? value? rest).map (first ++ ·)

/-- What the days of a channel say one after the other. -/
def messagesOn? (days : List (String × ByteArray)) : Option (List Slack.Message) :=
  collected? (fun day => told? messagesDecoder day.2) days

section

variable (entries : List (String × Node))

/-- The users. -/
def usersOf? : Option (List Slack.User) := (fileAt? entries usersName).bind (told? usersDecoder)

/-- The channels of a list, none if the list is not there. -/
def listOf? (name : String) : Option (List Slack.Channel) :=
  (fileAt? entries name).elim (some []) (told? channelsDecoder)

/-- The messages of a channel, none if there is no directory of its name. -/
def messagesOf? (channel : String) : Option (List Slack.Message) :=
  if channel = uploadsName then some [] else messagesOn? (days (directoryAt entries channel))

/-- The name, below the export, of the file that stands for an upload: the first one under the
identifier. -/
def uploadOf? (id : String) : Option String :=
  (fileNames (directoryAt (directoryAt entries uploadsName) id)).head?.map fun name =>
    "/".intercalate [uploadsName, id, name]

/-- The export says what the files tell. Of its uploads it knows the places that a function gives to
their names. -/
structure Told (place : String → String) (e : Export) : Prop where
  /-- The users are told. -/
  users : usersOf? entries = some e.users
  /-- Each list of channels is told, with the kind of the list. -/
  channels : ∀ list ∈ channelLists,
    (listOf? entries list.1).map (ofKind list.2) = some (e.channelsOf list.2)
  /-- The messages of every channel are told. -/
  messages : ∀ channel, messagesOf? entries channel = some ((e.messages.find? channel).getD [])
  /-- The uploads are told. -/
  uploads : ∀ id, e.uploads.sources.find? id = (uploadOf? entries id).map place

/-- A file that belongs to the export cannot be read, or there are no users. -/
inductive Spoilt : Prop where
  /-- There is no list of users that can be read. -/
  | users (h : usersOf? entries = none)
  /-- A list of channels cannot be read. -/
  | channels {list : String × ChannelKind} (hmem : list ∈ channelLists)
    (h : listOf? entries list.1 = none)
  /-- A day of a channel cannot be read. -/
  | messages {channel : String} (h : messagesOf? entries channel = none)

end

variable {entries inner : List (String × Node)} {files : Files} {depth : Nat} {dir name : String}
variable {path : String} {content : ByteArray} {e : Export} {place : String → String}

/-- What can be told is not spoilt. -/
theorem Told.not_spoilt (h : Told entries place e) : ¬ Spoilt entries := by
  intro hspoilt
  cases hspoilt with
  | users hnone =>
    rw [h.users] at hnone
    cases hnone
  | channels hmem hnone =>
    have hsome := h.channels _ hmem
    rw [hnone] at hsome
    cases hsome
  | messages hnone =>
    rw [h.messages] at hnone
    cases hnone

theorem collected?_eq_none {α β : Type} {value? : β → Option (List α)} {bs : List β} :
    collected? value? bs = none ↔ ∃ b ∈ bs, value? b = none := by
  induction bs with
  | nil => simp [collected?]
  | cons b rest ih =>
    simp only [collected?, Option.bind_eq_none_iff, Option.map_eq_none_iff, ih, List.mem_cons,
      exists_eq_or_imp]
    cases value? b <;> simp

theorem collected?_map {α β γ : Type} {value? : β → Option (List α)} {f : γ → β} {cs : List γ} :
    collected? value? (cs.map f) = collected? (fun c => value? (f c)) cs := by
  induction cs with
  | nil => rfl
  | cons c rest ih => simp only [List.map_cons, collected?, ih]

theorem collected?_congr {α β : Type} {value? other? : β → Option (List α)} {bs : List β}
    (h : ∀ b ∈ bs, value? b = other? b) : collected? value? bs = collected? other? bs := by
  induction bs with
  | nil => rfl
  | cons b rest ih =>
    rw [List.forall_mem_cons] at h
    simp only [collected?, h.1, ih h.2]

/-! ## Files of a directory -/

theorem mem_days {day : String} :
    (day, content) ∈ days entries ↔
      (day, .file content) ∈ entries ∧ Path.typeEnding? day = some "json" := by
  simp only [days, List.mem_filterMap]
  constructor
  · rintro ⟨⟨name, node⟩, hmem, hday⟩
    cases node with
    | directory inner => cases hday
    | file other =>
      simp only [Option.ite_none_right_eq_some, beq_iff_eq, Option.some.injEq,
        Prod.mk.injEq] at hday
      obtain ⟨hending, rfl, rfl⟩ := hday
      exact ⟨hmem, hending⟩
  · rintro ⟨hmem, hending⟩
    exact ⟨(day, .file content), hmem, by simp [hending]⟩

/-- The days are the files with the ending. -/
theorem filter_fileNames :
    ((fileNames entries).filter fun day => Path.typeEnding? day == some "json") =
      (days entries).map (·.1) := by
  induction entries with
  | nil => rfl
  | cons entry rest ih =>
    obtain ⟨name, node⟩ := entry
    cases node with
    | directory inner => simpa [fileNames, days] using ih
    | file content =>
      by_cases hending : Path.typeEnding? name = some "json" <;>
        simpa [fileNames, days, List.filterMap_cons, hending] using ih

theorem fileAt?_eq_some :
    fileAt? entries name = some content ↔ Node.child? entries name = some (.file content) := by
  unfold fileAt?
  split
  · next other hchild => simp [hchild]
  · next hnot =>
    constructor
    · exact fun h => nomatch h
    · exact fun h => absurd h (hnot content)

theorem directoryAt_eq_nil (h : ∀ inner, Node.child? entries name ≠ some (.directory inner)) :
    directoryAt entries name = [] := by
  unfold directoryAt
  split
  · next inner hchild => exact absurd hchild (h inner)
  · rfl

theorem mem_directoryNames : name ∈ directoryNames entries ↔
    ∃ inner, (name, .directory inner) ∈ entries := by
  simp only [directoryNames, List.mem_map, List.mem_filter]
  constructor
  · rintro ⟨⟨name, node⟩, ⟨hmem, hdirectory⟩, rfl⟩
    cases node with
    | file content => cases hdirectory
    | directory inner => exact ⟨inner, hmem⟩
  · rintro ⟨inner, hmem⟩
    exact ⟨(name, .directory inner), ⟨hmem, rfl⟩, rfl⟩

theorem mem_fileNames : name ∈ fileNames entries ↔
    ∃ content, (name, .file content) ∈ entries := by
  simp only [fileNames, List.mem_map, List.mem_filter]
  constructor
  · rintro ⟨⟨name, node⟩, ⟨hmem, hfile⟩, rfl⟩
    cases node with
    | directory inner => cases hfile
    | file content => exact ⟨content, hmem⟩
  · rintro ⟨content, hmem⟩
    exact ⟨(name, .file content), ⟨hmem, rfl⟩, rfl⟩

section

variable (h : files.Stands (depth + 1) dir entries) (hname : Path.Proper name)
include h hname

theorem toOption_content :
    (files.content (Path.join dir name)).toOption = fileAt? entries name := by
  have hfind := h.find_join hname
  unfold Files.content fileAt?
  rw [← hfind]
  cases files.find (Path.join dir name) with
  | error fault => rfl
  | ok node => cases node <;> rfl

theorem isFile_join : files.isFile (Path.join dir name) = (fileAt? entries name).isSome := by
  have hfind := h.find_join hname
  unfold Files.isFile fileAt?
  rw [← hfind]
  cases files.find (Path.join dir name) with
  | error fault => rfl
  | ok node => cases node <;> rfl

theorem isDirectory_join :
    files.isDirectory (Path.join dir name) = true ↔
      ∃ inner, Node.child? entries name = some (.directory inner) := by
  have hfind := h.find_join hname
  unfold Files.isDirectory
  rw [← hfind]
  cases files.find (Path.join dir name) with
  | error fault => simp [Except.toOption]
  | ok node => cases node <;> simp [Except.toOption]

theorem content_of_fileAt? (hfile : fileAt? entries name = some content) :
    files.content (Path.join dir name) = .ok content := by
  have hcontent := toOption_content h hname
  rw [hfile] at hcontent
  cases hfound : files.content (Path.join dir name) with
  | error fault =>
    rw [hfound] at hcontent
    cases hcontent
  | ok other =>
    rw [hfound] at hcontent
    rw [Option.some.inj hcontent]

end

theorem entries_of_stands (h : files.Stands depth dir entries) :
    files.entries dir = .ok entries := by
  unfold Files.entries
  rw [h.found]
  rfl

/-! ## Single files -/

theorem ends_note {reason : Prop} {line : LogLine} :
    Ends (fun _ => True) reason (Reading.note line) := fun _ => trivial

theorem ends_orFault {α : Type} {a : α} {act : Except FileFault α} {reason : Prop}
    (h : act = .ok a) : Ends (a = ·) reason (Reading.orFault act) := by
  rw [h]
  exact ends_pure rfl

theorem ends_decoded {α : Type} {decoder : Json.Decoder α} {symbols : List Symbol} :
    Ends (fun value => (Json.read decoder symbols).toOption = some value)
      ((Json.read decoder symbols).toOption = none) (Reading.decoded decoder path symbols) := by
  unfold Reading.decoded
  cases Json.read decoder symbols with
  | ok value => exact ends_pure rfl
  | error problem => exact ends_note.bind fun _ _ => ends_throw rfl

theorem ends_fileValue {α : Type} {decoder : Json.Decoder α}
    (hcontent : files.content path = .ok content) :
    Ends (fun value => told? decoder content = some value) (told? decoder content = none)
      (fileValue decoder files path) := by
  unfold fileValue
  rw [hcontent]
  exact ends_decoded

theorem ends_channelsIn (h : files.Stands (depth + 1) dir entries) (hname : Path.Proper name) :
    Ends (fun channels => listOf? entries name = some channels) (listOf? entries name = none)
      (channelsIn files dir name) := by
  unfold channelsIn listOf?
  simp only [isFile_join h hname]
  cases hfile : fileAt? entries name with
  | none => exact ends_note.bind fun _ _ => ends_pure rfl
  | some content => exact ends_fileValue (content_of_fileAt? h hname hfile)

/-! ## Lists of channels -/

/-- The export has the channels of several lists, and all else as before. -/
structure Listed (entries : List (String × Node)) (lists : List (String × ChannelKind))
    (e e' : Export) : Prop where
  users : e'.users = e.users
  messages : e'.messages = e.messages
  others : ∀ kind ∉ lists.map (·.2), e'.channelsOf kind = e.channelsOf kind
  listed : ∀ list ∈ lists,
    (listOf? entries list.1).map (ofKind list.2) = some (e'.channelsOf list.2)

theorem ends_withChannelLists (h : files.Stands (depth + 1) dir entries)
    {lists : List (String × ChannelKind)} (hnames : ∀ list ∈ lists, Path.Proper list.1)
    (hkinds : (lists.map (·.2)).Nodup) :
    Ends (Listed entries lists e) (∃ list ∈ lists, listOf? entries list.1 = none)
      (withChannelLists files dir lists e) := by
  induction lists generalizing e with
  | nil => exact ends_pure ⟨rfl, rfl, fun _ _ => rfl, fun _ hmem => nomatch hmem⟩
  | cons list rest ih =>
    obtain ⟨name, kind⟩ := list
    rw [List.forall_mem_cons] at hnames
    rw [List.map_cons, List.nodup_cons] at hkinds
    unfold withChannelLists
    refine ((ends_channelsIn h hnames.1).imp (fun _ => id)
      fun hnone => ⟨(name, kind), List.mem_cons_self, hnone⟩).bind fun channels hchannels => ?_
    refine (ih hnames.2 hkinds.2).imp (fun e' hlisted => ?_)
      fun ⟨other, hmem, hnone⟩ => ⟨other, List.mem_cons_of_mem _ hmem, hnone⟩
    -- the lists that follow are of other kinds, so the one just read stays
    have hown : e'.channelsOf kind = ofKind kind channels := by
      rw [hlisted.others kind hkinds.1, channelsOf_withChannels, if_pos rfl]
    refine ⟨by simpa using hlisted.users, by simpa using hlisted.messages, fun other hother => ?_,
      fun other hmem => ?_⟩
    · simp only [List.map_cons, List.mem_cons, not_or] at hother
      rw [hlisted.others other hother.2, channelsOf_withChannels, if_neg (Ne.symm hother.1)]
    · rcases List.mem_cons.1 hmem with rfl | hmem
      · rw [hchannels, hown, Option.map_some]
      · exact hlisted.listed other hmem

/-! ## Messages -/

theorem messagesOn?_cons {day : String × ByteArray} {rest : List (String × ByteArray)} :
    messagesOn? (day :: rest) = (told? messagesDecoder day.2).bind fun first =>
      (messagesOn? rest).map (first ++ ·) := rfl

theorem ends_daysIn (h : files.Stands (depth + 1) dir inner)
    (horderly : (Node.directory inner).Orderly) {read : List (String × ByteArray)}
    (hread : ∀ day ∈ read, (day.1, .file day.2) ∈ inner) :
    Ends (fun messages => messagesOn? read = some messages) (messagesOn? read = none)
      (daysIn files dir (read.map (·.1))) := by
  induction read with
  | nil => exact ends_pure rfl
  | cons day rest ih =>
    rw [List.forall_mem_cons] at hread
    have hcontent := content_of_fileAt? h (horderly.proper hread.1)
      (fileAt?_eq_some.2 (horderly.child?_eq_some.2 hread.1))
    unfold daysIn
    rw [messagesOn?_cons]
    refine ((ends_fileValue hcontent).imp (fun _ => id) fun hnone => ?_).bind fun first hfirst => ?_
    · rw [hnone]
      rfl
    refine ((ih hread.2).imp (fun _ => id) fun hnone => ?_).bind fun others hothers => ends_pure ?_
    · rw [hnone, hfirst]
      rfl
    · rw [hfirst, hothers]
      rfl

/-- The export has the messages of several channels, and all else as before. -/
structure Filled (entries : List (String × Node)) (names : List String) (e e' : Export) : Prop where
  users : e'.users = e.users
  channels : ∀ kind, e'.channelsOf kind = e.channelsOf kind
  others : ∀ channel ∉ names, e'.messages.find? channel = e.messages.find? channel
  filled : ∀ channel ∈ names,
    messagesOf? entries channel = some ((e'.messages.find? channel).getD [])

theorem ends_withChannelMessages (h : files.Stands (depth + 2) dir entries)
    (horderly : (Node.directory entries).Orderly) {names : List String} (hnodup : names.Nodup)
    (hnames : ∀ name ∈ names, name ∈ directoryNames entries ∧ name ≠ uploadsName)
    (hfresh : ∀ name ∈ names, e.messages.find? name = none) :
    Ends (Filled entries names e) (∃ channel ∈ names, messagesOf? entries channel = none)
      (withChannelMessages files dir names e) := by
  induction names generalizing e with
  | nil => exact ends_pure ⟨rfl, fun _ => rfl, fun _ _ => rfl, fun _ hmem => nomatch hmem⟩
  | cons name rest ih =>
    rw [List.forall_mem_cons] at hnames hfresh
    rw [List.nodup_cons] at hnodup
    obtain ⟨inner, hmem⟩ := mem_directoryNames.1 hnames.1.1
    have hchild := horderly.child?_eq_some.2 hmem
    have hbelow := h.child (horderly.proper hmem) hchild
    have hmessages : messagesOf? entries name = messagesOn? (days inner) := by
      rw [messagesOf?, if_neg hnames.1.2, directoryAt, hchild]
    unfold withChannelMessages
    simp only []
    refine (ends_orFault (entries_of_stands hbelow)).bind fun _ heq => ?_
    subst heq
    rw [filter_fileNames]
    have hdays : Ends (fun messages => messagesOn? (days inner) = some messages)
        (messagesOn? (days inner) = none)
        (daysIn files (Path.join dir name) ((days inner).map (·.1))) :=
      ends_daysIn hbelow (horderly.child hmem) fun day hday => (mem_days.1 hday).1
    refine (hdays.imp (fun _ => id) fun hnone =>
      ⟨name, List.mem_cons_self, hmessages.trans hnone⟩).bind fun messages htold => ?_
    refine ends_note.bind fun _ _ => (ih hnodup.2 hnames.2 fun other hother => ?_).imp
      (fun e' hfilled => ?_) fun ⟨other, hother, hnone⟩ =>
        ⟨other, List.mem_cons_of_mem _ hother, hnone⟩
    · rw [find?_withMessages, if_neg fun heq : name = other => hnodup.1 (heq ▸ hother)]
      exact hfresh.2 other hother
    · -- the channel had no messages yet and gets none later, so those of its days are all
      have hown : e'.messages.find? name = some messages := by
        rw [hfilled.others name hnodup.1, find?_withMessages, if_pos rfl, hfresh.1]
        rfl
      refine ⟨hfilled.users, fun kind => by simpa using hfilled.channels kind,
        fun other hother => ?_, fun other hother => ?_⟩
      · simp only [List.mem_cons, not_or] at hother
        rw [hfilled.others other hother.2, find?_withMessages, if_neg (Ne.symm hother.1)]
      · rcases List.mem_cons.1 hother with rfl | hother
        · rw [hmessages, htold, hown, Option.getD_some]
        · exact hfilled.filled other hother

/-! ## Uploads -/

/-- The uploads of several identifiers are known besides those known before. -/
theorem uploadPaths_eq_ok (h : files.Stands (depth + 2) dir entries)
    (horderly : (Node.directory entries).Orderly) {ids : List String}
    (hids : ∀ id ∈ ids, id ∈ directoryNames entries) (paths : Table String) :
    ∃ paths', uploadPaths files dir ids paths = .ok paths' ∧ ∀ id, paths'.find? id =
      (if id ∈ ids then (fileNames (directoryAt entries id)).head?.map
        (Path.join (Path.join dir id)) else none).or (paths.find? id) := by
  induction ids generalizing paths with
  | nil => exact ⟨paths, rfl, fun id => by simp⟩
  | cons id rest ih =>
    rw [List.forall_mem_cons] at hids
    obtain ⟨inner, hmem⟩ := mem_directoryNames.1 hids.1
    have hchild := horderly.child?_eq_some.2 hmem
    have hentries := entries_of_stands (h.child (horderly.proper hmem) hchild)
    have hinner : directoryAt entries id = inner := by rw [directoryAt, hchild]
    unfold uploadPaths
    simp only [hentries, bind, Except.bind]
    -- a directory without files adds nothing, any other the path of its first file
    split
    · next hnone =>
      obtain ⟨paths', hpaths, hfind⟩ := ih hids.2 paths
      refine ⟨paths', hpaths, fun other => (hfind other).trans ?_⟩
      by_cases hother : other = id
      · subst hother
        simp [hinner, hnone]
      · simp [hother]
    · next name others hsome =>
      obtain ⟨paths', hpaths, hfind⟩ := ih hids.2 (paths.insert id _)
      refine ⟨paths', hpaths, fun other => (hfind other).trans ?_⟩
      by_cases hother : other = id
      · subst hother
        by_cases hrest : other ∈ rest <;> simp [hinner, hsome, hrest]
      · simp [hother, Table.find?_insert_of_ne (Ne.symm hother)]

theorem proper_uploadsName : Path.Proper uploadsName := by decide

theorem proper_usersName : Path.Proper usersName := by decide

/-- The uploads below a directory are those its tree tells. -/
theorem uploadsIn_eq_ok (h : files.Stands (depth + 3) dir entries)
    (horderly : (Node.directory entries).Orderly) :
    ∃ uploads, uploadsIn files (Path.join dir uploadsName) = .ok uploads ∧
      ∀ id, uploads.sources.find? id = (uploadOf? entries id).map (Path.join dir) := by
  unfold uploadsIn
  split
  · next hdirectory =>
    obtain ⟨inner, hchild⟩ := (isDirectory_join h proper_uploadsName).1 hdirectory
    have hbelow := h.child proper_uploadsName hchild
    have hinner := horderly.child (horderly.child?_eq_some.1 hchild)
    obtain ⟨paths, hpaths, hfind⟩ :=
      uploadPaths_eq_ok hbelow hinner (fun _ hmem => hmem) Table.empty
    have hentries := entries_of_stands hbelow
    refine ⟨.inDirectory paths, by simp [hentries, hpaths, bind, Except.bind, pure, Except.pure],
      fun id => ?_⟩
    have hat : directoryAt entries uploadsName = inner := by rw [directoryAt, hchild]
    rw [uploadOf?, hat]
    refine (hfind id).trans ?_
    rw [Table.find?_empty, Option.or_none]
    split
    · next hid =>
      obtain ⟨inside, hmem⟩ := mem_directoryNames.1 hid
      have hinside : directoryAt inner id = inside := by
        rw [directoryAt, hinner.child?_eq_some.2 hmem]
      rw [hinside, Option.map_map]
      cases hhead : (fileNames inside).head? with
      | none => rfl
      | some name =>
        obtain ⟨content, hname⟩ := mem_fileNames.1 (List.mem_of_head? hhead)
        have hproper : ∀ part ∈ [uploadsName, id, name], Path.Proper part := by
          simp only [List.forall_mem_cons]
          exact ⟨proper_uploadsName, hinner.proper hmem, (hinner.child hmem).proper hname,
            fun _ hnone => nomatch hnone⟩
        exact congrArg some (Path.foldl_join (List.cons_ne_nil _ _) hproper)
    · next hid =>
      rw [directoryAt_eq_nil fun inside hchild => hid (mem_directoryNames.2
        ⟨inside, hinner.child?_eq_some.1 hchild⟩)]
      rfl
  · next hnot =>
    refine ⟨.none, rfl, fun id => ?_⟩
    rw [uploadOf?, directoryAt_eq_nil fun inner hchild =>
      hnot ((isDirectory_join h proper_uploadsName).2 ⟨inner, hchild⟩)]
    rfl

/-! ## Whole directories -/

/-- The directories that hold the messages of channels. -/
def channelNames (entries : List (String × Node)) : List String :=
  (directoryNames entries).filter (· ≠ uploadsName)

theorem nodup_channelNames (horderly : (Node.directory entries).Orderly) :
    (channelNames entries).Nodup :=
  List.Nodup.sublist (List.filter_sublist.trans (List.filter_sublist.map _))
    (@Table.nodup_keys _ ⟨entries, horderly.pairwise⟩)

/-- Where no directory has the name of a channel it has no messages. -/
theorem messagesOf?_of_notMem (horderly : (Node.directory entries).Orderly)
    (hname : name ∉ channelNames entries) : messagesOf? entries name = some [] := by
  unfold messagesOf?
  split
  · rfl
  · next huploads =>
    rw [directoryAt_eq_nil fun inner hchild => hname ?_]
    · rfl
    · exact List.mem_filter.2 ⟨mem_directoryNames.2 ⟨inner, horderly.child?_eq_some.1 hchild⟩,
        decide_eq_true huploads⟩

theorem proper_of_mem_channelLists :
    ∀ list ∈ channelLists, Path.Proper list.1 := by decide

/-- **The reader of directories gives what the files tell**, and fails only where they are
spoilt. -/
theorem ends_readDirectory (h : files.Stands 3 dir entries)
    (horderly : (Node.directory entries).Orderly) :
    Ends (Told entries (Path.join dir)) (Spoilt entries) (readDirectory files dir) := by
  unfold readDirectory
  refine ends_note.bind fun _ _ => ?_
  simp only [isFile_join h proper_usersName]
  cases hfile : fileAt? entries usersName with
  | none =>
    refine Ends.bind (P := fun _ => False) (ends_throw (.users ?_)) fun _ hfalse => hfalse.elim
    rw [usersOf?, hfile]
    rfl
  | some content =>
    have husers : usersOf? entries = told? usersDecoder content := by rw [usersOf?, hfile]; rfl
    simp only [Option.isSome_some, Bool.not_true, Bool.false_eq_true, if_false]
    refine ((ends_fileValue (content_of_fileAt? h proper_usersName hfile)).imp (fun _ => id)
      fun hnone => .users (husers.trans hnone)).bind fun users htold => ?_
    refine ((ends_withChannelLists h proper_of_mem_channelLists (by decide)).imp (fun _ => id)
      fun ⟨_, hmem, hnone⟩ => .channels hmem hnone).bind fun listed hlisted => ?_
    refine (ends_orFault (entries_of_stands h)).bind fun _ heq => ?_
    subst heq
    have hnames : ∀ name ∈ channelNames entries,
        name ∈ directoryNames entries ∧ name ≠ uploadsName := by
      intro name hname
      simpa only [channelNames, List.mem_filter, decide_eq_true_eq] using hname
    have hfresh : ∀ name, listed.messages.find? name = none := by
      intro name
      rw [hlisted.messages]
      rfl
    refine ((ends_withChannelMessages h horderly (nodup_channelNames horderly) hnames
      fun name _ => hfresh name).imp (fun _ => id)
        fun ⟨_, _, hnone⟩ => .messages hnone).bind fun filled hfilled => ?_
    obtain ⟨uploads, huploads, hsources⟩ := uploadsIn_eq_ok h horderly
    refine (ends_orFault huploads).bind fun _ heq => ?_
    subst heq
    refine ends_pure ⟨?_, fun list hmem => ?_, fun channel => ?_, hsources⟩
    · rw [husers, htold, hfilled.users, hlisted.users]
    · rw [hlisted.listed list hmem]
      exact congrArg some (hfilled.channels list.2).symm
    · by_cases hchannel : channel ∈ channelNames entries
      · exact hfilled.filled channel hchannel
      · rw [messagesOf?_of_notMem horderly hchannel, hfilled.others channel hchannel, hfresh]
        rfl

end Export

end ChatImport
