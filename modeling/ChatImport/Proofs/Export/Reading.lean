import ChatImport.Export.Reading
import ChatImport.Proofs.Json.Admitting
import ChatImport.Proofs.Running
import ChatImport.Proofs.Table
/-!
# What holds of an export that is read

An export is built up as it is read, file by file: its users, its lists of
channels, the messages of each day. What every one of these steps keeps holds of
whatever is read, from a directory or from an archive with its entries in any
order (`Export.Lasting.of_read`).

Two properties last. The kind of a channel is told by the file that lists it
alone, so each list has channels of its own kind (`Export.typed_of_read`). And
what goes with a message has passed the reader three levels down, so it reads
back wherever as many levels may be opened as were left there
(`Export.admitted_of_read`).
-/

namespace ChatImport

namespace Running

variable {ε σ α β : Type} {P : α → Prop} {Q : β → Prop} {act : EStateM ε σ α}
variable {next : α → EStateM ε σ β}

/-- Any value that the step gives has the property. -/
def Gives (P : α → Prop) (act : EStateM ε σ α) : Prop :=
  ∀ (s s' : σ) (a : α), act s = .ok a s' → P a

theorem gives_pure {a : α} (h : P a) : Gives P (pure a : EStateM ε σ α) := by
  intro s s' b hrun
  cases hrun
  exact h

theorem gives_throw {error : ε} : Gives P (throw error : EStateM ε σ α) :=
  fun _ _ _ hrun => nomatch hrun

theorem Gives.bind (h : Gives P act) (hnext : ∀ a, P a → Gives Q (next a)) :
    Gives Q (act >>= next) := by
  intro s s'' b hrun
  cases hact : act s with
  | ok a s' =>
    rw [bind_of_ok hact] at hrun
    exact hnext a (h s s' a hact) s' s'' b hrun
  | error error s' =>
    rw [bind_of_error hact] at hrun
    cases hrun

/-- What the first step gives does not matter. -/
theorem gives_after (hnext : ∀ a, Gives Q (next a)) : Gives Q (act >>= next) :=
  Gives.bind (P := fun _ => True) (fun _ _ _ _ => trivial) fun a _ => hnext a

end Running

namespace Slack.Message

/-- The message stands among those of a text that was read. -/
def Delivered (message : Message) : Prop :=
  ∃ symbols messages, Json.read Export.messagesDecoder symbols = .ok messages ∧
    message ∈ messages

/-- What goes with a message has been read two levels further in. -/
theorem readable_of_decoder {level : Nat} {t : Json.Tree} {message : Message}
    (h : decoder level t = .ok message) : ∀ j ∈ message.attachments, j.Exact →
      ∀ inner, level ≤ inner + 2 → j.Readable inner := by
  refine Json.Record.decode_keeps (P := fun message : Message => ∀ j ∈ message.attachments,
    j.Exact → ∀ inner, level ≤ inner + 2 → j.Readable inner)
    (fun _ hmem => absurd hmem List.not_mem_nil) ?_ h
  -- but for the last, the fields have nothing to do with it
  simp only [record, List.forall_mem_cons]
  refine ⟨?_, ?_, ?_, ?_, ?_, ?_, ?_, ?_, ?_, ?_, ?_, ?_, fun _ hmem => nomatch hmem⟩
  all_goals
    intro inner t change hlevel hread record hrecord
    obtain ⟨value, hvalue, rfl⟩ := Json.Field.exists_of_read_of hread
  case refine_12 =>
    intro j hmem hexact level' hle
    obtain ⟨inner', item, rfl, hitem⟩ := Json.Decoder.exists_of_mem_list hvalue hmem
    exact (Json.Decoder.readable_of_value item hitem hexact).mono _ (by omega)
  all_goals exact hrecord

/-- **What goes with a message that was read reads back** three levels below the outermost. -/
theorem Delivered.readable {message : Message} (h : message.Delivered) :
    ∀ j ∈ message.attachments, j.Exact → j.Readable (Json.deepestNesting - 3) := by
  obtain ⟨symbols, messages, hread, hmem⟩ := h
  obtain ⟨t, hdecode⟩ := Json.exists_of_read hread
  obtain ⟨inner, item, hlevel, hitem⟩ := Json.Decoder.exists_of_mem_list hdecode hmem
  exact fun j hj hexact => readable_of_decoder hitem j hj hexact _ (by omega)

end Slack.Message

namespace Export

open Running (Gives gives_pure gives_throw gives_after)

variable {e : Export} {files : Files} {P : Export → Prop}

/-- A property that every step of the reading keeps. -/
structure Lasting (P : Export → Prop) : Prop where
  empty : P Export.empty
  users {e : Export} (users : List Slack.User) : P e → P { e with users := users }
  uploads {e : Export} (uploads : Uploads) : P e → P { e with uploads := uploads }
  channels {e : Export} (kind : ChannelKind) (channels : List Slack.Channel) :
    P e → P (e.withChannels kind channels)
  messages {e : Export} (name : String) {messages : List Slack.Message} :
    (∀ message ∈ messages, message.Delivered) → P e → P (e.withMessages name messages)

/-! ## Messages -/

theorem delivered_of_decoded {name : String} {symbols : List Symbol} :
    Gives (fun messages => ∀ message ∈ messages, message.Delivered)
      (Reading.decoded messagesDecoder name symbols) := by
  unfold Reading.decoded
  split
  · next messages hread =>
    exact gives_pure fun message hmem => ⟨symbols, messages, hread, hmem⟩
  · exact gives_after fun _ => gives_throw

theorem delivered_of_daysIn {dir : String} {names : List String} :
    Gives (fun messages => ∀ message ∈ messages, message.Delivered) (daysIn files dir names) := by
  induction names with
  | nil => exact gives_pure fun _ hmem => nomatch hmem
  | cons name rest ih =>
    unfold daysIn fileValue
    refine Gives.bind (gives_after fun _ => delivered_of_decoded) fun messages hmessages =>
      ih.bind fun others hothers => gives_pure fun message hmem => ?_
    rcases List.mem_append.1 hmem with hmem | hmem
    · exact hmessages message hmem
    · exact hothers message hmem

theorem delivered_of_entryValue {archive : Archive} {file : ByteArray} {name : String} :
    Gives (fun messages => ∀ message ∈ messages, message.Delivered)
      (entryValue messagesDecoder archive file name) := by
  unfold entryValue
  split
  · exact gives_throw
  split
  · exact gives_throw
  split
  · exact gives_throw
  split
  · exact gives_throw
  · exact delivered_of_decoded

/-! ## Directories -/

theorem Lasting.withChannelLists (hP : Lasting P) {dir : String}
    {lists : List (String × ChannelKind)} (h : P e) :
    Gives P (withChannelLists files dir lists e) := by
  induction lists generalizing e with
  | nil => exact gives_pure h
  | cons list rest ih =>
    unfold Export.withChannelLists
    exact gives_after fun channels => ih (hP.channels list.2 channels h)

theorem Lasting.withChannelMessages (hP : Lasting P) {dir : String} {names : List String}
    (h : P e) : Gives P (withChannelMessages files dir names e) := by
  induction names generalizing e with
  | nil => exact gives_pure h
  | cons name rest ih =>
    unfold Export.withChannelMessages
    exact gives_after fun entries => delivered_of_daysIn.bind fun messages hmessages =>
      gives_after fun _ => ih (hP.messages name hmessages h)

theorem Lasting.readDirectory (hP : Lasting P) {dir : String} :
    Gives P (readDirectory files dir) := by
  have hread : ∀ users : List Slack.User, Gives P (do
      let listed ← Export.withChannelLists files dir channelLists
        { Export.empty with users := users }
      let names := directoryNames (← Reading.orFault (files.entries dir))
      let filled ← Export.withChannelMessages files dir (names.filter (· ≠ uploadsName)) listed
      let uploads ← Reading.orFault (uploadsIn files (Path.join dir uploadsName))
      return { filled with uploads := uploads }) := by
    intro users
    refine (hP.withChannelLists (hP.users users hP.empty)).bind fun listed hlisted =>
      gives_after fun entries => ?_
    exact (hP.withChannelMessages hlisted).bind fun filled hfilled =>
      gives_after fun uploads => gives_pure (hP.uploads uploads hfilled)
  unfold Export.readDirectory
  refine gives_after fun _ => ?_
  simp only []
  split
  · exact gives_after fun _ => gives_after hread
  · exact gives_after hread

/-! ## Archives -/

theorem Lasting.gather (hP : Lasting P) {archive : Archive} {file : ByteArray} {g : Gathered}
    {name : String} (h : P g.rest) :
    Gives (fun g : Gathered => P g.rest) (gather archive file g name) := by
  unfold Export.gather
  split
  · split
    · exact gives_after fun users => gives_pure h
    · split
      · exact gives_pure h
      · next list _ => exact gives_after fun channels => gives_pure (hP.channels list.2 channels h)
  · split
    · exact delivered_of_entryValue.bind fun messages hmessages =>
        gives_pure (hP.messages _ hmessages h)
    · exact gives_pure h
  · split
    · exact gives_pure h
    · exact gives_pure h
  · exact gives_pure h

theorem Lasting.gatherAll (hP : Lasting P) {archive : Archive} {file : ByteArray}
    {names : List String} {g : Gathered} (h : P g.rest) :
    Gives (fun g : Gathered => P g.rest) (gatherAll archive file names g) := by
  induction names generalizing g with
  | nil => exact gives_pure h
  | cons name rest ih => exact (hP.gather h).bind fun g' h' => ih h'

theorem Lasting.readArchive (hP : Lasting P) {path : String} :
    Gives P (readArchive files path) := by
  unfold Export.readArchive
  refine gives_after fun _ => gives_after fun file => ?_
  split
  · exact gives_throw
  · refine (hP.gatherAll hP.empty).bind fun g hg => ?_
    split
    · exact gives_throw
    · next users _ =>
      exact gives_after fun _ => gives_pure (hP.uploads _ (hP.users users hg))

/-- **What every step keeps holds of whatever is read.** -/
theorem Lasting.of_read (hP : Lasting P) {path : String} {log log' : Array LogLine}
    (h : read files path log = .ok e log') : P e := by
  have htold : ∀ e : Export, P e → Gives P (Reading.note e.readNotice >>= fun _ => pure e) :=
    fun e he => gives_after fun _ => gives_pure he
  have hgives : Gives P (read files path) := by
    unfold Export.read
    simp only []
    split
    · exact hP.readArchive.bind htold
    · split
      · exact hP.readDirectory.bind htold
      · exact gives_throw.bind htold
  exact hgives _ _ _ h

/-! ## The kinds of channels -/

/-- The channels of each list are of its kind. -/
structure Typed (e : Export) : Prop where
  openToAll : ∀ channel ∈ e.publicChannels, channel.kind = .openToAll
  inviteOnly : ∀ channel ∈ e.privateChannels, channel.kind = .inviteOnly
  group : ∀ channel ∈ e.groupChannels, channel.kind = .group
  direct : ∀ channel ∈ e.directChannels, channel.kind = .direct

/-- A list of channels is given the kind it is read for. -/
theorem Typed.withChannels (h : e.Typed) (kind : ChannelKind) (channels : List Slack.Channel) :
    (e.withChannels kind channels).Typed := by
  obtain ⟨hopen, hinvite, hgroup, hdirect⟩ := h
  have hkind : ∀ channel ∈ ofKind kind channels, channel.kind = kind := by
    intro channel hmem
    obtain ⟨listed, -, rfl⟩ := List.mem_map.1 hmem
    rfl
  cases kind with
  | openToAll => exact ⟨hkind, hinvite, hgroup, hdirect⟩
  | inviteOnly => exact ⟨hopen, hkind, hgroup, hdirect⟩
  | group => exact ⟨hopen, hinvite, hkind, hdirect⟩
  | direct => exact ⟨hopen, hinvite, hgroup, hkind⟩

theorem lasting_typed : Lasting Typed where
  empty := ⟨(fun _ h => nomatch h), (fun _ h => nomatch h), (fun _ h => nomatch h),
    fun _ h => nomatch h⟩
  users _ h := ⟨h.openToAll, h.inviteOnly, h.group, h.direct⟩
  uploads _ h := ⟨h.openToAll, h.inviteOnly, h.group, h.direct⟩
  channels kind channels h := h.withChannels kind channels
  messages _ _ _ h := ⟨h.openToAll, h.inviteOnly, h.group, h.direct⟩

/-- **An export that is read is typed**, whether from a directory or an archive. -/
theorem typed_of_read {path : String} {log log' : Array LogLine}
    (h : read files path log = .ok e log') : e.Typed := lasting_typed.of_read h

/-! ## What goes with messages -/

/-- All messages of the export were read. -/
def Admitted (e : Export) : Prop :=
  ∀ entry ∈ e.messages.entries, ∀ message ∈ entry.2, message.Delivered

theorem lasting_admitted : Lasting Admitted where
  empty _ h := nomatch h
  users _ h := h
  uploads _ h := h
  channels kind _ h := by
    cases kind
    · exact h
    · exact h
    · exact h
    · exact h
  messages {e} name messages hmessages h := by
    intro entry hentry message hmem
    have hfind := Table.mem_entries_iff.1 hentry
    rw [withMessages, Table.find?_insert] at hfind
    split at hfind
    · rw [← Option.some.inj hfind] at hmem
      rcases List.mem_append.1 hmem with hmem | hmem
      · cases hold : e.messages.find? name with
        | none =>
          rw [hold] at hmem
          cases hmem
        | some old =>
          rw [hold] at hmem
          exact h (name, old) (Table.mem_entries_iff.2 hold) message hmem
      · exact hmessages message hmem
    · exact h entry (Table.mem_entries_iff.2 hfind) message hmem

/-- **All messages of an export that is read were read.** -/
theorem admitted_of_read {path : String} {log log' : Array LogLine}
    (h : read files path log = .ok e log') : e.Admitted := lasting_admitted.of_read h

end Export

end ChatImport
