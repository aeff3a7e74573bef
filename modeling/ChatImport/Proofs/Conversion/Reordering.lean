import ChatImport.Proofs.Conversion.Runs
/-!
# Messages in another order

The messages of a channel come from several files, and nothing says in which order
these are read. A conversion takes the messages in the order of their times, so all
that it sees of the order in the export is in which one the messages of one time come
(`Conversion.convertWith_inTime`). If the messages of each channel have different
times, it sees nothing of it, whatever its stores and its settings are
(`Conversion.convertWith_eq_of_reordered`).

Two conversions of an export still differ in the password for the author of messages
of bots, which is a random one. It goes into the user when he is made, and nothing
is ever told by it: users apart, two conversions make the same, and the users differ by
the password at most (`Conversion.Recorded.concealed_eq`).
-/

namespace ChatImport

open Mattermost (Post Channel)

/-! ## Without the password -/

/-- The user, but without his password if he is the author of messages of bots. -/
def Mattermost.User.concealed (user : Mattermost.User) : Mattermost.User :=
  if user.id = workflowUserId then { user with password := "" } else user

/-- The import, but without the password of the author of messages of bots. -/
def Mattermost.Import.concealed (i : Mattermost.Import) : Mattermost.Import :=
  { i with users := i.users.map Mattermost.User.concealed }

theorem Mattermost.User.concealed_forWorkflows {password password' : String} :
    (forWorkflows password).withinLimits.1.concealed =
      (forWorkflows password').withinLimits.1.concealed := by
  have hid : ∀ password, (forWorkflows password).withinLimits.1.id = workflowUserId := fun _ => rfl
  rw [concealed, concealed, if_pos (hid _), if_pos (hid _)]
  rfl

/-! ## The same messages in another order -/

/-- The names are the same, and under each of them the messages, in whatever order. -/
def Reordered (messages others : Table (List Slack.Message)) : Prop :=
  List.Forall₂ (fun entry other => entry.1 = other.1 ∧ entry.2.Perm other.2)
    messages.entries others.entries

/-- No two messages of a name have the same time. -/
def Timed (messages : Table (List Slack.Message)) : Prop :=
  ∀ entry ∈ messages.entries, (entry.2.map Slack.Message.sortKey).Nodup

theorem inTime_inTime {messages : List Slack.Message} : inTime (inTime messages) =
    inTime messages := by
  refine List.mergeSort_of_pairwise ?_
  exact (pairwise_mergeSort_key Slack.Message.sortKey messages).imp fun hle => decide_eq_true hle

/-- **Messages that are the same but for their order** are the same in the order of their
times, if these are different. -/
theorem map_inTime_of_reordered {messages others : Table (List Slack.Message)}
    (htimed : Timed messages) (h : Reordered messages others) :
    others.map inTime = messages.map inTime := by
  have hentries : ∀ {xs ys : List (String × List Slack.Message)},
      List.Forall₂ (fun entry other => entry.1 = other.1 ∧ entry.2.Perm other.2) xs ys →
      (∀ entry ∈ xs, (entry.2.map Slack.Message.sortKey).Nodup) →
      (ys.map fun entry => (entry.1, inTime entry.2)) =
        xs.map fun entry => (entry.1, inTime entry.2) := by
    intro xs ys hall hnodup
    induction hall with
    | nil => rfl
    | cons hentry _ ih =>
      rw [List.map_cons, List.map_cons, ih fun entry hmem =>
        hnodup entry (List.mem_cons_of_mem _ hmem), hentry.1]
      have hsame : inTime _ = inTime _ := mergeSort_key_of_perm Slack.Message.sortKey
        (hnodup _ List.mem_cons_self) hentry.2.symm
      rw [hsame]
  refine Table.ext_find? fun name => ?_
  have hmapped : (others.map inTime).entries = (messages.map inTime).entries :=
    hentries h htimed
  rw [Table.find?, hmapped]
  rfl

namespace Conversion

variable {config : Config} {uploads : Uploads} {channels : List Channel} {name : String}
variable {source : StoreSource} {messages : List Slack.Message} {e : Export}
variable {c c' d d' : Conversion} {chs : List Chapter}

/-- The messages of a name may as well come in the order of their times. -/
theorem addPosts_inTime : addPosts config uploads source channels name (inTime messages) =
    addPosts config uploads source channels name messages := by
  unfold addPosts channelPosts assembled
  simp only [inTime_inTime]

theorem addAllPosts_inTime {entries : List (String × List Slack.Message)} :
    addAllPosts config uploads source channels
        (entries.map fun entry => (entry.1, inTime entry.2)) =
      addAllPosts config uploads source channels entries := by
  induction entries with
  | nil => rfl
  | cons entry rest ih =>
    rw [List.map_cons, addAllPosts, addAllPosts, ih, addPosts_inTime]

/-- **A conversion takes the messages in the order of their times**, and whether they come
so or have to be sorted makes no difference to anything. -/
theorem convertWith_inTime (config : Config) (source : StoreSource) (e : Export) :
    convertWith config source { e with messages := e.messages.map inTime } =
      convertWith config source e := by
  have hposts : convertPosts config source { e with messages := e.messages.map inTime } =
      convertPosts config source e := by
    unfold convertPosts
    simp only [Table.map, addAllPosts_inTime]
  unfold convertWith
  rw [hposts]
  rfl

/-- So two conversions run alike, step by step and also in failing, if the messages are the
same but for their order and those of each name have different times. -/
theorem convertWith_eq_of_reordered {others : Table (List Slack.Message)}
    (htimed : Timed e.messages) (h : Reordered e.messages others) :
    convertWith config source { e with messages := others } = convertWith config source e := by
  rw [← convertWith_inTime config source e, ← map_inTime_of_reordered htimed h,
    ← convertWith_inTime config source { e with messages := others }]

/-! ## The same export, with another password -/

theorem content_outset (h : c.content = c'.content) :
    (outset config e c).content = (outset config e c').content := by
  unfold outset
  split
  · exact content_withUsers h config.effectiveAuthService e.users
  · split <;> exact content_prepared h

/-- Of the import only the channels are counted at the outset. -/
theorem summary_outset (h : c.content = c'.content) (hsummary : c.summary = c'.summary) :
    (outset config e c).summary = (outset config e c').summary := by
  have husers := content_withUsers h config.effectiveAuthService e.users
  have hcounted : (c.withUsers config.effectiveAuthService e.users).summary =
      (c'.withUsers config.effectiveAuthService e.users).summary := by
    obtain ⟨users, log, hc⟩ := exists_withUsers c config.effectiveAuthService e.users
    obtain ⟨users', log', hc'⟩ := exists_withUsers c' config.effectiveAuthService e.users
    rw [hc, hc']
    exact hsummary
  unfold outset
  split
  · exact hcounted
  · simp only [prepared, withMemberNames, withMemberships, withChannels, changing, telling, husers,
      hcounted]
    split <;> rfl

/-- **Conversions that tell the same chapters** from one outset make the same but for the
password. -/
theorem Recorded.concealed_eq (h : Recorded config c c' chs) (h' : Recorded config d d' chs)
    (hcontent : d.content = c.content) : d'.content.concealed = c'.content.concealed := by
  have hnames : d'.username? = c'.username? := by
    rw [h'.names, h.names, username?_congr hcontent]
  have husers : d'.content.users.map Mattermost.User.concealed =
      c'.content.users.map Mattermost.User.concealed := by
    refine Table.ext_find? fun id => ?_
    rw [Table.find?_map, Table.find?_map]
    -- a user who was there at the outset is the same; any other is the author of bots
    cases hold : c.content.users.find? id with
    | some user => rw [h.grown.kept hold, h'.grown.kept (hcontent ▸ hold)]
    | none =>
      have hname : (d'.content.users.find? id).map (·.username) =
          (c'.content.users.find? id).map (·.username) := congrFun hnames id
      cases hfind : c'.content.users.find? id with
      | none =>
        rw [hfind, Option.map_none, Option.map_eq_none_iff] at hname
        rw [hname]
      | some user =>
        rw [hfind, Option.map_some, Option.map_eq_some_iff] at hname
        obtain ⟨user', hfind', -⟩ := hname
        have hmade := (h.grown.added hfind).resolve_left (by rw [hold]; exact nofun)
        have hmade' := (h'.grown.added hfind').resolve_left (by rw [hcontent, hold]; exact nofun)
        obtain ⟨password, rfl⟩ := hmade
        obtain ⟨password', rfl⟩ := hmade'
        rw [hfind', Option.map_some, Option.map_some, Mattermost.User.concealed_forWorkflows]
  have hposts : d'.content.posts = c'.content.posts := by
    rw [h'.told.1, h.told.1, hcontent]
  rw [Mattermost.Import.concealed, Mattermost.Import.concealed, husers, h.grown.content,
    h'.grown.content, hcontent, hposts]

/-- **The order of the messages in an export makes no difference.** Let no files be copied,
and let the messages of each channel have different times. Convert the export, and convert
one with the same messages in another order within the channels, with another password,
other files and another backend: both conversions succeed, and they make the same import,
the password aside, and count the same. -/
theorem convertWith_reordered (config : Config) (e : Export) (others : Table (List Slack.Message))
    (password password' : String) (files files' : Files) (backend backend' : Backend)
    (hskip : config.skipAttachments = true) (htimed : Timed e.messages)
    (hreordered : Reordered e.messages others) :
    ∃ c c', convertWith config .memory e (fresh password files backend) = .ok () c ∧
      convertWith config .memory { e with messages := others }
        (fresh password' files' backend') = .ok () c' ∧
      c'.content.concealed = c.content.concealed ∧ c'.summary = c.summary := by
  rw [convertWith_eq_of_reordered htimed hreordered]
  obtain ⟨c, hrun, hrecorded⟩ := of_skipAttachments hskip
    (convertWith_recorded config e (fresh password files backend))
  obtain ⟨c', hrun', hrecorded'⟩ := of_skipAttachments hskip
    (convertWith_recorded config e (fresh password' files' backend'))
  have hstory : story config e (fresh password' files' backend') =
      story config e (fresh password files backend) := story_eq_of_content hskip rfl
  have hsummary : (outset config e (fresh password' files' backend')).summary =
      (outset config e (fresh password files backend)).summary := summary_outset rfl rfl
  rw [hstory] at hrecorded'
  refine ⟨c, c', hrun, hrun', hrecorded.concealed_eq hrecorded' (content_outset rfl), ?_⟩
  rw [hrecorded'.summary, hrecorded.summary, hsummary]

/-- A question, its answer in the same millisecond and the message of a bot, listed in the
opposite order, while the author of the bot's message has another password. -/
theorem convertWith_reordered_of_reversed :
    let config := { withoutFiles with importWorkflowMessages := true }
    let messages := [saying "question" "10.000100" "", saying "answer" "10.000200" "10.000100",
      { saying "announcement" "12.000000" "" with subtype := "bot_message" }]
    let e := oneChannel messages
    let others := Table.empty.insert "general" messages.reverse
    config.skipAttachments = true ∧ Timed e.messages ∧ Reordered e.messages others ∧
    messages.reverse.map Slack.Message.text = ["announcement", "answer", "question"] ∧
    ∃ c c', convertWith config .memory e (fresh "secret" Files.empty Backend.empty) = .ok () c ∧
      convertWith config .memory { e with messages := others }
        (fresh "other" Files.empty Backend.empty) = .ok () c' ∧
      c'.content.concealed = c.content.concealed ∧ c'.summary = c.summary := by
  intro config messages e others
  have htimed : Timed e.messages := by
    unfold Timed
    decide +kernel
  have hreordered : Reordered e.messages others :=
    .cons ⟨rfl, (List.reverse_perm messages).symm⟩ .nil
  exact ⟨rfl, htimed, hreordered, rfl, convertWith_reordered config e others "secret" "other"
    Files.empty Files.empty Backend.empty Backend.empty rfl htimed hreordered⟩

end Conversion

end ChatImport
