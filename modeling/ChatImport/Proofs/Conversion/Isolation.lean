import ChatImport.Proofs.Conversion.Episodes
/-!
# Channels by themselves

All channels of an export are converted in one conversion, one after the other,
and each finds the users as those before it have left them. This file says that
they do not get in each other's way.

In memory the chapter of a channel is the same whatever messages the other channels
have (`Conversion.convertWith_isolated`). The one user whom messages can bring into
being is the author of those of bots, and he is there, by the same name, whenever
he is looked for as that author (`Alike`): so it takes a message that claims to be
by the identifier reserved for him to tell whether other channels had such messages.

Before a backend a channel that fails takes the conversion down with it, but it
leaves nothing behind among the posts or in the backend, and what the channels
before it have left there stays (`Conversion.convertWith_interrupted`).
-/

namespace ChatImport

open Mattermost (Post Channel)

/-- The message does not claim to be by the identifier that is reserved for the author
of messages of bots. -/
structure Slack.Message.Unreserved (m : Slack.Message) : Prop where
  user : m.user ≠ workflowUserId
  comment {comment : Slack.Comment} : m.comment = some comment → comment.user ≠ workflowUserId

namespace Conversion

variable {config : Config} {uploads : Uploads} {channels : List Channel} {channel : Channel}
variable {name : String} {messages : List Slack.Message} {message : Slack.Message}
variable {names names' names'' : String → Option String}

/-! ## Names that other channels have met -/

/-- Names that differ at most in whether the author of messages of bots is there yet. -/
structure Alike (names names' : String → Option String) : Prop where
  others {id : String} : id ≠ workflowUserId → names id = names' id
  /-- If he is not, he will have the same name. -/
  workflow : (names workflowUserId).getD workflowUsername =
    (names' workflowUserId).getD workflowUsername

theorem Alike.refl : Alike names names := ⟨fun _ => rfl, rfl⟩

theorem Alike.symm (h : Alike names names') : Alike names' names :=
  ⟨fun hid => (h.others hid).symm, h.workflow.symm⟩

theorem Alike.trans (h : Alike names names') (h' : Alike names' names'') : Alike names names'' :=
  ⟨fun hid => (h.others hid).trans (h'.others hid), h.workflow.trans h'.workflow⟩

/-- A message makes of the names some that are alike. -/
theorem alike_namesFor : Alike (namesFor config names message) names := by
  refine ⟨fun {id} hid => ?_, ?_⟩
  · unfold namesFor
    rw [if_neg (by simp [hid])]
  · unfold namesFor
    split
    · rfl
    · rfl

/-- Names that are alike stay so, whatever messages they meet. -/
theorem Alike.met (h : Alike names names') (message other : Slack.Message) :
    Alike (namesFor config names message) (namesFor config names' other) :=
  (alike_namesFor.trans h).trans alike_namesFor.symm

/-- And so do all messages. -/
theorem alike_foldl : Alike (messages.foldl (namesFor config) names) names := by
  induction messages generalizing names with
  | nil => exact .refl
  | cons message rest ih => exact ih.trans alike_namesFor

/-- **A message that does not name the reserved identifier** has the same author by
names that are alike. -/
theorem author?_eq (h : Alike names names') (hmessage : message.Unreserved) :
    author? config (namesFor config names message) message =
      author? config (namesFor config names' message) message := by
  have hnamed : ∀ id, id ≠ workflowUserId → named? (namesFor config names message) id =
      named? (namesFor config names' message) id := by
    intro id hid
    rw [named?, named?, (h.met message message).others hid]
  unfold author?
  cases hkind : message.kind with
  | plain | channelTopic | channelPurpose | channelName => exact hnamed _ hmessage.user
  | fileComment =>
    cases hcomment : message.comment with
    | none => rfl
    | some comment => exact hnamed _ (hmessage.comment hcomment)
  | bot =>
    simp only []
    split
    · next himport =>
      -- he is there by now, under the name that he would have had before
      have hauto : isAutomatic config message = true := by simp [isAutomatic, himport, hkind]
      unfold namesFor
      rw [hauto]
      simp only [BEq.rfl, Bool.and_self, if_true, h.workflow]
    · rfl
  | joinLeave | me | unsupported => rfl

theorem draftsOf_eq (h : Alike names names') (hmessages : ∀ m ∈ messages, m.Unreserved) :
    draftsOf config channel messages names = draftsOf config channel messages names' := by
  induction messages generalizing names names' with
  | nil => rfl
  | cons message rest ih =>
    have hpost : postOf? config (namesFor config names message) message channel =
        postOf? config (namesFor config names' message) message channel := by
      rw [postOf?, postOf?, author?_eq h (hmessages message List.mem_cons_self)]
    unfold draftsOf
    simp only [hpost]
    rw [ih (h.met message message) fun m hmem => hmessages m (List.mem_cons_of_mem _ hmem)]

/-- A chapter is told alike by names that are alike. -/
theorem tale_eq (h : Alike names names') (hmessages : ∀ m ∈ messages, m.Unreserved) :
    tale config name channel messages names = tale config name channel messages names' := by
  have hdrafts : draftsOf config channel (inTime messages) names =
      draftsOf config channel (inTime messages) names' := draftsOf_eq h fun m hmem =>
    hmessages m ((List.mergeSort_perm messages _).subset hmem)
  unfold tale
  simp only [hdrafts]

/-! ## The chapter of one name -/

/-- **The chapter of a name among all chapters** is told by its own messages, and by names
that are alike to those at the outset. -/
theorem find?_tales {entries : List (String × List Slack.Message)}
    (hnodup : (entries.map (·.1)).Nodup) : ∃ names', Alike names' names ∧
      (tales config channels entries names).find? (fun ch => ch.name == name) =
        (entries.find? fun entry => entry.1 == name).bind fun entry =>
          taleOf? config channels entry names' := by
  induction entries generalizing names with
  | nil => exact ⟨names, .refl, rfl⟩
  | cons entry rest ih =>
    obtain ⟨hnot, hnodup⟩ := List.nodup_cons.1 hnodup
    obtain ⟨names', halike, hrest⟩ :=
      @ih (namesAfter config (taleOf? config channels entry names).toList names) hnodup
    have hnames : Alike names' names := halike.trans alike_foldl
    unfold tales
    simp only [List.find?_append, hrest]
    by_cases hname : entry.1 = name
    · -- no other entry has the name
      have hnone : rest.find? (fun entry => entry.1 == name) = none := by
        rw [List.find?_eq_none]
        intro other hmem heq
        exact hnot (List.mem_map.2 ⟨other, hmem, (beq_iff_eq.1 heq).trans hname.symm⟩)
      refine ⟨names, .refl, ?_⟩
      rw [hnone, Option.bind_none, Option.or_none, List.find?_cons_of_pos (by simpa using hname),
        Option.bind_some, taleOf?]
      cases channelNamed? channels entry.1 with
      | none => rfl
      | some channel =>
        rw [Option.map_some, Option.toList_some]
        exact List.find?_cons_of_pos (by simpa [tale] using hname)
    · refine ⟨names', hnames, ?_⟩
      rw [List.find?_cons_of_neg (by simpa using hname), taleOf?]
      cases channelNamed? channels entry.1 with
      | none => rfl
      | some channel =>
        rw [Option.map_some, Option.toList_some,
          List.find?_cons_of_neg (by simpa [tale] using hname), List.find?_nil, Option.none_or]

/-! ## Two channels -/

/-- A message to be greeted by. -/
def greeting (timestamp : String) : Slack.Message :=
  { Slack.Message.blank with
    user := "U1", text := "hello", timestamp := timestamp, type := "message" }

/-- An export of two channels with a message each. -/
def twoChannels : Export :=
  { Export.empty with
    users := [⟨"U1", "ann", Slack.Profile.blank⟩]
    publicChannels :=
      [{ Slack.Channel.blank with id := "C1", name := "general", members := ["U1"] },
        { Slack.Channel.blank with id := "C2", name := "random", members := ["U1"] }]
    messages := (Table.empty.insert "general" [greeting "10.000000"]).insert "random"
      [greeting "11.000000"] }

/-! ## Conversions in memory -/

/-- The messages make no difference to what comes before them. -/
theorem prepared_withMessages (config : Config) (e : Export)
    (others : Table (List Slack.Message)) (c : Conversion) :
    prepared config { e with messages := others } c = prepared config e c := rfl

/-- The chapter of a name in the story is told by the messages of the name. -/
theorem find?_story {e : Export} {others : Table (List Slack.Message)} {c : Conversion}
    (hskip : config.skipAttachments = true)
    (hown : ∀ messages, e.messages.find? name = some messages → ∀ m ∈ messages, m.Unreserved)
    (hsame : others.find? name = e.messages.find? name) :
    (story config e c).find? (fun ch => ch.name == name) =
      (story config { e with messages := others } c).find? fun ch => ch.name == name := by
  unfold story
  split
  · rfl
  simp only [chapters_eq_tales hskip, prepared_withMessages]
  obtain ⟨names, halike, hfind⟩ := @find?_tales config (prepared config e c).content.channels name
    (prepared config e c).username? e.messages.entries Table.nodup_keys
  obtain ⟨names', halike', hfind'⟩ := @find?_tales config (prepared config e c).content.channels
    name (prepared config e c).username? others.entries Table.nodup_keys
  rw [hfind, hfind', Table.find?_entries, Table.find?_entries, hsame]
  cases hmessages : e.messages.find? name with
  | none => rfl
  | some messages =>
    rw [Option.map_some, Option.bind_some, Option.bind_some, taleOf?, taleOf?]
    cases channelNamed? (prepared config e c).content.channels name with
    | none => rfl
    | some channel =>
      rw [Option.map_some, Option.map_some,
        tale_eq (halike.trans halike'.symm) (hown messages hmessages)]

/-- **Channels do not influence each other.** Let no files be copied, and let the messages of
one name not claim to be by the identifier reserved for the author of messages of bots.
Whatever messages the other channels have, both conversions succeed, their posts are those of
their chapters, one for each name at most, and the chapter of this name is the same, with
the same roots in the same order. -/
theorem convertWith_isolated (config : Config) (e : Export) (others : Table (List Slack.Message))
    (name : String) (password : String) (files : Files) (backend : Backend)
    (hskip : config.skipAttachments = true)
    (hown : ∀ messages, e.messages.find? name = some messages → ∀ m ∈ messages, m.Unreserved)
    (hsame : others.find? name = e.messages.find? name) :
    let c := fresh password files backend
    let chs := story config e c
    let chs' := story config { e with messages := others } c
    (∃ c₁, convertWith config .memory e c = .ok () c₁ ∧
      c₁.content.posts = chs.flatMap Chapter.roots) ∧
    (∃ c₂, convertWith config .memory { e with messages := others } c = .ok () c₂ ∧
      c₂.content.posts = chs'.flatMap Chapter.roots) ∧
    (chs.map Chapter.name).Nodup ∧ (chs'.map Chapter.name).Nodup ∧
    chs.find? (fun ch => ch.name == name) = chs'.find? fun ch => ch.name == name := by
  intro c chs chs'
  have hposts : ∀ e : Export, ∃ c', convertWith config .memory e c = .ok () c' ∧
      c'.content.posts = (story config e c).flatMap Chapter.roots := fun e => by
    obtain ⟨c', hrun, htold⟩ := of_skipAttachments hskip (convertWith_spec config e c)
    exact ⟨c', hrun, htold.1⟩
  refine ⟨hposts e, hposts _, nodup_names_story, nodup_names_story,
    find?_story hskip hown hsame⟩

/-- The messages of bots in one channel make their author for a bot in another, and without
them he is made there. -/
theorem convertWith_isolated_of_announcement :
    let config :=
      { Config.standard with skipAttachments := true, importWorkflowMessages := true }
    let announcement :=
      { greeting "12.000000" with user := "B1", subtype := "bot_message" }
    let e := { twoChannels with
      messages := (Table.empty.insert "general" [announcement]).insert "random"
        [announcement, greeting "13.000000"] }
    let others := Table.empty.insert "random" [announcement, greeting "13.000000"]
    let c := fresh "" Files.empty Backend.empty
    let chs := story config e c
    let chs' := story config { e with messages := others } c
    config.skipAttachments = true ∧
    (∀ messages, e.messages.find? "random" = some messages → ∀ m ∈ messages, m.Unreserved) ∧
    others.find? "random" = e.messages.find? "random" ∧
    chs.length = 2 ∧ chs'.length = 1 ∧
    chs.find? (fun ch => ch.name == "random") = chs'.find? fun ch => ch.name == "random" := by
  intro config announcement e others c chs chs'
  have hown : ∀ messages, e.messages.find? "random" = some messages →
      ∀ m ∈ messages, m.Unreserved := by
    intro messages hfind m hmem
    have hmessages : messages = [announcement, greeting "13.000000"] :=
      Option.some.inj (hfind.symm.trans Table.find?_insert_self)
    rw [hmessages] at hmem
    rcases List.mem_cons.1 hmem with rfl | hmem
    · exact ⟨by decide, fun hcomment => nomatch hcomment⟩
    · rw [List.mem_singleton.1 hmem]
      exact ⟨by decide, fun hcomment => nomatch hcomment⟩
  have hsame : others.find? "random" = e.messages.find? "random" :=
    Table.find?_insert_self.trans Table.find?_insert_self.symm
  exact ⟨rfl, hown, hsame, by decide +kernel, by decide +kernel,
    (convertWith_isolated config e others "random" "" Files.empty Backend.empty rfl hown
      hsame).2.2.2.2⟩

/-! ## Conversions before a backend that fail -/

/-- **A failing channel leaves no trace.** Let no time of a message or of its thread have a
colon, and no files be copied. Whatever the backend has at first and whenever its calls
fail, a conversion that ends with an error ends at one of the channels, because something
stood in its way; those before it have been converted, and the posts and the backend are
just as they have left them: the posts are the roots of their chapters, and the backend
has their threads and is otherwise as it was, under the keys of the channel that fails and
of those after it in particular. -/
theorem convertWith_interrupted (config : Config) (e : Export) (password : String)
    (files : Files) (backend : Backend) (error : Error) (c' : Conversion)
    (hskip : config.skipAttachments = true)
    (hplain : ∀ entry ∈ e.messages.entries, ∀ message ∈ entry.2, message.Plain)
    (hrun : convertWith config .backend e (fresh password files backend) = .error error c') :
    let c := begun config e (fresh password files backend)
    let channels := c.content.channels
    ∃ before name messages after c₁,
      e.messages.entries = before ++ (name, messages) :: after ∧
      (channelNamed? channels name).isSome = true ∧
      addAllPosts config e.uploads .backend channels before c = .ok () c₁ ∧
      addPosts config e.uploads .backend channels name messages c₁ = .error error c' ∧
      Obstruction c₁.backend name messages error ∧
      c'.content.posts = c₁.content.posts ∧ c'.backend.entries = c₁.backend.entries ∧
      let chs := episodes config e.uploads channels before c
      chs.map Chapter.name =
        ((before.map (·.1)).filter fun name => (channelNamed? channels name).isSome) ∧
      c'.content.posts = chs.flatMap Chapter.roots ∧
      (∀ ch ∈ chs, ∀ id root, ch.threads.find? id = some root →
        c'.backend.entries.find? (threadKey ch.name id) = some root.json.text) ∧
      (∀ key, (∀ ch ∈ chs, ∀ id, ch.threads.contains id = true → key ≠ threadKey ch.name id) →
        c'.backend.entries.find? key = backend.entries.find? key) ∧
      ∀ entry ∈ (name, messages) :: after, ∀ id ∈ plainIds,
        c'.backend.entries.find? (threadKey entry.1 id) =
          backend.entries.find? (threadKey entry.1 id) := by
  intro c channels
  rcases convertWith_cases config e (fresh password files backend) with
    ⟨c'', hrun', -⟩ | ⟨error', c'', before, name, messages, hrun', -, hinterrupted⟩
  · rw [hrun] at hrun'
    cases hrun'
  rw [hrun] at hrun'
  cases hrun'
  obtain ⟨⟨after, hentries⟩, hchannel, c₁, hbefore, hcontinued, hfail, hstopped⟩ := hinterrupted
  have hnodup : ((before ++ (name, messages) :: after).map (·.1)).Nodup := by
    rw [← hentries]
    exact Table.nodup_keys
  have hplain' : ∀ entry ∈ before, ∀ message ∈ entry.2, message.Plain := fun entry hmem =>
    hplain entry (hentries ▸ List.mem_append_left _ hmem)
  have hbackend : c.backend = backend := backend_begun config e _
  have hposts : c.content.posts = [] := posts_begun config e _
  have htexts := hstopped.entries.trans hcontinued.entries
  have hemitted := hstopped.posts.trans hcontinued.posts
  rw [hbackend] at htexts
  rw [hposts, List.nil_append] at hemitted
  have hcause := hstopped.cause.resolve_left fun hfail => by
    rw [hskip] at hfail
    cases hfail
  have huntouched : ∀ key, (∀ ch ∈ episodes config e.uploads channels before c,
      ∀ id, ch.threads.contains id = true → key ≠ threadKey ch.name id) →
      c'.backend.entries.find? key = backend.entries.find? key := fun key hkey => by
    rw [htexts]
    exact find?_withTexts_of_not hkey
  have hnames : ((episodes config e.uploads channels before c).map Chapter.name).Nodup := by
    rw [map_name_episodes]
    rw [List.map_append] at hnodup
    exact (List.nodup_append.1 hnodup).1.filter _
  have hkeys := nodup_keys_of_plain hnames fun ch hmem id hid => plain_of_episodes hplain' hmem hid
  refine ⟨before, name, messages, after, c₁, hentries, hchannel, hbefore, hfail, hcause,
    hstopped.posts, hstopped.entries, map_name_episodes, hemitted, fun ch hmem id root hroot => ?_,
    huntouched, fun entry hentry id hid => huntouched _ fun ch hmem id' hid' =>
      threadKey_ne_of_before hnodup hplain' hentry hid hmem hid'⟩
  rw [htexts]
  exact find?_withTexts_of_mem hkeys hmem hroot

/-- The third call of the backend fails, which asks for a thread of the second channel: the
first has been told and kept. -/
theorem convertWith_interrupted_of_outage :
    let config := { Config.standard with skipAttachments := true }
    let backend : Backend :=
      { Backend.empty with outage := fun number _ => if number = 2 then some "down" else none }
    let start := begun config twoChannels (fresh "" Files.empty backend)
    config.skipAttachments = true ∧
    (∀ entry ∈ twoChannels.messages.entries, ∀ message ∈ entry.2, message.Plain) ∧
    ∃ error c', convertWith config .backend twoChannels (fresh "" Files.empty backend) =
        .error error c' ∧
      ∃ before name messages after, twoChannels.messages.entries =
          before ++ (name, messages) :: after ∧
        c'.content.posts = (episodes config twoChannels.uploads start.content.channels before
          start).flatMap Chapter.roots ∧
        ∀ entry ∈ (name, messages) :: after, ∀ id ∈ plainIds,
          c'.backend.entries.find? (threadKey entry.1 id) =
            backend.entries.find? (threadKey entry.1 id) := by
  intro config backend start
  have hplain : ∀ entry ∈ twoChannels.messages.entries, ∀ message ∈ entry.2, message.Plain := by
    have hentries : twoChannels.messages.entries =
        [("general", [greeting "10.000000"]), ("random", [greeting "11.000000"])] := rfl
    intro entry hentry message hmem
    rw [hentries] at hentry
    rcases List.mem_cons.1 hentry with rfl | hentry
    · rw [List.mem_singleton.1 hmem]
      exact ⟨by decide, by decide⟩
    · rw [List.mem_singleton.1 hentry] at hmem
      rw [List.mem_singleton.1 hmem]
      exact ⟨by decide, by decide⟩
  have hfails : (match convertWith config .backend twoChannels (fresh "" Files.empty backend) with
      | .ok _ _ => false
      | .error _ _ => true) = true := by decide +kernel
  refine ⟨rfl, hplain, ?_⟩
  cases hrun : convertWith config .backend twoChannels (fresh "" Files.empty backend) with
  | ok _ c' =>
    rw [hrun] at hfails
    cases hfails
  | error error c' =>
    obtain ⟨before, name, messages, after, c₁, hentries, -, -, -, -, -, -, -, hposts, -, -,
        hlater⟩ := convertWith_interrupted config twoChannels "" Files.empty backend error c' rfl
      hplain hrun
    exact ⟨error, c', rfl, before, name, messages, after, hentries, hposts, hlater⟩

end Conversion

end ChatImport
