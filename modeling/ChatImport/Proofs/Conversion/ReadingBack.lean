import ChatImport.Proofs.Conversion.Runs
import ChatImport.Proofs.Export.Reading
import ChatImport.Proofs.Slack.Timestamp
import ChatImport.Proofs.Thread.Resumption
/-!
# What runs put into a backend reads back

A later run can read what the runs before it have put into the backend, and reads just
that, as long as their exports were `Export.Legible` (`Conversion.Runs.read_back`).

An export that was read is nearly so. What goes with a message was read three levels
below the outermost, and that is where it stands again in the text of a root. In the text
of a thread a reply stands two levels further in. So what goes with a reply can be read
of an export and be too deep by one level or by two (`Conversion.exists_deep_reply`): then
the thread is put into the backend, and no run can look it up any more
(`Conversion.Runs.unreadable_of_deep`).
-/

namespace ChatImport

open Mattermost (Post Channel)

namespace Slack.Message

/-- What goes with the message reads back wherever its post may come to stand. -/
structure Legible (m : Message) : Prop where
  delivered : m.Delivered
  /-- No doubles. -/
  exact : ∀ j ∈ m.attachments, j.Exact
  /-- A reply stands two levels further in than a root. -/
  shallow : m.isReply = true → ∀ j ∈ m.attachments, j.depth + 5 ≤ Json.deepestNesting

end Slack.Message

/-- The export was read, and what goes with its messages reads back wherever their posts may
come to stand. -/
structure Export.Legible (e : Export) : Prop where
  read : ∃ files path log log', Export.read files path log = .ok e log'
  /-- No doubles. -/
  exact : ∀ entry ∈ e.messages.entries, ∀ m ∈ entry.2, ∀ j ∈ m.attachments, j.Exact
  /-- What goes with replies leaves the two levels by which they stand further in. -/
  shallow : ∀ entry ∈ e.messages.entries, ∀ m ∈ entry.2, m.isReply = true →
    ∀ j ∈ m.attachments, j.depth + 5 ≤ Json.deepestNesting
  /-- Creation times do not run out of 64 bits. -/
  few : ∀ entry ∈ e.messages.entries, entry.2.length < 2 ^ 62

/-- The messages of names of a legible export are legible, and not too many for any name. -/
theorem Export.Legible.among {e : Export} (h : e.Legible)
    {entries : List (String × List Slack.Message)} (hsub : entries ⊆ e.messages.entries) :
    ∀ entry ∈ entries, (∀ m ∈ entry.2, m.Legible) ∧ entry.2.length < 2 ^ 62 := by
  obtain ⟨files, path, log, log', hread⟩ := h.read
  refine fun entry hentry => ⟨fun m hmem => ?_, h.few entry (hsub hentry)⟩
  exact ⟨admitted_of_read hread entry (hsub hentry) m hmem, h.exact entry (hsub hentry) m hmem,
    h.shallow entry (hsub hentry) m hmem⟩

namespace Conversion

variable {config : Config} {uploads : Uploads} {channels : List Channel} {channel : Channel}
variable {entries : List (String × List Slack.Message)} {e : Export} {c c' : Conversion}
variable {chs : List Chapter} {ch : Chapter} {texts : Table String} {flushed : Table Post}
variable {message : Slack.Message} {post : Post} {name : String}

/-! ## The posts of messages -/

/-- A new post reads back if what goes with its message does three levels further in. -/
theorem NewPost.readable {level : Nat} (h : NewPost message channel post)
    (hread : ∀ j ∈ message.attachments, j.Readable level) : post.Readable (level + 3) := by
  obtain ⟨hleast, hlast⟩ := message.bounds_of_createdAt
  rw [← h.createAt] at hleast hlast
  refine .mk ?_ (Int.le_trans (by decide) hleast)
    (Int.le_trans (Int.le_of_lt hlast) (by decide)) ?_
  · rcases h.props with hprops | hprops
    · rw [hprops]
      exact .object List.Pairwise.nil fun _ hmem => absurd hmem List.not_mem_nil
    · rw [hprops]
      refine .object (List.pairwise_singleton _ _) fun member hmem => ?_
      rw [List.mem_singleton.1 hmem]
      exact .array hread
  · rw [h.replies]
    exact fun _ hmem => absurd hmem List.not_mem_nil

theorem NewPost.fits {d : Draft} (h : NewPost d.message channel d.post)
    (hlegible : d.message.Legible) : d.Fits (Json.deepestNesting - 2) := by
  have hreadable : ∀ j ∈ d.message.attachments, j.Readable (Json.deepestNesting - 3) :=
    fun j hmem => hlegible.delivered.readable j hmem (hlegible.exact j hmem)
  refine ⟨h.readable hreadable, fun hreply => ?_⟩
  have hfurther : ∀ j ∈ d.message.attachments, j.Readable (Json.deepestNesting - 5) :=
    fun j hmem => (hreadable j hmem).of_depth_le _
      (Nat.le_sub_of_add_le (hlegible.shallow hreply j hmem))
  exact h.readable hfurther

/-- Stamped, the drafts of legible messages still fit: their times cannot be far from those
of the messages. -/
theorem fits_entered (hnew : ∀ d ∈ ch.drafts, NewPost d.message ch.channel d.post)
    (hlegible : ∀ d ∈ ch.drafts, d.message.Legible) (hfew : ch.drafts.length < 2 ^ 62) :
    ∀ d ∈ ch.entered, d.Fits (Json.deepestNesting - 2) := by
  refine Desk.fits_stamped (fun d hd => (hnew d hd).fits (hlegible d hd)) fun time htime => ?_
  obtain ⟨request, hrequest, hle, hfar⟩ := Ledger.exists_of_mem_times htime
  obtain ⟨d, hd, rfl⟩ := List.mem_map.1 hrequest
  obtain ⟨hleast, hlast⟩ := d.message.bounds_of_createdAt
  have hcreate := (hnew d hd).createAt
  have hbounds : Json.leastInteger ≤ Slack.Timestamp.firstSecond * 1000 ∧
      (Slack.Timestamp.lastSecond + 1) * 1000 + 2 ^ 62 ≤ Json.greatestInteger := by decide
  have hempty : Ledger.empty.size = 0 := rfl
  rw [hempty, List.length_map, Nat.zero_add] at hfar
  omega

/-! ## Backends whose texts read -/

/-- What texts have for threads are the texts of these posts, and the posts read back. -/
structure Stocked (texts : Table String) (flushed : Table Post) : Prop where
  find?_texts (name id : String) : texts.find? (threadKey name id) =
    (flushed.find? (threadKey name id)).map fun post => post.json.text
  readable {key : String} {post : Post} : flushed.find? key = some post →
    post.Readable Json.deepestNesting

/-- So each text that is there for a thread reads as its post. -/
theorem Stocked.readString (h : Stocked texts flushed) {id text : String}
    (hfind : texts.find? (threadKey name id) = some text) : ∃ post,
      flushed.find? (threadKey name id) = some post ∧
      Json.readString Post.decoder text = .ok post := by
  rw [h.find?_texts] at hfind
  obtain ⟨post, hpost, rfl⟩ := Option.map_eq_some_iff.1 hfind
  exact ⟨post, hpost, Post.readString_text (h.readable hpost)⟩

theorem Stocked.readable_of_held (h : Stocked texts flushed) {id : String}
    (hheld : heldIn texts name id = some post) : post.Readable Json.deepestNesting := by
  obtain ⟨text, hfind, hread⟩ := Option.bind_eq_some_iff.1 hheld
  obtain ⟨root, hroot, hok⟩ := h.readString hfind
  rw [hok] at hread
  exact Option.some.inj hread ▸ h.readable hroot

/-- Chapters of threads that read back may be put there. -/
theorem Stocked.withTexts (h : Stocked texts flushed)
    (hread : ∀ ch ∈ chs, ∀ id root, ch.threads.find? id = some root →
      root.Readable Json.deepestNesting) :
    Stocked (withTexts texts chs) (flushed.insertAll (chs.flatMap Chapter.kept)) where
  find?_texts name id := find?_withTexts_eq (h.find?_texts name id)
  readable {key post} hfind := by
    rcases Table.mem_of_find?_insertAll hfind with hmem | hfind
    · obtain ⟨ch, hch, hmem⟩ := List.mem_flatMap.1 hmem
      obtain ⟨id, hroot, -⟩ := Chapter.mem_kept.1 hmem
      exact hread ch hch id post hroot
    · exact h.readable hfind

/-- **The threads of a chapter read back**, told over texts that do, by legible messages. -/
theorem Stocked.readable_episode {messages : List Slack.Message}
    (h : Stocked c.backend.entries flushed) (hlegible : ∀ m ∈ messages, m.Legible)
    (hfew : messages.length < 2 ^ 62) {id : String} {root : Post}
    (hroot : (episode config uploads name channel messages c).threads.find? id = some root) :
    root.Readable Json.deepestNesting := by
  have haccepted := ChannelRun.sublist_drafts config uploads channel (inTime messages)
    (.start c (StoreSource.backend.storeFor name))
  have hperm : (inTime messages).Perm messages := List.mergeSort_perm _ _
  have hfits := @fits_entered (episode config uploads name channel messages c)
    (fun d hd => ChannelRun.newPost_of_mem_drafts hd)
    (fun d hd => hlegible _ (hperm.subset (haccepted.subset (List.mem_map_of_mem hd))))
    (by
      have hle := haccepted.length_le
      rw [List.length_map, hperm.length_eq] at hle
      exact Nat.lt_of_le_of_lt hle hfew)
  rw [episode, Grouping.find?_known] at hroot
  split at hroot
  · exact Desk.readable_thread (fun _ _ hheld => h.readable_of_held hheld) hfits id root hroot
  · cases hroot

/-- **Names that are converted stock the backend** with threads that read back. -/
theorem Stocked.addAllPosts (h : Stocked c.backend.entries flushed)
    (hlegible : ∀ entry ∈ entries, (∀ m ∈ entry.2, m.Legible) ∧ entry.2.length < 2 ^ 62)
    (hrun : addAllPosts config uploads .backend channels entries c = .ok () c') :
    Stocked c'.backend.entries (flushed.insertAll
      ((episodes config uploads channels entries c).flatMap Chapter.kept)) := by
  induction entries generalizing c flushed with
  | nil =>
    cases hrun
    exact h
  | cons entry rest ih =>
    obtain ⟨c₀, hfirst, hcontinued, hrest⟩ := exists_of_addAllPosts_cons hrun
    obtain ⟨hmessages, hfew⟩ := hlegible entry List.mem_cons_self
    have hread : ∀ ch ∈ (episodeOf? config uploads channels entry c).toList, ∀ id root,
        ch.threads.find? id = some root → root.Readable Json.deepestNesting := by
      intro ch hmem id root hroot
      obtain ⟨channel, -, rfl⟩ := Option.map_eq_some_iff.1 (Option.mem_toList.1 hmem)
      exact h.readable_episode hmessages hfew hroot
    have hstocked := h.withTexts hread
    rw [← hcontinued.entries] at hstocked
    rw [episodes_cons hfirst, List.flatMap_append, Table.insertAll_append]
    exact ih hstocked (fun entry hmem => hlegible entry (List.mem_cons_of_mem _ hmem)) hrest

/-- **A look-up finds what was put there**, or that nothing was, unless the backend refuses
it. -/
theorem Stocked.lookup {t : Threads} {id : String} (h : Stocked t.backend.entries flushed)
    (hsep : t.Separate) (hkeeping : t.store.keeping = .backend name)
    (hunknown : t.posts.find? id = none) :
    (∃ found t', Threads.lookup id t = .ok found t' ∧
      found.map t'.roots.get = flushed.find? (threadKey name id)) ∨
    ∃ error t', Threads.lookup id t = .error error t' ∧
      t.backend.failure? (.fetch (threadKey name id)) = some error := by
  rcases Threads.lookup_of_backend hsep hkeeping hunknown with ⟨t', hrun, hnone⟩ |
    ⟨handle, text, t', hrun, hfind, hread⟩ | ⟨problem, text, t', hrun, hfind, hread⟩ |
    ⟨error, t', hrun, hfail⟩
  · rw [h.find?_texts, Option.map_eq_none_iff] at hnone
    exact Or.inl ⟨none, t', hrun, hnone.symm⟩
  · obtain ⟨post, hpost, hpost'⟩ := h.readString hfind
    refine Or.inl ⟨some handle, t', hrun, ?_⟩
    rw [Option.map_some, hpost, Except.ok.inj (hread.symm.trans hpost')]
  · obtain ⟨post, -, hpost⟩ := h.readString hfind
    cases hread.symm.trans hpost
  · exact Or.inr ⟨error, t', hrun, hfail⟩

/-! ## Runs one after the other -/

/-- **After runs over legible exports** the texts of all threads read. -/
theorem Runs.stocked (h : Runs (fun _ e _ => e.Legible) texts flushed) :
    Stocked texts flushed := by
  induction h with
  | outset hnone => exact ⟨fun name id => hnone name id, fun hfind => nomatch hfind⟩
  | @run texts flushed config e c _ hentries hlegible ih =>
    subst hentries
    obtain ⟨before, c', hbefore, hkept, hrun⟩ := keptBy_cases config e c
    rw [← backend_begun config e c] at ih
    have hstocked := ih.addAllPosts (hlegible.among hbefore.subset) hrun
    rw [(continued_of_addAllPosts hrun).entries, backend_begun] at hstocked
    rw [entries_convertWith, hkept]
    exact hstocked

/-- **What runs put into a backend a later run can read.** Let runs have gone before over the
backend, from one that had no threads, on legible exports. A store of any channel that does
not know a thread yet finds just the post that was put there last, or that none was; and the
next run on a legible export comes to its end. Only the backend itself can refuse. -/
theorem Runs.read_back (texts : Table String) (flushed : Table Post)
    (hruns : Runs (fun _ e _ => e.Legible) texts flushed) :
    (∀ (name id : String) (t : Threads), t.backend.entries = texts → t.Separate →
      t.store.keeping = .backend name → t.posts.find? id = none →
      (∃ found t', Threads.lookup id t = .ok found t' ∧
        found.map t'.roots.get = flushed.find? (threadKey name id)) ∨
      ∃ error t', Threads.lookup id t = .error error t' ∧
        t.backend.failure? (.fetch (threadKey name id)) = some error) ∧
    ∀ (config : Config) (e : Export) (c : Conversion), config.skipAttachments = true →
      e.Legible → c.backend.entries = texts →
      (∃ c', convertWith config .backend e c = .ok () c') ∨
      ∃ call number reason c',
        convertWith config .backend e c = .error (.backend call.words reason) c' ∧
        c.backend.outage number call = some reason := by
  have hstocked := hruns.stocked
  constructor
  · intro name id t hentries
    subst hentries
    exact hstocked.lookup
  · intro config e c hskip hlegible hentries
    subst hentries
    rcases convertWith_cases config e c with
      ⟨c', hrun, -⟩ | ⟨error, c', before, name, messages, hrun, -, hinterrupted⟩
    · exact Or.inl ⟨c', hrun⟩
    · obtain ⟨⟨after, hafter⟩, -, c₁, hbefore, hcontinued, -, hstopped⟩ := hinterrupted
      have hsub : before ⊆ e.messages.entries := fun entry hmem =>
        hafter ▸ List.mem_append_left _ hmem
      rw [← backend_begun config e c] at hstocked
      have hstocked' := hstocked.addAllPosts (hlegible.among hsub) hbefore
      have hcause := hstopped.cause.resolve_left fun hfail => by
        rw [hskip] at hfail
        cases hfail
      cases hcause with
      | @refused reason number call houtage =>
        rw [hcontinued.outage, backend_begun] at houtage
        exact Or.inr ⟨call, number, reason, c', hrun, houtage⟩
      | unreadable hmem hfind hproblem =>
        obtain ⟨post, -, hread⟩ := hstocked'.readString hfind
        rw [hproblem] at hread
        cases hread

/-! ## A question that is read -/

/-- A file with the text of a list of one object. -/
def listFile (members : List (String × Json)) : Node :=
  .file (Json.array [.object members]).text.toUTF8

/-- The files of an export with one message, which an attachment goes with. -/
def questionFiles : Files :=
  ⟨.directory
    [("channels.json", listFile [("id", .string "C1"), ("name", .string "c")]),
      ("c", .directory [("day.json", listFile
        [("type", .string "message"), ("user", .string "U1"), ("ts", .string "10"),
          ("attachments", .array [.array [.integer 1]])])]),
      ("users.json", listFile [("id", .string "U1"), ("name", .string "ann")])], []⟩

/-- The export that is read of them. -/
def readQuestion : Export :=
  match Export.read questionFiles "." #[] with
  | .ok e _ => e
  | .error _ _ => Export.empty

/-- The backend that it has been put into. -/
def questioned : Backend := backendAfter readQuestion Backend.empty

theorem legible_readQuestion : readQuestion.Legible := by
  have hevaluated : Running.endsWith (fun e _ =>
      decide (∀ entry ∈ e.messages.entries, entry.2.length < 2 ^ 62 ∧
        ∀ m ∈ entry.2, ∀ j ∈ m.attachments, j.Exact ∧ j.depth + 5 ≤ Json.deepestNesting))
      (Export.read questionFiles "." #[]) = true := by decide +kernel
  obtain ⟨e, log, hread, hall⟩ := Running.exists_of_endsWith hevaluated
  have hmessages := of_decide_eq_true hall
  unfold readQuestion
  rw [hread]
  exact ⟨⟨questionFiles, ".", #[], log, hread⟩,
    fun entry hentry m hm j hj => ((hmessages entry hentry).2 m hm j hj).1,
    fun entry hentry m hm _ j hj => ((hmessages entry hentry).2 m hm j hj).2,
    fun entry hentry => (hmessages entry hentry).1⟩

/-- A store that comes later finds the question with what goes with it. -/
theorem Runs.read_back_of_question : ∃ flushed,
    Runs (fun _ e _ => e.Legible) questioned.entries flushed ∧
    (flushed.find? (threadKey "c" "10")).map (fun post => (Json.object post.props).depth) =
      some 3 ∧
    let t : Threads := ⟨Roots.empty, .opened (.backend "c"),
      { Backend.empty with entries := questioned.entries }, #[]⟩
    ∃ found t', Threads.lookup "10" t = .ok found t' ∧
      found.map t'.roots.get = flushed.find? (threadKey "c" "10") := by
  have hruns : Runs (fun _ e _ => e.Legible) questioned.entries
      (flushedAfter readQuestion Backend.empty Table.empty) :=
    (Runs.outset fun _ _ => rfl).after legible_readQuestion
  refine ⟨_, hruns, by decide +kernel, ?_⟩
  generalize questioned.entries = texts at hruns ⊢
  intro t
  have hunknown : t.posts.find? "10" = none := by
    rw [Threads.posts_opened rfl, Table.find?_empty]
  rcases (Runs.read_back texts _ hruns).1 "c" "10" t rfl
    (Threads.separate_opened rfl) rfl hunknown with hfound | ⟨error, t', -, hfail⟩
  · exact hfound
  · cases hfail

/-! ## Replies that are too deep -/

/-- **A reply that is too deep** is put there all the same, and then no store can look up its
thread, whatever the exports of the runs. -/
theorem Runs.unreadable_of_deep {allowed : Config → Export → Conversion → Prop} {id : String}
    {root reply : Post} {t : Threads} (h : Runs allowed t.backend.entries flushed)
    (hroot : flushed.find? (threadKey name id) = some root) (hreply : reply ∈ root.replies)
    (hdeep : Json.deepestNesting < (Json.object reply.props).depth + 3) (hsep : t.Separate)
    (hkeeping : t.store.keeping = .backend name) (hunknown : t.posts.find? id = none)
    (hserves : t.backend.failure? (.fetch (threadKey name id)) = none) :
    ∃ problem t', Threads.lookup id t = .error (.json problem) t' := by
  have htext := h.find?_texts name id
  rw [hroot, Option.map_some] at htext
  rcases Threads.lookup_of_backend hsep hkeeping hunknown with ⟨t', hrun, hnone⟩ |
    ⟨handle, text, t', hrun, hfind, hread⟩ | ⟨problem, text, t', hrun, -, -⟩ |
    ⟨error, t', hrun, hfail⟩
  · cases htext.symm.trans hnone
  · obtain rfl := Option.some.inj (htext.symm.trans hfind)
    have hdepth := Post.depth_of_readString hread reply hreply
    omega
  · exact ⟨problem, t', hrun⟩
  · cases hserves.symm.trans hfail

/-- A reply as it is written in an export, with arrays of this depth that go with it. -/
def nestedReply (depth : Nat) : List Symbol :=
  Symbol.ofString "[\x7b\"ts\":\"2\",\"thread_ts\":\"1\",\"attachments\":[" ++
    List.replicate depth (.char '[') ++ List.replicate depth (.char ']') ++
    Symbol.ofString "]\x7d]"

/-- **Such replies are read**: what goes with one may leave two levels too few. -/
theorem exists_deep_reply : ∃ m : Slack.Message, m.Delivered ∧ m.isReply = true ∧
    ∃ j ∈ m.attachments, j.Exact ∧ j.depth + 5 = Json.deepestNesting + 2 := by
  have hevaluated : ((Json.read Export.messagesDecoder (nestedReply 124)).toOption.any
      fun messages => decide (∃ m ∈ messages, m.isReply = true ∧
        ∃ j ∈ m.attachments, j.Exact ∧ j.depth + 5 = Json.deepestNesting + 2)) = true := by
    decide +kernel
  cases hread : Json.read Export.messagesDecoder (nestedReply 124) with
  | ok messages =>
    rw [hread] at hevaluated
    obtain ⟨m, hmem, hreply, hdeep⟩ := of_decide_eq_true hevaluated
    exact ⟨m, ⟨_, messages, hread, hmem⟩, hreply, hdeep⟩
  | error problem =>
    rw [hread] at hevaluated
    cases hevaluated

end Conversion

end ChatImport
