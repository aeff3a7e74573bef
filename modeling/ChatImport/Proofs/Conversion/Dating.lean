import ChatImport.Proofs.Conversion.Runs
import ChatImport.Proofs.Mattermost.Post
/-!
# Creation times from one run to the next

No creation time is given out twice within a channel, but only as long as the channel
is converted in one go: the next run gives out times anew, and does not ask what was
given to the posts that it fetches from the backend. So it takes messages that are
later than those posts to keep the times apart.

Runs are `Subsequent` if their messages are: each thread of a channel that the backend
has was created before the messages of the channel, unless these begin the thread anew.
Then the threads that the backend has of a channel never share a time
(`Conversion.Runs.dated`), and neither do the posts that a run emits for a channel
(`Conversion.convertWith_sequenced`).

A reply in the millisecond of its root, but a run later, is given the time of the root
(`Conversion.convertWith_not_sequenced_of_answer`).
-/

namespace ChatImport

open Mattermost (Post Channel)

/-- The roots of the chapter and their replies were all created at different times, and each
reply after its root. -/
structure Chapter.Sequenced (ch : Chapter) : Prop where
  distinct : (ch.roots.flatMap Post.times).Nodup
  afterRoot : ∀ root ∈ ch.roots, ∀ reply ∈ root.replies, root.createAt < reply.createAt

namespace Conversion

variable {config : Config} {uploads : Uploads} {channels : List Channel}
variable {entries : List (String × List Slack.Message)} {e : Export} {c c' : Conversion}
variable {chs : List Chapter} {ch : Chapter} {texts : Table String} {flushed : Table Post}

/-! ## Chapters over the texts at the outset of a run -/

/-- The chapter has been told over what texts have for its threads. -/
structure Follows (config : Config) (texts : Table String) (ch : Chapter) : Prop where
  plain {id : String} : ch.threads.contains id = true → id ∈ plainIds
  accepted : (ch.drafts.map Draft.message).Sublist (inTime ch.messages)
  new : ∀ d ∈ ch.drafts, NewPost d.message ch.channel d.post
  find?_threads {id : String} : id ∈ plainIds → ch.threads.find? id =
    if ch.entered.any (Draft.belongs id) = true then
      Grouping.thread config.importWorkflowMessages (heldIn texts ch.name) ch.entered id
    else none

/-- A conversion has come to each chapter by way of those before it. -/
theorem exists_split_of_mem_episodes
    (hrun : addAllPosts config uploads .backend channels entries c = .ok () c')
    (h : ch ∈ episodes config uploads channels entries c) :
    ∃ before entry after channel c₁, entries = before ++ entry :: after ∧
      Continued config c c₁ (episodes config uploads channels before c) ∧
      ch = episode config uploads entry.1 channel entry.2 c₁ := by
  induction entries generalizing c with
  | nil => cases h
  | cons entry rest ih =>
    obtain ⟨c₀, hfirst, hcontinued, hrest⟩ := exists_of_addAllPosts_cons hrun
    rw [episodes_cons hfirst] at h
    rcases List.mem_append.1 h with h | h
    · obtain ⟨channel, -, rfl⟩ := Option.map_eq_some_iff.1 (Option.mem_toList.1 h)
      exact ⟨[], entry, rest, channel, c, rfl, continued_nil rfl rfl, rfl⟩
    · obtain ⟨before, other, after, channel, c₁, rfl, hcontinued', rfl⟩ := ih hrest h
      refine ⟨entry :: before, other, after, channel, c₁, rfl, ?_, rfl⟩
      rw [episodes_cons hfirst]
      exact hcontinued.append hcontinued'

/-- **Each chapter that a run keeps follows the texts at its outset**: what the channels
before it have put there is under other keys. -/
theorem follows_of_mem_keptBy
    (hplain : ∀ entry ∈ e.messages.entries, ∀ message ∈ entry.2, message.Plain)
    (h : ch ∈ keptBy config e c) : Follows config c.backend.entries ch := by
  obtain ⟨reached, c', ⟨rest, hentries⟩, hkept, hrun⟩ := keptBy_cases config e c
  rw [hkept] at h
  have hplain' : ∀ entry ∈ reached, ∀ message ∈ entry.2, message.Plain := fun entry hmem =>
    hplain entry (hentries ▸ List.mem_append_left _ hmem)
  have hids : ∀ {id}, ch.threads.contains id = true → id ∈ plainIds := fun {id} hid =>
    plain_of_episodes hplain' h hid
  obtain ⟨before, entry, after, channel, c₁, rfl, hcontinued, rfl⟩ :=
    exists_split_of_mem_episodes hrun h
  have hnodup : ((before ++ entry :: after).map (·.1)).Nodup := by
    have hkeys : (e.messages.entries.map (·.1)).Nodup := Table.nodup_keys
    rw [← hentries, List.map_append] at hkeys
    exact (List.nodup_append.1 hkeys).1
  have hheld : ∀ id ∈ plainIds, heldIn c₁.backend.entries entry.1 id =
      heldIn c.backend.entries entry.1 id := by
    intro id hid
    have hkey : ∀ ch ∈ episodes config e.uploads (begun config e c).content.channels before
        (begun config e c), ∀ id', ch.threads.contains id' = true →
          threadKey entry.1 id ≠ threadKey ch.name id' := fun ch hmem id' hid' =>
      threadKey_ne_of_before hnodup
        (fun entry hentry => hplain' entry (List.mem_append_left _ hentry)) List.mem_cons_self hid
        hmem hid'
    rw [heldIn, heldIn, hcontinued.entries, find?_withTexts_of_not hkey, backend_begun]
  refine ⟨hids, ChannelRun.sublist_drafts _ _ _ _ _,
    fun d hd => ChannelRun.newPost_of_mem_drafts hd, fun {id} hid => ?_⟩
  refine Grouping.find?_known.trans ?_
  rw [Grouping.thread_congr (hheld id hid)]
  rfl

theorem nodup_names_keptBy : ((keptBy config e c).map Chapter.name).Nodup := by
  obtain ⟨reached, c', hreached, hkept, -⟩ := keptBy_cases config e c
  rw [hkept, map_name_episodes]
  exact (Table.nodup_keys.sublist (hreached.sublist.map _)).filter _

/-! ## Dated threads -/

/-- The drafts of the chapter are later than the threads that texts have for its channel,
but for those that they begin anew. -/
def Later (texts : Table String) (ch : Chapter) : Prop :=
  Grouping.After plainIds (heldIn texts ch.name) ch.drafts

/-- The threads of a chapter that is later than what was dated are dated with it. -/
theorem Follows.dated (h : Follows config texts ch) (hlater : Later texts ch)
    (hdated : Grouping.Dated plainIds (heldIn texts ch.name)) :
    Grouping.Dated plainIds
      (Grouping.thread config.importWorkflowMessages (heldIn texts ch.name) ch.entered) :=
  hdated.thread hlater.stamped (Chapter.replies_entered h.new)
    (Chapter.pairwise_entered h.accepted h.new)

theorem Follows.thread_of_find? (h : Follows config texts ch) {id : String} {root : Post}
    (hroot : ch.threads.find? id = some root) : id ∈ plainIds ∧
      Grouping.thread config.importWorkflowMessages (heldIn texts ch.name) ch.entered id =
        some root := by
  have hid := h.plain (Table.contains_iff.2 ⟨root, hroot⟩)
  rw [h.find?_threads hid] at hroot
  split at hroot
  · exact ⟨hid, hroot⟩
  · cases hroot

/-- A thread that the chapter does not have is what it was. -/
theorem Follows.thread_of_none (h : Follows config texts ch) {id : String} (hid : id ∈ plainIds)
    (hnone : ch.threads.find? id = none) :
    Grouping.thread config.importWorkflowMessages (heldIn texts ch.name) ch.entered id =
      heldIn texts ch.name id := by
  rw [h.find?_threads hid] at hnone
  split at hnone
  · rw [hnone, Grouping.held_of_thread_eq_none hnone]
  · next hnot => exact Grouping.thread_of_not_belongs hnot

/-- **The posts of a chapter are in sequence** if it is later than what was dated. -/
theorem Follows.sequenced (h : Follows config texts ch) (hlater : Later texts ch)
    (hdated : Grouping.Dated plainIds (heldIn texts ch.name)) : ch.Sequenced := by
  have hthreads := h.dated hlater hdated
  constructor
  · have hperm : (ch.roots.flatMap Post.times).Perm (ch.threads.values.flatMap Post.times) :=
      (List.mergeSort_perm _ _).flatMap_right _
    exact hperm.nodup_iff.2 (hthreads.nodup_times fun id root hroot => h.thread_of_find? hroot)
  · intro root hmem reply hreply
    obtain ⟨id, hroot⟩ := Table.mem_values_iff.1 ((List.mergeSort_perm _ _).subset hmem)
    obtain ⟨hid, hthread⟩ := h.thread_of_find? hroot
    exact (List.pairwise_cons.1 (hthreads.pairwise hid hthread)).1 _ (List.mem_map_of_mem hreply)

/-- What is held for a thread that a chapter has put there has the times of the thread: its
text may have lost what goes with the posts, but not these. -/
theorem times_of_heldIn_withTexts (hkeys : ((chs.flatMap Chapter.texts).map (·.1)).Nodup)
    (hmem : ch ∈ chs) {id : String} {root post : Post}
    (hroot : ch.threads.find? id = some root)
    (hheld : heldIn (withTexts texts chs) ch.name id = some post) : post.times = root.times := by
  rw [heldIn, find?_withTexts_of_mem hkeys hmem hroot, Option.bind_some] at hheld
  cases hread : Json.readString Post.decoder root.json.text with
  | error problem =>
    rw [hread] at hheld
    cases hheld
  | ok read =>
    rw [hread] at hheld
    obtain rfl := Option.some.inj hheld
    obtain ⟨htime, hreplies⟩ := Post.createAt_of_readString hread
    rw [Post.times, Post.times, htime, hreplies]

/-- A thread that no chapter of its channel has is held as it was. -/
theorem heldIn_withTexts_of_none (hfollows : ∀ ch ∈ chs, Follows config texts ch)
    {name id : String} (hid : id ∈ plainIds)
    (hnone : ∀ ch ∈ chs, ch.name = name → ch.threads.find? id = none) :
    heldIn (withTexts texts chs) name id = heldIn texts name id := by
  have hkey : ∀ ch ∈ chs, ∀ id', ch.threads.contains id' = true →
      threadKey name id ≠ threadKey ch.name id' := by
    intro ch hmem id' hid' heq
    obtain ⟨rfl, rfl⟩ := threadKey_inj_of_plain heq hid ((hfollows ch hmem).plain hid')
    rw [Table.contains, hnone ch hmem rfl] at hid'
    cases hid'
  rw [heldIn, heldIn, find?_withTexts_of_not hkey]

/-- **Texts stay dated** when chapters are put there that are later. -/
theorem dated_withTexts (hnames : (chs.map Chapter.name).Nodup)
    (hfollows : ∀ ch ∈ chs, Follows config texts ch) (hlater : ∀ ch ∈ chs, Later texts ch)
    (hdated : ∀ name, Grouping.Dated plainIds (heldIn texts name)) (name : String) :
    Grouping.Dated plainIds (heldIn (withTexts texts chs) name) := by
  by_cases hname : ∃ ch ∈ chs, ch.name = name
  · obtain ⟨ch, hmem, rfl⟩ := hname
    have hkeys := nodup_keys_of_plain hnames fun ch hmem id => (hfollows ch hmem).plain
    refine ((hfollows ch hmem).dated (hlater ch hmem) (hdated ch.name)).of_times
      fun id hid post hpost => ?_
    cases hroot : ch.threads.find? id with
    | some root =>
      exact ⟨root, ((hfollows ch hmem).thread_of_find? hroot).2,
        times_of_heldIn_withTexts hkeys hmem hroot hpost⟩
    | none =>
      have hnone : ∀ ch' ∈ chs, ch'.name = ch.name → ch'.threads.find? id = none := by
        intro ch' hmem' heq
        rw [List.inj_on_of_nodup_map hnames hmem' hmem heq, hroot]
      refine ⟨post, ?_, rfl⟩
      rw [(hfollows ch hmem).thread_of_none hid hroot, ← hpost,
        heldIn_withTexts_of_none hfollows hid hnone]
  · refine (hdated name).of_times fun id hid post hpost => ⟨post, ?_, rfl⟩
    rw [← hpost, heldIn_withTexts_of_none hfollows hid fun ch hmem heq =>
      absurd ⟨ch, hmem, heq⟩ hname]

/-! ## Runs one after the other -/

/-- A run that is later than what the backend has. -/
structure Subsequent (config : Config) (e : Export) (c : Conversion) : Prop where
  plain : ∀ entry ∈ e.messages.entries, ∀ message ∈ entry.2, message.Plain
  later : ∀ ch ∈ keptBy config e c, Later c.backend.entries ch

/-- **After runs one after the other** the posts that the backend has of a channel were
created at different times, and those of a thread one after the other. -/
theorem Runs.dated (h : Runs Subsequent texts flushed) (name : String) :
    Grouping.Dated plainIds (heldIn texts name) := by
  induction h generalizing name with
  | outset hnone =>
    have hheld : heldIn _ name = fun _ => none := funext fun id => by
      rw [heldIn, hnone, Option.bind_none]
    rw [hheld]
    exact Grouping.dated_none
  | run _ hentries hsubsequent ih =>
    subst hentries
    rw [entries_convertWith]
    exact dated_withTexts nodup_names_keptBy
      (fun ch hmem => follows_of_mem_keptBy hsubsequent.plain hmem) hsubsequent.later ih name

/-- **What a run emits for a channel is in sequence.** Let runs have gone before over the
backend, from one that had no threads, whatever their exports; let each of them be later
than what the backend had at the time, and this one too. Then the posts that it emits are
the roots of its chapters, one chapter for each name, and in each chapter all posts, roots
and replies and among them those of earlier runs, were created at different times, and each
reply after its root. -/
theorem convertWith_sequenced (texts : Table String) (flushed : Table Post) (config : Config)
    (e : Export) (c c' : Conversion) (hruns : Runs Subsequent texts flushed)
    (hentries : c.backend.entries = texts) (hsubsequent : Subsequent config e c)
    (hrun : convertWith config .backend e c = .ok () c') :
    c'.content.posts = c.content.posts ++ (keptBy config e c).flatMap Chapter.roots ∧
      ((keptBy config e c).map Chapter.name).Nodup ∧
      ∀ ch ∈ keptBy config e c, ch.Sequenced := by
  subst hentries
  refine ⟨?_, nodup_names_keptBy, fun ch hmem =>
    (follows_of_mem_keptBy hsubsequent.plain hmem).sequenced (hsubsequent.later ch hmem)
      (hruns.dated ch.name)⟩
  rcases convertWith_cases config e c with ⟨c'', hrun', hcontinued⟩ | ⟨_, _, _, _, _, hrun', -⟩
  · rw [hrun] at hrun'
    cases hrun'
    rw [hcontinued.posts, posts_outset, keptBy_of_ok hrun]
  · rw [hrun] at hrun'
    cases hrun'

/-- A chapter is later than all that texts have if its drafts are. -/
theorem later_of_values
    (h : ∀ text ∈ texts.values, ∀ root ∈ (Json.readString Post.decoder text).toOption,
      ∀ time ∈ root.times, ∀ d ∈ ch.drafts, time < d.post.createAt) : Later texts ch := by
  intro id _ root hroot
  obtain ⟨text, hfind, hread⟩ := Option.bind_eq_some_iff.1 hroot
  exact Or.inr (h text (Table.mem_values_iff.2 ⟨_, hfind⟩) root hread)

/-! ## A question and its answers -/

/-- An export with a question. -/
def asking : Export := oneChannel [saying "question" "10.000000" ""]

/-- An export with an answer to it, a second later. -/
def answering : Export := oneChannel [saying "answer" "11.000000" "10.000000"]

/-- An export with an answer in the same millisecond. -/
def answeringAtOnce : Export := oneChannel [saying "answer" "10.000200" "10.000000"]

/-- The backend that the question has been put into. -/
def asked : Backend := backendAfter asking Backend.empty

/-- The second of two runs brings the answer, and what it emits is in sequence. -/
theorem convertWith_sequenced_of_answer : ∃ flushed c',
    Runs Subsequent asked.entries flushed ∧
    Subsequent withoutFiles answering (fresh "" Files.empty asked) ∧
    convertWith withoutFiles .backend answering (fresh "" Files.empty asked) = .ok () c' ∧
    let chs := keptBy withoutFiles answering (fresh "" Files.empty asked)
    c'.content.posts = chs.flatMap Chapter.roots ∧
    chs.map (fun ch => ch.roots.map Post.times) = [[[10000, 11000]]] ∧
    ∀ ch ∈ chs, ch.Sequenced := by
  have hevaluated : Running.endsWith (fun _ _ =>
      let chs := keptBy withoutFiles answering (fresh "" Files.empty asked)
      decide ((∀ ch ∈ chs, ∀ text ∈ asked.entries.values,
          ∀ root ∈ (Json.readString Post.decoder text).toOption, ∀ time ∈ root.times,
            ∀ d ∈ ch.drafts, time < d.post.createAt) ∧
        chs.map (fun ch => ch.roots.map Post.times) = [[[10000, 11000]]]))
      (convertWith withoutFiles .backend answering (fresh "" Files.empty asked)) = true := by
    decide +kernel
  obtain ⟨⟨⟩, c', hrun, hall⟩ := Running.exists_of_endsWith hevaluated
  obtain ⟨hlater, htimes⟩ := of_decide_eq_true hall
  have hfirst : Subsequent withoutFiles asking (fresh "" Files.empty Backend.empty) :=
    ⟨by decide, fun ch hmem => later_of_values fun text htext => absurd htext List.not_mem_nil⟩
  have hsecond : Subsequent withoutFiles answering (fresh "" Files.empty asked) :=
    ⟨by decide, fun ch hmem => later_of_values (hlater ch hmem)⟩
  have hruns : Runs Subsequent asked.entries _ := (Runs.outset fun _ _ => rfl).after hfirst
  obtain ⟨hposts, -, hsequenced⟩ := convertWith_sequenced asked.entries _ withoutFiles answering
    (fresh "" Files.empty asked) c' hruns rfl hsecond hrun
  exact ⟨_, c', hruns, hsecond, hrun, hposts.trans (List.nil_append _), htimes, hsequenced⟩

/-- The answer in the millisecond of the question is given the time of the question. -/
theorem convertWith_not_sequenced_of_answer :
    ∃ c₁ c₂, convertWith withoutFiles .backend asking (fresh "" Files.empty Backend.empty) =
        .ok () c₁ ∧
      convertWith withoutFiles .backend answeringAtOnce (fresh "" Files.empty c₁.backend) =
        .ok () c₂ ∧
      ∃ root ∈ c₂.content.posts, ∃ reply ∈ root.replies, reply.createAt = root.createAt := by
  have hevaluated : Running.endsWith (fun _ c₁ =>
      Running.endsWith (fun _ c₂ => decide (∃ root ∈ c₂.content.posts, ∃ reply ∈ root.replies,
          reply.createAt = root.createAt))
        (convertWith withoutFiles .backend answeringAtOnce (fresh "" Files.empty c₁.backend)))
      (convertWith withoutFiles .backend asking (fresh "" Files.empty Backend.empty)) = true := by
    decide +kernel
  obtain ⟨⟨⟩, c₁, hfirst, hrest⟩ := Running.exists_of_endsWith hevaluated
  obtain ⟨⟨⟩, c₂, hsecond, hsame⟩ := Running.exists_of_endsWith hrest
  exact ⟨c₁, c₂, hfirst, hsecond, of_decide_eq_true hsame⟩

end Conversion

end ChatImport
