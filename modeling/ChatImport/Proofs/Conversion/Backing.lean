import ChatImport.Proofs.Conversion.Episodes
/-!
# Conversions before a backend that is ready

Before some backends a conversion tells the same chapters as in memory, and puts
the threads of each into the backend (`Conversion.addAllPosts_backed`). It makes no
difference to the chapters what the backend holds, as long as it reads and belongs
to threads that the channel opens itself (`Conversion.Ready`): every root that the
backend holds is then replaced before the channel is told
(`Conversion.episode_eq_tale`).
-/

namespace ChatImport

open Mattermost (Post Channel)

namespace Conversion

variable {config : Config} {uploads : Uploads} {channels : List Channel} {channel : Channel}
variable {name : String} {messages : List Slack.Message} {c c' c'' : Conversion}
variable {chs chs' : List Chapter} {ch : Chapter}

/-! ## One channel -/

/-- What a backend has for chapters, under identifiers without colons, reads, and is
kept for threads that the chapters have. -/
def Ready (b : Backend) (chs : List Chapter) : Prop :=
  ∀ ch ∈ chs, ∀ id ∈ plainIds, ∀ text, b.entries.find? (threadKey ch.name id) = some text →
    (∃ post, Json.readString Post.decoder text = .ok post) ∧ ch.threads.contains id = true

/-- Chapters have been told before a backend: their roots come after the posts that were
there, and the backend has their threads, and otherwise what it had. -/
structure Kept (config : Config) (c c' : Conversion) (chs : List Chapter) : Prop where
  posts : c'.content.posts = c.content.posts ++ chs.flatMap Chapter.roots
  /-- The names are what the messages have made of them. -/
  names : c'.username? = namesAfter config chs c.username?
  outage : c'.backend.outage = c.backend.outage
  /-- The threads of the chapters are in the backend. -/
  written {ch : Chapter} {id : String} {root : Post} : ch ∈ chs →
    ch.threads.find? id = some root →
      c'.backend.entries.find? (threadKey ch.name id) = some root.json.text
  /-- Nothing else is written. -/
  untouched {key : String} :
    (∀ ch ∈ chs, ∀ id, ch.threads.contains id = true → key ≠ threadKey ch.name id) →
      c'.backend.entries.find? key = c.backend.entries.find? key

theorem kept_nil (hcontent : c'.content = c.content) (hbackend : c'.backend = c.backend) :
    Kept config c c' [] where
  posts := by rw [hcontent, List.flatMap_nil, List.append_nil]
  names := username?_congr hcontent
  outage := by rw [hbackend]
  written := fun hmem => nomatch hmem
  untouched := fun _ => by rw [hbackend]

/-- Of the conversions at both ends only what they have made and the backend count. -/
theorem Kept.congr {d d' : Conversion} (h : Kept config c c' chs)
    (hcontent : d.content = c.content) (hbackend : d.backend = c.backend)
    (hcontent' : d'.content = c'.content) (hbackend' : d'.backend = c'.backend) :
    Kept config d d' chs where
  posts := by rw [hcontent', hcontent, h.posts]
  names := by rw [username?_congr hcontent', username?_congr hcontent, h.names]
  outage := by rw [hbackend', hbackend, h.outage]
  written hmem hroot := by rw [hbackend', h.written hmem hroot]
  untouched hkey := by rw [hbackend', hbackend, h.untouched hkey]

/-- Chapters that are told later leave those that were told before alone, if none of
their threads has the same key. -/
theorem Kept.append (h : Kept config c c' chs) (h' : Kept config c' c'' chs')
    (hapart : ∀ ch ∈ chs, ∀ id, ch.threads.contains id = true → ∀ ch' ∈ chs', ∀ id',
      ch'.threads.contains id' = true → threadKey ch.name id ≠ threadKey ch'.name id') :
    Kept config c c'' (chs ++ chs') where
  posts := by rw [h'.posts, h.posts, List.append_assoc, List.flatMap_append]
  names := by rw [h'.names, h.names, namesAfter_append]
  outage := h'.outage.trans h.outage
  written := by
    intro ch id root hmem hfind
    rcases List.mem_append.1 hmem with hmem | hmem
    · rw [h'.untouched (hapart ch hmem id (Table.contains_iff.2 ⟨root, hfind⟩))]
      exact h.written hmem hfind
    · exact h'.written hmem hfind
  untouched := by
    intro key hkey
    rw [h'.untouched fun ch hmem => hkey ch (List.mem_append_right _ hmem),
      h.untouched fun ch hmem => hkey ch (List.mem_append_left _ hmem)]

/-- Chapters whose threads have keys of their own are kept when they have gone to the
texts. -/
theorem Continued.kept (h : Continued config c c' chs)
    (hkeys : ((chs.flatMap Chapter.texts).map (·.1)).Nodup) : Kept config c c' chs where
  posts := h.posts
  names := h.names
  outage := h.outage
  written hmem hroot := by
    rw [h.entries]
    exact find?_withTexts_of_mem hkeys hmem hroot
  untouched hkey := by
    rw [h.entries]
    exact find?_withTexts_of_not hkey

/-- **Before a backend that is ready for it a chapter goes on from nothing**: the channel
opens all threads anew that the backend has for it. -/
theorem episode_eq_tale (hskip : config.skipAttachments = true)
    (hplain : ∀ message ∈ messages, message.Plain)
    (hready : Ready c.backend [tale config name channel messages c.username?]) :
    episode config uploads name channel messages c =
      tale config name channel messages c.username? := by
  have hthreads : Grouping.known config.importWorkflowMessages (heldIn c.backend.entries name)
        (stamped channel Ledger.empty (draftsOf config channel (inTime messages) c.username?)) =
      (tale config name channel messages c.username?).threads := by
    refine Table.ext_find? fun id => ?_
    unfold tale
    rw [Grouping.find?_known, Grouping.find?_table]
    split
    · next hbelongs =>
      cases hheld : heldIn c.backend.entries name id with
      | none => exact Grouping.thread_congr hheld
      | some post =>
        obtain ⟨text, hfind, -⟩ := Option.bind_eq_some_iff.1 hheld
        obtain ⟨d, hd, hid⟩ := exists_of_belongs hbelongs
        have hmessage := (List.mergeSort_perm messages _).subset (message_mem_of_draftsOf hd)
        have hcontains := (hready _ List.mem_cons_self id (hid ▸ (hplain _ hmessage).threadId) _
          hfind).2
        exact Grouping.thread_of_opens (exists_opens_stamped.2 (contains_tale.1 hcontains))
    · next hnot => rw [Grouping.thread_of_not_belongs hnot]
  have hdrafts : ChannelRun.drafts config uploads channel (inTime messages)
      (.start c (StoreSource.backend.storeFor name)) =
        draftsOf config channel (inTime messages) c.username? := drafts_eq_draftsOf hskip _
  unfold episode
  simp only [hdrafts, hthreads]
  rfl

/-- Nothing stands in the way before a backend that is ready. -/
theorem Ready.not_obstruction {b : Backend} {error : Error} (hready : Ready b [ch])
    (hplain : ∀ message ∈ messages, message.Plain)
    (hreliable : ∀ number call, b.outage number call = none) :
    ¬ Obstruction b ch.name messages error := by
  intro hobstruction
  cases hobstruction with
  | refused houtage =>
    rw [hreliable] at houtage
    cases houtage
  | unreadable hmem hfind hproblem =>
    obtain ⟨⟨post, hread⟩, -⟩ := hready ch List.mem_cons_self _ (hplain _ hmem).threadId _ hfind
    rw [hproblem] at hread
    cases hread

/-! ## All channels -/

/-- The messages of one name: the chapter of its channel, if there is one. -/
theorem addPosts_backed {entry : String × List Slack.Message}
    (hskip : config.skipAttachments = true) (hplain : ∀ message ∈ entry.2, message.Plain)
    (hreliable : ∀ number call, c.backend.outage number call = none)
    (hready : Ready c.backend (taleOf? config channels entry c.username?).toList) :
    ∃ c', addPosts config uploads .backend channels entry.1 entry.2 c = .ok () c' ∧
      Kept config c c' (taleOf? config channels entry c.username?).toList := by
  unfold taleOf? at hready ⊢
  rcases addPosts_cases config uploads channels entry c with
    ⟨c', hrun, hcontinued⟩ | ⟨error, c', -, hchannel, hstopped⟩
  · refine ⟨c', hrun, ?_⟩
    unfold episodeOf? at hcontinued
    cases hchannel : channelNamed? channels entry.1 with
    | none =>
      rw [hchannel] at hcontinued
      exact hcontinued.kept List.nodup_nil
    | some channel =>
      rw [hchannel, Option.map_some, Option.toList_some] at hcontinued hready
      rw [episode_eq_tale hskip hplain hready] at hcontinued
      rw [Option.map_some, Option.toList_some]
      refine hcontinued.kept (nodup_keys_of_plain (List.nodup_singleton _) fun ch hmem id hid => ?_)
      rw [List.mem_singleton.1 hmem] at hid
      exact plain_of_tale hplain hid
  · obtain ⟨channel, hchannel⟩ := Option.isSome_iff_exists.1 hchannel
    rw [hchannel, Option.map_some, Option.toList_some] at hready
    refine absurd (hstopped.cause.resolve_left fun hfail => ?_)
      (hready.not_obstruction hplain hreliable)
    rw [hskip] at hfail
    cases hfail

/-- **A conversion before a backend that is ready for its chapters** tells them all, and
keeps them. -/
theorem addAllPosts_backed {entries : List (String × List Slack.Message)}
    (hskip : config.skipAttachments = true)
    (hplain : ∀ entry ∈ entries, ∀ message ∈ entry.2, message.Plain)
    (hnodup : (entries.map (·.1)).Nodup)
    (hreliable : ∀ number call, c.backend.outage number call = none)
    (hready : Ready c.backend (tales config channels entries c.username?)) :
    ∃ c', addAllPosts config uploads .backend channels entries c = .ok () c' ∧
      Kept config c c' (tales config channels entries c.username?) := by
  induction entries generalizing c with
  | nil => exact ⟨c, rfl, kept_nil rfl rfl⟩
  | cons entry rest ih =>
    obtain ⟨hnot, hnodup⟩ := List.nodup_cons.1 hnodup
    obtain ⟨c', hrun, hkept⟩ := @addPosts_backed config uploads channels c entry hskip
      (hplain entry List.mem_cons_self) hreliable
      fun ch hmem => hready ch (List.mem_append_left _ hmem)
    -- a thread of this name has another key than those of the names to come
    have hapart : ∀ ch ∈ (taleOf? config channels entry c.username?).toList, ∀ id,
        ch.threads.contains id = true → ∀ ch' ∈ tales config channels rest
          (namesAfter config (taleOf? config channels entry c.username?).toList c.username?),
        ∀ id' ∈ plainIds, threadKey ch.name id ≠ threadKey ch'.name id' := by
      intro ch hmem id hcontains ch' hmem' id' hid' heq
      obtain ⟨channel, -, rfl⟩ := Option.map_eq_some_iff.1 (Option.mem_toList.1 hmem)
      obtain ⟨entry', hentry', channel', names, rfl⟩ := exists_of_mem_tales hmem'
      have hid := plain_of_tale (hplain entry List.mem_cons_self) hcontains
      have hsame : entry.1 = entry'.1 := (threadKey_inj_of_plain heq hid hid').1
      exact hnot (List.mem_map.2 ⟨entry', hentry', hsame.symm⟩)
    have hready' : Ready c'.backend (tales config channels rest c'.username?) := by
      rw [hkept.names]
      intro ch' hmem' id' hid' text hfind
      refine hready ch' (List.mem_append_right _ hmem') id' hid' text (Eq.trans ?_ hfind)
      exact (hkept.untouched fun ch hmem id hcontains heq =>
        hapart ch hmem id hcontains ch' hmem' id' hid' heq.symm).symm
    obtain ⟨c'', hrun', hkept'⟩ := ih
      (fun entry' hmem => hplain entry' (List.mem_cons_of_mem _ hmem)) hnodup
      (fun number call => by rw [hkept.outage, hreliable]) hready'
    rw [hkept.names] at hkept'
    refine ⟨c'', (Running.bind_of_ok hrun).trans hrun', hkept.append hkept'
      fun ch hmem id hcontains ch' hmem' id' hcontains' =>
        hapart ch hmem id hcontains ch' hmem' id' ?_⟩
    obtain ⟨entry', hentry', channel', names, rfl⟩ := exists_of_mem_tales hmem'
    exact plain_of_tale (hplain entry' (List.mem_cons_of_mem _ hentry')) hcontains'

/-! ## The story of an export -/

/-- **A conversion before a backend that is ready for the story of the export** succeeds,
tells the story and keeps it. -/
theorem convertWith_backed {e : Export} (hskip : config.skipAttachments = true)
    (hplain : ∀ entry ∈ e.messages.entries, ∀ message ∈ entry.2, message.Plain)
    (hreliable : ∀ number call, c.backend.outage number call = none)
    (hready : Ready c.backend (story config e c)) :
    ∃ c', convertWith config .backend e c = .ok () c' ∧
      Kept config (outset config e c) c' (story config e c) := by
  by_cases hleft : (config.skipChannels || config.skipPosts) = true
  · rw [convertWith_of_skip hleft, story, if_pos hleft]
    exact ⟨_, rfl, kept_nil rfl rfl⟩
  · obtain ⟨hchannels, hposts⟩ := Bool.or_eq_false_iff.1 (Bool.eq_false_iff.2 hleft)
    -- it begins as in memory but for the log
    have hstory : story config e c = tales config (begun config e c).content.channels
        e.messages.entries (begun config e c).username? := by
      rw [story, if_neg hleft, username?_congr (content_begun config e c), content_begun]
      exact chapters_eq_tales hskip
    rw [hstory, ← backend_begun config e c] at hready
    rw [← backend_begun config e c] at hreliable
    obtain ⟨c', hrun, hkept⟩ :=
      addAllPosts_backed hskip hplain Table.nodup_keys hreliable hready
    rw [hstory, outset_eq_prepared hchannels hposts, convertWith_backend_eq hchannels hposts,
      Running.bind_of_ok hrun]
    exact ⟨_, rfl, hkept.congr (content_begun config e c).symm
      (backend_prepared_eq config e c) rfl rfl⟩

end Conversion

end ChatImport
