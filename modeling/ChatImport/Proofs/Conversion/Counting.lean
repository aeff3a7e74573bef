import ChatImport.Proofs.Conversion.Chapters
import ChatImport.Proofs.Thread.Tally
/-!
# What a conversion counts

The summary of a conversion agrees with what has been made. Every message of
a channel that was imported is counted once, and there are as many roots as
were counted without those that replaced others (`Conversion.convertWith_counts`).
The posts are fewer than the imported messages as soon as a root replaces
another, for the posts of a thread that is replaced are gone
(`Conversion.convertWith_postCount`). Both are read off the chapters, each of
which is in balance with its placements (`Chapter.Orderly.balance`).
-/

namespace ChatImport

open Mattermost (Post Channel)

/-- The number of messages under the names of channels. -/
def Export.messageCount (e : Export) (channels : List Channel) : Nat :=
  ((e.messages.entries.filter fun entry =>
    channels.any fun channel => channel.exportName == entry.1).map fun entry =>
      entry.2.length).sum

theorem Mattermost.Import.postCount_eq (i : Mattermost.Import) :
    i.postCount = (i.posts.map Post.threadLength).sum := by
  rw [postCount, ← List.foldl_map, List.sum_eq_foldl]

namespace Chapter

variable {w : Bool} {ch : Chapter} {chs : List Chapter} {s : Summary}

/-- The posts of a chapter that were lost when threads were replaced. -/
def lost (importWorkflows : Bool) (ch : Chapter) : Nat :=
  Grouping.lost importWorkflows ch.entered

theorem length_placements : (ch.placements w).length = ch.drafts.length := by
  rw [placements, Grouping.length_placements, entered, length_stamped]

/-- **The roots of a chapter are in balance with its placements.** -/
theorem Orderly.balance (h : ch.Orderly w)
    (hnew : ∀ d ∈ ch.drafts, Conversion.NewPost d.message ch.channel d.post) :
    Grouping.Balance ch.roots (ch.placements w) (ch.lost w) := by
  have hbalance := @Grouping.balance_table w ch.entered (replies_entered hnew)
  rw [← Grouping.eq_table h.grouped] at hbalance
  exact hbalance.perm (List.mergeSort_perm _ _)

/-- Chapters that are in balance are so together. -/
theorem balance_flatMap
    (h : ∀ ch ∈ chs, Grouping.Balance ch.roots (ch.placements w) (ch.lost w)) :
    Grouping.Balance (chs.flatMap roots) (chs.flatMap (placements w)) (chs.map (lost w)).sum := by
  induction chs with
  | nil => exact Grouping.balance_nil
  | cons ch rest ih =>
    rw [List.flatMap_cons, List.flatMap_cons, List.map_cons, List.sum_cons]
    exact (h ch List.mem_cons_self).append (ih fun ch' hmem => h ch' (List.mem_cons_of_mem _ hmem))

/-- What chapters add to a summary. -/
theorem foldl_counted : chs.foldl (counted w) s =
    (s.recordAll (chs.flatMap (placements w))).skipping (chs.map leftOut).sum := by
  induction chs generalizing s with
  | nil => rfl
  | cons ch rest ih =>
    have hhead : counted w s ch = (s.recordAll (ch.placements w)).skipping ch.leftOut := rfl
    rw [List.foldl_cons, ih, hhead, Summary.recordAll_skipping, Summary.skipping_skipping,
      ← Summary.recordAll_append]
    rfl

/-- Each message of a chapter is placed or left out. -/
theorem length_messages (h : ∀ ch ∈ chs, ch.drafts.length ≤ ch.messages.length) :
    (chs.flatMap (placements w)).length + (chs.map leftOut).sum =
      (chs.map fun ch => ch.messages.length).sum := by
  induction chs with
  | nil => rfl
  | cons ch rest ih =>
    have hhead := h ch List.mem_cons_self
    have hrest := ih fun ch' hmem => h ch' (List.mem_cons_of_mem _ hmem)
    rw [List.flatMap_cons, List.length_append, length_placements, List.map_cons, List.map_cons,
      List.sum_cons, List.sum_cons, leftOut]
    omega

end Chapter

namespace Conversion

variable {config : Config} {e : Export} {c c' : Conversion} {chs : List Chapter}

/-! ## The messages of chapters -/

theorem isSome_channelNamed? (channels : List Channel) (name : String) :
    (channelNamed? channels name).isSome =
      channels.any fun channel => channel.exportName == name := by
  rw [channelNamed?, ← List.any_reverse, Bool.eq_iff_iff, List.find?_isSome, List.any_eq_true]

/-- The chapters have the messages under the names of channels. -/
theorem map_messages_chapters (config : Config) (uploads : Uploads) (channels : List Channel)
    (entries : List (String × List Slack.Message)) (c : Conversion) :
    (chapters config uploads channels entries c).map Chapter.messages =
      (entries.filter fun entry =>
        channels.any fun channel => channel.exportName == entry.1).map (·.2) := by
  induction entries generalizing c with
  | nil => rfl
  | cons entry rest ih =>
    obtain ⟨name, messages⟩ := entry
    unfold chapters
    rw [List.filter_cons, ← isSome_channelNamed?]
    cases channelNamed? channels name with
    | none => exact ih _
    | some channel =>
      rw [Option.isSome_some, if_pos rfl, List.map_cons, List.map_cons, ih]
      rfl

/-- Without skipping, the chapters have all messages under the names of channels. -/
theorem length_messages_story (hchannels : config.skipChannels = false)
    (hposts : config.skipPosts = false) :
    ((story config e c).map fun ch => ch.messages.length).sum =
      e.messageCount (prepared config e c).content.channels := by
  have hmessages := map_messages_chapters config e.uploads
    (prepared config e c).content.channels e.messages.entries (prepared config e c)
  have hlengths := congrArg (fun l => (l.map List.length).sum) hmessages
  simp only [List.map_map] at hlengths
  rw [story, hchannels, hposts]
  exact hlengths

/-! ## The account of a conversion -/

/-- What has been made and what has been counted agree. -/
structure Accounted (config : Config) (c : Conversion) (chs : List Chapter) : Prop where
  /-- The roots are in balance with the placements of all chapters. -/
  balance : Grouping.Balance c.content.posts
    (chs.flatMap (Chapter.placements config.importWorkflowMessages))
    (chs.map (Chapter.lost config.importWorkflowMessages)).sum
  /-- Roots that replaced others are counted among the roots and by themselves. -/
  roots : c.summary.roots = c.content.posts.length + c.summary.overwrittenRoots
  overwritten : c.summary.overwrittenRoots =
    (chs.flatMap (Chapter.placements config.importWorkflowMessages)).count .overwroteRoot
  imported : c.summary.imported =
    Grouping.imports (chs.flatMap (Chapter.placements config.importWorkflowMessages))
  /-- Every message is counted once. -/
  seen : c.summary.seen = (chs.map fun ch => ch.messages.length).sum

/-- **Chapters that are told keep account** if nothing was counted before. -/
theorem Recorded.accounted {n : Nat} (h : Recorded config c c' chs)
    (hposts : c.content.posts = []) (hsummary : c.summary = { Summary.empty with channels := n }) :
    Accounted config c' chs := by
  set ps := chs.flatMap (Chapter.placements config.importWorkflowMessages) with hps
  have hbalance := Chapter.balance_flatMap fun ch hmem =>
    (h.told.2 ch hmem).balance fun d hd => (h.known ch hmem d hd).1
  have hroots : c'.content.posts = chs.flatMap Chapter.roots := by
    rw [h.told.1, hposts, List.nil_append]
  rw [← hroots] at hbalance
  have hcounted : c'.summary = (Summary.recordAll { Summary.empty with channels := n }
      ps).skipping (chs.map Chapter.leftOut).sum := by
    rw [h.summary, Chapter.foldl_counted, hsummary]
  have hnumbers := hcounted
  rw [Summary.recordAll_eq] at hnumbers
  simp only [Summary.skipping, Summary.empty, Nat.zero_add] at hnumbers
  refine ⟨hbalance, ?_, ?_, ?_, ?_⟩
  · rw [hbalance.size, hnumbers]
  · rw [hnumbers]
  · rw [hnumbers, Summary.imported, Grouping.imports]
  · have hzero : Summary.seen { Summary.empty with channels := n } = 0 := rfl
    rw [hcounted, Summary.seen_skipping, Summary.seen_recordAll, hzero, Nat.zero_add]
    exact Chapter.length_messages h.drafts_le

/-- Without files to copy a conversion succeeds, and keeps account. -/
theorem convertWith_accounted (e : Export) (password : String) (files : Files)
    (backend : Backend) (hskip : config.skipAttachments = true) :
    let c := fresh password files backend
    ∃ c', convertWith config .memory e c = .ok () c' ∧ (outset config e c).Grown c' ∧
      Accounted config c' (story config e c) := by
  intro c
  obtain ⟨c', hrun, hrecorded⟩ := of_skipAttachments hskip (convertWith_recorded config e c)
  obtain ⟨n, hsummary⟩ := exists_summary_outset config e c
  exact ⟨c', hrun, hrecorded.grown, hrecorded.accounted (posts_outset config e c) hsummary⟩

/-! ## Two messages of one time -/

/-- A message of a user at a time that is always the same. -/
def atTen (text : String) : Slack.Message :=
  { Slack.Message.blank with
    user := "U1", text := text, timestamp := "10.000000", type := "message" }

/-- An export of one channel with two messages of one time. -/
def collision : Export :=
  { Export.empty with
    users := [⟨"U1", "ann", Slack.Profile.blank⟩]
    publicChannels :=
      [{ Slack.Channel.blank with id := "C1", name := "general", members := ["U1"] }]
    messages := Table.empty.insert "general" [atTen "first", atTen "second"] }

/-- The second message replaces the first. -/
theorem story_collision :
    let config := { Config.standard with skipAttachments := true }
    let chs := story config collision (fresh "" Files.empty Backend.empty)
    chs.flatMap (Chapter.placements config.importWorkflowMessages) = [.root, .overwroteRoot] ∧
      (chs.map (Chapter.lost config.importWorkflowMessages)).sum = 1 := by
  intro config chs
  let start := prepared config collision (fresh "" Files.empty Backend.empty)
  have hsorted : inTime [atTen "first", atTen "second"] = [atTen "first", atTen "second"] :=
    List.mergeSort_of_pairwise (by decide +kernel)
  have hstory : chs = [chapter config .none "general"
      ((channelNamed? start.content.channels "general").getD default)
      [atTen "first", atTen "second"] start] := rfl
  rw [hstory, List.map_singleton, List.flatMap_singleton, List.sum_singleton,
    Chapter.placements, Chapter.lost, Chapter.entered]
  unfold chapter
  simp only [hsorted]
  exact ⟨by decide +kernel, by decide +kernel⟩

/-! ## What the summary says -/

/-- **A conversion counts every message once.** Where no files are copied and
neither channels nor posts are left out, a conversion in memory succeeds: no
content of an export ends it. It has then counted every message under the name
of a channel that was imported, as a root, a reply, a reply without a root or
as left out; and there are as many roots as were counted, without those that
replaced others. -/
theorem convertWith_counts (config : Config) (e : Export) (password : String) (files : Files)
    (backend : Backend) (hskip : config.skipAttachments = true)
    (hchannels : config.skipChannels = false) (hposts : config.skipPosts = false) :
    ∃ c', convertWith config .memory e (fresh password files backend) = .ok () c' ∧
      c'.summary.roots + c'.summary.replies + c'.summary.orphanReplies + c'.summary.skipped =
        e.messageCount c'.content.channels ∧
      c'.summary.overwrittenRoots ≤ c'.summary.roots ∧
      c'.content.posts.length = c'.summary.roots - c'.summary.overwrittenRoots := by
  obtain ⟨c', hrun, hgrown, haccount⟩ := convertWith_accounted e password files backend hskip
  -- the channels are those with which the posts began
  have hsame : c'.content.channels =
      (prepared config e (fresh password files backend)).content.channels := by
    have hcontent := congrArg Mattermost.Import.channels hgrown.content
    rwa [outset_eq_prepared hchannels hposts] at hcontent
  have hroots := haccount.roots
  refine ⟨c', hrun, ?_, by omega, by omega⟩
  rw [hsame, ← length_messages_story hchannels hposts]
  exact haccount.seen

/-- Two messages of one time are counted once each. -/
theorem convertWith_counts_of_collision :
    let config := { Config.standard with skipAttachments := true }
    config.skipAttachments = true ∧ config.skipChannels = false ∧ config.skipPosts = false ∧
      ∃ c', convertWith config .memory collision (fresh "" Files.empty Backend.empty) =
          .ok () c' ∧
        c'.summary.roots + c'.summary.replies + c'.summary.orphanReplies + c'.summary.skipped =
          collision.messageCount c'.content.channels ∧
        c'.summary.overwrittenRoots ≤ c'.summary.roots ∧
        c'.content.posts.length = c'.summary.roots - c'.summary.overwrittenRoots :=
  ⟨rfl, rfl, rfl, convertWith_counts _ collision "" Files.empty Backend.empty rfl rfl rfl⟩

/-- **Posts are lost where roots replace others, and only there.** Where no files
are copied, a conversion in memory succeeds. The messages that it counts as
imported are the posts and those that were in a thread when a root replaced it:
one at least for each such root. So the posts are as many as the imported
messages if and only if no root has replaced another. -/
theorem convertWith_postCount (config : Config) (e : Export) (password : String) (files : Files)
    (backend : Backend) (hskip : config.skipAttachments = true) :
    let lost := ((story config e (fresh password files backend)).map
      (Chapter.lost config.importWorkflowMessages)).sum
    ∃ c', convertWith config .memory e (fresh password files backend) = .ok () c' ∧
      c'.content.postCount + lost = c'.summary.imported ∧
      c'.summary.overwrittenRoots ≤ lost ∧
      (c'.content.postCount = c'.summary.imported ↔ c'.summary.overwrittenRoots = 0) := by
  intro lost
  obtain ⟨c', hrun, -, haccount⟩ := convertWith_accounted e password files backend hskip
  have hlengths := haccount.balance.lengths
  have hreplaced := haccount.balance.replaced
  have hkept := haccount.balance.kept
  rw [← Mattermost.Import.postCount_eq, ← haccount.imported] at hlengths
  rw [← haccount.overwritten] at hreplaced hkept
  refine ⟨c', hrun, hlengths, hreplaced, fun hall => by omega, fun hnone => ?_⟩
  have hgone := hkept hnone
  omega

/-- Of two messages of one time one is lost. -/
theorem convertWith_postCount_of_collision :
    let config := { Config.standard with skipAttachments := true }
    config.skipAttachments = true ∧
      ∃ c', convertWith config .memory collision (fresh "" Files.empty Backend.empty) =
          .ok () c' ∧
        c'.content.postCount + 1 = c'.summary.imported ∧ c'.summary.overwrittenRoots ≤ 1 ∧
        (c'.content.postCount = c'.summary.imported ↔ c'.summary.overwrittenRoots = 0) := by
  intro config
  obtain ⟨-, hlost⟩ := story_collision
  have hall := convertWith_postCount config collision "" Files.empty Backend.empty rfl
  simp only [config, hlost] at hall
  exact ⟨rfl, hall⟩

/-- **The posts may be fewer than the imported messages**: two messages of one time
that are no replies count as imported both, and one of them is there in the end. -/
theorem convertWith_loses_of_collision :
    let config := { Config.standard with skipAttachments := true }
    ∃ c', convertWith config .memory collision (fresh "" Files.empty Backend.empty) =
        .ok () c' ∧
      c'.content.posts.length = 1 ∧ c'.content.postCount = 1 ∧ c'.summary.imported = 2 := by
  intro config
  obtain ⟨hplaces, hlost⟩ := story_collision
  obtain ⟨c', hrun, -, haccount⟩ :=
    @convertWith_accounted config collision "" Files.empty Backend.empty rfl
  have hsize := haccount.balance.size
  have hlengths := haccount.balance.lengths
  have himported := haccount.imported
  simp only [config, hplaces] at hsize hlengths himported
  simp only [hlost, ← Mattermost.Import.postCount_eq] at hlengths
  refine ⟨c', hrun, hsize, ?_, himported⟩
  change c'.content.postCount + 1 = 2 at hlengths
  omega

end Conversion

end ChatImport
