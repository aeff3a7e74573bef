import ChatImport.Proofs.Conversion.Backing
import ChatImport.Proofs.Mattermost.Post
/-!
# Conversions done again

To convert an export again before the backend that the first conversion has left
makes no difference (`Conversion.convertWith_rerun`). The second conversion takes
other turns than the first: it finds a root for replies that had none, and every
root replaces one. But it has the same story to tell, and the backend is ready for
it: whatever the first conversion has put there belongs to the thread under whose
key it stands, and the story opens this thread anew.
-/

namespace ChatImport

open Mattermost (Post Channel)

namespace Conversion

variable {config : Config} {e : Export} {c c' : Conversion} {chs : List Chapter}
variable {ch : Chapter}

/-! ## The backend is ready for it -/

/-- The threads of a story have plain identifiers if all messages are plain. -/
theorem plain_of_story (hskip : config.skipAttachments = true)
    (hplain : ∀ entry ∈ e.messages.entries, ∀ message ∈ entry.2, message.Plain)
    (hmem : ch ∈ story config e c) {id : String} (hid : ch.threads.contains id = true) :
    id ∈ plainIds := by
  unfold story at hmem
  split at hmem
  · cases hmem
  · simp only [chapters_eq_tales hskip] at hmem
    obtain ⟨entry, hentry, channel, names, rfl⟩ := exists_of_mem_tales hmem
    exact plain_of_tale (hplain entry hentry) hid

/-- Where nothing was kept before, whatever is kept is the text of a thread. -/
theorem Kept.exists_root (h : Kept config c c' chs) (hempty : c.backend.entries = Table.empty)
    {key text : String} (hfind : c'.backend.entries.find? key = some text) :
    ∃ ch ∈ chs, ∃ id root, ch.threads.find? id = some root ∧ key = threadKey ch.name id ∧
      text = root.json.text := by
  by_cases hkey : ∃ ch ∈ chs, ∃ id, ch.threads.contains id = true ∧ key = threadKey ch.name id
  · obtain ⟨ch, hmem, id, hcontains, rfl⟩ := hkey
    obtain ⟨root, hroot⟩ := Table.contains_iff.1 hcontains
    rw [h.written hmem hroot] at hfind
    exact ⟨ch, hmem, id, root, hroot, rfl, (Option.some.inj hfind).symm⟩
  · rw [h.untouched fun ch hmem id hcontains heq => hkey ⟨ch, hmem, id, hcontains, heq⟩, hempty,
      Table.find?_empty] at hfind
    cases hfind

/-- **What is kept of a story is ready for it** where nothing was kept before, as long
as it reads. -/
theorem Kept.ready_again (h : Kept config c c' chs) (hempty : c.backend.entries = Table.empty)
    (hnodup : (chs.map Chapter.name).Nodup)
    (hplain : ∀ ch ∈ chs, ∀ id, ch.threads.contains id = true → id ∈ plainIds)
    (hreads : ∀ key text, c'.backend.entries.find? key = some text →
      ∃ post, Json.readString Post.decoder text = .ok post) : Ready c'.backend chs := by
  intro ch hmem id hid text hfind
  refine ⟨hreads _ _ hfind, ?_⟩
  -- the key tells the thread, and that it is one of this chapter
  obtain ⟨ch', hmem', id', root, hroot, hkey, -⟩ := h.exists_root hempty hfind
  have hcontains := Table.contains_iff.2 ⟨root, hroot⟩
  obtain ⟨hname, rfl⟩ := threadKey_inj_of_plain hkey hid (hplain ch' hmem' id' hcontains)
  rwa [List.inj_on_of_nodup_map hnodup hmem hmem' hname]

/-- Readable threads are kept as texts that read. -/
theorem Kept.reads (h : Kept config c c' chs) (hempty : c.backend.entries = Table.empty)
    (hreadable : ∀ ch ∈ chs, ∀ root ∈ ch.threads.values, root.Readable Json.deepestNesting)
    {key text : String} (hfind : c'.backend.entries.find? key = some text) :
    ∃ post, Json.readString Post.decoder text = .ok post := by
  obtain ⟨ch, hmem, id, root, hroot, -, rfl⟩ := h.exists_root hempty hfind
  exact ⟨root, Post.readString_text
    (hreadable ch hmem root (Table.mem_values_iff.2 ⟨id, hroot⟩))⟩

/-- What is kept twice is kept as it was. -/
theorem Kept.entries_eq {d d' : Conversion} (h : Kept config c c' chs) (h' : Kept config d d' chs)
    (hentries : d.backend.entries = c'.backend.entries) :
    d'.backend.entries = c'.backend.entries := by
  refine Table.ext_find? fun key => ?_
  by_cases hkey : ∃ ch ∈ chs, ∃ id, ch.threads.contains id = true ∧ key = threadKey ch.name id
  · obtain ⟨ch, hmem, id, hcontains, rfl⟩ := hkey
    obtain ⟨root, hroot⟩ := Table.contains_iff.1 hcontains
    rw [h.written hmem hroot, h'.written hmem hroot]
  · rw [h'.untouched fun ch hmem id hcontains heq => hkey ⟨ch, hmem, id, hcontains, heq⟩, hentries]

/-! ## Twice -/

/-- **A conversion done again changes nothing.** Let no time of a message or of its
thread have a colon, and no files be copied. When a first conversion before an empty
backend has succeeded, and the texts that it has put there read, then a second
conversion of the same export before this backend succeeds, with the same posts in
the same order, and leaves the backend as the first has left it. -/
theorem convertWith_rerun (config : Config) (e : Export) (password password' : String)
    (files files' : Files) (c₁ : Conversion) (hskip : config.skipAttachments = true)
    (hplain : ∀ entry ∈ e.messages.entries, ∀ message ∈ entry.2, message.Plain)
    (hrun : convertWith config .backend e (fresh password files Backend.empty) = .ok () c₁)
    (hreads : ∀ key text, c₁.backend.entries.find? key = some text →
      ∃ post, Json.readString Post.decoder text = .ok post) :
    ∃ c₂, convertWith config .backend e (fresh password' files' c₁.backend) = .ok () c₂ ∧
      c₂.content.posts = c₁.content.posts ∧ c₂.backend.entries = c₁.backend.entries := by
  set chs := story config e (fresh password files Backend.empty) with hchs
  have hstory : story config e (fresh password' files' c₁.backend) = chs :=
    story_eq_of_content hskip rfl
  have hkept₁ : Kept config (outset config e (fresh password files Backend.empty)) c₁ chs := by
    obtain ⟨c, hrun', hkept⟩ := @convertWith_backed config (fresh password files Backend.empty) e
      hskip hplain (fun _ _ => rfl) fun _ _ _ _ _ hfind => nomatch hfind
    rw [hrun] at hrun'
    cases hrun'
    exact hkept
  have hready : Ready c₁.backend chs := hkept₁.ready_again
    (congrArg Backend.entries (backend_outset config e _)) nodup_names_story
    (fun ch hmem id hid => plain_of_story hskip hplain hmem hid) hreads
  have houtage : ∀ number call, c₁.backend.outage number call = none := fun number call => by
    rw [hkept₁.outage, backend_outset]
    rfl
  obtain ⟨c₂, hrun₂, hkept₂⟩ := @convertWith_backed config (fresh password' files' c₁.backend) e
    hskip hplain houtage (hstory.symm ▸ hready)
  rw [hstory] at hkept₂
  refine ⟨c₂, hrun₂, ?_, hkept₁.entries_eq hkept₂
    (congrArg Backend.entries (backend_outset config e _))⟩
  rw [hkept₂.posts, hkept₁.posts, posts_outset, posts_outset]
  rfl

/-! ## A reply before its root -/

/-- A reply. -/
def answer : Slack.Message :=
  { Slack.Message.blank with
    user := "U1", text := "answer", timestamp := "10.000000",
    threadTimestamp := "11.000000", type := "message" }

/-- The message that it replies to, at a later time. -/
def question : Slack.Message :=
  { Slack.Message.blank with
    user := "U1", text := "question", timestamp := "11.000000", type := "message" }

/-- An export of one channel with a reply that comes before its root. -/
def inversion : Export :=
  { Export.empty with
    users := [⟨"U1", "ann", Slack.Profile.blank⟩]
    publicChannels :=
      [{ Slack.Channel.blank with id := "C1", name := "general", members := ["U1"] }]
    messages := Table.empty.insert "general" [answer, question] }

/-- One thread comes of it, and it can be read back. -/
theorem story_inversion :
    let config := { Config.standard with skipAttachments := true }
    let roots := (story config inversion (fresh "" Files.empty Backend.empty)).flatMap
      fun ch => ch.threads.values
    roots.length = 1 ∧ ∀ root ∈ roots, root.Readable Json.deepestNesting := by
  intro config roots
  let start := prepared config inversion (fresh "" Files.empty Backend.empty)
  have hsorted : inTime [answer, question] = [answer, question] :=
    List.mergeSort_of_pairwise (by decide +kernel)
  have hroots : roots = (chapter config .none "general"
      ((channelNamed? start.content.channels "general").getD default) [answer, question]
      start).threads.values := List.append_nil _
  have hbare : roots.length = 1 ∧ ∀ root ∈ roots, root.props.isEmpty = true ∧
      root.replies.isEmpty = true ∧ Json.leastInteger ≤ root.createAt ∧
      root.createAt ≤ Json.greatestInteger := by
    rw [hroots]
    unfold chapter
    simp only [hsorted]
    decide +kernel
  refine ⟨hbare.1, fun root hmem => ?_⟩
  obtain ⟨hprops, hreplies, hleast, hgreatest⟩ := hbare.2 root hmem
  refine .mk ?_ hleast hgreatest ?_
  · rw [List.isEmpty_iff.1 hprops]
    exact .object List.Pairwise.nil fun _ hmem => absurd hmem List.not_mem_nil
  · rw [List.isEmpty_iff.1 hreplies]
    exact fun _ hmem => absurd hmem List.not_mem_nil

/-- In the second conversion the reply finds the root that the first has kept. -/
theorem convertWith_rerun_of_inversion :
    let config := { Config.standard with skipAttachments := true }
    config.skipAttachments = true ∧
      (∀ entry ∈ inversion.messages.entries, ∀ message ∈ entry.2, message.Plain) ∧
      ∃ c₁, convertWith config .backend inversion (fresh "" Files.empty Backend.empty) =
          .ok () c₁ ∧
        (∀ key text, c₁.backend.entries.find? key = some text →
          ∃ post, Json.readString Post.decoder text = .ok post) ∧
        ∃ c₂, convertWith config .backend inversion (fresh "" Files.empty c₁.backend) =
            .ok () c₂ ∧
          c₂.content.posts = c₁.content.posts ∧ c₂.backend.entries = c₁.backend.entries := by
  intro config
  have hplain : ∀ entry ∈ inversion.messages.entries, ∀ message ∈ entry.2, message.Plain := by
    intro entry hentry message hmem
    rw [List.mem_singleton.1 hentry] at hmem
    rcases List.mem_cons.1 hmem with rfl | hmem
    · exact ⟨by decide, by decide⟩
    · rw [List.mem_singleton.1 hmem]
      exact ⟨by decide, by decide⟩
  obtain ⟨c₁, hrun, hkept⟩ := @convertWith_backed config (fresh "" Files.empty Backend.empty)
    inversion rfl hplain (fun _ _ => rfl) fun _ _ _ _ _ hfind => nomatch hfind
  have hreads := fun key text => @Kept.reads config _ c₁ _ hkept
    (congrArg Backend.entries (backend_outset config inversion _))
    (fun ch hmem root hroot => story_inversion.2 root (List.mem_flatMap.2 ⟨ch, hmem, hroot⟩))
    key text
  exact ⟨rfl, hplain, c₁, hrun, hreads, convertWith_rerun config inversion "" "" Files.empty
    Files.empty c₁ rfl hplain hrun hreads⟩

end Conversion

end ChatImport
