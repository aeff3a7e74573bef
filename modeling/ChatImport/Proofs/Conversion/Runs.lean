import ChatImport.Proofs.Conversion.Episodes
/-!
# One run after the other

Conversions of several exports, one after the other, may share a backend: each
begins with the texts that those before it have left there (`Conversion.Runs`). A
conversion that ends with an error has put the chapters there that it got through,
so such runs count as well (`Conversion.keptBy`).

Whatever the runs did, what the backend has under the keys of threads is the text of
the thread that was put there last (`Conversion.Runs.find?_texts`). Whether the text
reads, and what time its posts have among those of a later run, depends on the runs.
-/

namespace ChatImport

open Mattermost (Post Channel)

namespace Conversion

variable {config : Config} {uploads : Uploads} {channels : List Channel}
variable {entries : List (String × List Slack.Message)} {e : Export} {c c' : Conversion}
variable {chs : List Chapter} {texts : Table String} {flushed : Table Post}

/-! ## How far a conversion gets -/

/-- The names whose messages are converted, one after the other, before those of one
cannot be. -/
def reached (config : Config) (uploads : Uploads) (channels : List Channel) :
    List (String × List Slack.Message) → Conversion → List (String × List Slack.Message)
  | [], _ => []
  | entry :: rest, c =>
    match addPosts config uploads .backend channels entry.1 entry.2 c with
    | .ok _ c' => entry :: reached config uploads channels rest c'
    | .error _ _ => []

/-- The chapters that a conversion of an export puts into the backend, whichever way it
ends. -/
def keptBy (config : Config) (e : Export) (c : Conversion) : List Chapter :=
  if config.skipChannels || config.skipPosts then []
  else
    let c := begun config e c
    episodes config e.uploads c.content.channels
      (reached config e.uploads c.content.channels e.messages.entries c) c

theorem reached_prefix : reached config uploads channels entries c <+: entries := by
  induction entries generalizing c with
  | nil => exact List.prefix_rfl
  | cons entry rest ih =>
    unfold reached
    split
    · exact (List.prefix_cons_inj entry).2 ih
    · exact List.nil_prefix

/-- **The names that are reached are converted**, and nothing else is put into the
backend. -/
theorem addAllPosts_reached (config : Config) (uploads : Uploads) (channels : List Channel)
    (entries : List (String × List Slack.Message)) (c : Conversion) :
    ∃ c', addAllPosts config uploads .backend channels
        (reached config uploads channels entries c) c = .ok () c' ∧
      (Running.stateAfter (addAllPosts config uploads .backend channels entries)
        c).backend.entries = c'.backend.entries := by
  induction entries generalizing c with
  | nil => exact ⟨c, rfl, rfl⟩
  | cons entry rest ih =>
    rw [reached]
    rcases addPosts_cases config uploads channels entry c with
      ⟨c', hrun, -⟩ | ⟨error, c', hrun, -, hstopped⟩
    · obtain ⟨c'', hrest, hentries⟩ := ih c'
      rw [hrun]
      refine ⟨c'', (Running.bind_of_ok hrun).trans hrest, ?_⟩
      rw [← hentries, Running.stateAfter, addAllPosts, Running.bind_of_ok hrun]
      rfl
    · rw [hrun]
      refine ⟨c, rfl, ?_⟩
      rw [Running.stateAfter, addAllPosts, Running.bind_of_error hrun]
      exact hstopped.entries

/-- A conversion that succeeds reaches all names. -/
theorem reached_eq (h : addAllPosts config uploads .backend channels entries c = .ok () c') :
    reached config uploads channels entries c = entries := by
  induction entries generalizing c with
  | nil => rfl
  | cons entry rest ih =>
    obtain ⟨c₀, hrun, -, hrest⟩ := exists_of_addAllPosts_cons h
    rw [reached, hrun]
    exact congrArg (entry :: ·) (ih hrest)

/-- A conversion that gets through has told the chapters of all names. -/
theorem continued_of_addAllPosts
    (h : addAllPosts config uploads .backend channels entries c = .ok () c') :
    Continued config c c' (episodes config uploads channels entries c) := by
  rcases addAllPosts_cases config uploads channels entries c with
    ⟨c'', hrun, hcontinued⟩ | ⟨error, c'', _, _, _, hrun, -⟩
  · rw [h] at hrun
    cases hrun
    exact hcontinued
  · rw [h] at hrun
    cases hrun

/-- The chapters that a conversion puts into the backend are those of the names that it
reaches. -/
theorem keptBy_cases (config : Config) (e : Export) (c : Conversion) :
    ∃ before c', before <+: e.messages.entries ∧
      keptBy config e c = episodes config e.uploads (begun config e c).content.channels before
        (begun config e c) ∧
      addAllPosts config e.uploads .backend (begun config e c).content.channels before
        (begun config e c) = .ok () c' := by
  by_cases hleft : (config.skipChannels || config.skipPosts) = true
  · rw [keptBy, if_pos hleft]
    exact ⟨[], begun config e c, List.nil_prefix, rfl, rfl⟩
  · rw [keptBy, if_neg hleft]
    obtain ⟨c', hrun, -⟩ := addAllPosts_reached config e.uploads
      (begun config e c).content.channels e.messages.entries (begun config e c)
    exact ⟨_, c', reached_prefix, rfl, hrun⟩

/-- A conversion that succeeds puts all its chapters there. -/
theorem keptBy_of_ok (h : convertWith config .backend e c = .ok () c') :
    keptBy config e c = continuation config e c := by
  unfold keptBy continuation
  by_cases hleft : (config.skipChannels || config.skipPosts) = true
  · rw [if_pos hleft, if_pos hleft]
  · rw [if_neg hleft, if_neg hleft]
    obtain ⟨hchannels, hposts⟩ := Bool.or_eq_false_iff.1 (Bool.eq_false_iff.2 hleft)
    rw [convertWith_backend_eq hchannels hposts] at h
    cases hrun : addAllPosts config e.uploads .backend (begun config e c).content.channels
        e.messages.entries (begun config e c) with
    | ok _ c'' => simp only [reached_eq hrun]
    | error error c'' =>
      rw [Running.bind_of_error hrun] at h
      cases h

/-- **What a conversion leaves in the backend** are the texts that were there, and those of
the chapters that it puts there. -/
theorem entries_convertWith (config : Config) (e : Export) (c : Conversion) :
    (Running.stateAfter (convertWith config .backend e) c).backend.entries =
      withTexts c.backend.entries (keptBy config e c) := by
  by_cases hleft : (config.skipChannels || config.skipPosts) = true
  · rw [Running.stateAfter, convertWith_of_skip hleft, keptBy, if_pos hleft, withTexts_nil]
    exact congrArg Backend.entries (backend_outset config e c)
  · obtain ⟨hchannels, hposts⟩ := Bool.or_eq_false_iff.1 (Bool.eq_false_iff.2 hleft)
    obtain ⟨c', hreached, hentries⟩ := addAllPosts_reached config e.uploads
      (begun config e c).content.channels e.messages.entries (begun config e c)
    rw [keptBy, if_neg hleft, ← backend_begun config e c,
      ← (continued_of_addAllPosts hreached).entries, ← hentries, Running.stateAfter,
      Running.stateAfter, convertWith_backend_eq hchannels hposts]
    -- what follows the posts does not touch the backend
    cases hrun : addAllPosts config e.uploads .backend (begun config e c).content.channels
        e.messages.entries (begun config e c) with
    | ok _ c'' =>
      rw [Running.bind_of_ok hrun]
      rfl
    | error error c'' => rw [Running.bind_of_error hrun]

/-! ## Runs -/

/-- Conversions have run before one backend, one after the other, each on its own settings
and export: the texts that the backend has now, and the thread that was put there last under
each key. At first no key was that of a thread. -/
inductive Runs (allowed : Config → Export → Conversion → Prop) :
    Table String → Table Post → Prop where
  | outset {texts : Table String} : (∀ name id, texts.find? (threadKey name id) = none) →
    Runs allowed texts Table.empty
  | run {texts : Table String} {flushed : Table Post} {config : Config} {e : Export}
    {c : Conversion} : Runs allowed texts flushed → c.backend.entries = texts →
    allowed config e c →
    Runs allowed (Running.stateAfter (convertWith config .backend e) c).backend.entries
      (flushed.insertAll ((keptBy config e c).flatMap Chapter.kept))

/-- Texts of threads stay texts of threads when chapters are put there. -/
theorem find?_withTexts_eq {key : String}
    (h : texts.find? key = (flushed.find? key).map fun post => post.json.text) :
    (withTexts texts chs).find? key =
      ((flushed.insertAll (chs.flatMap Chapter.kept)).find? key).map fun post =>
        post.json.text := by
  have hpairs : chs.flatMap Chapter.texts =
      (chs.flatMap Chapter.kept).map fun entry => (entry.1, entry.2.json.text) := by
    rw [List.map_flatMap]
    exact congrArg (fun f => chs.flatMap f) (funext Chapter.texts_eq)
  rw [withTexts, hpairs]
  exact Table.find?_insertAll_map (fun post : Post => post.json.text) h

/-- **The backend has the text of each thread that was put there**, and no other under the
key of a thread. -/
theorem Runs.find?_texts {allowed : Config → Export → Conversion → Prop}
    (h : Runs allowed texts flushed) (name id : String) :
    texts.find? (threadKey name id) =
      (flushed.find? (threadKey name id)).map fun post => post.json.text := by
  induction h with
  | outset hnone => exact hnone name id
  | run _ hentries _ ih =>
    rw [entries_convertWith, hentries]
    exact find?_withTexts_eq ih

/-! ## Exports of one channel -/

/-- Settings by which no files are copied. -/
def withoutFiles : Config := { Config.standard with skipAttachments := true }

/-- What the one user of an export says at a time, as a reply to a thread if one is named. -/
def saying (text timestamp thread : String) : Slack.Message :=
  { Slack.Message.blank with
    user := "U1", text := text, timestamp := timestamp, threadTimestamp := thread,
    type := "message" }

/-- An export of one user and one channel with these messages. -/
def oneChannel (messages : List Slack.Message) : Export :=
  { Export.empty with
    users := [⟨"U1", "ann", Slack.Profile.blank⟩]
    publicChannels :=
      [{ Slack.Channel.blank with id := "C1", name := "general", members := ["U1"] }]
    messages := Table.empty.insert "general" messages }

/-- The backend that an export has been put into. -/
def backendAfter (e : Export) (b : Backend) : Backend :=
  (Running.stateAfter (convertWith withoutFiles .backend e) (fresh "" Files.empty b)).backend

/-- The threads that have been put there last. -/
def flushedAfter (e : Export) (b : Backend) (flushed : Table Post) : Table Post :=
  flushed.insertAll
    ((keptBy withoutFiles e (fresh "" Files.empty b)).flatMap Chapter.kept)

theorem Runs.after {allowed : Config → Export → Conversion → Prop} {b : Backend}
    (h : Runs allowed b.entries flushed)
    (hallowed : allowed withoutFiles e (fresh "" Files.empty b)) :
    Runs allowed (backendAfter e b).entries (flushedAfter e b flushed) := .run h rfl hallowed

end Conversion

end ChatImport
