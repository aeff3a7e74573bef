import ChatImport.Proofs.Thread.Store
import Mathlib.Data.Set.Insert
/-!
# A store over a backend, as one map

Whoever works with a store asks it, looks threads up, stores roots, changes
posts through the handles that came back, asks for the changed threads and
flushes, in any order, and any call of the backend may fail. A `Shelf` is
what such a run amounts to when handles and backend are left out of sight:
one map from threads to posts, the set of changed threads, and of which
thread each handle is. `Shelf.after` says how an event moves it, and
`Shelf.Gives` which answer the map gives.

`history_refines` is the result: after every run the store and its shelf
agree, the next answer is the one that the shelf gives or a failure of the
backend, a failure changes nothing, and a flush writes exactly the changed
threads.
-/

namespace ChatImport

open Mattermost (Post)

/-! ## Operations and answers -/

/-- What is asked of a store. -/
inductive Operation where
  /-- Is there a root under the identifier? -/
  | has (id : String)
  /-- The root under the identifier. -/
  | lookup (id : String)
  /-- A root is stored. -/
  | put (id : String) (post : Post)
  /-- The post behind a handle is changed. -/
  | change (handle : RootHandle) (f : Post → Post)
  /-- The changed threads. -/
  | changed
  /-- The changed threads are put into the backend. -/
  | flush

/-- What comes back. -/
inductive Answer where
  /-- There is a root, or there is none. -/
  | known (yes : Bool)
  /-- No root was found. -/
  | missed
  /-- A root was found: its handle and the post behind it. -/
  | found (handle : RootHandle) (post : Post)
  /-- A root was stored behind a handle. -/
  | stored (handle : RootHandle)
  /-- The handles of the changed threads with the posts behind them. -/
  | threads (posts : List (RootHandle × Post))
  | done
  | failed (error : Error)

/-- The answer to a step, by the way in which it ends. -/
def Answer.ofResult {α : Type} (answer : α → Threads → Answer) :
    EStateM.Result Error Threads α → Answer × Threads
  | .ok value t => (answer value t, t)
  | .error error t => (.failed error, t)

/-- Carries an operation out. -/
def Operation.perform : Operation → Threads → Answer × Threads
  | .has id, t => Answer.ofResult (fun yes _ => .known yes) (Threads.has id t)
  | .lookup id, t =>
    Answer.ofResult (fun handle? t' => handle?.elim .missed fun handle =>
      .found handle (t'.roots.get handle)) (Threads.lookup id t)
  | .put id post, t => Answer.ofResult (fun handle _ => .stored handle) (Threads.put id post t)
  | .change handle f, t => (.done, t.changing handle f)
  | .changed, t => (.threads (t.store.changed.map fun handle => (handle, t.roots.get handle)), t)
  | .flush, t => Answer.ofResult (fun _ _ => .done) (Threads.flush t)

/-- An operation with its answer. -/
structure Event where
  operation : Operation
  answer : Answer

/-- The events of a run of operations, and where it leads. -/
def history : List Operation → Threads → List Event × Threads
  | [], t => ([], t)
  | op :: rest, t =>
    (⟨op, (op.perform t).1⟩ :: (history rest (op.perform t).2).1,
      (history rest (op.perform t).2).2)

/-- The event stores a root under the identifier. -/
def Event.Puts (event : Event) (id : String) : Prop :=
  ∃ post, event.operation = .put id post

/-- The event gives the handle out for the thread. -/
def Event.GivesHandle (event : Event) (id : String) (handle : RootHandle) : Prop :=
  event.Puts id ∧ event.answer = .stored handle ∨
    event.operation = .lookup id ∧ ∃ post, event.answer = .found handle post

/-- The event makes the thread a changed one: it stores a root there or finds
one. -/
def Event.Touches (event : Event) (id : String) : Prop := ∃ handle, event.GivesHandle id handle

/-! ## The shelf -/

/-- What a store is, with handles and backend out of sight. -/
structure Shelf where
  /-- What each thread stands for. -/
  content : String → Option (Except Json.Problem Post)
  /-- The changed threads. -/
  changed : Set String
  /-- The thread whose post is behind a handle, if it is still there. -/
  owner : RootHandle → Option String
  /-- The handles that have been given out. -/
  given : Set RootHandle

namespace Shelf

/-- The shelf of a store that has just been opened: each thread stands for
what the backend holds of it, as it reads. -/
def opened (channel : String) (backend : Backend) : Shelf where
  content id := (backend.entries.find? (threadKey channel id)).map (Json.readString Post.decoder)
  changed := ∅
  owner _ := none
  given := ∅

/-- The shelf with a post under a thread; the handles that the thread had
before are no longer its own. -/
def storing (s : Shelf) (id : String) (post : Post) (handle : RootHandle) : Shelf where
  content k := if id = k then some (.ok post) else s.content k
  changed := insert id s.changed
  owner h := if handle = h then some id else if s.owner h = some id then none else s.owner h
  given := insert handle s.given

/-- The shelf with a thread that was found behind a handle. -/
def finding (s : Shelf) (id : String) (handle : RootHandle) : Shelf :=
  { s with
    changed := insert id s.changed
    owner := fun h => if handle = h then some id else s.owner h
    given := insert handle s.given }

/-- The shelf with the post of a handle changed, if the handle is still that
of a thread. -/
def changing (s : Shelf) (handle : RootHandle) (f : Post → Post) : Shelf :=
  { s with content := fun k =>
      if s.owner handle = some k then (s.content k).map (Except.map f) else s.content k }

/-- The shelf after an event. To ask moves nothing, nor do a miss, a failure
and a flush. -/
def after (s : Shelf) (event : Event) : Shelf :=
  match event.operation, event.answer with
  | .lookup id, .found handle _ => s.finding id handle
  | .put id post, .stored handle => s.storing id post handle
  | .change handle f, _ => s.changing handle f
  | _, _ => s

/-- The shelf after the events of a run. -/
def afterAll (s : Shelf) (events : List Event) : Shelf := events.foldl after s

/-- The answer that the one map gives. A thread that has not been found before
gets a handle that was never given out. -/
def Gives (s : Shelf) : Operation → Answer → Prop
  | .has id, answer => answer = .known (s.content id).isSome
  | .lookup id, answer =>
    match s.content id with
    | none => answer = .missed
    | some (.error problem) => answer = .failed (.json problem)
    | some (.ok post) => ∃ handle, answer = .found handle post ∧
        (id ∈ s.changed → s.owner handle = some id) ∧ (id ∉ s.changed → handle ∉ s.given)
  | .put _ _, answer => ∃ handle, answer = .stored handle ∧ handle ∉ s.given
  | .change _ _, answer => answer = .done
  | .changed, answer => ∃ entries : List (String × RootHandle × Post),
      answer = .threads (entries.map (·.2)) ∧ (entries.map (·.1)).Nodup ∧
      (∀ id, id ∈ entries.map (·.1) ↔ id ∈ s.changed) ∧
      ∀ entry ∈ entries, s.owner entry.2.1 = some entry.1 ∧
        s.content entry.1 = some (.ok entry.2.2)
  | .flush, answer => answer = .done

/-- The call of the backend that an operation makes fails with the error. Only
for threads that are not changed ones is the backend asked. -/
def Refused (s : Shelf) (t : Threads) : Operation → Error → Prop
  | .has id, error => id ∉ s.changed ∧ t.Refused (fun channel => .check (threadKey channel id)) error
  | .lookup id, error =>
    id ∉ s.changed ∧ t.Refused (fun channel => .fetch (threadKey channel id)) error
  | .flush, error => s.changed.Nonempty ∧ t.Refused (fun _ => .write t.store.size) error
  | .put _ _, _ | .change _ _, _ | .changed, _ => False

/-! ## Agreement -/

/-- The shelf is what a store before the backend amounts to. -/
structure Agrees (channel : String) (s : Shelf) (t : Threads) : Prop where
  /-- The store stands before the backend. -/
  keeping : t.store.keeping = .backend channel
  /-- The threads stand for the same. -/
  content (id : String) : t.content id = s.content id
  /-- The store knows of the changed threads. -/
  changed (id : String) : t.store.handles.contains id = true ↔ id ∈ s.changed
  /-- The handles are those of their threads. -/
  owner (handle : RootHandle) (id : String) :
    s.owner handle = some id ↔ t.store.handles.find? id = some handle
  /-- The handles that were given out are those of roots that have come up. -/
  given {handle : RootHandle} : handle ∈ s.given → handle < t.roots.posts.size
  separate : t.Separate

variable {channel : String} {s : Shelf} {t t' : Threads}

theorem agrees_opened (channel : String) (roots : Roots) (backend : Backend)
    (log : Array LogLine) :
    (opened channel backend).Agrees channel
      ⟨roots, ThreadStore.opened (.backend channel), backend, log⟩ := by
  have hempty : ∀ id, (ThreadStore.opened (.backend channel)).handles.find? id = none :=
    fun _ => Table.find?_empty
  refine ⟨rfl, fun id => ?_, fun id => ?_, fun handle id => ?_, ?_, Threads.separate_opened rfl⟩
  · exact Threads.content_of_none (Threads.find?_posts_eq_none.2 (hempty id))
  · simp [Table.contains, hempty, opened]
  · simp [hempty, opened]
  · intro handle hg
    exact absurd hg (Set.notMem_empty _)

/-- The shelf stays as it is as long as roots, store and threads do. -/
theorem Agrees.of_eq (h : s.Agrees channel t) (hroots : t'.roots = t.roots)
    (hstore : t'.store = t.store) (hcontent : ∀ id, t'.content id = t.content id) :
    s.Agrees channel t' where
  keeping := by rw [hstore, h.keeping]
  content id := by rw [hcontent, h.content]
  changed id := by rw [hstore, h.changed]
  owner handle id := by rw [hstore, h.owner]
  given hg := by
    rw [hroots]
    exact h.given hg
  separate := h.separate.of_eq hroots hstore

theorem Agrees.still (h : s.Agrees channel t) (hs : t.Still t') : s.Agrees channel t' :=
  h.of_eq hs.roots hs.store fun _ => hs.content

theorem Agrees.flushed (h : s.Agrees channel t) (hf : t.Flushed channel t') :
    s.Agrees channel t' :=
  h.of_eq hf.roots hf.store fun _ => hf.content h.keeping

/-- One changed thread more. -/
theorem Agrees.contains_insert_iff {id k : String} {handle : RootHandle}
    (h : s.Agrees channel t) :
    (t.store.handles.insert id handle).contains k = true ↔ k ∈ insert id s.changed := by
  rw [Table.contains_insert, Bool.or_eq_true, h.changed, Set.mem_insert_iff, beq_iff_eq, eq_comm]

theorem Agrees.finding {id : String} {handle : RootHandle} {post : Post}
    (h : s.Agrees channel t) (hf : t.Found id handle post t') :
    (s.finding id handle).Agrees channel t' where
  keeping := by rw [hf.sameBacking.keeping, h.keeping]
  content k := by
    rw [hf.content_eq, h.content]
    rfl
  changed k := by
    rw [hf.handles]
    exact h.contains_insert_iff
  owner other k := by
    change (if handle = other then some id else s.owner other) = some k ↔ _
    by_cases hother : handle = other
    · rw [if_pos hother, Option.some.injEq]
      constructor
      · rintro rfl
        rw [← hother]
        exact hf.find?_handle
      · intro hk
        exact hf.separate.apart hf.find?_handle (hother ▸ hk)
    · rw [if_neg hother, h.owner, hf.handles, Table.find?_insert]
      split
      · next hid =>
        -- the thread is found behind the handle it had, so it had no other
        subst hid
        constructor
        · intro hk
          exact absurd (by rw [hf.handle_eq, hk, Option.getD_some]) hother
        · intro hk
          exact absurd (Option.some.inj hk) hother
      · rfl
  given hg := by
    rcases Set.mem_insert_iff.1 hg with rfl | hg
    · exact hf.separate.lt_size hf.find?_handle
    · exact Nat.lt_of_lt_of_le (h.given hg) hf.grows
  separate := hf.separate

theorem Agrees.storing {id : String} {post : Post} (h : s.Agrees channel t) :
    (s.storing id post t.roots.next).Agrees channel (t.storing id post) where
  keeping := h.keeping
  content k := by
    rw [Threads.content_storing h.separate, h.content]
    rfl
  changed k := h.contains_insert_iff
  owner other k := by
    change (if t.roots.next = other then some id
      else if s.owner other = some id then none else s.owner other) = some k ↔ _
    rw [Threads.handles_storing, Table.find?_insert]
    by_cases hother : t.roots.next = other
    · rw [if_pos hother, Option.some.injEq]
      -- the next handle is that of no thread yet
      have hnew : t.store.handles.find? k ≠ some other := fun hk =>
        Nat.lt_irrefl _ (Nat.lt_of_lt_of_eq (h.separate.lt_size hk) hother)
      split
      · next hid => simp [hid, hother]
      · next hid => simp [hid, hnew]
    · rw [if_neg hother]
      by_cases hid : id = k
      · subst hid
        rw [if_pos rfl, Option.some.injEq]
        refine ⟨fun hk => ?_, fun hk => absurd hk hother⟩
        split at hk
        · cases hk
        · next hne => exact absurd hk hne
      · rw [if_neg hid, ← h.owner]
        split
        · next hk =>
          rw [hk, Option.some.injEq]
          exact ⟨(nomatch ·), fun hn => absurd hn hid⟩
        · rfl
  given hg := by
    have hsize : (t.storing id post).roots.posts.size = t.roots.posts.size + 1 := Roots.size_add
    rw [hsize]
    rcases Set.mem_insert_iff.1 hg with rfl | hg
    · exact Nat.lt_succ_self _
    · exact Nat.lt_succ_of_lt (h.given hg)
  separate := h.separate.storing

theorem Agrees.changing {handle : RootHandle} {f : Post → Post} (h : s.Agrees channel t) :
    (s.changing handle f).Agrees channel (t.changing handle f) where
  keeping := h.keeping
  content k := by
    change _ = if s.owner handle = some k then (s.content k).map (Except.map f) else s.content k
    cases howner : s.owner handle with
    | none =>
      -- a stale handle: some root still stands behind it, but that of no thread
      have hstale : ∀ id, t.store.handles.find? id ≠ some handle := fun id hid => by
        rw [← h.owner, howner] at hid
        cases hid
      rw [if_neg (by simp), ← h.content, Threads.content, Threads.content,
        Threads.posts_changing_of_stale hstale, Threads.sameBacking_changing.kept]
    | some id =>
      have hid := (h.owner handle id).1 howner
      rw [Threads.content_changing h.separate hid, ← h.content]
      by_cases hk : id = k
      · subst hk
        rw [if_pos rfl, if_pos rfl, Threads.content_of_post (Threads.find?_posts_of_handle hid)]
        rfl
      · rw [if_neg hk, if_neg (fun heq => hk (Option.some.inj heq))]
  changed k := h.changed k
  owner other k := h.owner other k
  given hg := Nat.lt_of_lt_of_eq (h.given hg) Roots.size_change.symm
  separate := h.separate.changing

theorem Agrees.notMem_of_none {id : String} (h : s.Agrees channel t)
    (hnone : t.posts.find? id = none) : id ∉ s.changed := by
  rw [← h.changed, Table.contains, Threads.find?_posts_eq_none.1 hnone]
  simp

/-- A changed thread is found behind its handle. -/
theorem Agrees.owner_of_mem {id : String} {handle : RootHandle} {post : Post}
    (h : s.Agrees channel t) (hf : t.Found id handle post t') (hmem : id ∈ s.changed) :
    s.owner handle = some id := by
  obtain ⟨known, hknown⟩ := Table.contains_iff.1 ((h.changed id).2 hmem)
  rw [hf.handle_eq, hknown, Option.getD_some]
  exact (h.owner known id).2 hknown

/-- Another thread is found behind a new handle. -/
theorem Agrees.notMem_given {id : String} {handle : RootHandle} {post : Post}
    (h : s.Agrees channel t) (hf : t.Found id handle post t') (hnot : id ∉ s.changed) :
    handle ∉ s.given := by
  intro hg
  cases hfind : t.store.handles.find? id with
  | some known => exact hnot ((h.changed id).1 (Table.contains_iff.2 ⟨known, hfind⟩))
  | none =>
    rw [hf.handle_eq, hfind, Option.getD_none] at hg
    exact Nat.lt_irrefl _ (h.given hg)

theorem Agrees.nonempty_of_size (h : s.Agrees channel t) (hsize : t.store.size ≠ 0) :
    s.changed.Nonempty := by
  obtain ⟨entry, hentry⟩ := List.exists_mem_of_length_pos (Nat.pos_of_ne_zero hsize)
  exact ⟨entry.1, (h.changed _).1 (Table.contains_iff.2 ⟨entry.2, Table.mem_entries_iff.1 hentry⟩)⟩

/-! ## One operation -/

/-- What the shelf says of an operation: its answer, where it leads, and what
becomes of the backend. -/
structure Advances (channel : String) (s : Shelf) (t : Threads) (op : Operation)
    (answer : Answer) (t' : Threads) : Prop where
  /-- The answer is the one that the shelf gives, or a call of the backend
  fails. -/
  answer_eq : s.Gives op answer ∨ ∃ error, answer = .failed error ∧ s.Refused t op error
  /-- The shelf moves with the store. -/
  agrees : (s.after ⟨op, answer⟩).Agrees channel t'
  /-- A handle stays that of its thread, unless a root is stored there. -/
  keeps {handle : RootHandle} {id : String} : s.owner handle = some id →
    (∀ post, op ≠ .put id post) → (s.after ⟨op, answer⟩).owner handle = some id
  /-- A failure leaves the posts, the changed threads and the backend as they
  were. -/
  unmoved (error : Error) : answer = .failed error →
    t'.posts = t.posts ∧ t'.store = t.store ∧ t'.backend.entries = t.backend.entries
  /-- Only a flush writes. -/
  unwritten : op ≠ .flush → t'.backend.entries = t.backend.entries
  /-- A flush that is done has put what each changed thread stands for under
  the key of the thread. -/
  written : op = .flush → answer = .done → ∀ id ∈ s.changed, ∃ post,
    s.content id = some (.ok post) ∧
      t'.backend.entries.find? (threadKey channel id) = some post.json.text
  /-- No other key is written. -/
  untouched (key : String) : (∀ id ∈ s.changed, key ≠ threadKey channel id) →
    t'.backend.entries.find? key = t.backend.entries.find? key

variable {op : Operation} {answer : Answer}

/-- An operation after which everything is as it was. -/
theorem advances_of_still (h : s.Agrees channel t) (hs : t.Still t')
    (hanswer : s.Gives op answer ∨ ∃ error, answer = .failed error ∧ s.Refused t op error)
    (hafter : s.after ⟨op, answer⟩ = s) (hflush : op = .flush → answer ≠ .done) :
    s.Advances channel t op answer t' where
  answer_eq := hanswer
  agrees := by
    rw [hafter]
    exact h.still hs
  keeps howner _ := by rw [hafter, howner]
  unmoved _ _ := ⟨hs.posts, hs.store, hs.entries⟩
  unwritten _ := hs.entries
  written hop hdone := absurd hdone (hflush hop)
  untouched _ _ := by rw [hs.entries]

/-- An operation that leaves the backend alone and does not fail. -/
theorem advances_of_entries (hentries : t'.backend.entries = t.backend.entries)
    (hanswer : s.Gives op answer) (hagrees : (s.after ⟨op, answer⟩).Agrees channel t')
    (hkeeps : ∀ {handle id}, s.owner handle = some id → (∀ post, op ≠ .put id post) →
      (s.after ⟨op, answer⟩).owner handle = some id)
    (hok : ∀ error, answer ≠ .failed error) (hflush : op ≠ .flush) :
    s.Advances channel t op answer t' where
  answer_eq := Or.inl hanswer
  agrees := hagrees
  keeps := hkeeps
  unmoved error hfail := absurd hfail (hok error)
  unwritten _ := hentries
  written hop _ := absurd hop hflush
  untouched _ _ := by rw [hentries]

theorem advances_has (h : s.Agrees channel t) (id : String) :
    s.Advances channel t (.has id) ((Operation.has id).perform t).1
      ((Operation.has id).perform t).2 := by
  rcases Threads.has_cases t id with ⟨t', hrun, hs⟩ | ⟨error, t', hrun, hs, hnone, hfail⟩
  · have hperf : (Operation.has id).perform t = (.known (t.content id).isSome, t') := by
      rw [Operation.perform, hrun, Answer.ofResult]
    rw [hperf]
    refine advances_of_still h hs (Or.inl ?_) rfl (fun hop => nomatch hop)
    rw [h.content]
    rfl
  · have hperf : (Operation.has id).perform t = (.failed error, t') := by
      rw [Operation.perform, hrun, Answer.ofResult]
    rw [hperf]
    exact advances_of_still h hs (Or.inr ⟨error, rfl, h.notMem_of_none hnone, hfail⟩) rfl
      (fun hop => nomatch hop)

theorem advances_lookup (h : s.Agrees channel t) (id : String) :
    s.Advances channel t (.lookup id) ((Operation.lookup id).perform t).1
      ((Operation.lookup id).perform t).2 := by
  rcases Threads.lookup_cases id h.separate with ⟨t', hrun, hs, hcontent⟩ |
    ⟨handle, post, t', hrun, hfound⟩ | ⟨problem, t', hrun, hs, hcontent⟩ |
    ⟨error, t', hrun, hs, hnone, hfail⟩
  · have hperf : (Operation.lookup id).perform t = (.missed, t') := by
      rw [Operation.perform, hrun, Answer.ofResult, Option.elim_none]
    rw [hperf]
    refine advances_of_still h hs (Or.inl ?_) rfl (fun hop => nomatch hop)
    rw [h.content] at hcontent
    simp only [Gives, hcontent]
  · have hperf : (Operation.lookup id).perform t = (.found handle post, t') := by
      rw [Operation.perform, hrun, Answer.ofResult, Option.elim_some, hfound.get_handle]
    rw [hperf]
    refine advances_of_entries hfound.sameBacking.entries ?_ (h.finding hfound) ?_
      (fun _ hfail => nomatch hfail) (fun hop => nomatch hop)
    · have hcontent := hfound.content
      rw [h.content] at hcontent
      simp only [Gives, hcontent]
      exact ⟨handle, rfl, fun hmem => h.owner_of_mem hfound hmem,
        fun hnot => h.notMem_given hfound hnot⟩
    · intro other k hother _
      exact ((h.finding hfound).owner other k).2
        (hfound.find?_of_handle ((h.owner other k).1 hother))
  · have hperf : (Operation.lookup id).perform t = (.failed (.json problem), t') := by
      rw [Operation.perform, hrun, Answer.ofResult]
    rw [hperf]
    refine advances_of_still h hs (Or.inl ?_) rfl (fun hop => nomatch hop)
    rw [h.content] at hcontent
    simp only [Gives, hcontent]
  · have hperf : (Operation.lookup id).perform t = (.failed error, t') := by
      rw [Operation.perform, hrun, Answer.ofResult]
    rw [hperf]
    exact advances_of_still h hs (Or.inr ⟨error, rfl, h.notMem_of_none hnone, hfail⟩) rfl
      (fun hop => nomatch hop)

theorem advances_put (h : s.Agrees channel t) (id : String) (post : Post) :
    s.Advances channel t (.put id post) ((Operation.put id post).perform t).1
      ((Operation.put id post).perform t).2 := by
  have hperf : (Operation.put id post).perform t =
      (.stored t.roots.next, t.storing id post) := rfl
  rw [hperf]
  refine advances_of_entries rfl ⟨t.roots.next, rfl, fun hg => ?_⟩ h.storing ?_
    (fun _ hfail => nomatch hfail) (fun hop => nomatch hop)
  · exact Nat.lt_irrefl _ (h.given hg)
  · intro other k hother hput
    have hne : id ≠ k := fun heq => hput post (heq ▸ rfl)
    refine (h.storing.owner other k).2 ?_
    rw [Threads.handles_storing, Table.find?_insert_of_ne hne]
    exact (h.owner other k).1 hother

theorem advances_change (h : s.Agrees channel t) (handle : RootHandle) (f : Post → Post) :
    s.Advances channel t (.change handle f) ((Operation.change handle f).perform t).1
      ((Operation.change handle f).perform t).2 :=
  advances_of_entries rfl rfl h.changing (fun howner _ => howner) (fun _ hfail => nomatch hfail)
    (fun hop => nomatch hop)

theorem advances_changed (h : s.Agrees channel t) :
    s.Advances channel t .changed (Operation.changed.perform t).1
      (Operation.changed.perform t).2 := by
  refine advances_of_still h Threads.Still.refl (Or.inl ?_) rfl (fun hop => nomatch hop)
  refine ⟨t.store.handles.entries.map fun entry => (entry.1, entry.2, t.roots.get entry.2),
    ?_, ?_, fun id => ?_, ?_⟩
  · simp only [Operation.perform, ThreadStore.changed, Table.values, List.map_map,
      Function.comp_def]
  · rw [List.map_map]
    exact Table.nodup_keys
  · rw [List.map_map, ← h.changed]
    exact Table.mem_keys_iff
  · intro entry hentry
    obtain ⟨⟨id, handle⟩, hmem, rfl⟩ := List.mem_map.1 hentry
    have hfind := Table.mem_entries_iff.1 hmem
    refine ⟨(h.owner handle id).2 hfind, ?_⟩
    rw [← h.content, Threads.content_of_post (Threads.find?_posts_of_handle hfind)]

theorem advances_flush (h : s.Agrees channel t) :
    s.Advances channel t .flush (Operation.flush.perform t).1 (Operation.flush.perform t).2 := by
  rcases Threads.flush_cases h.keeping with ⟨t', hrun, hf⟩ | ⟨error, t', hrun, hs, hsize, hfail⟩
  · have hperf : Operation.flush.perform t = (.done, t') := by
      rw [Operation.perform, hrun, Answer.ofResult]
    rw [hperf]
    refine ⟨Or.inl rfl, h.flushed hf, fun howner _ => howner, fun _ => (nomatch ·),
      fun hop => absurd rfl hop, fun _ _ id hid => ?_, fun key hkey => ?_⟩
    · obtain ⟨handle, hhandle⟩ := Table.contains_iff.1 ((h.changed id).2 hid)
      have hpost := Threads.find?_posts_of_handle hhandle
      exact ⟨_, by rw [← h.content, Threads.content_of_post hpost], hf.written hpost⟩
    · refine hf.untouched fun id hid => hkey id ((h.changed id).1 ?_)
      obtain ⟨post, hpost⟩ := Table.contains_iff.1 hid
      rw [Threads.find?_posts, Option.map_eq_some_iff] at hpost
      obtain ⟨handle, hhandle, -⟩ := hpost
      exact Table.contains_iff.2 ⟨handle, hhandle⟩
  · have hperf : Operation.flush.perform t = (.failed error, t') := by
      rw [Operation.perform, hrun, Answer.ofResult]
    rw [hperf]
    refine advances_of_still h hs (Or.inr ⟨error, rfl, ?_, channel, h.keeping, hfail⟩) rfl
      (fun _ hdone => nomatch hdone)
    exact h.nonempty_of_size hsize

/-- **Every operation is one of the shelf.** -/
theorem advances (h : s.Agrees channel t) (op : Operation) :
    s.Advances channel t op (op.perform t).1 (op.perform t).2 := by
  cases op with
  | has id => exact advances_has h id
  | lookup id => exact advances_lookup h id
  | put id post => exact advances_put h id post
  | change handle f => exact advances_change h handle f
  | changed => exact advances_changed h
  | flush => exact advances_flush h

/-! ## Runs -/

theorem after_changed (event : Event) (id : String) :
    id ∈ (s.after event).changed ↔ id ∈ s.changed ∨ event.Touches id := by
  obtain ⟨op, answer⟩ := event
  cases op <;> cases answer <;>
    simp [after, finding, storing, changing, Event.Touches, Event.GivesHandle, Event.Puts,
      Set.mem_insert_iff, or_comm, eq_comm]

theorem after_owner {event : Event} {id : String} {handle : RootHandle}
    (h : event.GivesHandle id handle) : (s.after event).owner handle = some id := by
  obtain ⟨op, answer⟩ := event
  rcases h with ⟨⟨post, hop⟩, hanswer⟩ | ⟨hop, post, hanswer⟩
  · simp only at hop hanswer
    subst hop hanswer
    exact if_pos rfl
  · simp only at hop hanswer
    subst hop hanswer
    exact if_pos rfl

/-- **The changed threads are those stored or found.** -/
theorem afterAll_changed (events : List Event) (id : String) :
    id ∈ (s.afterAll events).changed ↔ id ∈ s.changed ∨ ∃ event ∈ events, event.Touches id := by
  induction events generalizing s with
  | nil => simp [afterAll]
  | cons event rest ih =>
    change id ∈ ((s.after event).afterAll rest).changed ↔ _
    rw [ih, after_changed, or_assoc]
    simp only [List.mem_cons, exists_eq_or_imp]

/-- A run of operations is one of the shelf. -/
theorem Agrees.history (h : s.Agrees channel t) (ops : List Operation) :
    (s.afterAll (history ops t).1).Agrees channel (history ops t).2 := by
  induction ops generalizing s t with
  | nil => exact h
  | cons op rest ih => exact ih (advances h op).agrees

theorem Agrees.history_keeps (h : s.Agrees channel t) (ops : List Operation) {id : String}
    {handle : RootHandle} (howner : s.owner handle = some id)
    (hput : ∀ event ∈ (ChatImport.history ops t).1, ¬ event.Puts id) :
    (s.afterAll (ChatImport.history ops t).1).owner handle = some id := by
  induction ops generalizing s t with
  | nil => exact howner
  | cons op rest ih =>
    have hadv := advances h op
    have hop : ∀ post, op ≠ .put id post := fun post hop =>
      hput _ List.mem_cons_self ⟨post, hop⟩
    exact ih hadv.agrees (hadv.keeps howner hop) fun event hmem =>
      hput event (List.mem_cons_of_mem _ hmem)

/-- **A handle is that of the thread it was given for**, as long as nothing is
stored there again. -/
theorem Agrees.history_owner (h : s.Agrees channel t) (ops : List Operation)
    {before later : List Event} {event : Event} {id : String} {handle : RootHandle}
    (hsplit : (ChatImport.history ops t).1 = before ++ event :: later)
    (hgives : event.GivesHandle id handle) (hlater : ∀ e ∈ later, ¬ e.Puts id) :
    (s.afterAll (ChatImport.history ops t).1).owner handle = some id := by
  induction ops generalizing s t before with
  | nil => cases before <;> cases hsplit
  | cons op rest ih =>
    have hagrees := (advances h op).agrees
    -- the handle is given out by the first operation, or later in the run
    cases before with
    | nil =>
      obtain ⟨rfl, rfl⟩ := List.cons.inj hsplit
      exact hagrees.history_keeps rest (after_owner hgives) hlater
    | cons first before' =>
      obtain ⟨-, hrest⟩ := List.cons.inj hsplit
      exact ih hagrees hrest

/-- **A store before a backend is one map from threads to posts.** Take any
run of operations on a store that has just been opened, whatever the backend
holds and whichever of its calls fail. Then the store agrees with the shelf
of the run; its changed threads are exactly those that were stored or found;
a handle is that of its thread as long as nothing is stored there again; and
whatever is asked next is answered by the shelf. -/
theorem history_refines (channel : String) (roots : Roots) (backend : Backend)
    (log : Array LogLine) (ops : List Operation) :
    let start : Threads := ⟨roots, ThreadStore.opened (.backend channel), backend, log⟩
    let events := (ChatImport.history ops start).1
    let t := (ChatImport.history ops start).2
    let s := (opened channel backend).afterAll events
    s.Agrees channel t ∧
      (∀ id, id ∈ s.changed ↔ ∃ event ∈ events, event.Touches id) ∧
      (∀ before event later id handle, events = before ++ event :: later →
        event.GivesHandle id handle → (∀ e ∈ later, ¬ e.Puts id) →
        s.owner handle = some id) ∧
      ∀ op, s.Advances channel t op (op.perform t).1 (op.perform t).2 := by
  intro start events t s
  have hstart : (opened channel backend).Agrees channel start :=
    agrees_opened channel roots backend log
  have hagrees : s.Agrees channel t := hstart.history ops
  refine ⟨hagrees, fun id => ?_, ?_, advances hagrees⟩
  · have hchanged := afterAll_changed (s := opened channel backend) events id
    rw [hchanged]
    exact or_iff_right (Set.notMem_empty id)
  · intro before event later id handle hsplit hgives hlater
    exact hstart.history_owner ops hsplit hgives hlater

end Shelf

end ChatImport
