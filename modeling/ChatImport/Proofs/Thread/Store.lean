import ChatImport.Thread.Store
import ChatImport.Proofs.Running
import ChatImport.Proofs.Table
import ChatImport.Proofs.Thread.Keys
/-!
# What a store stands for

A store reaches its posts through handles, and behind it may stand a
backend. Seen from outside it is one map: `Threads.content` gives the post
of each thread, a post that the store knows of coming before the one that
the backend holds. This file says what each operation does to that map.

The posts behind the handles are those of the store's own threads as long
as no handle serves two threads (`Separate`), which every operation keeps.
`Still` is the frame: an operation that only asks, or that fails, moves
nothing but the count of the backend's calls and the log.
-/

namespace ChatImport

open Mattermost (Post)

/-! ## Roots behind handles -/

namespace Roots

variable {r : Roots} {handle other : RootHandle} {post : Post} {f : Post → Post}

@[simp] theorem size_add : (r.add post).posts.size = r.posts.size + 1 := by simp [add]

@[simp] theorem size_change : (r.change handle f).posts.size = r.posts.size := by simp [change]

@[simp] theorem get_add_next : (r.add post).get r.next = post := by simp [get, add, next]

theorem get_add_of_lt (h : handle < r.posts.size) : (r.add post).get handle = r.get handle := by
  simp [get, add, Array.getElem?_push, Nat.ne_of_lt h]

theorem get_change_self (h : handle < r.posts.size) :
    (r.change handle f).get handle = f (r.get handle) := by
  have hget : (r.posts.modify handle f)[handle]? = r.posts[handle]?.map f := by
    rw [Array.getElem?_modify, if_pos rfl]
  simp only [get, change, Array.getD_eq_getD_getElem?, hget, Array.getElem?_eq_getElem h,
    Option.map_some, Option.getD_some]

theorem get_change_of_ne (h : handle ≠ other) :
    (r.change handle f).get other = r.get other := by
  simp [get, change, Array.getElem?_modify, h]

end Roots

namespace Threads

variable {t t' : Threads} {id k channel : String} {post : Post} {handle : RootHandle}
variable {f : Post → Post} {error : Error}

/-! ## The one map -/

/-- The posts that the store knows of, by their threads. -/
def posts (t : Threads) : Table Post := t.store.handles.map t.roots.get

/-- What the backend holds for a thread, as it reads. -/
def kept (t : Threads) (id : String) : Option (Except Json.Problem Post) :=
  match t.store.keeping with
  | .memory => none
  | .backend channel =>
    (t.backend.entries.find? (threadKey channel id)).map (Json.readString Post.decoder)

/-- What a thread stands for: the post that the store knows of, or else what
the backend holds. -/
def content (t : Threads) (id : String) : Option (Except Json.Problem Post) :=
  match t.posts.find? id with
  | some post => some (.ok post)
  | none => t.kept id

/-- Each handle of the store is that of a root, and of one thread alone. -/
structure Separate (t : Threads) : Prop where
  /-- The handles are those of roots that have come up. -/
  lt_size {id : String} {handle : RootHandle} :
    t.store.handles.find? id = some handle → handle < t.roots.posts.size
  /-- No handle serves two threads. -/
  apart {id id' : String} {handle : RootHandle} :
    t.store.handles.find? id = some handle → t.store.handles.find? id' = some handle → id = id'

/-- Nothing has moved but the count of the backend's calls and the log. -/
structure Still (t t' : Threads) : Prop where
  roots : t'.roots = t.roots
  store : t'.store = t.store
  entries : t'.backend.entries = t.backend.entries
  outage : t'.backend.outage = t.backend.outage

/-- The store stands before the same backend, and there everything is as it
was. -/
structure SameBacking (t t' : Threads) : Prop where
  /-- The store puts its roots where it did. -/
  keeping : t'.store.keeping = t.store.keeping
  entries : t'.backend.entries = t.backend.entries
  outage : t'.backend.outage = t.backend.outage

/-- A call that the store has to make of its backend fails with an error. -/
def Refused (t : Threads) (call : String → Backend.Call) (error : Error) : Prop :=
  ∃ channel, t.store.keeping = .backend channel ∧ t.backend.failure? (call channel) = some error

/-- No call of the backend will ever fail, or there is none to make. -/
def Reliable (t : Threads) : Prop :=
  t.store.keeping = .memory ∨ ∀ number call, t.backend.outage number call = none

theorem find?_posts : t.posts.find? id = (t.store.handles.find? id).map t.roots.get :=
  Table.find?_map _

theorem find?_posts_of_handle (h : t.store.handles.find? id = some handle) :
    t.posts.find? id = some (t.roots.get handle) := by rw [find?_posts, h, Option.map_some]

theorem find?_posts_eq_none : t.posts.find? id = none ↔ t.store.handles.find? id = none := by
  rw [find?_posts, Option.map_eq_none_iff]

theorem values_posts : t.posts.values = t.store.changed.map t.roots.get := by
  simp [posts, Table.map, Table.values, ThreadStore.changed, List.map_map, Function.comp_def]

theorem content_of_post (h : t.posts.find? id = some post) : t.content id = some (.ok post) := by
  simp [content, h]

theorem content_of_none (h : t.posts.find? id = none) : t.content id = t.kept id := by
  simp [content, h]

/-- One post more or another one, over the same backend. -/
theorem content_of_insert (hposts : t'.posts = t.posts.insert id post)
    (hkept : t'.kept k = t.kept k) :
    t'.content k = if id = k then some (.ok post) else t.content k := by
  rw [content, content, hposts, hkept, Table.find?_insert]
  by_cases h : id = k <;> simp [h]

theorem kept_of_memory (h : t.store.keeping = .memory) : t.kept id = none := by simp [kept, h]

theorem content_of_memory (h : t.store.keeping = .memory) :
    t.content id = (t.posts.find? id).map .ok := by
  cases hf : t.posts.find? id with
  | none => rw [content_of_none hf, kept_of_memory h]; rfl
  | some post => rw [content_of_post hf]; rfl

/-- Before a backend a thread that the store does not know of stands for what its text
reads as. -/
theorem content_of_backend {channel : String} (hkeeping : t.store.keeping = .backend channel)
    (hunknown : t.posts.find? id = none) : t.content id =
      (t.backend.entries.find? (threadKey channel id)).map (Json.readString Post.decoder) := by
  simp only [content_of_none hunknown, kept, hkeeping]

/-! ## A store that has just been opened -/

theorem separate_opened (h : t.store.handles = Table.empty) : t.Separate :=
  ⟨fun hf => by simp [h] at hf, fun hf => by simp [h] at hf⟩

theorem posts_opened (h : t.store.handles = Table.empty) : t.posts = Table.empty := by
  rw [posts, h]
  rfl

/-! ## The frame -/

theorem Still.refl : Still t t := ⟨rfl, rfl, rfl, rfl⟩

theorem Still.trans {t'' : Threads} (h : Still t t') (h' : Still t' t'') : Still t t'' :=
  ⟨h'.roots.trans h.roots, h'.store.trans h.store, h'.entries.trans h.entries,
    h'.outage.trans h.outage⟩

theorem Still.posts (h : Still t t') : t'.posts = t.posts := by
  rw [Threads.posts, Threads.posts, h.roots, h.store]

theorem Still.sameBacking (h : Still t t') : SameBacking t t' :=
  ⟨by rw [h.store], h.entries, h.outage⟩

theorem SameBacking.refl : SameBacking t t := ⟨rfl, rfl, rfl⟩

theorem SameBacking.trans {t'' : Threads} (h : SameBacking t t') (h' : SameBacking t' t'') :
    SameBacking t t'' :=
  ⟨h'.keeping.trans h.keeping, h'.entries.trans h.entries, h'.outage.trans h.outage⟩

theorem SameBacking.kept (h : SameBacking t t') : t'.kept id = t.kept id := by
  rw [Threads.kept, Threads.kept, h.keeping, h.entries]

theorem SameBacking.reliable (h : SameBacking t t') (hr : t.Reliable) : t'.Reliable := by
  rwa [Reliable, h.keeping, h.outage]

theorem Still.content (h : Still t t') : t'.content id = t.content id := by
  rw [Threads.content, Threads.content, h.posts, h.sameBacking.kept]

theorem Separate.of_eq (h : t.Separate) (hroots : t'.roots = t.roots)
    (hstore : t'.store = t.store) : t'.Separate := by
  constructor
  · rw [hroots, hstore]
    exact h.lt_size
  · rw [hstore]
    exact h.apart

theorem Still.separate (h : Still t t') (hsep : t.Separate) : t'.Separate :=
  hsep.of_eq h.roots h.store

/-! ## Storing -/

/-- A stored root gets a handle of its own, and the others keep theirs. -/
theorem Separate.storing (h : t.Separate) : (t.storing id post).Separate := by
  have hfind : ∀ k, (t.storing id post).store.handles.find? k =
      if id = k then some t.roots.next else t.store.handles.find? k := fun _ => Table.find?_insert
  have hnew : ∀ {k}, t.store.handles.find? k ≠ some t.roots.next :=
    fun hf => Nat.lt_irrefl _ (h.lt_size hf)
  constructor
  · intro k handle hf
    have hsize : (t.storing id post).roots.posts.size = t.roots.posts.size + 1 := Roots.size_add
    rw [hfind] at hf
    split at hf
    · obtain rfl := Option.some.inj hf
      rw [hsize]
      exact Nat.lt_succ_self _
    · rw [hsize]
      exact Nat.lt_succ_of_lt (h.lt_size hf)
  · intro k k' handle hf hf'
    rw [hfind] at hf hf'
    -- the new handle is that of no thread yet, so two threads share none
    split at hf <;> split at hf'
    · next hk hk' => rw [← hk, ← hk']
    · exact absurd (by rw [hf', ← hf]) hnew
    · exact absurd (by rw [hf, ← hf']) hnew
    · exact h.apart hf hf'

/-- **Storing sets the post of one thread.** -/
theorem posts_storing (h : t.Separate) : (t.storing id post).posts = t.posts.insert id post := by
  refine Table.ext_find? fun k => ?_
  have hfind : (t.storing id post).store.handles.find? k =
      if id = k then some t.roots.next else t.store.handles.find? k := Table.find?_insert
  rw [find?_posts, hfind, Table.find?_insert]
  split
  · exact congrArg some Roots.get_add_next
  · rw [find?_posts]
    cases hf : t.store.handles.find? k with
    | none => rfl
    | some handle => exact congrArg some (Roots.get_add_of_lt (h.lt_size hf))

@[simp] theorem handles_storing :
    (t.storing id post).store.handles = t.store.handles.insert id t.roots.next := rfl

theorem sameBacking_storing : SameBacking t (t.storing id post) := ⟨rfl, rfl, rfl⟩

theorem content_storing (h : t.Separate) :
    (t.storing id post).content k = if id = k then some (.ok post) else t.content k :=
  content_of_insert (posts_storing h) sameBacking_storing.kept

/-! ## Changing a post through its handle -/

/-- The threads with the post behind a handle changed. -/
def changing (t : Threads) (handle : RootHandle) (f : Post → Post) : Threads :=
  { t with roots := t.roots.change handle f }

theorem Separate.changing (h : t.Separate) : (t.changing handle f).Separate :=
  ⟨fun hf => Nat.lt_of_lt_of_eq (h.lt_size hf) Roots.size_change.symm, h.apart⟩

/-- **A change through the handle of a thread is a change of its post.** -/
theorem posts_changing (h : t.Separate) (hf : t.store.handles.find? id = some handle) :
    (t.changing handle f).posts = t.posts.insert id (f (t.roots.get handle)) := by
  refine Table.ext_find? fun k => ?_
  rw [Table.find?_insert, find?_posts, find?_posts]
  change (t.store.handles.find? k).map (t.roots.change handle f).get = _
  split
  · next hk => rw [← hk, hf, Option.map_some, Roots.get_change_self (h.lt_size hf)]
  · next hk =>
    cases hk' : t.store.handles.find? k with
    | none => rfl
    | some other =>
      have hne : handle ≠ other := fun heq => hk (h.apart hf (heq ▸ hk'))
      rw [Option.map_some, Option.map_some, Roots.get_change_of_ne hne]

/-- **A change through a handle that no thread has any more is not seen.** -/
theorem posts_changing_of_stale (hf : ∀ id, t.store.handles.find? id ≠ some handle) :
    (t.changing handle f).posts = t.posts := by
  refine Table.ext_find? fun k => ?_
  rw [find?_posts, find?_posts]
  change (t.store.handles.find? k).map (t.roots.change handle f).get = _
  cases hk : t.store.handles.find? k with
  | none => rfl
  | some other =>
    have hne : handle ≠ other := fun heq => hf k (heq ▸ hk)
    rw [Option.map_some, Option.map_some, Roots.get_change_of_ne hne]

theorem sameBacking_changing : SameBacking t (t.changing handle f) := ⟨rfl, rfl, rfl⟩

theorem content_changing (h : t.Separate) (hf : t.store.handles.find? id = some handle) :
    (t.changing handle f).content k =
      if id = k then some (.ok (f (t.roots.get handle))) else t.content k :=
  content_of_insert (posts_changing h hf) sameBacking_changing.kept

/-! ## One lemma for each operation -/

/-- **A line of the log** moves nothing. -/
theorem exists_note (t : Threads) (line : LogLine) :
    ∃ t', note line t = .ok () t' ∧ Still t t' ∧ t'.backend = t.backend :=
  ⟨{ t with log := t.log.push line }, rfl, ⟨rfl, rfl, rfl, rfl⟩, rfl⟩

/-- **Asking** tells whether the thread stands for anything, unless the backend
refuses. -/
theorem has_cases (t : Threads) (id : String) :
    (∃ t', has id t = .ok (t.content id).isSome t' ∧ Still t t') ∨
      ∃ error t', has id t = .error error t' ∧ Still t t' ∧ t.posts.find? id = none ∧
        t.Refused (fun channel => .check (threadKey channel id)) error := by
  rw [has, Running.bind_get]
  cases hf : t.store.handles.find? id with
  | some handle =>
    rw [if_pos (Table.contains_iff.2 ⟨handle, hf⟩), content_of_post (find?_posts_of_handle hf)]
    exact Or.inl ⟨t, rfl, Still.refl⟩
  | none =>
    -- the store does not know the thread, so the backend is asked if there is one
    have hnone := find?_posts_eq_none.2 hf
    have hc : ¬ t.store.handles.contains id = true := by simp [Table.contains, hf]
    rw [if_neg hc, content_of_none hnone, kept]
    cases hk : t.store.keeping with
    | memory => exact Or.inl ⟨t, rfl, Still.refl⟩
    | backend channel =>
      simp only [onBackend, Backend.check]
      cases hfail : t.backend.failure? (.check (threadKey channel id)) with
      | some error => exact Or.inr ⟨error, _, rfl, ⟨rfl, rfl, rfl, rfl⟩, hnone, channel, hk, hfail⟩
      | none =>
        refine Or.inl ⟨{ t with backend := t.backend.counted }, ?_, rfl, rfl, rfl, rfl⟩
        simp only [Table.contains, Option.isSome_map]

/-- A thread has been found: its post is now known to the store, behind the
handle, and nothing else has changed. -/
structure Found (t : Threads) (id : String) (handle : RootHandle) (post : Post)
    (t' : Threads) : Prop where
  /-- The thread stands for the post. -/
  content : t.content id = some (.ok post)
  /-- The store knows the post. -/
  posts : t'.posts = t.posts.insert id post
  /-- The handle is that of the thread, and the other threads keep theirs. -/
  handles : t'.store.handles = t.store.handles.insert id handle
  /-- It is the handle that the thread had, or a new one if it had none. -/
  handle_eq : handle = (t.store.handles.find? id).getD t.roots.next
  /-- No root is lost. -/
  grows : t.roots.posts.size ≤ t'.roots.posts.size
  separate : t'.Separate
  sameBacking : SameBacking t t'

theorem Found.find?_handle {handle : RootHandle} (h : Found t id handle post t') :
    t'.store.handles.find? id = some handle := by rw [h.handles, Table.find?_insert_self]

theorem Found.get_handle {handle : RootHandle} (h : Found t id handle post t') :
    t'.roots.get handle = post := by
  have hfind := find?_posts_of_handle h.find?_handle
  rw [h.posts, Table.find?_insert_self] at hfind
  exact (Option.some.inj hfind).symm

/-- Handles that the store had stay where they were. -/
theorem Found.find?_of_handle {handle other : RootHandle} (h : Found t id handle post t')
    (hk : t.store.handles.find? k = some other) : t'.store.handles.find? k = some other := by
  rw [h.handles, Table.find?_insert]
  split
  · next hid => rw [h.handle_eq, hid, hk, Option.getD_some]
  · exact hk

/-- Finding a thread changes nothing of what threads stand for. -/
theorem Found.content_eq {handle : RootHandle} (h : Found t id handle post t') :
    t'.content k = t.content k := by
  rw [content_of_insert h.posts h.sameBacking.kept]
  split
  · next hk => rw [← hk, h.content]
  · rfl

/-- **Looking up** finds the post that the thread stands for, or that it stands
for nothing; it fails if the text of the backend does not read, or if the
backend refuses. -/
theorem lookup_cases (id : String) (hsep : t.Separate) :
    (∃ t', lookup id t = .ok none t' ∧ Still t t' ∧ t.content id = none) ∨
    (∃ handle post t', lookup id t = .ok (some handle) t' ∧ Found t id handle post t') ∨
    (∃ problem t', lookup id t = .error (.json problem) t' ∧ Still t t' ∧
      t.content id = some (.error problem)) ∨
    ∃ error t', lookup id t = .error error t' ∧ Still t t' ∧ t.posts.find? id = none ∧
      t.Refused (fun channel => .fetch (threadKey channel id)) error := by
  rw [lookup, Running.bind_get]
  cases hf : t.store.handles.find? id with
  | some handle =>
    -- known already: to insert what is there changes no table
    have hpost := find?_posts_of_handle hf
    refine Or.inr (Or.inl ⟨handle, t.roots.get handle, t, rfl, content_of_post hpost, ?_, ?_, ?_,
      Nat.le_refl _, hsep, SameBacking.refl⟩)
    · rw [Table.insert_of_find? hpost]
    · rw [Table.insert_of_find? hf]
    · rw [hf, Option.getD_some]
  | none =>
    have hnone := find?_posts_eq_none.2 hf
    rw [content_of_none hnone, kept]
    cases hk : t.store.keeping with
    | memory => exact Or.inl ⟨t, rfl, Still.refl, rfl⟩
    | backend channel =>
      simp only []
      cases hfail : t.backend.failure? (.fetch (threadKey channel id)) with
      | some error =>
        have hfetch : onBackend (Backend.fetch (threadKey channel id)) t =
            .error error { t with backend := t.backend.counted } := by
          simp only [onBackend, Backend.fetch, hfail]
        rw [Running.bind_of_error hfetch]
        exact Or.inr (Or.inr (Or.inr ⟨error, _, rfl, ⟨rfl, rfl, rfl, rfl⟩, hnone, channel, hk,
          hfail⟩))
      | none =>
        have hfetch : onBackend (Backend.fetch (threadKey channel id)) t =
            .ok (t.backend.entries.find? (threadKey channel id))
              { t with backend := t.backend.counted } := by
          simp only [onBackend, Backend.fetch, hfail]
        rw [Running.bind_of_ok hfetch]
        cases htext : t.backend.entries.find? (threadKey channel id) with
        | none => exact Or.inl ⟨_, rfl, ⟨rfl, rfl, rfl, rfl⟩, rfl⟩
        | some text =>
          rw [Option.map_some]
          -- from here on the state differs from the first by a call and a line of the log
          obtain ⟨u, hnote, hstill, -⟩ := exists_note { t with backend := t.backend.counted }
            (.debug ("Fetched thread " ++ threadKey channel id ++ " from the remote store"))
          have hu : Still t u := ⟨hstill.roots, hstill.store, hstill.entries, hstill.outage⟩
          simp only []
          rw [Running.bind_of_ok hnote]
          cases hread : Json.readString Post.decoder text with
          | error problem => exact Or.inr (Or.inr (Or.inl ⟨problem, u, rfl, hu, rfl⟩))
          | ok post =>
            have hsep' := hu.separate hsep
            refine Or.inr (Or.inl ⟨u.roots.next, post, u.storing id post, rfl, ?_, ?_, ?_, ?_, ?_,
              hsep'.storing, hu.sameBacking.trans sameBacking_storing⟩)
            · rw [content_of_none hnone, kept, hk]
              simp only [htext, Option.map_some, hread]
            · rw [posts_storing hsep', hu.posts]
            · rw [handles_storing, hu.store]
            · rw [hf, hu.roots, Option.getD_none]
            · rw [← hu.roots]
              exact Nat.le_of_lt (Nat.lt_of_lt_of_eq (Nat.lt_succ_self _) Roots.size_add.symm)

/-- Before a backend it is the text of an unknown thread that decides. -/
theorem lookup_of_backend {channel : String} (hsep : t.Separate)
    (hkeeping : t.store.keeping = .backend channel) (hunknown : t.posts.find? id = none) :
    (∃ t', lookup id t = .ok none t' ∧ t.backend.entries.find? (threadKey channel id) = none) ∨
    (∃ handle text t', lookup id t = .ok (some handle) t' ∧
      t.backend.entries.find? (threadKey channel id) = some text ∧
      Json.readString Post.decoder text = .ok (t'.roots.get handle)) ∨
    (∃ problem text t', lookup id t = .error (.json problem) t' ∧
      t.backend.entries.find? (threadKey channel id) = some text ∧
      Json.readString Post.decoder text = .error problem) ∨
    ∃ error t', lookup id t = .error error t' ∧
      t.backend.failure? (.fetch (threadKey channel id)) = some error := by
  have hcontent := content_of_backend hkeeping hunknown
  rcases lookup_cases id hsep with ⟨t', hrun, -, hnone⟩ | ⟨handle, post, t', hrun, hfound⟩ |
    ⟨problem, t', hrun, -, herror⟩ | ⟨error, t', hrun, -, -, channel', hchannel, hfail⟩
  · rw [hcontent, Option.map_eq_none_iff] at hnone
    exact Or.inl ⟨t', hrun, hnone⟩
  · have hpost := hfound.content
    rw [hcontent, Option.map_eq_some_iff] at hpost
    obtain ⟨text, htext, hread⟩ := hpost
    rw [← hfound.get_handle] at hread
    exact Or.inr (Or.inl ⟨handle, text, t', hrun, htext, hread⟩)
  · rw [hcontent, Option.map_eq_some_iff] at herror
    obtain ⟨text, htext, hread⟩ := herror
    exact Or.inr (Or.inr (Or.inl ⟨problem, text, t', hrun, htext, hread⟩))
  · rw [hkeeping] at hchannel
    cases hchannel
    exact Or.inr (Or.inr (Or.inr ⟨error, t', hrun, hfail⟩))

/-- What a flush leaves: the backend holds the text of every post that the
store knows of, under the key of its thread, and is as it was elsewhere. -/
structure Flushed (t : Threads) (channel : String) (t' : Threads) : Prop where
  roots : t'.roots = t.roots
  store : t'.store = t.store
  /-- The posts of the store are kept. -/
  written {id : String} {post : Post} : t.posts.find? id = some post →
    t'.backend.entries.find? (threadKey channel id) = some post.json.text
  /-- Nothing else is written. -/
  untouched {key : String} : (∀ id, t.posts.contains id = true → key ≠ threadKey channel id) →
    t'.backend.entries.find? key = t.backend.entries.find? key
  outage : t'.backend.outage = t.backend.outage

theorem Flushed.posts (h : Flushed t channel t') : t'.posts = t.posts := by
  rw [Threads.posts, Threads.posts, h.roots, h.store]

/-- Threads that the store does not know of are held as they were. -/
theorem Flushed.find?_of_none (h : Flushed t channel t') (hnone : t.posts.find? id = none) :
    t'.backend.entries.find? (threadKey channel id) =
      t.backend.entries.find? (threadKey channel id) := by
  refine h.untouched fun id' hc heq => ?_
  obtain ⟨post, hpost⟩ := Table.contains_iff.1 hc
  rw [← threadKey_inj heq, hnone] at hpost
  cases hpost

/-- A flush changes nothing of what threads stand for. -/
theorem Flushed.content (hk : t.store.keeping = .backend channel) (h : Flushed t channel t') :
    t'.content id = t.content id := by
  cases hf : t.posts.find? id with
  | some post => rw [content_of_post hf, content_of_post (h.posts ▸ hf)]
  | none =>
    rw [content_of_none hf, content_of_none (h.posts ▸ hf), kept, kept, h.store, hk]
    simp only [h.find?_of_none hf]

theorem Flushed.separate (h : Flushed t channel t') (hsep : t.Separate) : t'.Separate :=
  hsep.of_eq h.roots h.store

/-- The texts of a store have different keys. -/
theorem nodup_texts : ((t.store.texts t.roots channel).map (·.1)).Nodup := by
  have hkeys : (t.store.texts t.roots channel).map (·.1) =
      t.store.handles.keys.map (threadKey channel) := by
    simp [ThreadStore.texts, Table.keys, List.map_map, Function.comp_def]
  rw [hkeys]
  exact List.Pairwise.map _ (fun _ _ hne heq => hne (threadKey_inj heq)) Table.nodup_keys

theorem mem_texts {key text : String} : (key, text) ∈ t.store.texts t.roots channel ↔
    ∃ id post, t.posts.find? id = some post ∧ key = threadKey channel id ∧
      text = post.json.text := by
  rw [ThreadStore.texts, List.mem_map]
  constructor
  · rintro ⟨entry, hm, heq⟩
    obtain ⟨hkey, htext⟩ := Prod.mk.inj heq
    exact ⟨entry.1, t.roots.get entry.2, find?_posts_of_handle (Table.mem_entries_iff.1 hm),
      hkey.symm, htext.symm⟩
  · rintro ⟨id, post, hpost, rfl, rfl⟩
    rw [find?_posts, Option.map_eq_some_iff] at hpost
    obtain ⟨handle, hf, rfl⟩ := hpost
    exact ⟨(id, handle), Table.mem_entries_iff.2 hf, rfl⟩

/-- The texts of a store are those of its posts. -/
theorem texts_eq : t.store.texts t.roots channel =
    t.posts.entries.map fun entry => (threadKey channel entry.1, entry.2.json.text) := by
  simp [ThreadStore.texts, posts, Table.map, List.map_map, Function.comp_def]

/-- A flush inserts the texts of the store, and that is all. -/
theorem Flushed.entries_eq (h : Flushed t channel t') : t'.backend.entries =
    t.backend.entries.insertAll
      (t.posts.entries.map fun entry => (threadKey channel entry.1, entry.2.json.text)) := by
  rw [← texts_eq]
  refine Table.ext_find? fun key => ?_
  by_cases hkey : key ∈ (t.store.texts t.roots channel).map (·.1)
  · obtain ⟨⟨key, text⟩, hmem, rfl⟩ := List.mem_map.1 hkey
    rw [Table.find?_insertAll_of_mem nodup_texts hmem]
    obtain ⟨id, post, hpost, rfl, rfl⟩ := mem_texts.1 hmem
    exact h.written hpost
  · rw [Table.find?_insertAll_of_notMem hkey]
    refine h.untouched fun id hknown heq => hkey (List.mem_map.2 ?_)
    obtain ⟨post, hpost⟩ := Table.contains_iff.1 hknown
    exact ⟨(key, post.json.text), mem_texts.2 ⟨id, post, hpost, heq, rfl⟩, rfl⟩

/-- The backend with the texts of a store is what a flush leaves. -/
theorem flushed_of_entries (hroots : t'.roots = t.roots) (hstore : t'.store = t.store)
    (hentries : t'.backend.entries =
      t.backend.entries.insertAll (t.store.texts t.roots channel))
    (houtage : t'.backend.outage = t.backend.outage) : Flushed t channel t' where
  roots := hroots
  store := hstore
  written hpost := by
    rw [hentries]
    exact Table.find?_insertAll_of_mem nodup_texts (mem_texts.2 ⟨_, _, hpost, rfl, rfl⟩)
  untouched hkey := by
    rw [hentries]
    refine Table.find?_insertAll_of_notMem fun hm => ?_
    obtain ⟨entry, hentry, rfl⟩ := List.mem_map.1 hm
    obtain ⟨id, post, hpost, hid, -⟩ := mem_texts.1 (show (entry.1, entry.2) ∈ _ from hentry)
    exact hkey id (Table.contains_iff.2 ⟨post, hpost⟩) hid
  outage := houtage

/-- A store that forgets has nowhere to put its roots. -/
theorem flush_of_memory (h : t.store.keeping = .memory) : flush t = .ok () t := by
  rw [flush, Running.bind_get, h]
  rfl

@[simp] theorem length_texts : (t.store.texts t.roots channel).length = t.store.size := by
  simp [ThreadStore.texts, ThreadStore.size, Table.size]

/-- **Flushing** puts the posts of the store into the backend, all or none. If
there are none, the backend is not called. -/
theorem flush_cases (hk : t.store.keeping = .backend channel) :
    (∃ t', flush t = .ok () t' ∧ Flushed t channel t') ∨
      ∃ error t', flush t = .error error t' ∧ Still t t' ∧ t.store.size ≠ 0 ∧
        t.backend.failure? (.write t.store.size) = some error := by
  rw [flush, Running.bind_get, hk]
  simp only []
  by_cases hempty : (t.store.texts t.roots channel).isEmpty = true
  · rw [if_pos hempty]
    refine Or.inl ⟨t, rfl, flushed_of_entries rfl rfl ?_ rfl⟩
    rw [List.isEmpty_iff.1 hempty]
    rfl
  · rw [if_neg hempty]
    obtain ⟨u, hnote, hu, hb⟩ := exists_note t
      (.debug ("Writing " ++ Nat.repr (t.store.texts t.roots channel).length ++
        " threads of channel " ++ channel ++ " to the remote store"))
    rw [Running.bind_of_ok hnote]
    have hsize : t.store.size ≠ 0 := by
      intro h
      rw [← @length_texts t channel, List.length_eq_zero_iff] at h
      exact hempty (List.isEmpty_iff.2 h)
    simp only [onBackend, Backend.write, hb, length_texts]
    cases hfail : t.backend.failure? (.write t.store.size) with
    | some error => exact Or.inr ⟨error, _, rfl, ⟨hu.roots, hu.store, rfl, rfl⟩, hsize, rfl⟩
    | none => exact Or.inl ⟨_, rfl, flushed_of_entries hu.roots hu.store rfl rfl⟩

/-- A flush is not refused where no outage is planned. -/
theorem flush_of_reliable (hk : t.store.keeping = .backend channel)
    (hreliable : ∀ number call, t.backend.outage number call = none) :
    ∃ t', flush t = .ok () t' ∧ Flushed t channel t' := by
  rcases flush_cases hk with hok | ⟨error, t', -, -, -, hfail⟩
  · exact hok
  · simp [Backend.failure?, hreliable] at hfail

end Threads

end ChatImport
