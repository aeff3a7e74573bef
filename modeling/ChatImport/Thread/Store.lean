import ChatImport.Log
import ChatImport.Mattermost.Post
import ChatImport.Thread.Backend
/-!
# Thread stores

While a channel is assembled, the roots of its threads are kept in a store
under the identifiers of the threads. A root that has come to a store is
reached through a *handle*, and what is changed through one handle is seen
through every other handle of that root. A store either forgets
everything in the end, or it stands before a backend: then it fetches the
roots that an earlier run has put there, and `ThreadStore.flush` puts the
roots back.

What a store knows of is exactly the roots that were stored in it and the
roots that were looked up and found; these are its changed threads. To ask
whether a thread is there changes nothing.
-/

namespace ChatImport

open Mattermost (Post)

/-! ## Roots and handles -/

/-- The place of a root among all roots that have come up. -/
abbrev RootHandle := Nat

/-- The roots that have come up, in the order of their coming. -/
structure Roots where
  /-- The roots; the place of each is its handle. -/
  posts : Array Post
  deriving Inhabited

namespace Roots

/-- No roots. -/
def empty : Roots := ⟨#[]⟩

/-- The handle that the next root gets. -/
def next (r : Roots) : RootHandle := r.posts.size

/-- One root more. -/
def add (r : Roots) (post : Post) : Roots := ⟨r.posts.push post⟩

/-- The root behind a handle. -/
def get (r : Roots) (handle : RootHandle) : Post := r.posts.getD handle Post.blank

/-- The roots with the one behind a handle changed. -/
def change (r : Roots) (handle : RootHandle) (f : Post → Post) : Roots :=
  ⟨r.posts.modify handle f⟩

end Roots

/-! ## Stores -/

/-- What becomes of the roots of a store. -/
inductive Keeping where
  /-- They are forgotten with the store. -/
  | memory
  /-- They are put into the backend, under keys that begin with the name of a
  channel. -/
  | backend (channel : String)
  deriving DecidableEq, Inhabited

/-- The roots that a store knows of, by the identifiers of their threads. -/
structure ThreadStore where
  /-- What becomes of the roots. -/
  keeping : Keeping
  /-- The handles of the roots. -/
  handles : Table RootHandle
  deriving Inhabited

/-- The key of a thread in the backend. -/
def threadKey (channel id : String) : String := channel ++ ":" ++ id

/-- What the operations of a store work on. -/
structure Threads where
  /-- The roots that have come up. -/
  roots : Roots
  /-- The store. -/
  store : ThreadStore
  /-- The backend. -/
  backend : Backend
  /-- The log. -/
  log : Array LogLine
  deriving Inhabited

namespace ThreadStore

/-- A store that knows of nothing yet. -/
def opened (keeping : Keeping) : ThreadStore := ⟨keeping, Table.empty⟩

/-- The number of threads that the store knows of. -/
def size (s : ThreadStore) : Nat := s.handles.size

/-- The handles of the threads that were stored or found. -/
def changed (s : ThreadStore) : List RootHandle := s.handles.values

/-- The texts of the changed threads under their keys in the backend. -/
def texts (s : ThreadStore) (roots : Roots) (channel : String) : List (String × String) :=
  s.handles.entries.map fun entry =>
    (threadKey channel entry.1, (roots.get entry.2).json.text)

end ThreadStore

namespace Threads

/-- An operation of the backend. -/
def onBackend {α : Type} (act : EStateM Error Backend α) : EStateM Error Threads α := fun t =>
  match act t.backend with
  | .ok value backend => .ok value { t with backend := backend }
  | .error error backend => .error error { t with backend := backend }

/-- Writes a line into the log. -/
def note (line : LogLine) : EStateM Error Threads Unit :=
  modify fun t => { t with log := t.log.push line }

/-- A new root under the identifier of a thread, in the place of an older one. -/
def storing (t : Threads) (id : String) (post : Post) : Threads :=
  { t with
    roots := t.roots.add post
    store := { t.store with handles := t.store.handles.insert id t.roots.next } }

/-- Stores a root and gives its handle. -/
def put (id : String) (post : Post) : EStateM Error Threads RootHandle := fun t =>
  .ok t.roots.next (t.storing id post)

/-- Is there a root under the identifier? -/
def has (id : String) : EStateM Error Threads Bool := do
  let t ← get
  if t.store.handles.contains id then return true
  match t.store.keeping with
  | .memory => return false
  | .backend channel => onBackend (Backend.check (threadKey channel id))

/-- The handle of the root under the identifier, if there is one. -/
def lookup (id : String) : EStateM Error Threads (Option RootHandle) := do
  let t ← get
  match t.store.handles.find? id with
  | some handle => return some handle
  | none =>
    match t.store.keeping with
    | .memory => return none
    | .backend channel =>
      match ← onBackend (Backend.fetch (threadKey channel id)) with
      | none => return none
      | some text =>
        note (.debug ("Fetched thread " ++ threadKey channel id ++ " from the remote store"))
        match Json.readString Post.decoder text with
        | .error problem => throw (.json problem)
        | .ok post => return some (← put id post)

/-- Puts the changed threads into the backend, if there is one. -/
def flush : EStateM Error Threads Unit := do
  let t ← get
  match t.store.keeping with
  | .memory => return ()
  | .backend channel =>
    let texts := t.store.texts t.roots channel
    if texts.isEmpty then return ()
    note (.debug ("Writing " ++ Nat.repr texts.length ++ " threads of channel " ++ channel ++
      " to the remote store"))
    onBackend (Backend.write texts)

end Threads

/-! ## Where stores come from -/

/-- What opens a store for each channel. -/
inductive StoreSource where
  /-- Stores that forget. -/
  | memory
  /-- Stores before one backend. -/
  | backend
  deriving DecidableEq, Inhabited

namespace StoreSource

/-- The kind of the stores in words. -/
def words : StoreSource → String
  | .memory => "in-memory"
  | .backend => "cached (in-process backend)"

/-- Opens a store for a channel. -/
def storeFor (source : StoreSource) (channel : String) : ThreadStore :=
  match source with
  | .memory => .opened .memory
  | .backend => .opened (.backend channel)

end StoreSource

end ChatImport
