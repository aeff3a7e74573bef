import ChatImport.Proofs.Thread.Operations
import Mathlib.Order.Monotone.Defs
/-!
# Stores beside each other

Each channel has a store of its own, but all stores stand before one backend. This file
says whether whoever works with one of them is disturbed by what is done at another:
`beside` is what a store answers while a neighbour is at work, and the question is
whether that is what it answers when it is alone.

What an operation comes to depends on the backend in two ways only: by the texts under
the keys of its own threads, and by whether the call that it makes is refused
(`Operation.Works`). A neighbour writes nothing but the keys of its own threads, and the
calls that it makes put off those of the store: alone, the store makes the calls that
are left in the same order. So two stores do not disturb each other if their channels
have no key in common (`KeysApart.independent`), and if they have one, a flush of
the one is seen through the other: `independent_iff` says for which names that is so.
-/

namespace ChatImport

open Mattermost (Post)

/-! ## Two stores over one backend -/

/-- The operation names none but threads of these identifiers. -/
def Operation.Among (ids : Set String) : Operation → Prop
  | .has id | .lookup id | .put id _ => id ∈ ids
  | .change _ _ | .changed | .flush => True

/-- A turn at two stores: one of them carries an operation out, or its neighbour does. -/
inductive Turn where
  | own (op : Operation)
  | next (op : Operation)

namespace Turn

/-- The operation that is carried out. -/
def operation : Turn → Operation
  | .own op | .next op => op

end Turn

/-- The operations of the store itself. -/
def ownOperations : List Turn → List Operation
  | [] => []
  | .own op :: rest => op :: ownOperations rest
  | .next _ :: rest => ownOperations rest

/-- The events of a store with a neighbour. Each of the two finds the backend as the other
has left it. -/
def beside : List Turn → Threads → Threads → List Event
  | [], _, _ => []
  | .own op :: rest, t, u =>
    ⟨op, (op.perform t).1⟩ ::
      beside rest (op.perform t).2 { u with backend := (op.perform t).2.backend }
  | .next op :: rest, t, u =>
    beside rest { t with backend := (op.perform u).2.backend } (op.perform u).2

/-- The store of a channel that has just been opened before a backend. -/
def Threads.opened (channel : String) (backend : Backend) : Threads :=
  ⟨Roots.empty, ThreadStore.opened (.backend channel), backend, #[]⟩

/-- The backend with its outages in other places: a call fails as the one does that has its
place. -/
def Backend.outagesAt (place : Nat → Nat) (b : Backend) : Backend :=
  { b with outage := fun number => b.outage (place number) }

/-- The store of the left channel is not disturbed by that of the right one: whatever the
backend has, whichever of its calls fail, and whatever is done at the two stores in turn
with threads of these identifiers, the left store answers as it does alone over the same
backend. Alone it makes its calls earlier, since none of the neighbour come before them;
`place` tells where each of them was among the calls of both stores, and there it failed
or did not fail as it does now. -/
def Independent (ids : Set String) (left right : String) : Prop :=
  ∀ (backend : Backend) (turns : List Turn), (∀ turn ∈ turns, turn.operation.Among ids) →
    ∃ place : Nat → Nat, StrictMono place ∧
      beside turns (Threads.opened left backend) (Threads.opened right backend) =
        (history (ownOperations turns)
          (Threads.opened left (backend.outagesAt place))).1

/-! ## What an operation has of the backend -/

namespace Backend

variable {b b' : Backend} {call : Call}

/-- One call has been made. -/
structure Called (b b' : Backend) : Prop where
  calls : b'.calls = b.calls + 1
  outage : b'.outage = b.outage

theorem failure?_congr (h : b.outage b.calls = b'.outage b'.calls) :
    b.failure? call = b'.failure? call := by rw [failure?, failure?, h]

end Backend

/-- Texts that are the same for threads of a channel. -/
def AgreeOn (ids : Set String) (channel : String) (texts texts' : Table String) : Prop :=
  ∀ id ∈ ids, texts.find? (threadKey channel id) = texts'.find? (threadKey channel id)

namespace Threads

variable {t t' : Threads} {id channel : String} {ids : Set String}

/-- The store knows of none but threads of these identifiers. -/
def Knows (ids : Set String) (t : Threads) : Prop :=
  ∀ id, t.store.handles.contains id = true → id ∈ ids

/-- The store stands where it did, and has come to know of none but threads of these
identifiers. -/
structure Moved (ids : Set String) (t t' : Threads) : Prop where
  keeping : t'.store.keeping = t.store.keeping
  knows : t.Knows ids → t'.Knows ids

theorem moved_of_store (h : t'.store = t.store) : Moved ids t t' where
  keeping := by rw [h]
  knows hknows := by
    rw [Knows, h]
    exact hknows

/-- What backend there is does not matter. -/
theorem Moved.before (h : Moved ids t t') (b : Backend) : Moved ids t { t' with backend := b } :=
  ⟨h.keeping, h.knows⟩

theorem moved_storing {post : Post} (hid : id ∈ ids) : Moved ids t (t.storing id post) where
  keeping := rfl
  knows hknows k hk := by
    rw [handles_storing, Table.contains_insert, Bool.or_eq_true, beq_iff_eq] at hk
    rcases hk with rfl | hk
    · exact hid
    · exact hknows k hk

/-- What is made of the text that a thread may have. -/
def taking (channel id : String) (text? : Option String) :
    EStateM Error Threads (Option RootHandle) := do
  match text? with
  | none => return none
  | some text =>
    note (.debug ("Fetched thread " ++ threadKey channel id ++ " from the remote store"))
    match Json.readString Post.decoder text with
    | .error problem => throw (.json problem)
    | .ok post => return some (← put id post)

/-- The answer to a look-up, by the way in which it ends. -/
def found (result : EStateM.Result Error Threads (Option RootHandle)) : Answer × Threads :=
  Answer.ofResult (fun handle? t => handle?.elim .missed fun handle =>
    .found handle (t.roots.get handle)) result

/-- The text of a thread is taken in the same way whatever the backend is. -/
theorem exists_taking (channel : String) (hid : id ∈ ids) (t : Threads)
    (text? : Option String) : ∃ answer t', Moved ids t t' ∧ ∀ b,
      found (taking channel id text? { t with backend := b }) =
        (answer, { t' with backend := b }) := by
  cases text? with
  | none => exact ⟨.missed, t, moved_of_store rfl, fun b => rfl⟩
  | some text =>
    let line : LogLine :=
      .debug ("Fetched thread " ++ threadKey channel id ++ " from the remote store")
    let u : Threads := { t with log := t.log.push line }
    unfold taking
    cases hread : Json.readString Post.decoder text with
    | error problem =>
      refine ⟨.failed (.json problem), u, moved_of_store rfl, fun b => ?_⟩
      simp only [hread]
      rfl
    | ok post =>
      have hmoved := @moved_storing u id ids post hid
      refine ⟨.found u.roots.next ((u.storing id post).roots.get u.roots.next), u.storing id post,
        ⟨hmoved.keeping, hmoved.knows⟩, fun b => ?_⟩
      simp only [hread]
      rfl

/-- A thread that the store does not know of is fetched, and then its text is taken. -/
theorem found_lookup_of_unknown (hk : t.store.keeping = .backend channel)
    (h : t.store.handles.find? id = none) :
    found (lookup id t) = match t.backend.failure? (.fetch (threadKey channel id)) with
      | some error => (.failed error, { t with backend := t.backend.counted })
      | none => found (taking channel id (t.backend.entries.find? (threadKey channel id))
          { t with backend := t.backend.counted }) := by
  rw [lookup, Running.bind_get, h, hk]
  simp only []
  cases hfail : t.backend.failure? (.fetch (threadKey channel id)) with
  | some error =>
    have hfetch : onBackend (Backend.fetch (threadKey channel id)) t =
        .error error { t with backend := t.backend.counted } := by
      simp only [onBackend, Backend.fetch, hfail]
    rw [Running.bind_of_error hfetch]
    rfl
  | none =>
    have hfetch : onBackend (Backend.fetch (threadKey channel id)) t =
        .ok (t.backend.entries.find? (threadKey channel id))
          { t with backend := t.backend.counted } := by
      simp only [onBackend, Backend.fetch, hfail]
    rw [Running.bind_of_ok hfetch]
    rfl

end Threads

namespace Operation

variable {ids : Set String} {channel id : String} {t : Threads} {op : Operation}

/-- What an operation on threads of these identifiers does at the store of a channel before
a backend, whichever backend that is. -/
inductive Works (ids : Set String) (channel : String) (op : Operation) (t : Threads) : Prop where
  /-- It leaves the backend alone. -/
  | silent (answer : Answer) (t' : Threads) (hmoved : Threads.Moved ids t t')
      (hperform : ∀ b, op.perform { t with backend := b } = (answer, { t' with backend := b }))
  /-- It calls the backend once. Unless the call is refused, it goes on as the texts of the
  threads tell, and what it writes are texts of threads that the store knows of. -/
  | asking (call : Backend.Call) (refused : Threads) (granted : Table String → Answer × Threads)
      (texts : List (String × String)) (hrefused : Threads.Moved ids t refused)
      (hgranted : ∀ kept, Threads.Moved ids t (granted kept).2)
      (hagree : ∀ kept kept', AgreeOn ids channel kept kept' → granted kept = granted kept')
      (htexts : t.Knows ids → ∀ text ∈ texts, ∃ id ∈ ids, text.1 = threadKey channel id)
      (hperform : ∀ b, op.perform { t with backend := b } = match b.failure? call with
        | some error => (.failed error, { refused with backend := b.counted })
        | none => ((granted b.entries).1,
            { (granted b.entries).2 with backend := b.counted.keeping texts }))

theorem works_has (hk : t.store.keeping = .backend channel) (hid : id ∈ ids) :
    (has id).Works ids channel t := by
  by_cases hknown : t.store.handles.contains id = true
  · refine .silent (.known true) t (Threads.moved_of_store rfl) fun b => ?_
    rw [perform, Threads.has, Running.bind_get, if_pos hknown]
    rfl
  · refine .asking (.check (threadKey channel id)) t
      (fun kept => (.known (kept.contains (threadKey channel id)), t)) []
      (Threads.moved_of_store rfl) (fun _ => Threads.moved_of_store rfl)
      (fun kept kept' hagree => ?_) (fun _ text hmem => absurd hmem List.not_mem_nil)
      fun b => ?_
    · rw [Table.contains, Table.contains, hagree id hid]
    · rw [perform, Threads.has, Running.bind_get, if_neg hknown, hk]
      simp only [Threads.onBackend, Backend.check]
      cases b.failure? (.check (threadKey channel id)) <;> rfl

theorem works_lookup (hk : t.store.keeping = .backend channel) (hid : id ∈ ids) :
    (lookup id).Works ids channel t := by
  cases hfind : t.store.handles.find? id with
  | some handle =>
    refine .silent (.found handle (t.roots.get handle)) t (Threads.moved_of_store rfl)
      fun b => ?_
    rw [perform, Threads.lookup, Running.bind_get, hfind]
    rfl
  | none =>
    refine .asking (.fetch (threadKey channel id)) t
      (fun kept => Threads.found (Threads.taking channel id (kept.find? (threadKey channel id)) t))
      [] (Threads.moved_of_store rfl) (fun kept => ?_) (fun kept kept' hagree => ?_)
      (fun _ text hmem => absurd hmem List.not_mem_nil) fun b => ?_
    · obtain ⟨answer, t', hmoved, hrun⟩ :=
        Threads.exists_taking channel hid t (kept.find? (threadKey channel id))
      rw [hrun t.backend]
      exact hmoved.before t.backend
    · simp only [hagree id hid]
    · obtain ⟨answer, t', hmoved, hrun⟩ :=
        Threads.exists_taking channel hid t (b.entries.find? (threadKey channel id))
      -- what the text comes to before the backend at hand it comes to before any
      have hself : Threads.found (Threads.taking channel id
          (b.entries.find? (threadKey channel id)) t) =
            (answer, { t' with backend := t.backend }) := hrun t.backend
      rw [hself]
      refine (@Threads.found_lookup_of_unknown { t with backend := b } id channel hk hfind).trans ?_
      cases b.failure? (.fetch (threadKey channel id)) with
      | some error => rfl
      | none => exact hrun b.counted

theorem works_flush (hk : t.store.keeping = .backend channel) :
    flush.Works ids channel t := by
  by_cases hempty : (t.store.texts t.roots channel).isEmpty = true
  · refine .silent .done t (Threads.moved_of_store rfl) fun b => ?_
    rw [perform, Threads.flush, Running.bind_get, hk]
    simp only [hempty, if_true]
    rfl
  · let line : LogLine := .debug ("Writing " ++
      Nat.repr (t.store.texts t.roots channel).length ++ " threads of channel " ++ channel ++
      " to the remote store")
    let u : Threads := { t with log := t.log.push line }
    refine .asking (.write (t.store.texts t.roots channel).length) u (fun _ => (.done, u))
      (t.store.texts t.roots channel) (Threads.moved_of_store rfl)
      (fun _ => Threads.moved_of_store rfl) (fun _ _ _ => rfl) (fun hknows text hmem => ?_)
      fun b => ?_
    · obtain ⟨id, post, hpost, hkey, -⟩ := Threads.mem_texts.1 hmem
      refine ⟨id, hknows id ?_, hkey⟩
      rw [Threads.find?_posts, Option.map_eq_some_iff] at hpost
      obtain ⟨handle, hhandle, -⟩ := hpost
      exact Table.contains_iff.2 ⟨handle, hhandle⟩
    · have hnote : Threads.note line { t with backend := b } = .ok () { u with backend := b } := rfl
      rw [perform, Threads.flush, Running.bind_get, hk]
      simp only []
      rw [if_neg hempty, Running.bind_of_ok hnote]
      simp only [Threads.onBackend, Backend.write]
      cases b.failure? (.write (t.store.texts t.roots channel).length) <;> rfl

/-- **Every operation at a store before a backend** leaves the backend alone, or calls it
once. -/
theorem works (hk : t.store.keeping = .backend channel) (hop : op.Among ids) :
    op.Works ids channel t := by
  cases op with
  | has id => exact works_has hk hop
  | lookup id => exact works_lookup hk hop
  | put id post =>
    exact .silent (.stored t.roots.next) (t.storing id post) (Threads.moved_storing hop)
      fun _ => rfl
  | change handle f =>
    exact .silent .done (t.changing handle f) (Threads.moved_of_store rfl) fun _ => rfl
  | changed =>
    exact .silent (.threads (t.store.changed.map fun handle => (handle, t.roots.get handle))) t
      (Threads.moved_of_store rfl) fun _ => rfl
  | flush => exact works_flush hk

/-- What an operation at the store of a channel has changed in the end. -/
structure Leaves (ids : Set String) (channel : String) (t t' : Threads) : Prop extends
    Threads.Moved ids t t' where
  outage : t'.backend.outage = t.backend.outage
  calls : t.backend.calls ≤ t'.backend.calls
  /-- Only keys of threads that the store knows of are written. -/
  untouched {key : String} : t.Knows ids → (∀ id ∈ ids, key ≠ threadKey channel id) →
    t'.backend.entries.find? key = t.backend.entries.find? key

theorem Works.leaves (h : op.Works ids channel t) : Leaves ids channel t (op.perform t).2 := by
  cases h with
  | silent answer t' hmoved hperform =>
    have hself : op.perform t = (answer, { t' with backend := t.backend }) := hperform t.backend
    rw [hself]
    exact ⟨hmoved.before _, rfl, Nat.le_refl _, fun _ _ => rfl⟩
  | asking call refused granted texts hrefused hgranted hagree htexts hperform =>
    have hself : op.perform t = _ := hperform t.backend
    cases hfail : t.backend.failure? call with
    | some error =>
      rw [hfail] at hself
      rw [hself]
      exact ⟨hrefused.before _, rfl, Nat.le_succ _, fun _ _ => rfl⟩
    | none =>
      rw [hfail] at hself
      rw [hself]
      have hmoved := hgranted t.backend.entries
      refine ⟨hmoved.before _, rfl, Nat.le_succ _, fun {key} hknows hkey => ?_⟩
      -- the keys that are written are those of threads
      refine Table.find?_insertAll_of_notMem fun hmem => ?_
      obtain ⟨text, htext, rfl⟩ := List.mem_map.1 hmem
      obtain ⟨id, hid, heq⟩ := htexts hknows text htext
      exact hkey id hid heq

/-- **Over another backend** an operation comes to the same, as long as that has the same texts
for the threads and refuses the call if and only if this one does. -/
theorem Works.over (h : op.Works ids channel t) :
    ((op.perform t).2.backend = t.backend ∧ ∀ b, op.perform { t with backend := b } =
      ((op.perform t).1, { (op.perform t).2 with backend := b })) ∨
    (t.backend.Called (op.perform t).2.backend ∧ ∀ b,
      b.outage b.calls = t.backend.outage t.backend.calls →
      AgreeOn ids channel b.entries t.backend.entries →
      ∃ b', b.Called b' ∧ AgreeOn ids channel b'.entries (op.perform t).2.backend.entries ∧
        op.perform { t with backend := b } =
          ((op.perform t).1, { (op.perform t).2 with backend := b' })) := by
  cases h with
  | silent answer t' hmoved hperform =>
    have hself : op.perform t = (answer, { t' with backend := t.backend }) := hperform t.backend
    rw [hself]
    exact Or.inl ⟨rfl, hperform⟩
  | asking call refused granted texts hrefused hgranted hagree htexts hperform =>
    have hself : op.perform t = _ := hperform t.backend
    refine Or.inr ?_
    cases hfail : t.backend.failure? call with
    | some error =>
      rw [hfail] at hself
      rw [hself]
      refine ⟨⟨rfl, rfl⟩, fun b hcall hsame => ⟨b.counted, ⟨rfl, rfl⟩, hsame, ?_⟩⟩
      rw [hperform, Backend.failure?_congr hcall, hfail]
    | none =>
      rw [hfail] at hself
      rw [hself]
      refine ⟨⟨rfl, rfl⟩, fun b hcall hsame => ⟨b.counted.keeping texts, ⟨rfl, rfl⟩, ?_, ?_⟩⟩
      · exact fun id hid => Table.find?_insertAll_congr (hsame id hid)
      · rw [hperform, Backend.failure?_congr hcall, hfail, hagree _ _ hsame]

end Operation

/-! ## A store with a neighbour -/

section Beside

variable {ids : Set String} {left right : String} {rest turns : List Turn} {t u : Threads}
variable {op : Operation} {calls : Nat} {place : Nat → Nat}

/-- Calls that a store makes alone have places among those that it makes with its neighbour,
and if they fail as those do the store answers as it does with its neighbour. What was
called before does not matter: the calls are those from `calls` on. -/
structure Placed (ids : Set String) (left : String) (turns : List Turn) (t u : Threads)
    (calls : Nat) (place : Nat → Nat) : Prop where
  mono {n m : Nat} : calls ≤ n → n < m → place n < place m
  first : t.backend.calls ≤ place calls
  alone (b : Backend) : b.calls = calls → AgreeOn ids left b.entries t.backend.entries →
    (∀ n, calls ≤ n → b.outage n = t.backend.outage (place n)) →
    beside turns t u = (history (ownOperations turns) { t with backend := b }).1

theorem placed_nil : Placed ids left [] t u calls fun n => t.backend.calls + n where
  mono _ hlt := Nat.add_lt_add_left hlt _
  first := Nat.le_add_right _ _
  alone _ _ _ _ := rfl

/-- The neighbour makes calls, but the texts of the store are as they were. -/
theorem Placed.next (hapart : KeysApart ids left right) (hshared : u.backend = t.backend)
    (hknows : u.Knows ids) (hleaves : Operation.Leaves ids right u (op.perform u).2)
    (h : Placed ids left rest { t with backend := (op.perform u).2.backend } (op.perform u).2
      calls place) : Placed ids left (.next op :: rest) t u calls place where
  mono := h.mono
  first := Nat.le_trans (hshared ▸ hleaves.calls) h.first
  alone b hb hagree houtage := by
    refine h.alone b hb (fun id hid => ?_) fun n hn => ?_
    · have hkept := hleaves.untouched hknows fun id' hid' => hapart id hid id' hid'
      rw [hagree id hid, ← hshared]
      exact hkept.symm
    · rw [houtage n hn, ← hshared]
      exact congrFun hleaves.outage.symm _

/-- An operation that leaves the backend alone takes no place. -/
theorem Placed.silent (hsilent : (op.perform t).2.backend = t.backend)
    (hover : ∀ b, op.perform { t with backend := b } =
      ((op.perform t).1, { (op.perform t).2 with backend := b }))
    (h : Placed ids left rest (op.perform t).2 { u with backend := (op.perform t).2.backend }
      calls place) : Placed ids left (.own op :: rest) t u calls place where
  mono := h.mono
  first := Nat.le_trans (Nat.le_of_eq (congrArg Backend.calls hsilent.symm)) h.first
  alone b hb hagree houtage := by
    have htail := h.alone b hb (hsilent ▸ hagree) (hsilent ▸ houtage)
    rw [beside, ownOperations, history, hover b, htail]

/-- An operation that calls the backend takes the first place. -/
theorem Placed.called (hcalled : t.backend.Called (op.perform t).2.backend)
    (hover : ∀ b : Backend, b.outage b.calls = t.backend.outage t.backend.calls →
      AgreeOn ids left b.entries t.backend.entries →
      ∃ b', b.Called b' ∧ AgreeOn ids left b'.entries (op.perform t).2.backend.entries ∧
        op.perform { t with backend := b } =
          ((op.perform t).1, { (op.perform t).2 with backend := b' }))
    (h : Placed ids left rest (op.perform t).2 { u with backend := (op.perform t).2.backend }
      (calls + 1) place) : Placed ids left (.own op :: rest) t u calls
        fun n => if n = calls then t.backend.calls else place n where
  mono {n m} hn hlt := by
    have hfirst := h.first
    rw [hcalled.calls] at hfirst
    have hm : m ≠ calls := by omega
    simp only [if_neg hm]
    split
    · -- all other calls have later places
      rcases Nat.eq_or_lt_of_le (show calls + 1 ≤ m by omega) with rfl | hlater
      · exact hfirst
      · exact Nat.lt_trans hfirst (h.mono (Nat.le_refl _) hlater)
    · exact h.mono (by omega) hlt
  first := Nat.le_of_eq (if_pos rfl).symm
  alone b hb hagree houtage := by
    have hcall : b.outage b.calls = t.backend.outage t.backend.calls := by
      rw [hb, houtage calls (Nat.le_refl _), if_pos rfl]
    obtain ⟨b', hcalled', hagree', hperform⟩ := hover b hcall hagree
    have hcalls : b'.calls = calls + 1 := by rw [hcalled'.calls, hb]
    have htail := h.alone b' hcalls hagree' fun n hn => by
      have hne : n ≠ calls := by omega
      rw [hcalled'.outage, hcalled.outage, houtage n (by omega), if_neg hne]
    rw [beside, ownOperations, history, hperform, htail]

/-- **The calls of a store have places among those of the store and its neighbour**, from
whatever the two have come to. -/
theorem exists_placed (hapart : KeysApart ids left right) (turns : List Turn)
    (hturns : ∀ turn ∈ turns, turn.operation.Among ids)
    (ht : t.store.keeping = .backend left) (hu : u.store.keeping = .backend right)
    (hknows : u.Knows ids) (hshared : u.backend = t.backend) (calls : Nat) :
    ∃ place, Placed ids left turns t u calls place := by
  induction turns generalizing t u calls with
  | nil => exact ⟨_, placed_nil⟩
  | cons turn rest ih =>
    have hrest : ∀ turn ∈ rest, turn.operation.Among ids :=
      fun turn hmem => hturns turn (List.mem_cons_of_mem _ hmem)
    cases turn with
    | next op =>
      have hop : op.Among ids := hturns _ List.mem_cons_self
      have hleaves := (Operation.works hu hop).leaves
      obtain ⟨place, hplaced⟩ := @ih { t with backend := (op.perform u).2.backend }
        (op.perform u).2 hrest ht (hleaves.keeping.trans hu) (hleaves.knows hknows) rfl calls
      exact ⟨place, hplaced.next hapart hshared hknows hleaves⟩
    | own op =>
      have hop : op.Among ids := hturns _ List.mem_cons_self
      have hworks := Operation.works ht hop
      have hrun := @ih (op.perform t).2 { u with backend := (op.perform t).2.backend } hrest
        (hworks.leaves.keeping.trans ht) hu hknows rfl
      rcases hworks.over with ⟨hsilent, hover⟩ | ⟨hcalled, hover⟩
      · obtain ⟨place, hplaced⟩ := hrun calls
        exact ⟨place, hplaced.silent hsilent hover⟩
      · obtain ⟨place, hplaced⟩ := hrun (calls + 1)
        exact ⟨_, hplaced.called hcalled hover⟩

/-- The calls that were made before have the places that they had. -/
theorem Placed.strictMono (h : Placed ids left turns t u calls place)
    (hcalls : calls ≤ t.backend.calls) :
    StrictMono fun n => if n < calls then n else place n := by
  intro n m hlt
  have hfirst : calls ≤ place calls := Nat.le_trans hcalls h.first
  have hlate : ∀ k, calls ≤ k → calls ≤ place k := by
    intro k hk
    rcases Nat.eq_or_lt_of_le hk with rfl | hlater
    · exact hfirst
    · exact Nat.le_trans hfirst (Nat.le_of_lt (h.mono (Nat.le_refl _) hlater))
  by_cases hn : n < calls
  · by_cases hm : m < calls
    · simpa only [if_pos hn, if_pos hm] using hlt
    · have hplace := hlate m (by omega)
      simp only [if_pos hn, if_neg hm]
      omega
  · have hm : ¬ m < calls := by omega
    simp only [if_neg hn, if_neg hm]
    exact h.mono (by omega) hlt

/-- **Channels without a common key do not disturb each other.** -/
theorem KeysApart.independent (h : KeysApart ids left right) : Independent ids left right := by
  intro backend turns hturns
  have hknows : (Threads.opened right backend).Knows ids := fun id hid => nomatch hid
  obtain ⟨place, hplaced⟩ := exists_placed h turns hturns (t := Threads.opened left backend)
    rfl rfl hknows rfl backend.calls
  refine ⟨_, hplaced.strictMono (Nat.le_refl _), ?_⟩
  refine hplaced.alone (backend.outagesAt _) rfl (fun _ _ => rfl) fun n hn => ?_
  have hlate : ¬ n < backend.calls := by omega
  simp only [Backend.outagesAt, if_neg hlate]
  rfl

/-! ## Channels with a common key -/

/-- Where no call is refused, a new store knows of a thread if there is a text under its key. -/
theorem perform_has_opened {channel id : String} {b : Backend}
    (hreliable : ∀ number call, b.outage number call = none) :
    ((Operation.has id).perform (Threads.opened channel b)).1 =
      .known (b.entries.find? (threadKey channel id)).isSome := by
  have hunknown : (Threads.opened channel b).posts.find? id = none := by
    rw [Threads.posts_opened rfl, Table.find?_empty]
  rcases Threads.has_cases (Threads.opened channel b) id with
    ⟨t', hrun, -⟩ | ⟨error, t', -, -, -, name, -, hfail⟩
  · rw [Operation.perform, hrun, Answer.ofResult, Threads.content_of_backend rfl hunknown,
      Option.isSome_map]
    rfl
  · have hnone : b.failure? (.check (threadKey name id)) = none := by
      rw [Backend.failure?, hreliable, Option.map_none]
    rw [Threads.opened, hnone] at hfail
    cases hfail

/-- **A common key is enough to be disturbed**: what the neighbour puts there and flushes is
found. -/
theorem Independent.keysApart (h : Independent ids left right) : KeysApart ids left right := by
  intro id hid id' hid' hkey
  let turns : List Turn := [.next (.put id' Post.blank), .next .flush, .own (.has id)]
  have hturns : ∀ turn ∈ turns, turn.operation.Among ids := by
    simp only [turns, List.forall_mem_cons]
    exact ⟨hid', trivial, hid, fun _ hmem => nomatch hmem⟩
  obtain ⟨place, -, hsame⟩ := h Backend.empty turns hturns
  -- the neighbour puts the text of a post under the key
  let u := (Threads.opened right Backend.empty).storing id' Post.blank
  have hpost : u.posts.find? id' = some Post.blank := by
    rw [Threads.posts_storing (Threads.separate_opened rfl), Table.find?_insert_self]
  obtain ⟨u', hflush, hflushed⟩ :=
    @Threads.flush_of_reliable u right rfl fun number call => rfl
  have hwritten := hflushed.written hpost
  have hoccupied : beside turns (Threads.opened left Backend.empty)
      (Threads.opened right Backend.empty) = [⟨.has id, .known true⟩] := by
    have hreliable : ∀ number call, u'.backend.outage number call = none :=
      fun number call => congrFun (congrFun hflushed.outage number) call
    have hhas := @perform_has_opened left id u'.backend hreliable
    rw [hkey, hwritten] at hhas
    have hperform : (Operation.flush).perform u = (.done, u') := by
      rw [Operation.perform, hflush, Answer.ofResult]
    have hput : (Operation.put id' Post.blank).perform (Threads.opened right Backend.empty) =
      (.stored 0, u) := rfl
    simp only [turns, beside, hput, hperform]
    exact congrArg (fun answer => [Event.mk (.has id) answer]) hhas
  have halone : (history (ownOperations turns)
      (Threads.opened left (Backend.empty.outagesAt place))).1 = [⟨.has id, .known false⟩] := by
    have hhas := @perform_has_opened left id (Backend.empty.outagesAt place) fun _ _ => rfl
    exact congrArg (fun answer => [Event.mk (.has id) answer]) hhas
  rw [hoccupied, halone] at hsame
  cases hsame

/-- **Stores do not disturb each other if and only if their channels have no key in common.** -/
theorem independent_iff_keysApart : Independent ids left right ↔ KeysApart ids left right :=
  ⟨Independent.keysApart, KeysApart.independent⟩

end Beside

/-- **Which stores do not disturb each other.** If identifiers may be any texts, those of two
channels with different names of which neither goes on behind a colon where the other
ends. If they have no colon, as times of messages have none, different names are enough. -/
theorem independent_iff (left right : String) :
    (Independent Set.univ left right ↔ left ≠ right ∧
      ∀ rest, right ≠ left ++ ":" ++ rest ∧ left ≠ right ++ ":" ++ rest) ∧
    (Independent plainIds left right ↔ left ≠ right) := by
  rw [independent_iff_keysApart, independent_iff_keysApart]
  exact ⟨keysApart_univ_iff, keysApart_plainIds_iff⟩

/-- **Different names are not enough**: the thread `b:1` of a channel `a` is found as the thread
`1` of a channel `a:b` as soon as it is flushed. -/
theorem beside_of_colon :
    let a := Threads.opened "a" Backend.empty
    let ab := Threads.opened "a:b" Backend.empty
    threadKey "a" "b:1" = threadKey "a:b" "1" ∧
      (beside [.own (.has "1")] ab a).map Event.answer = [.known false] ∧
      (beside [.next (.put "b:1" Post.blank), .next .flush, .own (.has "1")] ab a).map
        Event.answer = [.known true] := by
  intro a ab
  exact ⟨by decide, rfl, rfl⟩

end ChatImport
