import ChatImport.Table
import Mathlib.Algebra.GroupWithZero.Nat
/-!
# The laws of tables

A table is known by its look-ups: `find?_insert` says what an insertion
changes, `mem_entries_iff` reads the entries off the look-ups, and
`ext_find?` says that nothing else is in a table. What is summed up over the
values changes with an insertion by the weights of the two values alone
(`sum_insert`). Insertions in a row, of keys that are all different, are told
apart by `find?_insertAll_of_mem` and `find?_insertAll_of_notMem`.
-/

namespace ChatImport

namespace Table

variable {α β : Type} {t : Table α} {key k : String} {value : α}

/-! ## Look-ups -/

/-- Setting the entry of one key changes the look-up of that key alone. -/
theorem find?_setEntry (entries : List (String × α)) :
    ((setEntry key value entries).find? (fun entry => entry.1 == k)).map (·.2) =
      if key = k then some value
      else (entries.find? (fun entry => entry.1 == k)).map (·.2) := by
  induction entries with
  | nil => by_cases h : key = k <;> simp [setEntry, h]
  | cons entry rest ih =>
    simp only [setEntry]
    split
    · by_cases h : key = k <;> simp [h]
    · next hge =>
      split
      · next hlt =>
        by_cases hk : entry.1 = k
        · have hne : key ≠ k := fun h => String.lt_irrefl k (by rw [hk, h] at hlt; exact hlt)
          simp [hk, hne]
        · simp only [List.find?_cons, beq_eq_false_iff_ne.2 hk]
          exact ih
      · next hle =>
        have heq : entry.1 = key := String.le_antisymm (String.not_lt.1 hge) (String.not_lt.1 hle)
        by_cases h : key = k <;> simp [h, heq]

@[simp] theorem find?_empty : (empty : Table α).find? k = none := rfl

/-- **An insertion changes the look-up of its key alone.** -/
theorem find?_insert : (t.insert key value).find? k = if key = k then some value else t.find? k :=
  find?_setEntry t.entries

@[simp] theorem find?_insert_self : (t.insert key value).find? key = some value := by
  rw [find?_insert, if_pos rfl]

theorem find?_insert_of_ne (h : key ≠ k) : (t.insert key value).find? k = t.find? k := by
  rw [find?_insert, if_neg h]

theorem contains_iff : t.contains k = true ↔ ∃ value, t.find? k = some value := by
  rw [contains, Option.isSome_iff_exists]

theorem contains_insert : (t.insert key value).contains k = (key == k || t.contains k) := by
  by_cases h : key = k <;> simp [contains, find?_insert, h]

/-- A look-up in a table whose values are replaced. -/
@[simp] theorem find?_map (f : α → β) : (t.map f).find? k = (t.find? k).map f := by
  simp only [find?, map, List.find?_map, Option.map_map]
  rfl

/-! ## Entries -/

/-- **The entries are what the look-ups find**: since the keys ascend, an
entry is the first of its key. -/
theorem mem_entries_iff : (k, value) ∈ t.entries ↔ t.find? k = some value := by
  obtain ⟨entries, ordered⟩ := t
  simp only [find?]
  induction entries with
  | nil => simp
  | cons entry rest ih =>
    obtain ⟨hhead, htail⟩ := List.pairwise_cons.1 ordered
    by_cases hk : entry.1 = k
    · have hnot : (k, value) ∉ rest := fun hm =>
        String.lt_irrefl k (by have := hhead _ hm; rwa [hk] at this)
      simp only [List.mem_cons, hnot, or_false, List.find?_cons, hk, BEq.rfl, Option.map_some,
        Option.some.injEq]
      exact ⟨fun h => by rw [← h], fun h => by rw [← hk, ← h]⟩
    · have hne : (k, value) ≠ entry := fun h => hk (by rw [← h])
      simp only [List.mem_cons, hne, false_or, List.find?_cons, beq_eq_false_iff_ne.2 hk]
      exact ih htail

/-- The first entry of a key is the look-up. -/
theorem find?_entries :
    (t.entries.find? fun entry => entry.1 == k) = (t.find? k).map fun value => (k, value) := by
  rw [find?, Option.map_map]
  cases hfind : t.entries.find? fun entry => entry.1 == k with
  | none => rfl
  | some entry =>
    have hkey : entry.1 = k := by simpa using List.find?_some hfind
    rw [Option.map_some, ← hkey]
    rfl

theorem mem_keys_iff : k ∈ t.keys ↔ t.contains k = true := by
  rw [contains_iff, keys, List.mem_map]
  constructor
  · rintro ⟨entry, hm, rfl⟩
    exact ⟨entry.2, mem_entries_iff.1 hm⟩
  · rintro ⟨value, h⟩
    exact ⟨(k, value), mem_entries_iff.2 h, rfl⟩

theorem mem_values_iff : value ∈ t.values ↔ ∃ k, t.find? k = some value := by
  rw [values, List.mem_map]
  constructor
  · rintro ⟨entry, hm, rfl⟩
    exact ⟨entry.1, mem_entries_iff.1 hm⟩
  · rintro ⟨k, h⟩
    exact ⟨(k, value), mem_entries_iff.2 h, rfl⟩

/-- The keys of a table ascend. -/
theorem pairwise_keys : t.keys.Pairwise (· < ·) := by
  rw [keys, List.pairwise_map]
  exact t.ordered

theorem nodup_keys : t.keys.Nodup := by
  refine List.Pairwise.imp ?_ pairwise_keys
  intro a b hlt heq
  rw [heq] at hlt
  exact String.lt_irrefl b hlt

/-- Two ascending lists of entries with the same members are the same. -/
theorem entries_unique : ∀ {xs ys : List (String × α)},
    xs.Pairwise (fun a b => a.1 < b.1) → ys.Pairwise (fun a b => a.1 < b.1) →
    (∀ e, e ∈ xs ↔ e ∈ ys) → xs = ys := by
  intro xs
  induction xs with
  | nil =>
    intro ys _ _ h
    exact (List.eq_nil_iff_forall_not_mem.2 fun e he => by simpa using (h e).2 he).symm
  | cons x xs ih =>
    intro ys hx hy h
    obtain ⟨hxhead, hxtail⟩ := List.pairwise_cons.1 hx
    cases ys with
    | nil => simpa using (h x).1 (by simp)
    | cons y ys =>
      obtain ⟨hyhead, hytail⟩ := List.pairwise_cons.1 hy
      -- the heads agree, or each would stand before the other
      have hhead : x = y := by
        rcases List.mem_cons.1 ((h x).1 (by simp)) with h1 | h1
        · exact h1
        · rcases List.mem_cons.1 ((h y).2 (by simp)) with h2 | h2
          · exact h2.symm
          · exact absurd (hxhead y h2) (String.lt_asymm (hyhead x h1))
      subst hhead
      rw [ih hxtail hytail fun e => ?_]
      have hself : ∀ {zs : List (String × α)}, (∀ z ∈ zs, x.1 < z.1) → x ∉ zs :=
        fun hz hm => String.lt_irrefl _ (hz x hm)
      constructor
      · intro he
        refine ((List.mem_cons.1 ((h e).1 (by simp [he]))).resolve_left ?_)
        rintro rfl
        exact hself hxhead he
      · intro he
        refine ((List.mem_cons.1 ((h e).2 (by simp [he]))).resolve_left ?_)
        rintro rfl
        exact hself hyhead he

/-- **A table is known by its look-ups.** -/
theorem ext_find? {t t' : Table α} (h : ∀ k, t.find? k = t'.find? k) : t = t' := by
  have hentries : t.entries = t'.entries :=
    entries_unique t.ordered t'.ordered fun e => by
      rw [show e = (e.1, e.2) from rfl, mem_entries_iff, mem_entries_iff, h]
  cases t
  cases t'
  simp only at hentries
  subst hentries
  rfl

/-- A change that leaves all values as they are leaves the table as it is. -/
theorem map_eq_self {f : α → α} (h : ∀ k value, t.find? k = some value → f value = value) :
    t.map f = t := by
  refine ext_find? fun k => ?_
  rw [find?_map]
  cases hfind : t.find? k with
  | none => rfl
  | some value => rw [Option.map_some, h k value hfind]

/-- To insert what is there changes nothing. -/
theorem insert_of_find? (h : t.find? key = some value) : t.insert key value = t :=
  ext_find? fun k => by
    rw [find?_insert]
    split
    · next hk => rw [← hk, h]
    · rfl

/-! ## Sums -/

/-- Setting an entry takes a weight away if there was one of the key, and adds one. -/
theorem sum_setEntry (weight : α → Nat) {entries : List (String × α)}
    (hord : entries.Pairwise (fun a b => a.1 < b.1)) :
    ((setEntry key value entries).map fun entry => weight entry.2).sum +
        ((entries.find? fun entry => entry.1 == key).map (·.2)).elim 0 weight =
      (entries.map fun entry => weight entry.2).sum + weight value := by
  induction entries with
  | nil => simp [setEntry]
  | cons entry rest ih =>
    obtain ⟨hhead, htail⟩ := List.pairwise_cons.1 hord
    simp only [setEntry]
    split
    · next hlt =>
      -- the key stands before all others, so it has no entry yet
      have hnone : (entry :: rest).find? (fun e => e.1 == key) = none := by
        rw [List.find?_eq_none]
        intro e he heq
        have hkey : e.1 = key := by simpa using heq
        rcases List.mem_cons.1 he with rfl | he
        · exact String.lt_irrefl _ (hkey ▸ hlt)
        · exact String.lt_irrefl _ (String.lt_trans (hkey ▸ hlt) (hhead e he))
      rw [hnone]
      simp only [List.map_cons, List.sum_cons, Option.map_none, Option.elim_none]
      omega
    · next hge =>
      split
      · next hlt =>
        have hne : (entry.1 == key) = false := by
          rw [beq_eq_false_iff_ne]
          exact fun heq => String.lt_irrefl _ (heq ▸ hlt)
        have hrest := ih htail
        simp only [List.map_cons, List.sum_cons, List.find?_cons, hne]
        omega
      · next hle =>
        have heq : entry.1 = key := String.le_antisymm (String.not_lt.1 hge) (String.not_lt.1 hle)
        simp only [List.map_cons, List.sum_cons, List.find?_cons, heq, BEq.rfl, Option.map_some,
          Option.elim_some]
        omega

/-- **What an insertion adds to a sum over the values.** -/
theorem sum_insert (weight : α → Nat) :
    ((t.insert key value).values.map weight).sum + (t.find? key).elim 0 weight =
      (t.values.map weight).sum + weight value := by
  simp only [values, List.map_map]
  exact sum_setEntry weight t.ordered

@[simp] theorem length_values : t.values.length = t.size := List.length_map _

/-- An insertion adds an entry if there is none of the key. -/
theorem size_insert :
    (t.insert key value).size + (if t.contains key then 1 else 0) = t.size + 1 := by
  have hsum := @sum_insert _ t key value fun _ => 1
  have hsize : ∀ t : Table α, (t.values.map fun _ => 1).sum = t.size := fun t => by
    simp only [values, size, List.map_map, Function.comp_def, List.map_const',
      List.sum_replicate_nat, Nat.mul_one]
  rw [hsize, hsize] at hsum
  rw [← hsum, contains]
  cases t.find? key <;> rfl

/-! ## Insertions in a row -/

/-- The table with the values of several keys set one after the other. -/
def insertAll (t : Table α) (pairs : List (String × α)) : Table α :=
  pairs.foldl (fun t pair => t.insert pair.1 pair.2) t

theorem insertAll_append {pairs more : List (String × α)} :
    t.insertAll (pairs ++ more) = (t.insertAll pairs).insertAll more := List.foldl_append

theorem find?_insertAll_of_notMem {pairs : List (String × α)} (h : k ∉ pairs.map (·.1)) :
    (t.insertAll pairs).find? k = t.find? k := by
  induction pairs generalizing t with
  | nil => rfl
  | cons pair rest ih =>
    simp only [List.map_cons, List.mem_cons, not_or] at h
    change ((t.insert pair.1 pair.2).insertAll rest).find? k = _
    rw [ih h.2, find?_insert_of_ne (Ne.symm h.1)]

/-- Of keys that are all different each gets its value. -/
theorem find?_insertAll_of_mem {pairs : List (String × α)} (hd : (pairs.map (·.1)).Nodup)
    (h : (k, value) ∈ pairs) : (t.insertAll pairs).find? k = some value := by
  induction pairs generalizing t with
  | nil => simp at h
  | cons pair rest ih =>
    rw [List.map_cons, List.nodup_cons] at hd
    change ((t.insert pair.1 pair.2).insertAll rest).find? k = _
    rcases List.mem_cons.1 h with rfl | h
    · rw [find?_insertAll_of_notMem hd.1, find?_insert_self]
    · exact ih hd.2 h

/-- What is found is one of the values that were set, or was there before. -/
theorem mem_of_find?_insertAll {pairs : List (String × α)}
    (h : (t.insertAll pairs).find? k = some value) :
    (k, value) ∈ pairs ∨ t.find? k = some value := by
  induction pairs generalizing t with
  | nil => exact Or.inr h
  | cons pair rest ih =>
    rcases @ih (t.insert pair.1 pair.2) h with hmem | hfind
    · exact Or.inl (List.mem_cons_of_mem _ hmem)
    · rw [find?_insert] at hfind
      split at hfind
      · next hkey =>
        rw [← hkey, ← Option.some.inj hfind]
        exact Or.inl List.mem_cons_self
      · exact Or.inr hfind

/-- **The entries of a table make it**, put in one after the other. -/
theorem insertAll_entries : empty.insertAll t.entries = t := by
  refine ext_find? fun k => ?_
  cases hfind : t.find? k with
  | some value => exact find?_insertAll_of_mem t.nodup_keys (mem_entries_iff.2 hfind)
  | none =>
    refine (find?_insertAll_of_notMem fun hmem => ?_).trans find?_empty
    obtain ⟨value, hvalue⟩ := contains_iff.1 (mem_keys_iff.1 hmem)
    rw [hfind] at hvalue
    cases hvalue

/-- A table of what others make of the values stays one when both are set. -/
theorem find?_insertAll_map {t' : Table β} (f : α → β) {pairs : List (String × α)}
    (h : t'.find? k = (t.find? k).map f) :
    (t'.insertAll (pairs.map fun pair => (pair.1, f pair.2))).find? k =
      ((t.insertAll pairs).find? k).map f := by
  induction pairs generalizing t t' with
  | nil => exact h
  | cons pair rest ih =>
    refine @ih (t.insert pair.1 pair.2) (t'.insert pair.1 (f pair.2)) ?_
    rw [find?_insert, find?_insert, h]
    split
    · rfl
    · rfl

/-- A key is found alike in tables in which it was found alike before. -/
theorem find?_insertAll_congr {t' : Table α} {pairs : List (String × α)}
    (h : t'.find? k = t.find? k) : (t'.insertAll pairs).find? k = (t.insertAll pairs).find? k := by
  have hmap := @find?_insertAll_map α α t k t' id pairs (by rw [h, Option.map_id, id])
  simpa using hmap

end Table

end ChatImport
