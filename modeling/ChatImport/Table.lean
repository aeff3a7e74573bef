/-!
# Tables keyed by text

A table maps texts to values and keeps its entries in the order of their
keys, each key once. The order is that of the characters' code points,
which is also the order of the texts' octets. So a table has one form
whatever the order of the insertions, and walking it needs no sorting:
`insert` keeps the entries ordered, and two tables that answer every
look-up alike have the same entries.
-/

namespace ChatImport

/-- Entries with the value of one key set: the pair takes the place of the
key's old entry, or goes before the first greater key. -/
def setEntry {α : Type} (key : String) (value : α) : List (String × α) → List (String × α)
  | [] => [(key, value)]
  | entry :: rest =>
    if key < entry.1 then (key, value) :: entry :: rest
    else if entry.1 < key then entry :: setEntry key value rest
    else (key, value) :: rest

/-- Keys that are ordered stay ordered when one of them is set. -/
theorem pairwise_setEntry {α : Type} (key : String) (value : α) {entries : List (String × α)}
    (h : entries.Pairwise (fun a b => a.1 < b.1)) :
    (setEntry key value entries).Pairwise (fun a b => a.1 < b.1) := by
  have keys : ∀ (bound : String) (entries : List (String × α)), bound < key →
      (∀ b ∈ entries, bound < b.1) → ∀ b ∈ setEntry key value entries, bound < b.1 := by
    intro bound entries hkey
    induction entries with
    | nil => intro _ b hb; simp only [setEntry, List.mem_singleton] at hb; exact hb ▸ hkey
    | cons e r ih =>
      intro hall b hb
      simp only [setEntry] at hb
      split at hb
      · rcases List.mem_cons.1 hb with rfl | hb
        · exact hkey
        · exact hall b hb
      · split at hb
        · rcases List.mem_cons.1 hb with rfl | hb
          · exact hall _ (by simp)
          · exact ih (fun c hc => hall c (by simp [hc])) b hb
        · rcases List.mem_cons.1 hb with rfl | hb
          · exact hkey
          · exact hall b (by simp [hb])
  induction entries with
  | nil => simp [setEntry]
  | cons e r ih =>
    obtain ⟨hhead, htail⟩ := List.pairwise_cons.1 h
    simp only [setEntry]
    split
    · next hlt =>
      exact List.pairwise_cons.2 ⟨fun b hb => by
        rcases List.mem_cons.1 hb with rfl | hb
        · exact hlt
        · exact String.lt_trans hlt (hhead b hb), h⟩
    · next hnlt =>
      split
      · next hlt =>
        exact List.pairwise_cons.2 ⟨keys e.1 r hlt hhead, ih htail⟩
      · next hnlt' =>
        have heq : e.1 = key :=
          String.le_antisymm (String.not_lt.1 hnlt) (String.not_lt.1 hnlt')
        exact List.pairwise_cons.2 ⟨fun b hb => heq ▸ hhead b hb, htail⟩

/-- Values under textual keys, in the order of the keys. -/
structure Table (α : Type) where
  /-- The keys with their values, keys ascending. -/
  entries : List (String × α)
  /-- No key stands twice, and none stands before a smaller one. -/
  ordered : entries.Pairwise (fun a b => a.1 < b.1)

namespace Table

variable {α β : Type}

/-- The table without entries. -/
def empty : Table α := ⟨[], List.Pairwise.nil⟩

instance : Inhabited (Table α) := ⟨empty⟩

/-- The table with the value of `key` set to `value`. -/
def insert (t : Table α) (key : String) (value : α) : Table α :=
  ⟨setEntry key value t.entries, pairwise_setEntry key value t.ordered⟩

/-- The value under a key, if the table has the key. -/
def find? (t : Table α) (key : String) : Option α :=
  (t.entries.find? (fun entry => entry.1 == key)).map (·.2)

/-- Does the table have the key? -/
def contains (t : Table α) (key : String) : Bool := (t.find? key).isSome

/-- The number of entries. -/
def size (t : Table α) : Nat := t.entries.length

/-- The keys in their order. -/
def keys (t : Table α) : List String := t.entries.map (·.1)

/-- The values in the order of their keys. -/
def values (t : Table α) : List α := t.entries.map (·.2)

/-- The table with every value replaced, its keys left alone. -/
def map (f : α → β) (t : Table α) : Table β :=
  ⟨t.entries.map (fun entry => (entry.1, f entry.2)), by
    simpa only [List.pairwise_map] using t.ordered⟩

/-- The table of a list of pairs; of two pairs with one key the later counts. -/
def ofList (pairs : List (String × α)) : Table α :=
  pairs.foldl (fun t pair => t.insert pair.1 pair.2) empty

end Table

end ChatImport
