import ChatImport.Thread.Store
import Mathlib.Data.Set.Basic
/-!
# The keys of threads

Before a backend a thread is kept under the name of its channel and its identifier, with
a colon between the two. Within a channel that tells the threads apart (`threadKey_inj`).
Between channels it does so as long as the identifiers have no colon
(`threadKey_inj_of_plain`). Names and identifiers come out of an export as they are,
though, and nothing keeps a colon out of them: `threadKey_eq_iff` says which threads of
which channels have a key in common, and `keysApart_univ_iff` which channels have none.
-/

namespace ChatImport

variable {left right id id' : String}

/-- The key of a thread tells the thread. -/
theorem threadKey_inj {channel : String} (h : threadKey channel id = threadKey channel id') :
    id = id' := by
  simpa [threadKey, ← String.toList_inj] using h

/-- If a key can be parted at two colons, what is between them belongs to the name on one
side and to the identifier on the other. -/
theorem threadKey_append {rest : String} :
    threadKey left (rest ++ ":" ++ id) = threadKey (left ++ ":" ++ rest) id := by
  simp only [threadKey, String.append_assoc]

/-- **Two channels have a key in common** if one name goes on behind a colon where the other
ends, and the identifier of the other begins with the rest. -/
theorem threadKey_eq_iff : threadKey left id = threadKey right id' ↔
    left = right ∧ id = id' ∨
    (∃ rest, right = left ++ ":" ++ rest ∧ id = rest ++ ":" ++ id') ∨
    ∃ rest, left = right ++ ":" ++ rest ∧ id' = rest ++ ":" ++ id := by
  -- the longer name begins with the shorter, and what is left of it begins with the colon
  have hsplit : ∀ {a a' b b' : String} {s : List Char}, a'.toList = a.toList ++ s →
      ':' :: b.toList = s ++ ':' :: b'.toList → a = a' ∧ b = b' ∨
        ∃ rest, a' = a ++ ":" ++ rest ∧ b = rest ++ ":" ++ b' := by
    intro a a' b b' s ha hb
    cases s with
    | nil =>
      rw [List.append_nil] at ha
      exact Or.inl ⟨(String.toList_inj.1 ha).symm, String.toList_inj.1 (List.cons.inj hb).2⟩
    | cons c rest =>
      obtain ⟨rfl, hb⟩ := List.cons.inj hb
      refine Or.inr ⟨String.ofList rest, String.toList_inj.1 ?_, String.toList_inj.1 ?_⟩
      · simpa using ha
      · simpa using hb
  constructor
  · intro h
    have hchars : left.toList ++ ':' :: id.toList = right.toList ++ ':' :: id'.toList := by
      simpa [threadKey] using congrArg String.toList h
    rcases List.append_eq_append_iff.1 hchars with ⟨s, hname, hid⟩ | ⟨s, hname, hid⟩
    · exact (hsplit hname hid).imp_right Or.inl
    · rcases hsplit hname hid with ⟨hname, hid⟩ | hrest
      · exact Or.inl ⟨hname.symm, hid.symm⟩
      · exact Or.inr (Or.inr hrest)
  · rintro (⟨rfl, rfl⟩ | ⟨rest, rfl, rfl⟩ | ⟨rest, rfl, rfl⟩)
    · rfl
    · exact threadKey_append
    · exact threadKey_append.symm

/-! ## Identifiers without a colon -/

/-- The identifiers without a colon. -/
def plainIds : Set String := {id | ':' ∉ id.toList}

instance (id : String) : Decidable (id ∈ plainIds) :=
  inferInstanceAs (Decidable (':' ∉ id.toList))

theorem append_notMem_plainIds {rest : String} : rest ++ ":" ++ id ∉ plainIds := by
  intro hplain
  refine hplain ?_
  rw [String.toList_append, String.toList_append]
  exact List.mem_append_left _ (List.mem_append_right _ List.mem_cons_self)

/-- The key of a thread without a colon in its identifier tells channel and thread. -/
theorem threadKey_inj_of_plain {name name' id id' : String}
    (h : threadKey name id = threadKey name' id') (hid : id ∈ plainIds) (hid' : id' ∈ plainIds) :
    name = name' ∧ id = id' := by
  rcases threadKey_eq_iff.1 h with hsame | ⟨rest, -, rfl⟩ | ⟨rest, -, rfl⟩
  · exact hsame
  · exact absurd hid append_notMem_plainIds
  · exact absurd hid' append_notMem_plainIds

/-! ## Channels without a common key -/

/-- No thread of the one channel has the key of a thread of the other. -/
def KeysApart (ids : Set String) (left right : String) : Prop :=
  ∀ id ∈ ids, ∀ id' ∈ ids, threadKey left id ≠ threadKey right id'

/-- **Which channels have no key in common**, whatever the identifiers: those of which
neither name goes on from the other behind a colon. -/
theorem keysApart_univ_iff : KeysApart Set.univ left right ↔
    left ≠ right ∧ ∀ rest, right ≠ left ++ ":" ++ rest ∧ left ≠ right ++ ":" ++ rest := by
  constructor
  · intro h
    refine ⟨?_, fun rest => ⟨?_, ?_⟩⟩
    · rintro rfl
      exact h "" (Set.mem_univ _) "" (Set.mem_univ _) rfl
    · rintro rfl
      exact h (rest ++ ":" ++ "") (Set.mem_univ _) "" (Set.mem_univ _) threadKey_append
    · rintro rfl
      exact h "" (Set.mem_univ _) (rest ++ ":" ++ "") (Set.mem_univ _) threadKey_append.symm
  · rintro ⟨hne, hrest⟩ id - id' - heq
    rcases threadKey_eq_iff.1 heq with ⟨hsame, -⟩ | ⟨rest, hright, -⟩ | ⟨rest, hleft, -⟩
    · exact hne hsame
    · exact (hrest rest).1 hright
    · exact (hrest rest).2 hleft

/-- Where no identifier has a colon, different names are enough. -/
theorem keysApart_plainIds_iff : KeysApart plainIds left right ↔ left ≠ right := by
  constructor
  · rintro h rfl
    exact h "" (by decide) "" (by decide) rfl
  · intro hne id hid id' hid' heq
    exact hne (threadKey_inj_of_plain heq hid hid').1

end ChatImport
