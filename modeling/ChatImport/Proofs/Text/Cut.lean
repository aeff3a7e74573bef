import ChatImport.Text.Cut
import ChatImport.Proofs.Text.Octets
import Mathlib.Data.List.DropRight
import Mathlib.Data.String.Basic
/-!
# What is left of a text

A text is cut to so many characters (`takeChars`) or to so many octets
(`takeOctets`), and it is trimmed at both ends (`trimEdges`). A cut leaves a
part from the front that is within the limit, and a text that is within the
limit as it is (`takeChars_eq_self`, `takeOctets_eq_self`). A trim leaves a text
that is bare at both ends, and it leaves alone exactly the texts that are
(`trimEdges_eq_self`).

A cut may undo a trim: what stands in front of the cut becomes the end of the
text. What it cannot undo is the beginning (`BareFront.takeChars`,
`BareFront.takeOctets`).

A text is split at the first of a character (`splitAtFirst`) or at all of them
(`splitAtAll`), and the parts with the character between them make the text again.
-/

namespace ChatImport

variable {s t : String} {cs : List Char} {limit : Nat} {drop : Char → Bool}

/-! ## Characters -/

@[simp] theorem charCount_ofList : charCount (String.ofList cs) = cs.length := by
  rw [charCount, String.toList_ofList]

theorem charCount_append : charCount (s ++ t) = charCount s + charCount t := by
  rw [charCount, String.toList_append, List.length_append]
  rfl

theorem charCount_takeChars : charCount (takeChars limit s) = min limit (charCount s) := by
  rw [takeChars, charCount_ofList, List.length_take]
  rfl

/-- A cut leaves a text that is short enough. -/
theorem charCount_takeChars_le : charCount (takeChars limit s) ≤ limit := by
  have hcount := @charCount_takeChars s limit
  omega

/-- A text that is short enough is left alone. -/
theorem takeChars_of_le (h : charCount s ≤ limit) : takeChars limit s = s := by
  rw [takeChars, List.take_of_length_le h, String.ofList_toList]

/-- And only such a text is. -/
theorem takeChars_eq_self : takeChars limit s = s ↔ charCount s ≤ limit := by
  refine ⟨fun h => ?_, takeChars_of_le⟩
  rw [← h]
  exact charCount_takeChars_le

theorem takeChars_takeChars : takeChars limit (takeChars limit s) = takeChars limit s :=
  takeChars_of_le charCount_takeChars_le

/-! ## Ends -/

/-- The first character, if there is one, is none of those to be dropped. -/
def BareFront (drop : Char → Bool) (s : String) : Prop := ∀ c ∈ s.toList.head?, drop c = false

/-- The last character, if there is one, is none of those to be dropped. -/
def BareEnd (drop : Char → Bool) (s : String) : Prop := ∀ c ∈ s.toList.getLast?, drop c = false

instance : Decidable (BareFront drop s) := inferInstanceAs (Decidable (∀ c ∈ s.toList.head?, _))

instance : Decidable (BareEnd drop s) := inferInstanceAs (Decidable (∀ c ∈ s.toList.getLast?, _))

/-- To drop nothing in front the first character has to stay. -/
theorem dropWhile_eq_self : cs.dropWhile drop = cs ↔ ∀ c ∈ cs.head?, drop c = false := by
  cases cs with
  | nil => simp
  | cons c rest =>
    rw [List.dropWhile_eq_self_iff]
    simp

theorem head?_dropWhile : ∀ c ∈ (cs.dropWhile drop).head?, drop c = false :=
  dropWhile_eq_self.1 (List.dropWhile_idempotent drop cs)

/-- At the end it is the same the other way round. -/
theorem rdropWhile_eq_self : cs.rdropWhile drop = cs ↔ ∀ c ∈ cs.getLast?, drop c = false := by
  rw [List.rdropWhile, List.reverse_eq_iff, dropWhile_eq_self, List.head?_reverse]

theorem trimList_eq_rdropWhile : trimList drop cs = (cs.dropWhile drop).rdropWhile drop := rfl

theorem length_trimList_le : (trimList drop cs).length ≤ cs.length := by
  have hend := (List.rdropWhile_prefix drop (cs.dropWhile drop)).length_le
  have hfront := List.length_dropWhile_le drop cs
  rw [trimList_eq_rdropWhile]
  omega

/-- Nothing is put in front of what was there. -/
theorem head?_of_isPrefix {part : List Char} {c : Char} (h : part <+: cs) (hc : c ∈ part.head?) :
    c ∈ cs.head? := by
  obtain ⟨rest, rfl⟩ := h
  cases part with
  | nil => cases hc
  | cons first others => exact hc

theorem BareFront.of_prefix (h : BareFront drop s) (hbegins : t.toList <+: s.toList) :
    BareFront drop t := fun c hc => h c (head?_of_isPrefix hbegins hc)

/-- **A cut leaves the front as it is.** -/
theorem BareFront.takeChars (h : BareFront drop s) : BareFront drop (takeChars limit s) := by
  refine h.of_prefix ?_
  rw [ChatImport.takeChars, String.toList_ofList]
  exact List.take_prefix limit s.toList

theorem BareFront.takeOctets (h : BareFront drop s) : BareFront drop (takeOctets limit s) :=
  h.of_prefix takeOctets_isPrefix

/-- A bare text keeps its end behind whatever is put in front. -/
theorem BareEnd.append (h : BareEnd drop t) (hne : t ≠ "") : BareEnd drop (s ++ t) := by
  intro c hc
  have hlist : t.toList ≠ [] := fun hnil => hne (String.toList_inj.1 (hnil.trans rfl))
  rw [String.toList_append, List.getLast?_append_of_ne_nil _ hlist] at hc
  exact h c hc

/-- A trim leaves a text that is bare in front. -/
theorem bareFront_trimEdges : BareFront drop (trimEdges drop s) := by
  intro c hc
  rw [trimEdges, String.toList_ofList, trimList_eq_rdropWhile] at hc
  exact head?_dropWhile c (head?_of_isPrefix (List.rdropWhile_prefix drop _) hc)

/-- And at the end. -/
theorem bareEnd_trimEdges : BareEnd drop (trimEdges drop s) := by
  intro c hc
  rw [trimEdges, String.toList_ofList, trimList_eq_rdropWhile] at hc
  exact rdropWhile_eq_self.1 (List.rdropWhile_idempotent drop _) c hc

/-- **A trim leaves alone exactly the texts that are bare at both ends.** -/
theorem trimEdges_eq_self : trimEdges drop s = s ↔ BareFront drop s ∧ BareEnd drop s := by
  constructor
  · intro h
    rw [← h]
    exact ⟨bareFront_trimEdges, bareEnd_trimEdges⟩
  · rintro ⟨hfront, hend⟩
    rw [trimEdges, trimList_eq_rdropWhile, dropWhile_eq_self.2 hfront, rdropWhile_eq_self.2 hend,
      String.ofList_toList]

/-! ## Separators -/

section

variable {separator : Char}

theorem splitAtAll_ne_nil {cs : List Char} : splitAtAll separator cs ≠ [] := by
  cases cs with
  | nil => exact List.cons_ne_nil _ _
  | cons c rest =>
    simp only [splitAtAll]
    split
    · exact List.cons_ne_nil _ _
    · split <;> exact List.cons_ne_nil _ _

/-- There is no separator in a part. -/
theorem notMem_of_mem_splitAtAll {cs part : List Char} (h : part ∈ splitAtAll separator cs) :
    separator ∉ part := by
  induction cs generalizing part with
  | nil =>
    rw [List.mem_singleton.1 h]
    exact List.not_mem_nil
  | cons c rest ih =>
    simp only [splitAtAll] at h
    split at h
    · rcases List.mem_cons.1 h with rfl | h
      · exact List.not_mem_nil
      · exact ih h
    · next hc =>
      cases hsplit : splitAtAll separator rest with
      | nil => exact absurd hsplit splitAtAll_ne_nil
      | cons first others =>
        rw [hsplit] at h ih
        rcases List.mem_cons.1 h with rfl | h
        · simp only [List.mem_cons, not_or]
          exact ⟨Ne.symm hc, ih List.mem_cons_self⟩
        · exact ih (List.mem_cons_of_mem _ h)

/-- Parts with separators between them make what was split. -/
theorem intercalate_splitAtAll (cs : List Char) :
    [separator].intercalate (splitAtAll separator cs) = cs := by
  induction cs with
  | nil => rfl
  | cons c rest ih =>
    simp only [splitAtAll]
    cases hsplit : splitAtAll separator rest with
    | nil => exact absurd hsplit splitAtAll_ne_nil
    | cons part others =>
      rw [hsplit] at ih
      split
      · next hc => rw [List.intercalate_cons_cons, ih, hc]; rfl
      · cases others with
        | nil => simpa using ih
        | cons next more =>
          rw [List.intercalate_cons_cons] at ih ⊢
          exact congrArg (c :: ·) ih

/-- The first separator is the one behind characters that are none. -/
theorem splitAtFirst_append {front : List Char} (h : separator ∉ front) (back : List Char) :
    splitAtFirst separator (front ++ separator :: back) = (front, some back) := by
  induction front with
  | nil => simp [splitAtFirst]
  | cons c rest ih =>
    simp only [List.mem_cons, not_or] at h
    simp only [List.cons_append, splitAtFirst, if_neg (Ne.symm h.1), ih h.2]

theorem eq_of_splitAtFirst {cs front back : List Char}
    (h : splitAtFirst separator cs = (front, some back)) : cs = front ++ separator :: back := by
  induction cs generalizing front with
  | nil => simp [splitAtFirst] at h
  | cons c rest ih =>
    simp only [splitAtFirst] at h
    split at h
    · next hc =>
      obtain ⟨rfl, hback⟩ := Prod.mk.inj h
      rw [hc, Option.some.inj hback, List.nil_append]
    · obtain ⟨rfl, hback⟩ := Prod.mk.inj h
      exact congrArg (c :: ·) (ih (Prod.ext rfl hback))

/-- Characters among which there is no separator are all in front. -/
theorem splitAtFirst_of_notMem (h : separator ∉ cs) :
    splitAtFirst separator cs = (cs, none) := by
  induction cs with
  | nil => rfl
  | cons c rest ih =>
    simp only [List.mem_cons, not_or] at h
    rw [splitAtFirst, if_neg (Ne.symm h.1), ih h.2]

/-- What stands before a separator and what stands behind it are split by themselves. -/
theorem splitAtAll_append (front back : List Char) :
    splitAtAll separator (front ++ separator :: back) =
      splitAtAll separator front ++ splitAtAll separator back := by
  induction front with
  | nil => simp only [List.nil_append, splitAtAll, if_true, List.cons_append]
  | cons c rest ih =>
    simp only [List.cons_append, splitAtAll, ih]
    split
    · rfl
    · cases hsplit : splitAtAll separator rest with
      | nil => exact absurd hsplit splitAtAll_ne_nil
      | cons part others => rfl

theorem splitAtAll_of_notMem {cs : List Char} (h : separator ∉ cs) :
    splitAtAll separator cs = [cs] := by
  induction cs with
  | nil => rfl
  | cons c rest ih =>
    simp only [List.mem_cons, not_or] at h
    simp only [splitAtAll, if_neg (Ne.symm h.1), ih h.2]

end

end ChatImport
