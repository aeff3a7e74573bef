import ChatImport.Proofs.Json.Regular
/-!
# Values whose members are in any order

A reader of values puts the members of an object in the order of their names. So what
is read of the text of a *plain* value, whose members stand as they were written, is the
value with its members put in order, at every depth (`Decoder.value_tree_sorted`). If no
name stands twice in an object, a look-up finds in the members put in order what it
finds in the members as they stand (`member?_sortedMembers`): what was written is found
again.

The text of a plain value is one line (`newline_notMem_text`), whatever its texts hold,
since every control character is escaped.
-/

namespace ChatImport

namespace Json

variable {level : Nat} {name : String} {ms : List (String × Json)}

/-- A value without doubles, whose whole numbers fit into 64 bits. -/
inductive Plain : Json → Prop where
  | null : Plain .null
  | boolean {b : Bool} : Plain (.boolean b)
  | integer {n : Int} : leastInteger ≤ n → n ≤ Double.wordLimit → Plain (.integer n)
  | string {s : String} : Plain (.string s)
  | array {items : List Json} : (∀ item ∈ items, Plain item) → Plain (.array items)
  | object {members : List (String × Json)} :
    (∀ member ∈ members, Plain member.2) → Plain (.object members)

theorem Regular.plain {j : Json} (h : j.Regular) : j.Plain := by
  induction h with
  | null => exact .null
  | boolean => exact .boolean
  | integer hleast hgreatest => exact .integer hleast hgreatest
  | string => exact .string
  | array _ ih => exact .array ih
  | object _ _ ih => exact .object ih

/-! ## Members put in order -/

mutual

/-- A value with the members of its objects put in the order of their names. -/
def sorted : Json → Json
  | .array items => .array (sortedItems items)
  | .object members => .object (sortedMembers [] members)
  | j => j

/-- Items, with the members of their objects put in order. -/
def sortedItems : List Json → List Json
  | [] => []
  | item :: rest => sorted item :: sortedItems rest

/-- Members put in order among those that already are. -/
def sortedMembers (done : List (String × Json)) : List (String × Json) → List (String × Json)
  | [] => done
  | (name, value) :: rest => sortedMembers (setEntry name (sorted value) done) rest

end

theorem sortedItems_eq_map (items : List Json) : sortedItems items = items.map sorted := by
  induction items with
  | nil => rfl
  | cons item rest ih => rw [sortedItems, ih, List.map_cons]

@[simp] theorem sorted_string (s : String) : sorted (.string s) = .string s := rfl

@[simp] theorem sorted_integer (n : Int) : sorted (.integer n) = .integer n := rfl

@[simp] theorem sorted_array (items : List Json) :
    sorted (.array items) = .array (items.map sorted) := by
  rw [sorted, sortedItems_eq_map]

theorem sorted_object (members : List (String × Json)) :
    sorted (.object members) = .object (sortedMembers [] members) := by
  rw [sorted]

namespace Decoder

theorem valueItems_sorted {items : List Json}
    (h : ∀ item ∈ items, value level (tree item) = .ok item.sorted) :
    valueItems level (trees items) = .ok (items.map sorted) := by
  induction items with
  | nil => rfl
  | cons item rest ih =>
    rw [trees, valueItems, h item List.mem_cons_self,
      ih fun other hmem => h other (List.mem_cons_of_mem _ hmem)]
    rfl

theorem valueMembers_sorted {done : List (String × Json)}
    (h : ∀ member ∈ ms, value level (tree member.2) = .ok member.2.sorted) :
    valueMembers level done (memberTrees ms) = .ok (sortedMembers done ms) := by
  induction ms generalizing done with
  | nil => rfl
  | cons member rest ih =>
    obtain ⟨name, value⟩ := member
    rw [memberTrees, valueMembers, h (name, value) List.mem_cons_self, sortedMembers]
    exact ih fun other hmem => h other (List.mem_cons_of_mem _ hmem)

/-- **A plain value is read with its members put in order.** -/
theorem value_tree_sorted {j : Json} (h : j.Plain) :
    ∀ level, j.depth ≤ level → value level (tree j) = .ok j.sorted := by
  induction h with
  | null => exact fun _ _ => rfl
  | boolean => exact fun _ _ => rfl
  | integer hleast hgreatest =>
    intro level _
    rw [tree, value, number_numeral hleast hgreatest]
    rfl
  | string => exact fun _ _ => rfl
  | @array items _ ih =>
    intro level hdepth
    obtain ⟨inner, rfl, hitems⟩ := depth_array_le_iff.1 hdepth
    rw [tree, value, sorted_array]
    change (valueItems inner (trees items) >>= fun values => _) = _
    rw [valueItems_sorted fun item hmem => ih item hmem inner (hitems item hmem)]
    rfl
  | @object members _ ih =>
    intro level hdepth
    obtain ⟨inner, rfl, hmembers⟩ := depth_object_le_iff.1 hdepth
    rw [tree, value, sorted_object]
    change (valueMembers inner [] (memberTrees members) >>= fun values => _) = _
    rw [valueMembers_sorted fun member hmem => ih member hmem inner (hmembers member hmem)]
    rfl

end Decoder

/-- A regular value is in order. -/
theorem Regular.sorted_eq {j : Json} (h : j.Regular) : j.sorted = j := by
  have hself := Decoder.value_tree (h.readable j.depth (Nat.le_refl _))
  have hsorted := Decoder.value_tree_sorted h.plain j.depth (Nat.le_refl _)
  exact Except.ok.inj (hsorted.symm.trans hself)

/-! ## Look-ups -/

/-- The value of a member, if there is one of the name. -/
def member? (name : String) (ms : List (String × Json)) : Option Json :=
  (ms.find? fun member => member.1 == name).map (·.2)

@[simp] theorem member?_nil : member? name [] = none := rfl

@[simp] theorem member?_cons {key : String} {value : Json} :
    member? name ((key, value) :: ms) = if key = name then some value else member? name ms := by
  unfold member?
  by_cases h : key = name <;> simp [h]

@[simp] theorem member?_append {others : List (String × Json)} :
    member? name (ms ++ others) = (member? name ms).or (member? name others) := by
  unfold member?
  rw [List.find?_append, Option.map_or]

theorem member?_eq_none (h : name ∉ ms.map (·.1)) : member? name ms = none := by
  induction ms with
  | nil => rfl
  | cons member rest ih =>
    obtain ⟨hne, hrest⟩ := not_or.1 (mt List.mem_cons.2 h)
    obtain ⟨key, value⟩ := member
    rw [member?_cons, if_neg (Ne.symm hne), ih hrest]

theorem member?_sortedMembers_append {done : List (String × Json)} (h : (ms.map (·.1)).Nodup) :
    member? name (sortedMembers done ms) =
      ((member? name ms).map sorted).or (member? name done) := by
  induction ms generalizing done with
  | nil => rfl
  | cons member rest ih =>
    obtain ⟨key, value⟩ := member
    obtain ⟨hnot, hrest⟩ := List.nodup_cons.1 h
    have hset : member? name (setEntry key value.sorted done) =
        if key = name then some value.sorted else member? name done :=
      Table.find?_setEntry done
    rw [sortedMembers, ih hrest, hset, member?_cons]
    by_cases hkey : key = name
    · subst hkey
      rw [member?_eq_none hnot, if_pos rfl, if_pos rfl]
      rfl
    · rw [if_neg hkey, if_neg hkey]

/-- **A look-up finds in the members put in order** what it finds in them as they stand. -/
theorem member?_sortedMembers (h : (ms.map (·.1)).Nodup) :
    member? name (sortedMembers [] ms) = (member? name ms).map sorted := by
  rw [member?_sortedMembers_append h, member?_nil, Option.or_none]

/-! ## One line -/

/-- A control character is escaped, and any other is not a line break. -/
theorem newline_notMem_escaped (c : Char) : '\n' ∉ escaped c := by
  by_cases hcontrol : c.toNat < 32
  · have hall : ∀ n < 32, '\n' ∉ escaped (Char.ofNat n) := by decide
    have hescaped := hall c.toNat hcontrol
    rwa [Char.ofNat_toNat] at hescaped
  · have hne : '\n' ≠ c := fun heq => hcontrol (heq ▸ by decide)
    unfold escaped
    split_ifs
    all_goals first | decide | exact mt List.mem_singleton.1 hne

theorem newline_notMem_quote (s : String) : '\n' ∉ (quote s).toList := by
  simp only [quote, String.toList_append, String.toList_ofList, List.mem_append, List.mem_flatMap,
    not_or, not_exists, not_and]
  exact ⟨⟨by decide, fun c _ => newline_notMem_escaped c⟩, by decide⟩

theorem newline_notMem_integerText (n : Int) : '\n' ∉ (integerText n).toList := by
  have hdigits : '\n' ∉ (Nat.repr n.natAbs).toList := by
    rw [Nat.repr, String.toList_ofList, toDigits_eq_decimals, List.mem_map]
    rintro ⟨d, hmem, hdigit⟩
    have hall : ∀ d < 10, Nat.digitChar d ≠ '\n' := by decide
    exact hall d (lt_of_mem_decimals hmem) hdigit
  unfold integerText
  split
  · rw [String.toList_append, List.mem_append, not_or]
    exact ⟨by decide, hdigits⟩
  · exact hdigits

theorem newline_notMem_moreItemsText {items : List Json}
    (h : ∀ item ∈ items, '\n' ∉ item.text.toList) : '\n' ∉ (moreItemsText items).toList := by
  induction items with
  | nil => exact List.not_mem_nil
  | cons item rest ih =>
    rw [moreItemsText]
    simp only [String.toList_append, List.mem_append, not_or]
    exact ⟨⟨by decide, h item List.mem_cons_self⟩,
      ih fun other hmem => h other (List.mem_cons_of_mem _ hmem)⟩

theorem newline_notMem_moreMembersText
    (h : ∀ member ∈ ms, '\n' ∉ member.2.text.toList) : '\n' ∉ (moreMembersText ms).toList := by
  induction ms with
  | nil => exact List.not_mem_nil
  | cons member rest ih =>
    obtain ⟨name, value⟩ := member
    rw [moreMembersText]
    simp only [String.toList_append, List.mem_append, not_or]
    exact ⟨⟨⟨⟨by decide, newline_notMem_quote name⟩, by decide⟩,
        h (name, value) List.mem_cons_self⟩,
      ih fun other hmem => h other (List.mem_cons_of_mem _ hmem)⟩

/-- **The text of a plain value is one line.** -/
theorem newline_notMem_text {j : Json} (h : j.Plain) : '\n' ∉ j.text.toList := by
  induction h with
  | null => decide
  | @boolean b => cases b <;> decide
  | integer _ _ => exact newline_notMem_integerText _
  | string => exact newline_notMem_quote _
  | @array items _ ih =>
    cases items with
    | nil => decide
    | cons item rest =>
      rw [text, itemsText]
      simp only [String.toList_append, List.mem_append, not_or]
      exact ⟨⟨by decide, ih item List.mem_cons_self, newline_notMem_moreItemsText fun other hmem =>
        ih other (List.mem_cons_of_mem _ hmem)⟩, by decide⟩
  | @object members _ ih =>
    cases members with
    | nil => decide
    | cons member rest =>
      obtain ⟨name, value⟩ := member
      rw [text, membersText]
      simp only [String.toList_append, List.mem_append, not_or]
      exact ⟨⟨by decide, ⟨⟨newline_notMem_quote name, by decide⟩,
          ih (name, value) List.mem_cons_self⟩,
        newline_notMem_moreMembersText fun other hmem =>
          ih other (List.mem_cons_of_mem _ hmem)⟩, by decide⟩

end Json

end ChatImport
