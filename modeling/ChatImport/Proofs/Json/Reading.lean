import ChatImport.Json.Decoder
import ChatImport.Proofs.Json.Building
/-!
# Values read back from their text

A value without doubles is read back from its text as it is, if its whole
numbers fit into 64 bits, its members are in order, and it opens no more
levels than a reader allows (`Decoder.value_tree`). A record is read back
from an object that has its fields in their order
(`Record.decode_of_cells`), each field by its own reader.

So all that reading back a type of data needs is one cell for each field:
the field, the tree in its place, and the change that it makes.
-/

namespace ChatImport

/-- A key beyond all others goes to the end. -/
theorem setEntry_of_lt {α : Type} {key : String} {value : α} {entries : List (String × α)}
    (h : ∀ entry ∈ entries, entry.1 < key) :
    setEntry key value entries = entries ++ [(key, value)] := by
  induction entries with
  | nil => rfl
  | cons entry rest ih =>
    have hlt := h entry List.mem_cons_self
    rw [setEntry, if_neg (String.lt_asymm hlt), if_pos hlt,
      ih fun other hmem => h other (List.mem_cons_of_mem _ hmem), List.cons_append]

namespace Json

/-- No double stands in the value. -/
inductive Exact : Json → Prop where
  | null : Exact .null
  | boolean {b : Bool} : Exact (.boolean b)
  | integer {n : Int} : Exact (.integer n)
  | string {s : String} : Exact (.string s)
  | array {items : List Json} : (∀ item ∈ items, Exact item) → Exact (.array items)
  | object {members : List (String × Json)} :
    (∀ member ∈ members, Exact member.2) → Exact (.object members)

/-- A value that reads back from its text where so many levels may be opened. -/
inductive Readable : Nat → Json → Prop where
  | null {level : Nat} : Readable level .null
  | boolean {level : Nat} {b : Bool} : Readable level (.boolean b)
  /-- A whole number of 64 bits. -/
  | integer {level : Nat} {n : Int} : leastInteger ≤ n → n ≤ Double.wordLimit →
    Readable level (.integer n)
  | string {level : Nat} {s : String} : Readable level (.string s)
  /-- A list of such values, one level further in. -/
  | array {level : Nat} {items : List Json} : (∀ item ∈ items, Readable level item) →
    Readable (level + 1) (.array items)
  /-- Such values under names in their order, one level further in. -/
  | object {level : Nat} {members : List (String × Json)} :
    members.Pairwise (fun a b => a.1 < b.1) → (∀ member ∈ members, Readable level member.2) →
    Readable (level + 1) (.object members)

/-- More levels do no harm. -/
theorem Readable.mono {level : Nat} {j : Json} (h : j.Readable level) :
    ∀ level', level ≤ level' → j.Readable level' := by
  induction h with
  | null => exact fun _ _ => .null
  | boolean => exact fun _ _ => .boolean
  | integer hleast hgreatest => exact fun _ _ => .integer hleast hgreatest
  | string => exact fun _ _ => .string
  | array _ ih =>
    intro level' hle
    obtain ⟨inner, rfl⟩ : ∃ n, level' = n + 1 := ⟨level' - 1, by omega⟩
    exact .array fun item hmem => ih item hmem inner (by omega)
  | object hord _ ih =>
    intro level' hle
    obtain ⟨inner, rfl⟩ : ∃ n, level' = n + 1 := ⟨level' - 1, by omega⟩
    exact .object hord fun member hmem => ih member hmem inner (by omega)

/-- **The numeral of a whole number of 64 bits is that number.** -/
theorem number_numeral {n : Int} (hleast : leastInteger ≤ n) (hgreatest : n ≤ Double.wordLimit) :
    (numeral n).number = .ok (.integer n) := by
  have hsize : ofDigits (numeral n).whole = n.natAbs := ofDigits_decimals _
  unfold Numeral.number
  simp only [hsize]
  by_cases hneg : n < 0
  · have hbounds : 0 < n.natAbs ∧ (n.natAbs : Int) ≤ -leastInteger := by
      constructor
      · omega
      · omega
    simp only [numeral, Option.isSome_none, Bool.or_self, Bool.false_eq_true, if_false, hneg,
      decide_true, if_true, hbounds, and_self]
    have habs : -(n.natAbs : Int) = n := by omega
    rw [habs]
  · have hbound : n.natAbs ≤ Double.wordLimit := by omega
    simp only [numeral, Option.isSome_none, Bool.or_self, Bool.false_eq_true, if_false, hneg,
      decide_false, hbound, if_true]
    have habs : (n.natAbs : Int) = n := by omega
    rw [habs]

namespace Decoder

/-! ## Values of any kind -/

theorem valueItems_trees {level : Nat} {items : List Json}
    (h : ∀ item ∈ items, value level (tree item) = .ok item) :
    valueItems level (trees items) = .ok items := by
  induction items with
  | nil => rfl
  | cons item rest ih =>
    rw [trees, valueItems, h item List.mem_cons_self,
      ih fun other hmem => h other (List.mem_cons_of_mem _ hmem)]
    rfl

theorem valueMembers_trees {level : Nat} {members done : List (String × Json)}
    (hord : (done ++ members).Pairwise fun a b => a.1 < b.1)
    (h : ∀ member ∈ members, value level (tree member.2) = .ok member.2) :
    valueMembers level done (memberTrees members) = .ok (done ++ members) := by
  induction members generalizing done with
  | nil => rw [memberTrees, valueMembers, List.append_nil]
  | cons member rest ih =>
    obtain ⟨name, value⟩ := member
    have hlast : ∀ entry ∈ done, entry.1 < name := fun entry hentry =>
      (List.pairwise_append.1 hord).2.2 entry hentry _ List.mem_cons_self
    -- the name comes after all those done, so it is put at the end
    have happend : done ++ (name, value) :: rest = (done ++ [(name, value)]) ++ rest := by
      rw [List.append_assoc, List.singleton_append]
    rw [memberTrees, valueMembers, h (name, value) List.mem_cons_self]
    change valueMembers level (setEntry name value done) (memberTrees rest) = _
    rw [setEntry_of_lt hlast, happend]
    exact ih (happend ▸ hord) fun other hmem => h other (List.mem_cons_of_mem _ hmem)

/-- **A value is read as itself.** -/
theorem value_tree {level : Nat} {j : Json} (h : j.Readable level) :
    value level (tree j) = .ok j := by
  induction h with
  | null => rfl
  | boolean => rfl
  | integer hleast hgreatest =>
    rw [tree, value, number_numeral hleast hgreatest]
  | string => rfl
  | @array level items _ ih =>
    rw [tree, value]
    change (valueItems level (trees items) >>= fun values => _) = _
    rw [valueItems_trees ih]
    rfl
  | @object level members hord _ ih =>
    rw [tree, value]
    change (valueMembers level [] (memberTrees members) >>= fun values => _) = _
    rw [@valueMembers_trees level members [] hord ih]
    rfl

/-- The members of an object are read as themselves. -/
theorem members_tree {level : Nat} {ms : List (String × Json)}
    (h : (Json.object ms).Readable (level + 1)) :
    members (level + 1) (tree (.object ms)) = .ok ms := by
  cases h with
  | object hord hvalues =>
    rw [tree, members]
    change (valueMembers level [] (memberTrees ms) >>= fun values => _) = _
    rw [@valueMembers_trees level ms [] hord fun member hmem => value_tree (hvalues member hmem)]
    rfl

/-! ## Scalars and lists -/

theorem signed_tree {level : Nat} {n : Int} (hleast : leastInteger ≤ n)
    (hgreatest : n ≤ greatestInteger) : signed level (tree (.integer n)) = .ok n := by
  have hword : n ≤ Double.wordLimit := Int.le_trans hgreatest (by decide)
  rw [tree, signed, integerWithin]
  simp only [number_numeral hleast hword, hleast, hgreatest, and_self, if_true]

theorem mapM_tree {α : Type} {write : α → Json} {decoder : Tree → Except Problem α}
    {items : List α} (h : ∀ item ∈ items, decoder (tree (write item)) = .ok item) :
    (trees (items.map write)).mapM decoder = .ok items := by
  induction items with
  | nil => rfl
  | cons item rest ih =>
    rw [List.map_cons, trees, List.mapM_cons, h item List.mem_cons_self,
      ih fun other hmem => h other (List.mem_cons_of_mem _ hmem)]
    rfl

/-- A list is read as itself if its items are. -/
theorem list_tree {α : Type} {write : α → Json} {decoder : Decoder α} {level : Nat}
    {items : List α} (h : ∀ item ∈ items, decoder level (tree (write item)) = .ok item) :
    list decoder (level + 1) (tree (.array (items.map write))) = .ok items := by
  rw [tree, list]
  change ((trees (items.map write)).mapM (decoder level) >>= fun values => _) = _
  rw [mapM_tree h]
  rfl

theorem strings_tree {level : Nat} {items : List String} :
    list text (level + 1) (tree (strings items)) = .ok items :=
  list_tree fun _ _ => rfl

end Decoder

/-! ## Records -/

/-- A field, what stands in its place, and the change that it makes. -/
structure Cell (ρ : Type) where
  field : Field ρ
  /-- The value in its place. -/
  content : Json
  change : ρ → ρ

theorem Field.read_of {ρ α : Type} {name : String} {presence : Presence} {decoder : Decoder α}
    {set : ρ → α → ρ} {level : Nat} {t : Tree} {value : α} (h : decoder level t = .ok value) :
    (Field.of name presence decoder set).read level t = .ok fun record => set record value := by
  change (decoder level t).map _ = _
  rw [h]
  rfl

namespace Record

variable {ρ : Type} {r : Record ρ} {level : Nat}

/-- The members of an object with the cells of a record. -/
def membersOf (cells : List (Cell ρ)) : List (String × Json) :=
  cells.map fun cell => (cell.field.name, cell.content)

theorem find?_field {fields : List (Field ρ)} {field : Field ρ}
    (hnodup : (fields.map Field.name).Nodup) (h : field ∈ fields) :
    fields.find? (fun f => f.name == field.name) = some field := by
  induction fields with
  | nil => cases h
  | cons first rest ih =>
    obtain ⟨hnot, hrest⟩ := List.nodup_cons.1 hnodup
    rcases List.mem_cons.1 h with rfl | hmem
    · rw [List.find?_cons_of_pos (by simp)]
    · have hne : first.name ≠ field.name := fun heq =>
        hnot (heq ▸ List.mem_map_of_mem hmem)
      rw [List.find?_cons_of_neg (by simpa using hne), ih hrest hmem]

theorem readMembers_cells {cells : List (Cell ρ)} {seen : List String} {record : ρ}
    (hnodup : (r.fields.map Field.name).Nodup) (hfields : ∀ cell ∈ cells, cell.field ∈ r.fields)
    (hseen : (cells.map fun cell => cell.field.name).Nodup)
    (hnew : ∀ cell ∈ cells, cell.field.name ∉ seen)
    (hread : ∀ cell ∈ cells, cell.field.read level (tree cell.content) = .ok cell.change) :
    r.readMembers level (memberTrees (membersOf cells)) seen record =
      .ok (cells.foldl (fun record cell => cell.change record) record,
        (cells.map fun cell => cell.field.name).reverse ++ seen) := by
  induction cells generalizing seen record with
  | nil => rfl
  | cons cell rest ih =>
    obtain ⟨hnot, hrest⟩ := List.nodup_cons.1 hseen
    have hfind := find?_field hnodup (hfields cell List.mem_cons_self)
    have hcontains : seen.contains cell.field.name = false := by
      simpa using hnew cell List.mem_cons_self
    -- the name is seen from now on, and no later cell has it
    have hmore := @ih (cell.field.name :: seen) (cell.change record)
      (fun other hmem => hfields other (List.mem_cons_of_mem _ hmem)) hrest
      (fun other hmem => by
        rw [List.mem_cons, not_or]
        exact ⟨fun heq => hnot (List.mem_map.2 ⟨other, hmem, heq⟩),
          hnew other (List.mem_cons_of_mem _ hmem)⟩)
      (fun other hmem => hread other (List.mem_cons_of_mem _ hmem))
    have hname : Decoder.memberName (.string (some cell.field.name)) = .ok cell.field.name := rfl
    rw [membersOf, List.map_cons, memberTrees, readMembers]
    simp only [hname, bind, Except.bind, hfind, hcontains, Bool.false_eq_true, if_false,
      hread cell List.mem_cons_self]
    refine hmore.trans ?_
    rw [List.map_cons, List.reverse_cons, List.append_assoc]
    rfl

theorem checkPresent_of_seen {seen : List String} {fields : List (Field ρ)}
    (h : ∀ field ∈ fields, field.name ∈ seen) : checkPresent seen fields = .ok () := by
  induction fields with
  | nil => rfl
  | cons field rest ih =>
    have hcontains : seen.contains field.name = true := by
      simpa using h field List.mem_cons_self
    rw [checkPresent, if_neg fun hmissing => hmissing.2 hcontains,
      ih fun other hmem => h other (List.mem_cons_of_mem _ hmem)]

/-- **A record is read from an object that has its fields in their order.** -/
theorem decode_of_cells {cells : List (Cell ρ)} (hfields : r.fields = cells.map Cell.field)
    (hnodup : (cells.map fun cell => cell.field.name).Nodup)
    (hread : ∀ cell ∈ cells, cell.field.read level (tree cell.content) = .ok cell.change) :
    r.decode (level + 1) (tree (.object (membersOf cells))) =
      .ok (cells.foldl (fun record cell => cell.change record) r.blank) := by
  have hnames : (r.fields.map Field.name).Nodup := by
    rw [hfields, List.map_map]
    exact hnodup
  have hmembers := @readMembers_cells ρ r level cells [] r.blank hnames
    (fun cell hmem => hfields ▸ List.mem_map_of_mem hmem) hnodup
    (fun _ _ => List.not_mem_nil) hread
  have hpresent : checkPresent ((cells.map fun cell => cell.field.name).reverse ++ [])
      r.fields = .ok () := by
    refine checkPresent_of_seen fun field hmem => ?_
    rw [hfields] at hmem
    obtain ⟨cell, hcell, rfl⟩ := List.mem_map.1 hmem
    rw [List.append_nil, List.mem_reverse]
    exact List.mem_map.2 ⟨cell, hcell, rfl⟩
  rw [tree, decode]
  change (r.readMembers level (memberTrees (membersOf cells)) [] r.blank >>= fun read => _) = _
  rw [hmembers]
  change (checkPresent _ r.fields >>= fun _ => _) = _
  rw [hpresent]
  rfl

end Record

/-! ## Whole texts -/

/-- **The text of a value is read as its tree.** -/
theorem readString_text {α : Type} (decoder : Decoder α) (j : Json) :
    readString decoder j.text = decoder deepestNesting (tree j) := by
  rw [readString, read, Document.ofSymbols_text]
  cases decoder deepestNesting (tree j) with
  | ok value => rfl
  | error problem => rfl

end Json

end ChatImport
