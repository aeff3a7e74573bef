import ChatImport.Proofs.Json.Admitting
import ChatImport.Proofs.Table
/-!
# Values as programs hold them

A program holds whole numbers of 64 bits and keeps the members of an object in the
order of their names. A value of this kind, if no double stands in it, reads back
from its text exactly where its depth may be opened (`Json.readable_iff`): nothing
but the depth is left to ask. A table, whose keys are in order too, is read back if
its values are (`Decoder.table_tree`).
-/

namespace ChatImport

namespace Json

variable {level : Nat} {items : List Json} {ms : List (String × Json)}

/-- A value as a program holds it, without doubles. -/
inductive Regular : Json → Prop where
  | null : Regular .null
  | boolean {b : Bool} : Regular (.boolean b)
  /-- A whole number of 64 bits. -/
  | integer {n : Int} : leastInteger ≤ n → n ≤ Double.wordLimit → Regular (.integer n)
  | string {s : String} : Regular (.string s)
  | array {items : List Json} : (∀ item ∈ items, Regular item) → Regular (.array items)
  /-- Values under names in their order. -/
  | object {members : List (String × Json)} : members.Pairwise (fun a b => a.1 < b.1) →
    (∀ member ∈ members, Regular member.2) → Regular (.object members)

/-! ## Depth -/

theorem itemsDepth_le_iff : itemsDepth items ≤ level ↔ ∀ item ∈ items, item.depth ≤ level := by
  constructor
  · exact fun h item hmem => Nat.le_trans (depth_le_itemsDepth hmem) h
  · intro h
    induction items with
    | nil => exact Nat.zero_le _
    | cons item rest ih =>
      exact Nat.max_le.2 ⟨h item List.mem_cons_self,
        ih fun other hmem => h other (List.mem_cons_of_mem _ hmem)⟩

theorem membersDepth_le_iff :
    membersDepth ms ≤ level ↔ ∀ member ∈ ms, member.2.depth ≤ level := by
  constructor
  · exact fun h member hmem => Nat.le_trans (depth_le_membersDepth hmem) h
  · intro h
    induction ms with
    | nil => exact Nat.zero_le _
    | cons member rest ih =>
      exact Nat.max_le.2 ⟨h member List.mem_cons_self,
        ih fun other hmem => h other (List.mem_cons_of_mem _ hmem)⟩

/-- An array opens one level, and its items stand inside. -/
theorem depth_array_le_iff : (Json.array items).depth ≤ level ↔
    ∃ inner, level = inner + 1 ∧ ∀ item ∈ items, item.depth ≤ inner := by
  rw [depth]
  constructor
  · intro h
    exact ⟨level - 1, by omega, itemsDepth_le_iff.1 (by omega)⟩
  · rintro ⟨inner, rfl, h⟩
    exact Nat.succ_le_succ (itemsDepth_le_iff.2 h)

/-- An object opens one level, and the values of its members stand inside. -/
theorem depth_object_le_iff : (Json.object ms).depth ≤ level ↔
    ∃ inner, level = inner + 1 ∧ ∀ member ∈ ms, member.2.depth ≤ inner := by
  rw [depth]
  constructor
  · intro h
    exact ⟨level - 1, by omega, membersDepth_le_iff.1 (by omega)⟩
  · rintro ⟨inner, rfl, h⟩
    exact Nat.succ_le_succ (membersDepth_le_iff.2 h)

/-! ## Reading back -/

theorem Readable.regular {j : Json} (h : j.Readable level) : j.Regular := by
  induction h with
  | null => exact .null
  | boolean => exact .boolean
  | integer hleast hgreatest => exact .integer hleast hgreatest
  | string => exact .string
  | array _ ih => exact .array ih
  | object hord _ ih => exact .object hord ih

theorem Regular.readable {j : Json} (h : j.Regular) :
    ∀ level, j.depth ≤ level → j.Readable level := by
  induction h with
  | null => exact fun _ _ => .null
  | boolean => exact fun _ _ => .boolean
  | integer hleast hgreatest => exact fun _ _ => .integer hleast hgreatest
  | string => exact fun _ _ => .string
  | array _ ih =>
    intro level hdepth
    obtain ⟨inner, rfl, hitems⟩ := depth_array_le_iff.1 hdepth
    exact .array fun item hmem => ih item hmem inner (hitems item hmem)
  | object hord _ ih =>
    intro level hdepth
    obtain ⟨inner, rfl, hmembers⟩ := depth_object_le_iff.1 hdepth
    exact .object hord fun member hmem => ih member hmem inner (hmembers member hmem)

/-- **A value without doubles reads back** exactly where its depth may be opened. -/
theorem readable_iff {j : Json} : j.Readable level ↔ j.Regular ∧ j.depth ≤ level :=
  ⟨fun h => ⟨h.regular, Decoder.depth_le_of_value j (Decoder.value_tree h)⟩,
    fun h => h.1.readable level h.2⟩

namespace Decoder

variable {α : Type} {write : α → Json} {decoder : Decoder α}

theorem tableMembers_tree {pairs : List (String × α)} {t : Table α}
    (h : ∀ pair ∈ pairs, decoder level (tree (write pair.2)) = .ok pair.2) :
    tableMembers (decoder level) t
        (memberTrees (pairs.map fun pair => (pair.1, write pair.2))) =
      .ok (t.insertAll pairs) := by
  induction pairs generalizing t with
  | nil => rfl
  | cons pair rest ih =>
    rw [List.map_cons, memberTrees, tableMembers, h pair List.mem_cons_self]
    exact ih fun other hmem => h other (List.mem_cons_of_mem _ hmem)

/-- **A table is read as itself** if its values are. -/
theorem table_tree {t : Table α}
    (h : ∀ entry ∈ t.entries, decoder level (tree (write entry.2)) = .ok entry.2) :
    table decoder (level + 1)
        (tree (.object (t.entries.map fun entry => (entry.1, write entry.2)))) = .ok t := by
  rw [tree, table]
  change (tableMembers (decoder level) Table.empty (memberTrees _) >>= fun values => _) = _
  rw [tableMembers_tree h, Table.insertAll_entries]
  rfl

end Decoder

end Json

end ChatImport
