import ChatImport.Proofs.Json.Reading
import Mathlib.Data.List.Forall2
/-!
# What a reader lets in

Whatever text is read, the value that comes of it opens no more levels than the
reader allowed, its whole numbers fit into 64 bits, and the members of its objects
are in order. So it reads back from its own text wherever as many levels may be
opened, if no double stands in it (`Decoder.readable_of_value`). How many it needs
is its `Json.depth`, and fewer will do where it is less (`Readable.of_depth_le`), but
never fewer than that (`Decoder.depth_le_of_value`).

A record is what its fields have made of it: what every field keeps holds of the
record that is read (`Record.decode_keeps`).
-/

namespace ChatImport

/-- A pair that is in entries after one was set is the new pair or an old one. -/
theorem mem_setEntry {α : Type} {key : String} {value : α} {entries : List (String × α)}
    {entry : String × α} (h : entry ∈ setEntry key value entries) :
    entry = (key, value) ∨ entry ∈ entries := by
  induction entries with
  | nil => exact Or.inl (List.mem_singleton.1 h)
  | cons first rest ih =>
    rw [setEntry] at h
    split at h
    · exact List.mem_cons.1 h
    split at h
    · rcases List.mem_cons.1 h with rfl | h
      · exact Or.inr List.mem_cons_self
      · exact (ih h).imp_right (List.mem_cons_of_mem _)
    · exact (List.mem_cons.1 h).imp_right (List.mem_cons_of_mem _)

namespace Json

/-! ## Steps that may fail -/

theorem ok_of_bind {ε α β : Type} {act : Except ε α} {next : α → Except ε β} {b : β}
    (h : (act >>= next) = .ok b) : ∃ a, act = .ok a ∧ next a = .ok b := by
  cases act with
  | ok a => exact ⟨a, rfl, h⟩
  | error error => cases h

theorem ok_of_map {ε α β : Type} {act : Except ε α} {f : α → β} {b : β}
    (h : act.map f = .ok b) : ∃ a, act = .ok a ∧ f a = b := by
  cases act with
  | ok a => exact ⟨a, rfl, Except.ok.inj h⟩
  | error error => cases h

theorem refuse_ne_ok {α : Type} {t : Tree} {expected : String} {a : α} :
    t.refuse expected ≠ .ok a := by
  intro h
  unfold Tree.refuse at h
  split at h
  · cases h
  · cases h

/-! ## Depth -/

mutual

/-- The number of arrays and objects that stand one inside the other. -/
def depth : Json → Nat
  | .null | .boolean _ | .integer _ | .double _ | .string _ => 0
  | .array items => itemsDepth items + 1
  | .object members => membersDepth members + 1

/-- The greatest depth of items. -/
def itemsDepth : List Json → Nat
  | [] => 0
  | item :: rest => max item.depth (itemsDepth rest)

/-- The greatest depth of the values of members. -/
def membersDepth : List (String × Json) → Nat
  | [] => 0
  | (_, value) :: rest => max value.depth (membersDepth rest)

end

theorem depth_le_itemsDepth {items : List Json} {item : Json} (h : item ∈ items) :
    item.depth ≤ itemsDepth items := by
  induction items with
  | nil => cases h
  | cons first rest ih =>
    rw [itemsDepth]
    rcases List.mem_cons.1 h with rfl | h
    · exact Nat.le_max_left _ _
    · exact Nat.le_trans (ih h) (Nat.le_max_right _ _)

theorem depth_le_membersDepth {members : List (String × Json)} {member : String × Json}
    (h : member ∈ members) : member.2.depth ≤ membersDepth members := by
  induction members with
  | nil => cases h
  | cons first rest ih =>
    rw [membersDepth]
    rcases List.mem_cons.1 h with rfl | h
    · exact Nat.le_max_left _ _
    · exact Nat.le_trans (ih h) (Nat.le_max_right _ _)

/-- **A value reads back where its depth may be opened**, if it does anywhere. -/
theorem Readable.of_depth_le {level : Nat} {j : Json} (h : j.Readable level) :
    ∀ level', j.depth ≤ level' → j.Readable level' := by
  induction h with
  | null => exact fun _ _ => .null
  | boolean => exact fun _ _ => .boolean
  | integer hleast hgreatest => exact fun _ _ => .integer hleast hgreatest
  | string => exact fun _ _ => .string
  | array _ ih =>
    intro level' hle
    rw [depth] at hle
    obtain ⟨inner, rfl⟩ : ∃ n, level' = n + 1 := ⟨level' - 1, by omega⟩
    exact .array fun item hmem =>
      ih item hmem inner (Nat.le_trans (depth_le_itemsDepth hmem) (by omega))
  | object hord _ ih =>
    intro level' hle
    rw [depth] at hle
    obtain ⟨inner, rfl⟩ : ∃ n, level' = n + 1 := ⟨level' - 1, by omega⟩
    exact .object hord fun member hmem =>
      ih member hmem inner (Nat.le_trans (depth_le_membersDepth hmem) (by omega))

/-! ## Doubles -/

mutual

/-- Does no double stand in the value? -/
def isExact : Json → Bool
  | .null | .boolean _ | .integer _ | .string _ => true
  | .double _ => false
  | .array items => areExact items
  | .object members => haveExact members

/-- Does no double stand in any of the items? -/
def areExact : List Json → Bool
  | [] => true
  | item :: rest => item.isExact && areExact rest

/-- Does no double stand in the values of the members? -/
def haveExact : List (String × Json) → Bool
  | [] => true
  | (_, value) :: rest => value.isExact && haveExact rest

end

theorem areExact_iff {items : List Json} :
    areExact items = true ↔ ∀ item ∈ items, item.isExact = true := by
  induction items with
  | nil => simp [areExact]
  | cons item rest ih => simp [areExact, ih]

theorem haveExact_iff {members : List (String × Json)} :
    haveExact members = true ↔ ∀ member ∈ members, member.2.isExact = true := by
  induction members with
  | nil => simp [haveExact]
  | cons member rest ih => simp [haveExact, ih]

theorem isExact_iff (j : Json) : j.isExact = true ↔ j.Exact := by
  induction j using Json.induct with
  | null => exact ⟨fun _ => .null, fun _ => rfl⟩
  | boolean => exact ⟨fun _ => .boolean, fun _ => rfl⟩
  | integer => exact ⟨fun _ => .integer, fun _ => rfl⟩
  | double => exact ⟨nofun, nofun⟩
  | string => exact ⟨fun _ => .string, fun _ => rfl⟩
  | array items ih =>
    rw [isExact, areExact_iff]
    constructor
    · exact fun h => .array fun item hmem => (ih item hmem).1 (h item hmem)
    · rintro (_ | _ | _ | _ | h)
      exact fun item hmem => (ih item hmem).2 (h item hmem)
  | object members ih =>
    rw [isExact, haveExact_iff]
    constructor
    · exact fun h => .object fun member hmem => (ih member hmem).1 (h member hmem)
    · rintro (_ | _ | _ | _ | _ | h)
      exact fun member hmem => (ih member hmem).2 (h member hmem)

instance (j : Json) : Decidable j.Exact := decidable_of_iff _ (isExact_iff j)

/-! ## Values of any kind -/

/-- **A numeral that is read as a whole number** is that of its sign and its digits, and
fits into 64 bits. -/
theorem of_number {n : Numeral} {i : Int} (h : n.number = .ok (.integer i)) :
    i = (if n.negative = true then -(ofDigits n.whole : Int) else ofDigits n.whole) ∧
      leastInteger ≤ i ∧ i ≤ Double.wordLimit := by
  have hleast : leastInteger ≤ 0 := by decide
  have hword : (0 : Int) ≤ Double.wordLimit := Int.natCast_nonneg _
  unfold Numeral.number at h
  simp only [] at h
  split at h
  · next value hwhole =>
    cases h
    split at hwhole
    · cases hwhole
    split at hwhole
    · next hnegative =>
      split at hwhole
      · cases hwhole
        rw [if_pos hnegative]
        omega
      · cases hwhole
    · next hnegative =>
      split at hwhole
      · cases hwhole
        rw [if_neg hnegative]
        omega
      · cases hwhole
  · split at h
    · cases h
    · cases h

/-- A numeral of a whole number that is read as one is read as that number. -/
theorem eq_of_number_numeral {n i : Int} (h : (numeral n).number = .ok (.integer i)) : i = n := by
  have hsize : ofDigits (numeral n).whole = n.natAbs := ofDigits_decimals _
  have hnegative : (numeral n).negative = decide (n < 0) := rfl
  obtain ⟨heq, -⟩ := of_number h
  rw [hsize, hnegative] at heq
  simp only [decide_eq_true_eq] at heq
  omega

namespace Decoder

theorem opened_eq {level inner : Nat} (h : opened level = .ok inner) : level = inner + 1 := by
  cases level with
  | zero => cases h
  | succ level => exact congrArg (· + 1) (Except.ok.inj h)

mutual

/-- **A value that was read reads back**, where as many levels may be opened, if no
double stands in it. -/
theorem readable_of_value {level : Nat} : ∀ (t : Tree) {j : Json}, value level t = .ok j →
    j.Exact → j.Readable level
  | .null, j, h, _ => by
    cases h
    exact .null
  | .boolean b, j, h, _ => by
    cases h
    exact .boolean
  | .number n, j, h, hexact => by
    rw [value] at h
    split at h
    · next i hnumber =>
      cases h
      obtain ⟨-, hleast, hgreatest⟩ := of_number hnumber
      exact .integer hleast hgreatest
    · cases h
      cases hexact
    · cases h
  | .string (some s), j, h, _ => by
    cases h
    exact .string
  | .string none, j, h, _ => by cases h
  | .array items fault, j, h, hexact => by
    rw [value] at h
    obtain ⟨inner, hopened, h⟩ := ok_of_bind h
    obtain ⟨values, hvalues, h⟩ := ok_of_bind h
    obtain ⟨-, -, h⟩ := ok_of_bind h
    cases h
    cases hexact with
    | array hexact =>
      rw [opened_eq hopened]
      exact .array fun item hmem =>
        readable_of_valueItems items hvalues item hmem (hexact item hmem)
  | .object members fault, j, h, hexact => by
    rw [value] at h
    obtain ⟨inner, hopened, h⟩ := ok_of_bind h
    obtain ⟨values, hvalues, h⟩ := ok_of_bind h
    obtain ⟨-, -, h⟩ := ok_of_bind h
    cases h
    cases hexact with
    | object hexact =>
      obtain ⟨hord, hread⟩ := readable_of_valueMembers members hvalues List.Pairwise.nil
        fun _ hmem => nomatch hmem
      rw [opened_eq hopened]
      exact .object hord fun member hmem => hread member hmem (hexact member hmem)
  | .missing, j, h, _ => by cases h
  | .broken quoted cut, j, h, _ => by cases h

theorem readable_of_valueItems {level : Nat} : ∀ (ts : List Tree) {items : List Json},
    valueItems level ts = .ok items → ∀ item ∈ items, item.Exact → item.Readable level
  | [], items, h => by
    cases h
    exact fun _ hmem => nomatch hmem
  | t :: rest, items, h => by
    rw [valueItems] at h
    obtain ⟨first, hfirst, h⟩ := ok_of_bind h
    obtain ⟨others, hothers, h⟩ := ok_of_bind h
    cases h
    intro item hmem hexact
    rcases List.mem_cons.1 hmem with rfl | hmem
    · exact readable_of_value t hfirst hexact
    · exact readable_of_valueItems rest hothers item hmem hexact

/-- The members are put in their order, and a name that comes again gets a new value. -/
theorem readable_of_valueMembers {level : Nat} : ∀ (ts : List (Token × Tree))
    {done members : List (String × Json)}, valueMembers level done ts = .ok members →
    done.Pairwise (fun a b => a.1 < b.1) →
    (∀ member ∈ done, member.2.Exact → member.2.Readable level) →
    members.Pairwise (fun a b => a.1 < b.1) ∧
      ∀ member ∈ members, member.2.Exact → member.2.Readable level
  | [], done, members, h => by
    cases h
    exact fun hord hdone => ⟨hord, hdone⟩
  | (token, t) :: rest, done, members, h => by
    rw [valueMembers] at h
    obtain ⟨name, -, h⟩ := ok_of_bind h
    obtain ⟨first, hfirst, h⟩ := ok_of_bind h
    intro hord hdone
    refine readable_of_valueMembers rest h (pairwise_setEntry name first hord)
      fun member hmem hexact => ?_
    rcases mem_setEntry hmem with rfl | hmem
    · exact readable_of_value t hfirst hexact
    · exact hdone member hmem hexact

end

mutual

/-- **A value that reads is no deeper than the levels that may be opened.** -/
theorem depth_le_of_value {level : Nat} : ∀ (j : Json) {read : Json},
    value level (tree j) = .ok read → j.depth ≤ level
  | .null, _, _ | .boolean _, _, _ | .integer _, _, _ | .double _, _, _ | .string _, _, _ =>
    Nat.zero_le _
  | .array items, _, h => by
    rw [tree, value] at h
    obtain ⟨inner, hopened, h⟩ := ok_of_bind h
    obtain ⟨values, hvalues, -⟩ := ok_of_bind h
    rw [depth, opened_eq hopened]
    exact Nat.succ_le_succ (itemsDepth_le_of_valueItems items hvalues)
  | .object members, _, h => by
    rw [tree, value] at h
    obtain ⟨inner, hopened, h⟩ := ok_of_bind h
    obtain ⟨values, hvalues, -⟩ := ok_of_bind h
    rw [depth, opened_eq hopened]
    exact Nat.succ_le_succ (membersDepth_le_of_valueMembers members hvalues)

theorem itemsDepth_le_of_valueItems {level : Nat} : ∀ (items : List Json) {values : List Json},
    valueItems level (trees items) = .ok values → itemsDepth items ≤ level
  | [], _, _ => Nat.zero_le _
  | item :: rest, _, h => by
    rw [trees, valueItems] at h
    obtain ⟨first, hfirst, h⟩ := ok_of_bind h
    obtain ⟨others, hothers, -⟩ := ok_of_bind h
    exact Nat.max_le.2 ⟨depth_le_of_value item hfirst, itemsDepth_le_of_valueItems rest hothers⟩

theorem membersDepth_le_of_valueMembers {level : Nat} : ∀ (members : List (String × Json))
    {done values : List (String × Json)},
    valueMembers level done (memberTrees members) = .ok values → membersDepth members ≤ level
  | [], _, _, _ => Nat.zero_le _
  | (name, content) :: rest, _, _, h => by
    rw [memberTrees, valueMembers] at h
    obtain ⟨_, -, h⟩ := ok_of_bind h
    obtain ⟨first, hfirst, h⟩ := ok_of_bind h
    exact Nat.max_le.2
      ⟨depth_le_of_value content hfirst, membersDepth_le_of_valueMembers rest h⟩

end

theorem depth_le_of_members {level : Nat} {written read : List (String × Json)}
    (h : members level (tree (.object written)) = .ok read) :
    (Json.object written).depth ≤ level := by
  rw [tree, members] at h
  obtain ⟨inner, hopened, h⟩ := ok_of_bind h
  obtain ⟨values, hvalues, -⟩ := ok_of_bind h
  rw [depth, opened_eq hopened]
  exact Nat.succ_le_succ (membersDepth_le_of_valueMembers written hvalues)

/-! ## Scalars and lists -/

/-- A whole number that is read is the one that was written. -/
theorem eq_of_signed_tree {level : Nat} {n i : Int} (h : signed level (tree (.integer n)) = .ok i) :
    i = n := by
  rw [tree, signed, integerWithin] at h
  split at h
  · next value hnumber =>
    have hvalue : value = n := eq_of_number_numeral hnumber
    split at h
    · cases h
      exact hvalue
    · cases h
  · cases h
  · cases h

/-- Steps that all succeed have made each value of its item. -/
theorem forall₂_of_mapM {α β : Type} {step : α → Except Problem β} {items : List α}
    {values : List β} (h : items.mapM step = .ok values) :
    List.Forall₂ (fun item value => step item = .ok value) items values := by
  induction items generalizing values with
  | nil =>
    cases h
    exact .nil
  | cons item rest ih =>
    rw [List.mapM_cons] at h
    obtain ⟨first, hfirst, h⟩ := ok_of_bind h
    obtain ⟨others, hothers, h⟩ := ok_of_bind h
    cases h
    exact .cons hfirst (ih hothers)

theorem trees_eq_map {items : List Json} : trees items = items.map tree := by
  induction items with
  | nil => rfl
  | cons item rest ih => rw [trees, ih, List.map_cons]

section

variable {α β : Type} {write : α → Json} {decoder : Decoder β} {items : List α}
variable {values : List β} {level : Nat}

/-- **What is read of a list that was written** is what is read of each of its items, one
level further in. -/
theorem forall₂_of_list_tree
    (h : list decoder level (tree (.array (items.map write))) = .ok values) :
    ∃ inner, level = inner + 1 ∧ List.Forall₂ (fun item value =>
      decoder inner (tree (write item)) = .ok value) items values := by
  rw [tree, list] at h
  obtain ⟨inner, hopened, h⟩ := ok_of_bind h
  obtain ⟨read, hread, h⟩ := ok_of_bind h
  obtain ⟨-, -, h⟩ := ok_of_bind h
  cases h
  rw [trees_eq_map, List.map_map] at hread
  exact ⟨inner, opened_eq hopened, List.forall₂_map_left_iff.1 (forall₂_of_mapM hread)⟩

/-- What reading tells of the items it tells of the list. -/
theorem map_eq_of_list_tree {γ : Type} {key : α → γ} {key' : β → γ}
    (hkey : ∀ inner item value, decoder inner (tree (write item)) = .ok value →
      key item = key' value)
    (h : list decoder level (tree (.array (items.map write))) = .ok values) :
    items.map key = values.map key' := by
  obtain ⟨inner, -, hall⟩ := forall₂_of_list_tree h
  rw [← List.forall₂_eq_eq_eq, List.forall₂_map_left_iff, List.forall₂_map_right_iff]
  exact hall.imp fun item value hread => hkey inner item value hread

/-- Each item of a list that reads reads itself. -/
theorem exists_of_list_tree
    (h : list decoder level (tree (.array (items.map write))) = .ok values) {item : α}
    (hmem : item ∈ items) :
    ∃ inner value, level = inner + 1 ∧ decoder inner (tree (write item)) = .ok value := by
  obtain ⟨inner, hlevel, hall⟩ := forall₂_of_list_tree h
  obtain ⟨n, hn, rfl⟩ := List.getElem_of_mem hmem
  exact ⟨inner, values.get ⟨n, hall.length_eq ▸ hn⟩, hlevel, hall.get hn _⟩

end

/-- **Each value of a list that was read comes of a tree** one level further in. -/
theorem exists_of_mem_list {α : Type} {decoder : Decoder α} {level : Nat} {t : Tree}
    {values : List α} (h : list decoder level t = .ok values) {a : α} (hmem : a ∈ values) :
    ∃ inner item, level = inner + 1 ∧ decoder inner item = .ok a := by
  unfold list at h
  split at h
  · obtain ⟨inner, hopened, h⟩ := ok_of_bind h
    obtain ⟨read, hread, h⟩ := ok_of_bind h
    obtain ⟨-, -, h⟩ := ok_of_bind h
    cases h
    have hall := forall₂_of_mapM hread
    obtain ⟨n, hn, rfl⟩ := List.getElem_of_mem hmem
    exact ⟨inner, _, opened_eq hopened, hall.get (hall.length_eq ▸ hn) hn⟩
  · exact absurd h refuse_ne_ok

end Decoder

/-! ## Records -/

theorem Field.exists_of_read_of {ρ α : Type} {name : String} {presence : Presence}
    {decoder : Decoder α} {set : ρ → α → ρ} {level : Nat} {t : Tree} {change : ρ → ρ}
    (h : (Field.of name presence decoder set).read level t = .ok change) :
    ∃ value, decoder level t = .ok value ∧ change = fun record => set record value := by
  obtain ⟨value, hvalue, rfl⟩ := ok_of_map h
  exact ⟨value, hvalue, rfl⟩

namespace Record

variable {ρ : Type} {r : Record ρ} {level : Nat} {P : ρ → Prop}

theorem readMembers_keeps (hfields : ∀ field ∈ r.fields, ∀ t change,
      field.read level t = .ok change → ∀ record, P record → P (change record))
    {members : List (Token × Tree)} {seen seen' : List String} {record record' : ρ}
    (h : r.readMembers level members seen record = .ok (record', seen')) (hP : P record) :
    P record' := by
  induction members generalizing seen record with
  | nil =>
    cases h
    exact hP
  | cons member rest ih =>
    obtain ⟨token, t⟩ := member
    rw [readMembers] at h
    obtain ⟨name, -, h⟩ := ok_of_bind h
    split at h
    · obtain ⟨-, -, h⟩ := ok_of_bind h
      exact ih h hP
    · next field hfind =>
      split at h
      · cases h
      · obtain ⟨change, hread, h⟩ := ok_of_bind h
        exact ih h (hfields field (List.mem_of_find?_eq_some hfind) t change hread record hP)

theorem readItems_keeps {fault : Option Fault} {fields : List (Field ρ)}
    (hfields : ∀ field ∈ fields, ∀ t change,
      field.read level t = .ok change → ∀ record, P record → P (change record))
    {items : List Tree} {count : Nat} {record record' : ρ}
    (h : r.readItems level fault fields count items record = .ok record') (hP : P record) :
    P record' := by
  induction fields generalizing items count record with
  | nil =>
    cases items with
    | nil =>
      obtain ⟨-, -, rfl⟩ := ok_of_map h
      exact hP
    | cons item rest => cases h
  | cons field fields ih =>
    have hrest := fun other hmem => hfields other (List.mem_cons_of_mem field hmem)
    cases items with
    | nil =>
      rw [readItems] at h
      obtain ⟨-, -, h⟩ := ok_of_bind h
      split at h
      · exact ih hrest h hP
      · cases h
    | cons item rest =>
      rw [readItems] at h
      obtain ⟨change, hread, h⟩ := ok_of_bind h
      exact ih hrest h (hfields field List.mem_cons_self item change hread record hP)

/-- **What every field keeps holds of a record that is read**, from an object or from an
array. -/
theorem decode_keeps (hblank : P r.blank) (hfields : ∀ field ∈ r.fields, ∀ inner t change,
      level = inner + 1 → field.read inner t = .ok change → ∀ record, P record → P (change record))
    {t : Tree} {record : ρ} (h : r.decode level t = .ok record) : P record := by
  unfold decode at h
  split at h
  · obtain ⟨inner, hopened, h⟩ := ok_of_bind h
    obtain ⟨⟨record, seen⟩, hread, h⟩ := ok_of_bind h
    obtain ⟨-, -, h⟩ := ok_of_bind h
    obtain ⟨-, -, h⟩ := ok_of_bind h
    cases h
    exact readMembers_keeps (fun field hmem t change =>
      hfields field hmem inner t change (Decoder.opened_eq hopened)) hread hblank
  · obtain ⟨inner, hopened, h⟩ := ok_of_bind h
    exact readItems_keeps (fun field hmem t change =>
      hfields field hmem inner t change (Decoder.opened_eq hopened)) h hblank
  · exact absurd h refuse_ne_ok

theorem exists_of_readMembers_cells {cells : List (Cell ρ)} {seen seen' : List String}
    {record record' : ρ} (hnodup : (r.fields.map Field.name).Nodup)
    (hfields : ∀ cell ∈ cells, cell.field ∈ r.fields)
    (h : r.readMembers level (memberTrees (membersOf cells)) seen record = .ok (record', seen')) :
    ∃ changes : List (ρ → ρ), List.Forall₂ (fun (cell : Cell ρ) change =>
        cell.field.read level (tree cell.content) = .ok change) cells changes ∧
      record' = changes.foldl (fun record change => change record) record := by
  induction cells generalizing seen record with
  | nil =>
    cases h
    exact ⟨[], .nil, rfl⟩
  | cons cell rest ih =>
    have hfind := find?_field hnodup (hfields cell List.mem_cons_self)
    have hname : Decoder.memberName (.string (some cell.field.name)) = .ok cell.field.name := rfl
    rw [membersOf, List.map_cons, memberTrees, readMembers] at h
    obtain ⟨name, hread, h⟩ := ok_of_bind h
    cases hname.symm.trans hread
    simp only [hfind] at h
    split at h
    · cases h
    · obtain ⟨change, hchange, h⟩ := ok_of_bind h
      obtain ⟨changes, hchanges, heq⟩ :=
        ih (fun other hmem => hfields other (List.mem_cons_of_mem _ hmem)) h
      exact ⟨change :: changes, .cons hchange hchanges, heq⟩

/-- **A record that is read from an object with its fields in their order** is what each
field has made of what stands in its place. -/
theorem exists_of_decode_cells {cells : List (Cell ρ)} (hfields : r.fields = cells.map Cell.field)
    (hnodup : (cells.map fun cell => cell.field.name).Nodup) {record : ρ}
    (h : r.decode level (tree (.object (membersOf cells))) = .ok record) :
    ∃ inner changes, level = inner + 1 ∧ List.Forall₂ (fun (cell : Cell ρ) change =>
        cell.field.read inner (tree cell.content) = .ok change) cells changes ∧
      record = changes.foldl (fun record change => change record) r.blank := by
  have hnames : (r.fields.map Field.name).Nodup := by
    rw [hfields, List.map_map]
    exact hnodup
  rw [tree, decode] at h
  obtain ⟨inner, hopened, h⟩ := ok_of_bind h
  obtain ⟨⟨record, seen⟩, hread, h⟩ := ok_of_bind h
  obtain ⟨-, -, h⟩ := ok_of_bind h
  obtain ⟨-, -, h⟩ := ok_of_bind h
  cases h
  obtain ⟨changes, hchanges, heq⟩ := exists_of_readMembers_cells hnames
    (fun cell hmem => hfields ▸ List.mem_map_of_mem hmem) hread
  exact ⟨inner, changes, Decoder.opened_eq hopened, hchanges, heq⟩

end Record

/-! ## Whole texts -/

theorem exists_of_read {α : Type} {decoder : Decoder α} {symbols : List Symbol} {value : α}
    (h : read decoder symbols = .ok value) : ∃ t, decoder deepestNesting t = .ok value := by
  unfold read at h
  obtain ⟨read, hread, h⟩ := ok_of_bind h
  split at h
  · cases h
  · cases h
    exact ⟨_, hread⟩

end Json

end ChatImport
