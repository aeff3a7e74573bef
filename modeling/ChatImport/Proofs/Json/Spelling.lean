import ChatImport.Proofs.Json.Numerals
/-!
# The tokens of the text of a value

The compact text of a value is taken apart into the tokens of the value
(`Json.tokens_text`), the values inside before the value itself. What ends one
of them is a comma or a closing sign.
-/

namespace ChatImport

namespace Json

/-- Induction on a value, with what holds of the values inside. -/
@[elab_as_elim]
theorem induct {motive : Json → Prop} (null : motive .null)
    (boolean : ∀ b, motive (.boolean b)) (integer : ∀ n, motive (.integer n))
    (double : ∀ x, motive (.double x)) (string : ∀ s, motive (.string s))
    (array : ∀ items, (∀ item ∈ items, motive item) → motive (.array items))
    (object : ∀ members : List (String × Json), (∀ member ∈ members, motive member.2) →
      motive (.object members)) : ∀ j, motive j
  | .null => null
  | .boolean b => boolean b
  | .integer n => integer n
  | .double x => double x
  | .string s => string s
  | .array items => array items fun item hmem =>
    have := List.sizeOf_lt_of_mem hmem
    induct null boolean integer double string array object item
  | .object members => object members fun (_, value) hmem =>
    have := List.sizeOf_lt_of_mem hmem
    induct null boolean integer double string array object value
termination_by j => sizeOf j
decreasing_by all_goals simp_all; omega

/-! ## The tokens of a value -/

mutual

/-- The tokens of a value. -/
def spelled : Json → List Token
  | .null => [.null]
  | .boolean b => [.boolean b]
  | .integer n => [.number (numeral n)]
  | .double x => [.number (doubleNumeral x)]
  | .string s => [.string (some s)]
  | .array items => .openArray :: spelledItems items ++ [.closeArray]
  | .object members => .openObject :: spelledMembers members ++ [.closeObject]

/-- The tokens of the items of an array. -/
def spelledItems : List Json → List Token
  | [] => []
  | item :: rest => spelled item ++ spelledMoreItems rest

/-- The tokens of the items after the first. -/
def spelledMoreItems : List Json → List Token
  | [] => []
  | item :: rest => .comma :: spelled item ++ spelledMoreItems rest

/-- The tokens of the members of an object. -/
def spelledMembers : List (String × Json) → List Token
  | [] => []
  | (name, value) :: rest =>
    .string (some name) :: .colon :: spelled value ++ spelledMoreMembers rest

/-- The tokens of the members after the first. -/
def spelledMoreMembers : List (String × Json) → List Token
  | [] => []
  | (name, value) :: rest =>
    .comma :: .string (some name) :: .colon :: spelled value ++ spelledMoreMembers rest

end

/-! ## Values -/

/-- After an item a comma follows or the sign that closes the array. -/
theorem ends_moreItems (items : List Json) (rest : List Symbol) :
    Ends (symbols ((moreItemsText items).toList ++ [']']) ++ rest) := by
  cases items with
  | nil => exact ends_cons (by decide)
  | cons item more =>
    rw [moreItemsText, String.toList_append, String.toList_append]
    exact ends_cons (by decide)

theorem ends_moreMembers (members : List (String × Json)) (rest : List Symbol) :
    Ends (symbols ((moreMembersText members).toList ++ ['\x7d']) ++ rest) := by
  cases members with
  | nil => exact ends_cons (by decide)
  | cons member more =>
    rw [moreMembersText]
    simp only [String.toList_append]
    exact ends_cons (by decide)

theorem spells_moreItems {items : List Json}
    (h : ∀ item ∈ items, Spells item.text.toList (spelled item)) :
    SpellsAlone ((moreItemsText items).toList ++ [']'])
      (spelledMoreItems items ++ [.closeArray]) := by
  induction items with
  | nil => exact spellsAlone_sign rfl
  | cons item more ih =>
    have hmore := ih fun other hmem => h other (List.mem_cons_of_mem _ hmem)
    rw [moreItemsText, spelledMoreItems]
    simp only [String.toList_append, List.append_assoc, List.cons_append]
    exact spellsAlone_comma.append_alone
      ((h item List.mem_cons_self).append_alone hmore (ends_moreItems more))

theorem spells_items {items : List Json}
    (h : ∀ item ∈ items, Spells item.text.toList (spelled item)) :
    SpellsAlone ((itemsText items).toList ++ [']']) (spelledItems items ++ [.closeArray]) := by
  cases items with
  | nil => exact spellsAlone_sign rfl
  | cons item more =>
    rw [itemsText, spelledItems, String.toList_append, List.append_assoc, List.append_assoc]
    exact (h item List.mem_cons_self).append_alone
      (spells_moreItems fun other hmem => h other (List.mem_cons_of_mem _ hmem))
      (ends_moreItems more)

/-- A name, its colon and the value, with the members that follow. -/
theorem spells_member {name : String} {value : Json} {more : List (String × Json)}
    (hvalue : Spells value.text.toList (spelled value))
    (hmore : SpellsAlone ((moreMembersText more).toList ++ ['\x7d'])
      (spelledMoreMembers more ++ [.closeObject])) :
    SpellsAlone ((quote name).toList ++ (':' :: (value.text.toList ++
        ((moreMembersText more).toList ++ ['\x7d']))))
      (.string (some name) :: .colon :: (spelled value ++
        (spelledMoreMembers more ++ [.closeObject]))) :=
  (spellsAlone_quote name).append_alone
    (spellsAlone_colon.append_alone (hvalue.append_alone hmore (ends_moreMembers more)))

theorem spells_moreMembers {members : List (String × Json)}
    (h : ∀ member ∈ members, Spells member.2.text.toList (spelled member.2)) :
    SpellsAlone ((moreMembersText members).toList ++ ['\x7d'])
      (spelledMoreMembers members ++ [.closeObject]) := by
  induction members with
  | nil => exact spellsAlone_sign rfl
  | cons member more ih =>
    obtain ⟨name, value⟩ := member
    have hmore := ih fun other hmem => h other (List.mem_cons_of_mem _ hmem)
    rw [moreMembersText, spelledMoreMembers]
    simp only [String.toList_append, List.append_assoc, List.cons_append]
    exact spellsAlone_comma.append_alone
      (spells_member (h (name, value) List.mem_cons_self) hmore)

theorem spells_members {members : List (String × Json)}
    (h : ∀ member ∈ members, Spells member.2.text.toList (spelled member.2)) :
    SpellsAlone ((membersText members).toList ++ ['\x7d'])
      (spelledMembers members ++ [.closeObject]) := by
  cases members with
  | nil => exact spellsAlone_sign rfl
  | cons member more =>
    obtain ⟨name, value⟩ := member
    rw [membersText, spelledMembers]
    simp only [String.toList_append, List.append_assoc, List.cons_append]
    exact spells_member (h (name, value) List.mem_cons_self)
      (spells_moreMembers fun other hmem => h other (List.mem_cons_of_mem _ hmem))

/-- **The text of a value is read as its tokens**, whatever ends it. -/
theorem spells_text (j : Json) : Spells j.text.toList (spelled j) := by
  induction j using induct with
  | null => exact spellsAlone_null.spells
  | boolean b =>
    cases b with
    | true => exact spellsAlone_true.spells
    | false => exact spellsAlone_false.spells
  | integer n => exact spells_integer n
  | double x => exact spells_double x
  | string s => exact (spellsAlone_quote s).spells
  | array items ih =>
    rw [text, spelled]
    simp only [String.toList_append, List.append_assoc, List.cons_append]
    exact ((spellsAlone_sign rfl).append_alone (spells_items ih)).spells
  | object members ih =>
    rw [text, spelled]
    simp only [String.toList_append, List.append_assoc, List.cons_append]
    exact ((spellsAlone_sign rfl).append_alone (spells_members ih)).spells

/-- **The tokens of the text of a value are those of the value.** -/
theorem tokens_text (j : Json) : tokens (Symbol.ofString j.text) = spelled j := by
  have hrun := spells_text j [] [] ends_nil
  rw [List.append_nil, List.append_nil] at hrun
  refine hrun.trans ?_
  simp [Lexer.run, Lexer.finish]

end Json

end ChatImport
