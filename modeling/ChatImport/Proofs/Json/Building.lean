import ChatImport.Json.Tree
import ChatImport.Proofs.Json.Spelling
/-!
# The tree of the text of a value

The tokens of a value build its tree, whatever arrays and objects are open
around it (`Document.build_spelled`), so the document of the text of a value
is its tree with nothing after it (`Document.ofSymbols_text`).
-/

namespace ChatImport

namespace Json

mutual

/-- The tree of a value. -/
def tree : Json → Tree
  | .null => .null
  | .boolean b => .boolean b
  | .integer n => .number (numeral n)
  | .double x => .number (doubleNumeral x)
  | .string s => .string (some s)
  | .array items => .array (trees items) none
  | .object members => .object (memberTrees members) none

/-- The trees of the items of an array. -/
def trees : List Json → List Tree
  | [] => []
  | item :: rest => tree item :: trees rest

/-- The trees of the members of an object, with their names. -/
def memberTrees : List (String × Json) → List (Token × Tree)
  | [] => []
  | (name, value) :: rest => (.string (some name), tree value) :: memberTrees rest

end

namespace Document

/-- The document when a value is complete: the whole of it if nothing is open,
and otherwise what the tokens after the value make of the frames. -/
def complete (frames : List Frame) (value : Tree) (rest : List Token) : Document :=
  match frames with
  | [] => ⟨value, !rest.isEmpty⟩
  | frame :: outer => build (frame.add value :: outer) .after rest

variable {frames : List Frame} {rest : List Token}

/-- A token that is a value by itself. -/
theorem build_scalar {token : Token} {value : Tree} (first : Bool)
    (h : scalar token = some value) :
    build frames (.value first) (token :: rest) = complete frames value rest := by
  cases token <;> cases h <;> cases first <;> cases frames <;> rfl

theorem build_closeArray {done : List Tree} :
    build (.array done :: frames) .after (.closeArray :: rest) =
      complete frames (.array done.reverse none) rest := by
  cases frames <;> rfl

theorem build_closeObject {done : List (Token × Tree)} {name : Token} :
    build (.object done name :: frames) .after (.closeObject :: rest) =
      complete frames (.object done.reverse none) rest := by
  cases frames <;> rfl

theorem build_openArray (first : Bool) :
    build frames (.value first) (.openArray :: rest) =
      build (.array [] :: frames) (.value true) rest := by
  cases first <;> rfl

theorem build_openObject (first : Bool) :
    build frames (.value first) (.openObject :: rest) =
      build (.object [] .openObject :: frames) (.name true) rest := by
  cases first <;> rfl

theorem build_moreItems {items : List Json} {done : List Tree}
    (h : ∀ item ∈ items, ∀ frames first rest,
      build frames (.value first) (spelled item ++ rest) = complete frames (tree item) rest) :
    build (.array done :: frames) .after (spelledMoreItems items ++ .closeArray :: rest) =
      complete frames (.array (done.reverse ++ trees items) none) rest := by
  induction items generalizing done with
  | nil =>
    rw [trees, List.append_nil]
    exact build_closeArray
  | cons item more ih =>
    have hmore := @ih (tree item :: done) fun other hmem =>
      h other (List.mem_cons_of_mem _ hmem)
    rw [spelledMoreItems, List.cons_append, List.cons_append, List.append_assoc]
    refine (h item List.mem_cons_self (.array done :: frames) false _).trans ?_
    refine hmore.trans ?_
    rw [trees, List.reverse_cons, List.append_assoc, List.singleton_append]

theorem build_items {items : List Json}
    (h : ∀ item ∈ items, ∀ frames first rest,
      build frames (.value first) (spelled item ++ rest) = complete frames (tree item) rest) :
    build (.array [] :: frames) (.value true) (spelledItems items ++ .closeArray :: rest) =
      complete frames (.array (trees items) none) rest := by
  cases items with
  | nil => cases frames <;> rfl
  | cons item more =>
    rw [spelledItems, List.append_assoc]
    refine (h item List.mem_cons_self (.array [] :: frames) true _).trans ?_
    exact @build_moreItems frames rest more [tree item] fun other hmem =>
      h other (List.mem_cons_of_mem _ hmem)

theorem build_moreMembers {members : List (String × Json)} {done : List (Token × Tree)}
    {name : Token}
    (h : ∀ member ∈ members, ∀ frames first rest,
      build frames (.value first) (spelled member.2 ++ rest) =
        complete frames (tree member.2) rest) :
    build (.object done name :: frames) .after (spelledMoreMembers members ++
        .closeObject :: rest) =
      complete frames (.object (done.reverse ++ memberTrees members) none) rest := by
  induction members generalizing done name with
  | nil =>
    rw [memberTrees, List.append_nil]
    exact build_closeObject
  | cons member more ih =>
    obtain ⟨key, value⟩ := member
    have hmore := @ih ((.string (some key), tree value) :: done) (.string (some key))
      fun other hmem => h other (List.mem_cons_of_mem _ hmem)
    rw [spelledMoreMembers]
    simp only [List.cons_append, List.append_assoc]
    refine (h (key, value) List.mem_cons_self (.object done (.string (some key)) :: frames)
      false _).trans ?_
    refine hmore.trans ?_
    rw [memberTrees, List.reverse_cons, List.append_assoc, List.singleton_append]

theorem build_members {members : List (String × Json)} {name : Token}
    (h : ∀ member ∈ members, ∀ frames first rest,
      build frames (.value first) (spelled member.2 ++ rest) =
        complete frames (tree member.2) rest) :
    build (.object [] name :: frames) (.name true) (spelledMembers members ++
        .closeObject :: rest) =
      complete frames (.object (memberTrees members) none) rest := by
  cases members with
  | nil => cases frames <;> rfl
  | cons member more =>
    obtain ⟨key, value⟩ := member
    rw [spelledMembers]
    simp only [List.cons_append, List.append_assoc]
    refine (h (key, value) List.mem_cons_self (.object [] (.string (some key)) :: frames)
      false _).trans ?_
    exact @build_moreMembers frames rest more [(.string (some key), tree value)] _
      fun other hmem => h other (List.mem_cons_of_mem _ hmem)

/-- **The tokens of a value build its tree**, wherever it stands. -/
theorem build_spelled (j : Json) : ∀ frames first rest,
    build frames (.value first) (spelled j ++ rest) = complete frames (tree j) rest := by
  induction j using induct with
  | null => exact fun _ first _ => build_scalar first rfl
  | boolean b => exact fun _ first _ => build_scalar first rfl
  | integer n => exact fun _ first _ => build_scalar first rfl
  | double x => exact fun _ first _ => build_scalar first rfl
  | string s => exact fun _ first _ => build_scalar first rfl
  | array items ih =>
    intro frames first rest
    rw [spelled, List.cons_append, List.cons_append, List.append_assoc, build_openArray]
    exact build_items ih
  | object members ih =>
    intro frames first rest
    rw [spelled, List.cons_append, List.cons_append, List.append_assoc, build_openObject]
    exact build_members ih

/-- **The document of the text of a value is its tree**, and nothing follows. -/
theorem ofSymbols_text (j : Json) : ofSymbols (Symbol.ofString j.text) = ⟨tree j, false⟩ := by
  rw [ofSymbols, tokens_text]
  have hbuild := build_spelled j [] false []
  rw [List.append_nil] at hbuild
  exact hbuild

end Document

end Json

end ChatImport
