import ChatImport.Files.Tree
import ChatImport.Proofs.Table
import ChatImport.Proofs.Text.Cut
/-!
# What stands below a directory

A path is put together from the path of a directory and the names below it
(`Path.join`), and it is taken apart again when it is resolved. Where the names
are names that can stand in a directory (`Path.Proper`), the one undoes the
other: below a path that leads to a directory, a name leads to what the
directory holds under it (`Files.Stands.find_join`).

A tree is *orderly* if its directories hold proper names, each once and in order
(`Node.Orderly`). Its files are told by the names that lead to them
(`Node.leaves`).
-/

namespace ChatImport

namespace Path

variable {dir name : String} {names : List String}

/-! ## Parts -/

theorem parts_append (front back : String) :
    parts (front ++ "/" ++ back) = parts front ++ parts back := by
  have hsplit := @splitAtAll_append '/' front.toList back.toList
  simp only [parts, String.toList_append, ← List.map_append, ← hsplit]
  simp

theorem parts_slash (front : String) : parts (front ++ "/") = parts front ++ [""] := by
  rw [← String.append_empty (s := front ++ "/"), parts_append]
  rfl

theorem parts_of_notMem (h : '/' ∉ name.toList) : parts name = [name] := by
  simp only [parts, splitAtAll_of_notMem h, List.map_cons, List.map_nil, String.ofList_toList]

/-- **Names without slashes are the parts of the path that is made of them.** -/
theorem parts_intercalate (hne : names ≠ []) (h : ∀ name ∈ names, '/' ∉ name.toList) :
    parts ("/".intercalate names) = names := by
  induction names with
  | nil => exact absurd rfl hne
  | cons name rest ih =>
    rw [List.forall_mem_cons] at h
    cases rest with
    | nil => rw [String.intercalate_singleton, parts_of_notMem h.1]
    | cons next others =>
      rw [String.intercalate_cons_cons, parts_append, parts_of_notMem h.1,
        ih (List.cons_ne_nil _ _) h.2]
      rfl

/-- **The parts of a path make it.** -/
theorem intercalate_parts (path : String) : "/".intercalate (parts path) = path := by
  rw [← String.toList_inj, String.toList_intercalate, parts, List.map_map]
  simpa [Function.comp_def] using @intercalate_splitAtAll '/' path.toList

/-- There is no slash in a part. -/
theorem notMem_of_mem_parts {path : String} (h : name ∈ parts path) : '/' ∉ name.toList := by
  obtain ⟨part, hpart, rfl⟩ := List.mem_map.1 h
  rw [String.toList_ofList]
  exact notMem_of_mem_splitAtAll hpart

/-- A path that ends in a slash has nothing behind it. -/
theorem getLast?_parts (h : name.toList.getLast? = some '/') :
    (parts name).getLast? = some "" := by
  obtain ⟨front, hfront⟩ := List.getLast?_eq_some_iff.1 h
  simp only [parts, hfront, splitAtAll_append, List.map_append, List.getLast?_append]
  rfl

/-! ## Names -/

/-- A name that can stand in a directory. -/
structure Proper (name : String) : Prop where
  /-- It has characters. -/
  nonempty : name ≠ ""
  /-- It does not stand for the directory itself. -/
  notHere : name ≠ "."
  /-- It does not stand for the directory above. -/
  notAbove : name ≠ ".."
  /-- It is one part of a path. -/
  oneStep : '/' ∉ name.toList
  /-- There is no zero octet in it. -/
  noZero : '\x00' ∉ name.toList
  /-- It is not too long. -/
  short : name.utf8ByteSize ≤ Node.longestName

instance : Decidable (Proper name) :=
  decidable_of_iff (name ≠ "" ∧ name ≠ "." ∧ name ≠ ".." ∧ '/' ∉ name.toList ∧
      '\x00' ∉ name.toList ∧ name.utf8ByteSize ≤ Node.longestName)
    ⟨fun ⟨h₁, h₂, h₃, h₄, h₅, h₆⟩ => ⟨h₁, h₂, h₃, h₄, h₅, h₆⟩,
      fun ⟨h₁, h₂, h₃, h₄, h₅, h₆⟩ => ⟨h₁, h₂, h₃, h₄, h₅, h₆⟩⟩

/-- A part of a path that leads a step down. -/
structure Step (name : String) : Prop where
  /-- It has characters. -/
  nonempty : name ≠ ""
  /-- It does not stay where it is. -/
  notHere : name ≠ "."
  /-- It does not lead back. -/
  notAbove : name ≠ ".."
  /-- It is one part. -/
  oneStep : '/' ∉ name.toList

theorem Proper.step (h : Proper name) : Step name :=
  ⟨h.nonempty, h.notHere, h.notAbove, h.oneStep⟩

theorem Step.toList_ne_nil (h : Step name) : name.toList ≠ [] :=
  fun hnil => h.nonempty (String.toList_eq_nil_iff.1 hnil)

/-- A path that begins with a step does not start at the root. -/
theorem Step.fromRoot_append (h : Step name) (back : String) :
    fromRoot (name ++ back) = false := by
  rw [Path.fromRoot, beq_eq_false_iff_ne, String.toList_append, List.head?_append,
    Option.or_of_isSome (List.isSome_head?.2 h.toList_ne_nil)]
  exact fun hhead => h.oneStep (List.mem_of_head? hhead)

theorem Step.fromRoot (h : Step name) : fromRoot name = false := by
  rw [← h.fromRoot_append "", String.append_empty]

theorem Step.onward (h : Step name) (place : List String) :
    Node.onward place name = place ++ [name] := by
  simp only [Node.onward, h.nonempty, h.notHere, h.notAbove, or_self, if_false]

theorem Proper.fromRoot_append (h : Proper name) (back : String) :
    fromRoot (name ++ back) = false := h.step.fromRoot_append back

theorem Proper.fromRoot (h : Proper name) : fromRoot name = false := h.step.fromRoot

/-- The type of a file is told by the end of its name, but not by the whole of it. -/
theorem typeEnding?_eq_some {ending : String} (hending : '.' ∉ ending.toList) :
    typeEnding? name = some ending ↔
      '.' :: ending.toList <:+ name.toList ∧ name.toList ≠ '.' :: ending.toList := by
  constructor
  · intro h
    unfold typeEnding? at h
    simp only [] at h
    split at h
    · next back c rest hsplit =>
      have hback : back = ending.toList.reverse := by
        rw [← Option.some.inj h, String.toList_ofList, List.reverse_reverse]
      have hname : name.toList = (c :: rest).reverse ++ '.' :: ending.toList := by
        rw [← List.reverse_reverse name.toList, eq_of_splitAtFirst hsplit, hback]
        simp
      refine ⟨⟨(c :: rest).reverse, hname.symm⟩, fun hwhole => ?_⟩
      have hlength := congrArg List.length (hname.symm.trans hwhole)
      simp only [List.length_append, List.length_reverse, List.length_cons] at hlength
      omega
    · cases h
  · rintro ⟨⟨front, hfront⟩, hwhole⟩
    have hback : name.toList.reverse = ending.toList.reverse ++ '.' :: front.reverse := by
      rw [← hfront]
      simp
    have hsplit := splitAtFirst_append (fun h => hending (List.mem_reverse.1 h)) front.reverse
    unfold typeEnding?
    simp only [hback, hsplit]
    cases hrest : front.reverse with
    | nil =>
      rw [List.reverse_eq_nil_iff.1 hrest] at hfront
      exact absurd hfront.symm hwhole
    | cons c rest => simp

/-! ## Names below directories -/

/-- What stands in front of the names below a directory. -/
def lead (dir : String) : String :=
  if dir.isEmpty then "" else if dir.toList.getLast? == some '/' then dir else dir ++ "/"

@[simp] theorem lead_empty : lead "" = "" := rfl

theorem join_eq (h : fromRoot name = false) : join dir name = lead dir ++ name := by
  simp only [join, lead, h, Bool.false_or]
  split
  · rw [String.empty_append]
  · split <;> rfl

/-- A slash stands behind the path of a directory, which may have brought it along. -/
theorem exists_lead (hdir : dir ≠ "") :
    ∃ base, lead dir = base ++ "/" ∧ (dir = base ∨ dir = base ++ "/") := by
  have hempty : dir.isEmpty = false := by simpa using hdir
  simp only [lead, hempty, Bool.false_eq_true, if_false]
  split
  · next hlast =>
    obtain ⟨front, hfront⟩ := List.getLast?_eq_some_iff.1 (beq_iff_eq.1 hlast)
    have hbase : dir = String.ofList front ++ "/" := by
      rw [← String.toList_inj, hfront, String.toList_append, String.toList_ofList]
      rfl
    exact ⟨String.ofList front, hbase, Or.inr hbase⟩
  · exact ⟨dir, rfl, Or.inl rfl⟩

/-- The names below a directory follow its own. -/
theorem parts_lead_append (dir back : String) :
    parts (lead dir ++ back) = (parts (lead dir)).dropLast ++ parts back := by
  by_cases hdir : dir = ""
  · rw [hdir, lead_empty, String.empty_append]
    rfl
  · obtain ⟨base, hlead, -⟩ := exists_lead hdir
    rw [hlead, parts_append, parts_slash, List.dropLast_concat]

theorem Proper.lead_append (h : Proper name) (front : String) :
    lead (front ++ name) = front ++ name ++ "/" := by
  have hempty : (front ++ name).isEmpty = false := by simp [h.nonempty]
  have hlast : ((front ++ name).toList.getLast? == some '/') = false := by
    rw [beq_eq_false_iff_ne, String.toList_append, List.getLast?_append,
      Option.or_of_isSome (List.getLast?_isSome.2 h.step.toList_ne_nil)]
    exact fun hlast => h.oneStep (List.mem_of_getLast? hlast)
  simp only [lead, hempty, hlast, Bool.false_eq_true, if_false]

/-- What stands below a directory starts where the directory does. -/
theorem fromRoot_join (h : fromRoot name = false) : fromRoot (join dir name) = fromRoot dir := by
  rw [join_eq h]
  by_cases hdir : dir = ""
  · rw [hdir, lead_empty, String.empty_append, h]
    rfl
  · have hne : dir.toList ≠ [] := fun hnil => hdir (String.toList_eq_nil_iff.1 hnil)
    have hhead : ∀ back : String, fromRoot (dir ++ back) = fromRoot dir := by
      intro back
      rw [fromRoot, String.toList_append, List.head?_append,
        Option.or_of_isSome (List.isSome_head?.2 hne), fromRoot]
    rw [lead, if_neg (by simpa using hdir)]
    split
    · exact hhead name
    · rw [String.append_assoc]
      exact hhead _

/-- Two names are joined to a directory one after the other or at once. -/
theorem join_join {below : String} (h : Proper name) (hbelow : fromRoot below = false) :
    join (join dir name) below = join dir (name ++ "/" ++ below) := by
  have hboth : fromRoot (name ++ "/" ++ below) = false := by
    rw [String.append_assoc]
    exact h.fromRoot_append _
  rw [join_eq hbelow, join_eq h.fromRoot, join_eq hboth, h.lead_append, String.append_assoc,
    String.append_assoc, String.append_assoc]

/-- **Names are joined to a directory one by one or all at once.** -/
theorem foldl_join (hne : names ≠ []) (h : ∀ name ∈ names, Proper name) :
    names.foldl join dir = join dir ("/".intercalate names) := by
  induction names generalizing dir with
  | nil => exact absurd rfl hne
  | cons name rest ih =>
    rw [List.forall_mem_cons] at h
    cases rest with
    | nil => rw [String.intercalate_singleton, List.foldl_cons, List.foldl_nil]
    | cons next others =>
      have hnext : fromRoot ("/".intercalate (next :: others)) = false := by
        cases others with
        | nil => rw [String.intercalate_singleton, (h.2 next List.mem_cons_self).fromRoot]
        | cons _ _ =>
          rw [String.intercalate_cons_cons, String.append_assoc]
          exact (h.2 next List.mem_cons_self).fromRoot_append _
      rw [List.foldl_cons, ih (List.cons_ne_nil _ _) h.2, join_join h.1 hnext,
        String.intercalate_cons_cons]

theorem utf8ByteSize_join :
    (join dir name).utf8ByteSize ≤ dir.utf8ByteSize + (name.utf8ByteSize + 1) := by
  simp only [join]
  split
  · omega
  · split
    · rw [String.utf8ByteSize_append]
      omega
    · have hslash : "/".utf8ByteSize = 1 := rfl
      rw [String.utf8ByteSize_append, String.utf8ByteSize_append, hslash]
      omega

/-- The size of a path below a directory, by the number of names. -/
theorem utf8ByteSize_joined (dir : String)
    (h : ∀ name ∈ names, name.utf8ByteSize ≤ Node.longestName) :
    (names.foldl join dir).utf8ByteSize ≤
      dir.utf8ByteSize + names.length * (Node.longestName + 1) := by
  induction names generalizing dir with
  | nil => exact Nat.le_add_right _ _
  | cons name rest ih =>
    rw [List.forall_mem_cons] at h
    have hrest := ih (join dir name) h.2
    have hjoin := @utf8ByteSize_join dir name
    have hname := h.1
    rw [List.foldl_cons, List.length_cons, Nat.succ_mul]
    omega

end Path

namespace Node

variable {node root : Node} {entries : List (String × Node)} {place names more : List String}

/-! ## Trees -/

/-- Names that go on lead on from where the first ones lead. -/
theorem reach_append :
    node.reach (names ++ more) = (node.reach names).bind fun node => node.reach more := by
  induction names generalizing node with
  | nil => cases node <;> rfl
  | cons name rest ih =>
    cases node with
    | file content => rfl
    | directory entries =>
      simp only [List.cons_append, reach]
      split
      · rfl
      · split
        · rfl
        · exact ih

theorem follow_append :
    root.follow place (names ++ more) =
      (root.follow place names).bind fun place => root.follow place more := by
  induction names generalizing place with
  | nil => rfl
  | cons name rest ih =>
    simp only [List.cons_append, follow]
    cases root.reach place with
    | error fault => rfl
    | ok node =>
      cases node with
      | file content => rfl
      | directory entries => exact ih

/-- Names that lead somewhere are not too long. -/
theorem short_of_reach (h : (node.reach names).isOk) :
    ∀ name ∈ names, name.utf8ByteSize ≤ longestName := by
  induction names generalizing node with
  | nil => exact fun _ hmem => nomatch hmem
  | cons name rest ih =>
    cases node with
    | file content => cases h
    | directory entries =>
      simp only [reach] at h
      split at h
      · cases h
      · next hshort =>
        split at h
        · cases h
        · exact List.forall_mem_cons.2 ⟨Nat.not_lt.1 hshort, ih h⟩

/-- One more name leads on from a directory. -/
theorem follow_concat {name : String} {last : List String} :
    root.follow place (names ++ [name]) = .ok last ↔
      ∃ before entries, root.follow place names = .ok before ∧
        root.reach before = .ok (.directory entries) ∧ last = onward before name := by
  rw [follow_append]
  cases root.follow place names with
  | error fault => simp [Except.bind]
  | ok before =>
    simp only [Except.bind, follow, Except.ok.injEq]
    cases hreach : root.reach before with
    | error fault => simp [bind, Except.bind, hreach]
    | ok node =>
      cases node with
      | file content => simp [bind, Except.bind, hreach]
      | directory entries => simp [bind, Except.bind, hreach, eq_comm]

/-- Behind a directory an empty part leads nowhere else. -/
theorem follow_empty :
    root.follow place (names ++ [""]) = .ok more ∧ root.reach more = .ok (.directory entries) ↔
      root.follow place names = .ok more ∧ root.reach more = .ok (.directory entries) := by
  rw [follow_concat]
  constructor
  · rintro ⟨⟨before, _, hfollow, -, rfl⟩, hreach⟩
    exact ⟨hfollow, hreach⟩
  · rintro ⟨hfollow, hreach⟩
    exact ⟨⟨more, entries, hfollow, hreach, rfl⟩, hreach⟩

/-- A name below a directory leads to what the directory holds under it. -/
theorem reach_name {name : String} (h : Path.Proper name) :
    ((directory entries).reach [name]).toOption = child? entries name := by
  simp only [reach, if_neg (Nat.not_lt.2 h.short)]
  cases child? entries name with
  | none => rfl
  | some node => cases node <;> rfl

mutual

/-- Directories hold proper names, each once and in order. -/
def Orderly : Node → Prop
  | .file _ => True
  | .directory entries => entries.Pairwise (fun a b => a.1 < b.1) ∧ EntriesOrderly entries

/-- What stands in a directory has proper names and is orderly. -/
def EntriesOrderly : List (String × Node) → Prop
  | [] => True
  | (name, node) :: rest => Path.Proper name ∧ node.Orderly ∧ EntriesOrderly rest

end

theorem EntriesOrderly.of_mem {name : String} (h : EntriesOrderly entries)
    (hmem : (name, node) ∈ entries) : Path.Proper name ∧ node.Orderly := by
  induction entries with
  | nil => cases hmem
  | cons entry rest ih =>
    obtain ⟨hname, hnode, hrest⟩ := h
    rcases List.mem_cons.1 hmem with rfl | hmem
    · exact ⟨hname, hnode⟩
    · exact ih hrest hmem

namespace Orderly

variable {name : String}

theorem pairwise (h : (directory entries).Orderly) :
    entries.Pairwise fun a b => a.1 < b.1 := h.1

theorem proper (h : (directory entries).Orderly) (hmem : (name, node) ∈ entries) :
    Path.Proper name := (h.2.of_mem hmem).1

theorem child (h : (directory entries).Orderly) (hmem : (name, node) ∈ entries) :
    node.Orderly := (h.2.of_mem hmem).2

/-- What an orderly directory holds under a name is the one entry of the name. -/
theorem child?_eq_some (h : (directory entries).Orderly) :
    child? entries name = some node ↔ (name, node) ∈ entries :=
  (@Table.mem_entries_iff _ ⟨entries, h.pairwise⟩ name node).symm

/-- What stands in an orderly tree is orderly. -/
theorem of_reach (h : root.Orderly) (hreach : root.reach names = .ok node) : node.Orderly := by
  induction names generalizing root with
  | nil =>
    cases root <;> cases hreach <;> exact h
  | cons name rest ih =>
    cases root with
    | file content => cases hreach
    | directory entries =>
      simp only [reach] at hreach
      split at hreach
      · cases hreach
      · split at hreach
        · cases hreach
        · next child hchild => exact ih (h.child (h.child?_eq_some.1 hchild)) hreach

end Orderly

mutual

/-- The files of a tree, each with the names that lead to it. -/
def leaves : Node → List (List String × ByteArray)
  | .file content => [([], content)]
  | .directory entries => entriesLeaves entries

/-- The files that stand in a directory and below it. -/
def entriesLeaves : List (String × Node) → List (List String × ByteArray)
  | [] => []
  | (name, node) :: rest =>
    node.leaves.map (fun leaf => (name :: leaf.1, leaf.2)) ++ entriesLeaves rest

end

variable {name : String} {content : ByteArray}

theorem mem_entriesLeaves :
    (names, content) ∈ entriesLeaves entries ↔
      ∃ name node rest, (name, node) ∈ entries ∧ (rest, content) ∈ node.leaves ∧
        names = name :: rest := by
  induction entries with
  | nil => simp [entriesLeaves]
  | cons entry others ih =>
    rw [entriesLeaves, List.mem_append, ih, List.mem_map]
    constructor
    · rintro (⟨leaf, hleaf, heq⟩ | ⟨name, node, rest, hmem, hleaf, rfl⟩)
      · obtain ⟨rfl, rfl⟩ := Prod.mk.inj heq
        exact ⟨entry.1, entry.2, leaf.1, List.mem_cons_self, hleaf, rfl⟩
      · exact ⟨name, node, rest, List.mem_cons_of_mem _ hmem, hleaf, rfl⟩
    · rintro ⟨name, node, rest, hmem, hleaf, rfl⟩
      rcases List.mem_cons.1 hmem with rfl | hmem
      · exact Or.inl ⟨(rest, content), hleaf, rfl⟩
      · exact Or.inr ⟨name, node, rest, hmem, hleaf, rfl⟩

/-- The files below a directory stand under what it holds. -/
theorem cons_mem_leaves :
    (name :: names, content) ∈ (directory entries).leaves ↔
      ∃ node, (name, node) ∈ entries ∧ (names, content) ∈ node.leaves := by
  rw [leaves, mem_entriesLeaves]
  constructor
  · rintro ⟨name, node, rest, hmem, hleaf, heq⟩
    obtain ⟨rfl, rfl⟩ := List.cons.inj heq
    exact ⟨node, hmem, hleaf⟩
  · rintro ⟨node, hmem, hleaf⟩
    exact ⟨name, node, names, hmem, hleaf, rfl⟩

theorem nil_mem_leaves : ([], content) ∈ node.leaves ↔ node = .file content := by
  cases node with
  | file other => simp [leaves, eq_comm]
  | directory entries =>
    rw [leaves, mem_entriesLeaves]
    constructor
    · rintro ⟨_, _, _, _, _, heq⟩
      cases heq
    · exact fun heq => nomatch heq

/-- All names that lead to a file of an orderly tree are proper. -/
theorem Orderly.proper_of_mem_leaves (h : node.Orderly) (hmem : (names, content) ∈ node.leaves) :
    ∀ name ∈ names, Path.Proper name := by
  induction names generalizing node with
  | nil => exact fun _ hname => nomatch hname
  | cons name rest ih =>
    cases node with
    | file other => simp [leaves] at hmem
    | directory entries =>
      obtain ⟨child, hchild, hleaf⟩ := cons_mem_leaves.1 hmem
      exact List.forall_mem_cons.2 ⟨h.proper hchild, ih (h.child hchild) hleaf⟩

end Node

namespace Files

variable {files : Files} {depth : Nat} {dir name path : String} {entries : List (String × Node)}

/-! ## Resolving -/

theorem usable_eq_ok :
    usable path = .ok () ↔
      '\x00' ∉ path.toList ∧ path ≠ "" ∧ path.utf8ByteSize ≤ longestPath := by
  simp only [usable]
  split
  · next hzero => simp_all
  · next hzero =>
    split
    · next hempty => simp_all
    · next hempty =>
      split
      · next hlong => simp_all
      · next hlong => simp_all

theorem find_eq_ok {node : Node} :
    files.find path = .ok node ↔
      usable path = .ok () ∧ ∃ place, files.root.follow (files.start path) (Path.parts path) =
        .ok place ∧ files.root.reach place = .ok node := by
  simp only [find, place, bind, Except.bind]
  cases husable : usable path with
  | error fault => simp
  | ok _ =>
    cases files.root.follow (files.start path) (Path.parts path) with
    | error fault => simp
    | ok place => simp

/-- The path leads to a place, whether or not something stands there. -/
def Leads (files : Files) (path : String) (place : List String) : Prop :=
  files.root.follow (files.start path) (Path.parts path) = .ok place

/-- A path leads to one place. -/
theorem Leads.unique {place other : List String} (h : files.Leads path place)
    (hother : files.Leads path other) : place = other := Except.ok.inj (h.symm.trans hother)

/-- The path leads to a directory, which stands at the place and has the entries. -/
structure Opens (files : Files) (path : String) (place : List String)
    (entries : List (String × Node)) : Prop where
  leads : files.Leads path place
  reached : files.root.reach place = .ok (.directory entries)

/-- What follows a slash is found in the directory that stands before it. -/
theorem leads_slash {front back : String} {place : List String}
    (hstart : files.start (front ++ "/" ++ back) = files.start front) :
    files.Leads (front ++ "/" ++ back) place ↔
      ∃ above, files.Leads front above ∧ files.root.follow above (Path.parts back) = .ok place := by
  unfold Leads
  rw [hstart, Path.parts_append, Node.follow_append]
  cases files.root.follow (files.start front) (Path.parts front) with
  | error fault => simp [Except.bind]
  | ok above => simp [Except.bind]

/-- A directory is found where the parts before the names below it lead. -/
theorem opens_iff {place : List String} :
    files.Opens dir place entries ↔
      files.root.follow (files.start dir) (Path.parts (Path.lead dir)).dropLast = .ok place ∧
        files.root.reach place = .ok (.directory entries) := by
  have hopens : files.Opens dir place entries ↔
      files.root.follow (files.start dir) (Path.parts dir) = .ok place ∧
        files.root.reach place = .ok (.directory entries) :=
    ⟨fun h => ⟨h.leads, h.reached⟩, fun h => ⟨h.1, h.2⟩⟩
  rw [hopens]
  by_cases hdir : dir = ""
  · rw [hdir]
    exact @Node.follow_empty files.root entries (files.start "") [] place
  · obtain ⟨base, hlead, rfl | rfl⟩ := Path.exists_lead hdir
    · rw [hlead, Path.parts_slash, List.dropLast_concat]
    · rw [hlead, Path.parts_slash, List.dropLast_concat]
      exact Node.follow_empty

/-- **A step below a directory leads to its place there**, and below nothing else. -/
theorem leads_join {place : List String} (hname : Path.Step name) :
    files.Leads (Path.join dir name) place ↔
      ∃ above entries, files.Opens dir above entries ∧ place = above ++ [name] := by
  have hstart : files.start (Path.join dir name) = files.start dir := by
    simp only [start, Path.fromRoot_join hname.fromRoot]
  rw [Leads, hstart, Path.join_eq hname.fromRoot, Path.parts_lead_append,
    Path.parts_of_notMem hname.oneStep, Node.follow_concat]
  simp only [opens_iff, hname.onward, and_assoc]

/-- A path goes on behind a step below a directory only if the step leads to a directory. -/
theorem exists_opens_of_leads {back : String} {place : List String} (hname : Path.Step name)
    (h : files.Leads (Path.join dir (name ++ "/" ++ back)) place) :
    ∃ above inner, files.Opens (Path.join dir name) above inner := by
  have hroot : Path.fromRoot (name ++ "/" ++ back) = false := by
    rw [String.append_assoc]
    exact hname.fromRoot_append _
  have hjoin : Path.join dir (name ++ "/" ++ back) = Path.join dir name ++ "/" ++ back := by
    rw [Path.join_eq hroot, Path.join_eq hname.fromRoot]
    simp only [String.append_assoc]
  have hstart : files.start (Path.join dir name ++ "/" ++ back) =
      files.start (Path.join dir name) := by
    simp only [start, ← hjoin, Path.fromRoot_join hroot, Path.fromRoot_join hname.fromRoot]
  rw [hjoin, leads_slash hstart] at h
  obtain ⟨above, hleads, hfollow⟩ := h
  cases hparts : Path.parts back with
  | nil => exact absurd (List.map_eq_nil_iff.1 hparts) splitAtAll_ne_nil
  | cons part rest =>
    rw [hparts] at hfollow
    simp only [Node.follow, bind, Except.bind] at hfollow
    split at hfollow
    · cases hfollow
    · next node hreach =>
      cases node with
      | file content => cases hfollow
      | directory inner => exact ⟨above, inner, hleads, hreach⟩

/-- The path of a name below a directory is fit for use unless it is too long. -/
theorem usable_join (husable : usable dir = .ok ()) (hname : Path.Proper name) :
    usable (Path.join dir name) = .ok () ↔
      (Path.join dir name).utf8ByteSize ≤ longestPath := by
  obtain ⟨hzero, hdir, -⟩ := usable_eq_ok.1 husable
  have hlead : '\x00' ∉ (Path.lead dir).toList := by
    obtain ⟨base, hlead, rfl | rfl⟩ := Path.exists_lead hdir
    · rw [hlead, String.toList_append, List.mem_append]
      exact fun h => h.elim hzero (by decide)
    · rw [hlead]
      exact hzero
  have hempty : Path.join dir name ≠ "" := by
    rw [Path.join_eq hname.fromRoot]
    simp [hname.nonempty]
  rw [usable_eq_ok, Path.join_eq hname.fromRoot, String.toList_append, List.mem_append] at *
  exact ⟨fun h => h.2.2, fun h => ⟨fun h => h.elim hlead hname.noZero, hempty, h⟩⟩

/-- **A name below a directory is resolved to what the directory holds under it**, unless the path
is too long. -/
theorem find_join (hfind : files.find dir = .ok (.directory entries)) (hname : Path.Proper name) :
    (files.find (Path.join dir name)).toOption =
      if (Path.join dir name).utf8ByteSize ≤ longestPath then Node.child? entries name
      else none := by
  obtain ⟨husable, place, hfollow, hreach⟩ := find_eq_ok.1 hfind
  by_cases hshort : (Path.join dir name).utf8ByteSize ≤ longestPath
  · have hleads : files.root.follow (files.start (Path.join dir name))
        (Path.parts (Path.join dir name)) = .ok (place ++ [name]) :=
      (leads_join hname.step).2 ⟨place, entries, ⟨hfollow, hreach⟩, rfl⟩
    rw [if_pos hshort, ← Node.reach_name hname]
    simp only [find, Files.place, bind, Except.bind, (usable_join husable hname).2 hshort,
      hleads, Node.reach_append, hreach]
  · rw [if_neg hshort]
    cases hjoin : usable (Path.join dir name) with
    | ok _ => exact absurd ((usable_join husable hname).1 hjoin) hshort
    | error fault =>
      simp only [find, Files.place, bind, Except.bind, hjoin]
      rfl

/-! ## Directories with room -/

/-- A directory with its entries stands under a path, and so many levels down the paths to what it
holds are not too long. -/
structure Stands (files : Files) (depth : Nat) (dir : String) (entries : List (String × Node)) :
    Prop where
  /-- The directory stands under the path. -/
  found : files.find dir = .ok (.directory entries)
  /-- What it holds can be told by a path. -/
  room : ∀ names, names.length ≤ depth → ((Node.directory entries).reach names).isOk →
    (names.foldl Path.join dir).utf8ByteSize ≤ longestPath

namespace Stands

/-- **Below a directory with room stands what it holds.** -/
theorem find_join (h : files.Stands (depth + 1) dir entries) (hname : Path.Proper name) :
    (files.find (Path.join dir name)).toOption = Node.child? entries name := by
  rw [Files.find_join h.found hname]
  split
  · rfl
  · next hlong =>
    cases hchild : Node.child? entries name with
    | none => rfl
    | some node =>
      -- what is there can be told by a path, which is then not too long
      have hreach : ((Node.directory entries).reach [name]).toOption = Node.child? entries name :=
        Node.reach_name hname
      rw [hchild] at hreach
      refine absurd (h.room [name] (by simp) ?_) hlong
      cases hreached : (Node.directory entries).reach [name] with
      | ok _ => rfl
      | error fault =>
        rw [hreached] at hreach
        cases hreach

/-- A directory in a directory with room has room. -/
theorem child {inner : List (String × Node)} (h : files.Stands (depth + 1) dir entries)
    (hname : Path.Proper name) (hchild : Node.child? entries name = some (.directory inner)) :
    files.Stands depth (Path.join dir name) inner where
  found := by
    have hfind := h.find_join hname
    rw [hchild] at hfind
    cases hfound : files.find (Path.join dir name) with
    | ok node =>
      rw [hfound] at hfind
      rw [Option.some.inj hfind]
    | error fault =>
      rw [hfound] at hfind
      cases hfind
  room names hlength hok := by
    refine h.room (name :: names) (Nat.succ_le_succ hlength) ?_
    simp only [Node.reach, if_neg (Nat.not_lt.2 hname.short), hchild]
    exact hok

/-- A path that is short enough leaves room for names of any length. -/
theorem of_short (hfound : files.find dir = .ok (.directory entries))
    (hshort : dir.utf8ByteSize + depth * (Node.longestName + 1) ≤ longestPath) :
    files.Stands depth dir entries where
  found := hfound
  room names hlength hok := by
    have hsize := Path.utf8ByteSize_joined dir (Node.short_of_reach hok)
    have hlevels := Nat.mul_le_mul_right (Node.longestName + 1) hlength
    omega

end Stands

end Files

end ChatImport
