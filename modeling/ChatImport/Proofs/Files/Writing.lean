import ChatImport.Proofs.Files.Resolving
import ChatImport.Proofs.Running
/-!
# What the writing of a file leaves

A file is written where its path leads, and nowhere else (`Files.write_eq_ok`). All
paths lead where they did before, and a file to which a path leads that leads elsewhere
stays as it is (`Files.Apart.write`). So a file can only be lost where another is
written to its place.
-/

namespace ChatImport

namespace Node

variable {node root new : Node} {entries : List (String × Node)}
variable {place names parts : List String}

/-! ## Nodes put into a tree -/

/-- Both are directories, or they are the same file. -/
def Alike : Node → Node → Prop
  | .file content, .file other => content = other
  | .directory _, .directory _ => True
  | _, _ => False

theorem Alike.refl : (node : Node) → node.Alike node
  | .file _ => rfl
  | .directory _ => trivial

theorem child?_setEntry {name other : String} :
    child? (setEntry name new entries) other =
      if name = other then some new else child? entries other :=
  Table.find?_setEntry entries

/-- **A node that is put into a tree takes the place of one file at most**: what stands elsewhere
is a directory if it was one, and the same file if it was one. -/
theorem reach_placed (hfree : ∀ entries, root.reach names ≠ .ok (.directory entries))
    (hreach : root.reach place = .ok node) (hne : place ≠ names) :
    ∃ node', (root.placed names new).reach place = .ok node' ∧ node.Alike node' := by
  induction names generalizing root place with
  | nil =>
    -- the tree itself is a file, and nothing stands below
    cases root with
    | directory entries => exact absurd rfl (hfree entries)
    | file content =>
      cases place with
      | nil => exact absurd rfl hne
      | cons name rest => cases hreach
  | cons name rest ih =>
    cases root with
    | file content => exact ⟨node, hreach, .refl node⟩
    | directory entries =>
      cases place with
      | nil =>
        cases hreach
        exact ⟨_, rfl, trivial⟩
      | cons other more =>
        simp only [placed, reach, child?_setEntry] at hreach ⊢
        by_cases hlong : longestName < other.utf8ByteSize
        · rw [if_pos hlong] at hreach
          cases hreach
        · rw [if_neg hlong] at hreach ⊢
          by_cases heq : name = other
          · -- the way is the same for one step more
            subst heq
            rw [if_pos rfl]
            cases hchild : child? entries name with
            | none =>
              rw [hchild] at hreach
              cases hreach
            | some child =>
              rw [hchild] at hreach
              refine ih (fun inner hinner => hfree inner ?_) hreach
                fun heq => hne (congrArg (name :: ·) heq)
              simp only [reach, if_neg hlong, hchild]
              exact hinner
          · rw [if_neg heq]
            exact ⟨node, hreach, .refl node⟩

/-- Paths lead where they did before. -/
theorem follow_placed {last : List String}
    (hfree : ∀ entries, root.reach names ≠ .ok (.directory entries))
    (hfollow : root.follow place parts = .ok last) :
    (root.placed names new).follow place parts = .ok last := by
  induction parts generalizing place with
  | nil => exact hfollow
  | cons part rest ih =>
    simp only [follow, bind, Except.bind] at hfollow ⊢
    cases hreach : root.reach place with
    | error fault =>
      rw [hreach] at hfollow
      cases hfollow
    | ok node =>
      rw [hreach] at hfollow
      cases node with
      | file content => cases hfollow
      | directory entries =>
        have hne : place ≠ names := fun heq => hfree entries (heq ▸ hreach)
        obtain ⟨node', hreach', halike⟩ :
            ∃ node', (root.placed names new).reach place = .ok node' ∧
              Alike (.directory entries) node' := reach_placed hfree hreach hne
        cases node' with
        | file content => cases halike
        | directory entries' =>
          rw [hreach']
          exact ih hfollow

end Node

namespace Files

open Running (bind_eq_ok)

variable {files files' : Files} {path : String}
variable {content old : ByteArray}

/-! ## Writing -/

theorem solidParts_eq (h : (Path.parts path).getLast? ≠ some "") :
    Path.solidParts path = Path.parts path := by
  refine List.rdropWhile_eq_self_iff.2 fun hne hempty => h ?_
  rw [List.getLast?_eq_some_getLast hne, String.isEmpty_iff.1 hempty]

/-- What is written stands in a directory. -/
theorem exists_of_above {dir : List String} {last : Option String}
    (h : files.above path = .ok (dir, last)) :
    files.root.follow (files.start path) (Path.solidParts path).dropLast = .ok dir ∧
      (∃ entries, files.root.reach dir = .ok (.directory entries)) ∧
      last = (Path.solidParts path).getLast? := by
  obtain ⟨_, -, h⟩ := bind_eq_ok.1 h
  obtain ⟨place, hfollow, h⟩ := bind_eq_ok.1 h
  obtain ⟨node, hreach, h⟩ := bind_eq_ok.1 h
  cases node with
  | file content => cases h
  | directory entries =>
    cases h
    exact ⟨hfollow, ⟨entries, hreach⟩, rfl⟩

/-- **A file is written where its path leads**, unless a directory stands there. -/
theorem write_eq_ok (h : files.write path content = .ok files') :
    ∃ place, files.Leads path place ∧
      (∀ entries, files.root.reach place ≠ .ok (.directory entries)) ∧
      files' = { files with root := files.root.placed place (.file content) } := by
  obtain ⟨⟨dir, last⟩, habove, hwrite⟩ := bind_eq_ok.1 h
  obtain ⟨hfollow, ⟨entries, hdir⟩, rfl⟩ := exists_of_above habove
  cases hlast : (Path.solidParts path).getLast? with
  | none =>
    rw [hlast] at hwrite
    cases hwrite
  | some name =>
    rw [hlast] at hwrite
    simp only [] at hwrite
    split at hwrite
    · cases hwrite
    · next hname =>
      simp only [not_or] at hname
      rw [solidParts_eq hname.1] at hfollow hlast
      have hleads : files.Leads path (dir ++ [name]) := by
        have honward : Node.onward dir name = dir ++ [name] := by
          have hempty : name ≠ "" := fun heq => hname.1 (heq ▸ hlast)
          simp only [Node.onward, hempty, hname.2.1, hname.2.2, or_self, if_false]
        rw [Leads, ← List.dropLast_append_getLast? name hlast, Node.follow_concat]
        exact ⟨dir, entries, hfollow, hdir, honward.symm⟩
      refine ⟨dir ++ [name], hleads, ?_⟩
      split at hwrite
      · cases hwrite
      · next content' hreach =>
        cases hwrite
        exact ⟨fun entries hentries => by simp [hreach] at hentries, rfl⟩
      · next hreach =>
        cases hwrite
        exact ⟨fun entries hentries => by simp [hreach] at hentries, rfl⟩
      · cases hwrite

theorem content_eq_ok :
    files.content path = .ok content ↔ files.find path = .ok (.file content) := by
  simp only [Files.content, bind, Except.bind]
  cases files.find path with
  | error fault => simp
  | ok node => cases node <;> simp

/-- A file with its content stands under a path, and another path leads elsewhere. -/
structure Apart (files : Files) (dest path : String) (old : ByteArray) : Prop where
  elsewhere : ∃ place above, files.Leads dest place ∧ files.Leads path above ∧ above ≠ place
  content : files.content path = .ok old

/-- **A file stays as it is when another is written elsewhere.** -/
theorem Apart.write {dest : String} (h : files.Apart dest path old)
    (hwrite : files.write dest content = .ok files') : files'.Apart dest path old := by
  obtain ⟨⟨place, above, hdest, hpath, hne⟩, hold⟩ := h
  obtain ⟨place', hplace', hfree, rfl⟩ := write_eq_ok hwrite
  obtain rfl := hplace'.unique hdest
  refine ⟨⟨place', above, Node.follow_placed hfree hdest, Node.follow_placed hfree hpath, hne⟩, ?_⟩
  obtain ⟨husable, above', hfollow, hreach⟩ := find_eq_ok.1 (content_eq_ok.1 hold)
  obtain rfl := hpath.unique hfollow
  obtain ⟨node, hreach', halike⟩ := Node.reach_placed hfree hreach hne
  rw [content_eq_ok, find_eq_ok]
  refine ⟨husable, above, Node.follow_placed hfree hfollow, ?_⟩
  cases node with
  | directory entries => cases halike
  | file kept => exact halike ▸ hreach'

end Files

end ChatImport
