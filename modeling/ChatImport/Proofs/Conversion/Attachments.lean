import ChatImport.Proofs.Conversion.Posts
import ChatImport.Proofs.Export.Holding
import ChatImport.Proofs.Export.Reading
import ChatImport.Proofs.Files.Writing
/-!
# Where the copies of files go

The copy of a file is named by the identifier of the file, an underscore and the name
of the file. An identifier is one part of a path, for it is the name of a directory, or
the part of the name of an entry between two slashes (`Uploads.Sorted`). The name of a file
is told by a message and may be any text. So a copy goes to a place in its directory
unless there is a slash in the name, and the copies of two files meet if an
identifier goes on where the other ends and the names make up for it
(`Slack.File.Mimics`). These are the only ways in which one copy can leave the directory or
overwrite another (`Conversion.copies_part`).
-/

namespace ChatImport

namespace Path

/-- A text that is one part of a path and not empty. -/
structure Single (name : String) : Prop where
  nonempty : name ≠ ""
  oneStep : '/' ∉ name.toList

theorem Proper.single {name : String} (h : Proper name) : Single name := ⟨h.nonempty, h.oneStep⟩

end Path

/-! ## The identifiers of uploaded files -/

namespace Uploads

/-- Each identifier is one part of a path. -/
def Sorted (u : Uploads) : Prop := ∀ id, u.sources.contains id = true → Path.Single id

theorem sorted_none : none.Sorted := fun _ h => nomatch h

end Uploads

namespace Export

open Running (Gives gives_pure gives_throw gives_after bind_eq_ok)

variable {files : Files} {dir path : String} {e : Export} {log log' : Array LogLine}

/-- Only the names of directories become identifiers. -/
theorem mem_of_contains_uploadPaths {ids : List String} {paths paths' : Table String}
    (h : uploadPaths files dir ids paths = .ok paths') {id : String}
    (hid : paths'.contains id = true) : paths.contains id = true ∨ id ∈ ids := by
  induction ids generalizing paths with
  | nil =>
    cases h
    exact Or.inl hid
  | cons first rest ih =>
    obtain ⟨entries, -, h⟩ := bind_eq_ok.1 h
    split at h
    · exact (ih h).imp_right (List.mem_cons_of_mem _)
    · rcases ih h with hmem | hmem
      · rw [Table.contains_insert, Bool.or_eq_true, beq_iff_eq] at hmem
        rcases hmem with rfl | hmem
        · exact Or.inr List.mem_cons_self
        · exact Or.inl hmem
      · exact Or.inr (List.mem_cons_of_mem _ hmem)

/-- The entries of a directory in an orderly tree have proper names. -/
theorem orderly_of_entries {entries : List (String × Node)} (horderly : files.root.Orderly)
    (h : files.entries dir = .ok entries) : (Node.directory entries).Orderly := by
  obtain ⟨node, hfind, h⟩ := bind_eq_ok.1 h
  obtain ⟨-, place, -, hreach⟩ := Files.find_eq_ok.1 hfind
  cases node with
  | file content => cases h
  | directory inner =>
    cases h
    exact horderly.of_reach hreach

theorem sorted_of_uploadsIn {uploads : Uploads} (horderly : files.root.Orderly)
    (h : uploadsIn files dir = .ok uploads) : uploads.Sorted := by
  unfold uploadsIn at h
  split at h
  · obtain ⟨entries, hentries, h⟩ := bind_eq_ok.1 h
    obtain ⟨paths, hpaths, h⟩ := bind_eq_ok.1 h
    cases h
    intro id hid
    rcases mem_of_contains_uploadPaths hpaths hid with hmem | hmem
    · cases hmem
    · obtain ⟨inner, hinner⟩ := mem_directoryNames.1 hmem
      exact ((orderly_of_entries horderly hentries).proper hinner).single
  · cases h
    exact Uploads.sorted_none

theorem gives_orFault {α : Type} {P : α → Prop} {act : Except FileFault α}
    (h : ∀ a, act = .ok a → P a) : Gives P (Reading.orFault act) := by
  cases act with
  | ok a => exact gives_pure (h a rfl)
  | error fault => exact gives_throw

theorem sorted_of_readDirectory (horderly : files.root.Orderly) :
    Gives (fun e : Export => e.uploads.Sorted) (readDirectory files dir) := by
  have hlast : ∀ filled : Export, Gives (fun e : Export => e.uploads.Sorted) (do
      let uploads ← Reading.orFault (uploadsIn files (Path.join dir uploadsName))
      return { filled with uploads := uploads }) := fun filled =>
    (gives_orFault fun uploads h => sorted_of_uploadsIn horderly h).bind fun uploads h =>
      gives_pure h
  have hread : ∀ users : List Slack.User, Gives (fun e : Export => e.uploads.Sorted) (do
      let listed ← Export.withChannelLists files dir channelLists
        { Export.empty with users := users }
      let names := directoryNames (← Reading.orFault (files.entries dir))
      let filled ← Export.withChannelMessages files dir (names.filter (· ≠ uploadsName)) listed
      let uploads ← Reading.orFault (uploadsIn files (Path.join dir uploadsName))
      return { filled with uploads := uploads }) := fun users =>
    gives_after fun listed => gives_after fun entries => gives_after hlast
  unfold Export.readDirectory
  refine gives_after fun _ => ?_
  simp only []
  split
  · exact gives_after fun _ => gives_after hread
  · exact gives_after hread

/-- An entry of an archive can only add the part of its name between two slashes. -/
theorem sorted_of_gather {archive : Archive} {file : ByteArray} {g : Gathered} {name : String}
    (h : (Uploads.inArchive path archive g.uploads).Sorted) :
    Gives (fun g : Gathered => (Uploads.inArchive path archive g.uploads).Sorted)
      (gather archive file g name) := by
  unfold gather
  split
  · split
    · exact gives_after fun _ => gives_pure h
    · split
      · exact gives_pure h
      · exact gives_after fun _ => gives_pure h
  · split
    · exact gives_after fun _ => gives_pure h
    · exact gives_pure h
  · next top id upload hparts =>
    split
    · next hnew =>
      refine gives_pure fun other hother => ?_
      rw [Uploads.sources, Table.contains_insert, Bool.or_eq_true, beq_iff_eq] at hother
      rcases hother with rfl | hother
      · have hmem : id ∈ Path.parts name := by
          rw [Path.parts, hparts]
          exact List.mem_cons_of_mem _ List.mem_cons_self
        exact ⟨hnew.2.1, Path.notMem_of_mem_parts hmem⟩
      · exact h other hother
    · exact gives_pure h
  · exact gives_pure h

theorem sorted_of_gatherAll {archive : Archive} {file : ByteArray} {names : List String}
    {g : Gathered} (h : (Uploads.inArchive path archive g.uploads).Sorted) :
    Gives (fun g : Gathered => (Uploads.inArchive path archive g.uploads).Sorted)
      (gatherAll archive file names g) := by
  induction names generalizing g with
  | nil => exact gives_pure h
  | cons name rest ih => exact (sorted_of_gather h).bind fun g' h' => ih h'

theorem sorted_of_readArchive :
    Gives (fun e : Export => e.uploads.Sorted) (readArchive files path) := by
  unfold Export.readArchive
  refine gives_after fun _ => gives_after fun file => ?_
  split
  · exact gives_throw
  · next archive _ =>
    have hempty : (Uploads.inArchive path archive Table.empty).Sorted := fun _ h => nomatch h
    refine (sorted_of_gatherAll hempty).bind fun g hg => ?_
    split
    · exact gives_throw
    · exact gives_after fun _ => gives_pure hg

/-- **Each identifier of an export that is read is one part of a path.** -/
theorem sorted_of_read (horderly : files.root.Orderly)
    (h : read files path log = .ok e log') : e.uploads.Sorted := by
  have htold : ∀ e : Export, e.uploads.Sorted → Gives (fun e : Export => e.uploads.Sorted)
      (Reading.note e.readNotice >>= fun _ => pure e) :=
    fun e he => gives_after fun _ => gives_pure he
  have hgives : Gives (fun e : Export => e.uploads.Sorted) (read files path) := by
    unfold Export.read
    simp only []
    split
    · exact sorted_of_readArchive.bind htold
    · split
      · exact (sorted_of_readDirectory horderly).bind htold
      · exact gives_throw.bind htold
  exact hgives _ _ _ h

end Export

/-! ## The copying of uploaded files -/

namespace Uploads

open Running (Keeps keeps_pure stateAfter bind_eq_ok bind_of_error)

variable {files : Files} {uploads : Uploads} {id dest path : String} {old : ByteArray}

/-- What was not uploaded is not copied. -/
theorem copyTo_of_find? (hsource : uploads.sources.find? id = Option.none) :
    uploads.copyTo id dest files = .ok false files := by
  cases uploads with
  | inDirectory paths => simp only [copyTo, hsource]
  | inArchive path archive names => simp only [copyTo, hsource]

/-- An entry that is taken out of an archive is written. -/
theorem exists_error_of_extract {source : String} {entry : Archive.Entry}
    (hwrite : ∀ content copied, files.write dest content ≠ .ok copied) :
    ∃ fault, extract source entry dest files = .error fault files := by
  unfold extract
  split
  · exact ⟨_, rfl⟩
  · cases hemptied : files.write dest ByteArray.empty with
    | error fault => exact ⟨fault, rfl⟩
    | ok emptied => exact absurd hemptied (hwrite _ _)

/-- An uploaded file that is copied is written. -/
theorem exists_error_of_copyTo (hid : uploads.sources.contains id = true)
    (hwrite : ∀ content copied, files.write dest content ≠ .ok copied) :
    ∃ fault, uploads.copyTo id dest files = .error fault files := by
  obtain ⟨source, hsource⟩ := Table.contains_iff.1 hid
  cases uploads with
  | inDirectory paths =>
    simp only [copyTo, hsource]
    cases hcopy : files.copy source dest with
    | error fault => exact ⟨fault, rfl⟩
    | ok copied =>
      obtain ⟨node, -, hcopy⟩ := bind_eq_ok.1 hcopy
      cases node with
      | directory entries => cases hcopy
      | file content =>
        obtain ⟨emptied, hemptied, -⟩ := bind_eq_ok.1 hcopy
        exact absurd hemptied (hwrite _ _)
  | inArchive path archive names =>
    simp only [copyTo, hsource]
    split
    · exact ⟨_, rfl⟩
    · obtain ⟨fault, hextract⟩ := exists_error_of_extract hwrite
      exact ⟨fault, bind_of_error hextract⟩

theorem apart_copy {source : String} {copied : Files} (h : files.Apart dest path old)
    (hcopy : files.copy source dest = .ok copied) : copied.Apart dest path old := by
  obtain ⟨node, -, hcopy⟩ := bind_eq_ok.1 hcopy
  cases node with
  | directory entries => cases hcopy
  | file content =>
    obtain ⟨emptied, hemptied, hcopy⟩ := bind_eq_ok.1 hcopy
    obtain ⟨taken, -, hcopy⟩ := bind_eq_ok.1 hcopy
    exact (h.write hemptied).write hcopy

theorem apart_extract {source : String} {entry : Archive.Entry} :
    Keeps (fun files => files.Apart dest path old) (extract source entry dest) := by
  intro files h
  simp only [stateAfter, extract]
  cases (files.content source).toOption.bind entry.open? with
  | none => exact h
  | some start =>
    cases hemptied : files.write dest ByteArray.empty with
    | error fault => exact h
    | ok emptied =>
      have hkept := h.write hemptied
      dsimp only
      cases emptied.content source with
      | error fault => exact hkept
      | ok file =>
        dsimp only
        cases hwritten : emptied.write dest (entry.content file start).1 with
        | error fault => exact hkept
        | ok written =>
          have hstays := hkept.write hwritten
          cases (entry.content file start).2 with
          | some fault => exact hstays
          | none => exact hstays

/-- **A file stays as it is when an uploaded one is copied elsewhere**, whether the copying fails
or not. -/
theorem apart_copyTo : Keeps (fun files => files.Apart dest path old) (uploads.copyTo id dest) := by
  intro files h
  cases hsource : uploads.sources.find? id with
  | none =>
    rw [stateAfter, copyTo_of_find? hsource]
    exact h
  | some source =>
    cases uploads with
    | inDirectory paths =>
      simp only [stateAfter, copyTo, hsource]
      cases hcopy : files.copy source dest with
      | error fault => exact h
      | ok copied => exact apart_copy h hcopy
    | inArchive archivePath archive names =>
      simp only [stateAfter, copyTo, hsource]
      cases archive.entries.find? source with
      | none => exact h
      | some entry => exact apart_extract.bind (fun _ => keeps_pure) files h

end Uploads

/-! ## The names of copies -/

namespace Slack.File

/-- The identifier of the other file goes on where that of this one ends, and the name of this one
makes up for it. -/
def Mimics (file other : Slack.File) : Prop :=
  ∃ rest, other.id = file.id ++ "_" ++ rest ∧ file.name = rest ++ "_" ++ other.name

/-- The name of the copy of a file in its directory. -/
def copyName (file : Slack.File) : String := file.id ++ "_" ++ file.name

variable {file other : Slack.File}

theorem toList_copyName : file.copyName.toList = file.id.toList ++ '_' :: file.name.toList := by
  simp [copyName]

theorem Mimics.copyName_eq (h : file.Mimics other) : file.copyName = other.copyName := by
  obtain ⟨rest, hid, hname⟩ := h
  simp only [copyName, hid, hname, String.append_assoc]

/-- A copy that has the name of another under a shorter identifier mimics it. -/
theorem mimics_of_append {more : List Char} (hne : file.id ≠ other.id)
    (hid : other.id.toList = file.id.toList ++ more)
    (hname : '_' :: file.name.toList = more ++ '_' :: other.name.toList) : file.Mimics other := by
  cases more with
  | nil => exact absurd (String.toList_inj.1 (by rw [hid, List.append_nil])) hne
  | cons c rest =>
    rw [List.cons_append, List.cons.injEq] at hname
    obtain ⟨rfl, hname⟩ := hname
    refine ⟨String.ofList rest, String.toList_inj.1 ?_, String.toList_inj.1 ?_⟩
    · simp [hid]
    · simp [hname]

/-- **The copies of two files have one name if one of the files mimics the other.** -/
theorem copyName_eq_iff (hne : file.id ≠ other.id) :
    file.copyName = other.copyName ↔ file.Mimics other ∨ other.Mimics file := by
  constructor
  · intro h
    have hlist := congrArg String.toList h
    rw [toList_copyName, toList_copyName, List.append_eq_append_iff] at hlist
    rcases hlist with ⟨more, hid, hname⟩ | ⟨more, hid, hname⟩
    · exact Or.inl (mimics_of_append hne hid hname)
    · exact Or.inr (mimics_of_append hne.symm hid hname)
  · rintro (h | h)
    · exact h.copyName_eq
    · exact h.copyName_eq.symm

/-- An underscore stands for no other place. -/
theorem step_of_underscore {front back : String} (hfront : '/' ∉ front.toList)
    (hback : '/' ∉ back.toList) : Path.Step (front ++ "_" ++ back) := by
  have hmem : '_' ∈ (front ++ "_" ++ back).toList := by simp
  refine ⟨fun h => ?_, fun h => ?_, fun h => ?_, ?_⟩
  · rw [h] at hmem
    cases hmem
  · rw [h] at hmem
    revert hmem
    decide
  · rw [h] at hmem
    revert hmem
    decide
  · simp [hfront, hback]

theorem step_copyName (hid : '/' ∉ file.id.toList) (hname : '/' ∉ file.name.toList) :
    Path.Step file.copyName := step_of_underscore hid hname

theorem fromRoot_copyName (hid : '/' ∉ file.id.toList) : Path.fromRoot file.copyName = false := by
  have hstep := step_of_underscore hid (show '/' ∉ "".toList from List.not_mem_nil)
  rw [String.append_empty] at hstep
  exact hstep.fromRoot_append file.name

/-- The other file is copied to a place of its own. -/
structure Spares (other file : Slack.File) : Prop where
  ids : other.id ≠ file.id
  inside : '/' ∉ other.name.toList
  distinct : ¬ other.Mimics file
  distinct' : ¬ file.Mimics other

end Slack.File

/-! ## Copies in their directory -/

namespace Conversion

open Running (Keeps keeps_pure stateAfter bind_of_error)

variable {uploads : Uploads} {file other : Slack.File} {dir : String} {files : Files}
variable {c : Conversion} {content : ByteArray}

/-- In one directory only copies of one name have one path. -/
theorem attachmentPath_eq_iff (hid : '/' ∉ file.id.toList) (hother : '/' ∉ other.id.toList) :
    attachmentPath file dir = attachmentPath other dir ↔ file.copyName = other.copyName := by
  have hpath : ∀ file : Slack.File, attachmentPath file dir = Path.join dir file.copyName :=
    fun _ => rfl
  rw [hpath, hpath, Path.join_eq (Slack.File.fromRoot_copyName hid),
    Path.join_eq (Slack.File.fromRoot_copyName hother), String.append_right_inj]

/-- **The copy of a file goes right into the directory** if there is no slash in its name. -/
theorem leads_attachmentPath (hid : '/' ∉ file.id.toList) (hname : '/' ∉ file.name.toList)
    {place : List String} :
    files.Leads (attachmentPath file dir) place ↔
      ∃ above entries, files.Opens dir above entries ∧ place = above ++ [file.copyName] :=
  Files.leads_join (Slack.File.step_copyName hid hname)

/-- **A file with a slash in its name is not copied** unless the part before the slash leads to a
directory that is there. -/
theorem exists_error_of_slash {front back : String} (hid : uploads.sources.contains file.id = true)
    (hsorted : uploads.Sorted) (hname : file.name = front ++ "/" ++ back)
    (hfront : '/' ∉ front.toList)
    (hnot : ∀ above inner,
      ¬ c.files.Opens (Path.join dir (file.id ++ "_" ++ front)) above inner) :
    ∃ fault, copyAttachment uploads dir file c =
      .error (.attachment file.id (attachmentPath file dir) fault) c := by
  have hwrite : ∀ content copied,
      c.files.write (attachmentPath file dir) content ≠ .ok copied := by
    intro content copied h
    obtain ⟨place, hleads, -, -⟩ := Files.write_eq_ok h
    have hpath : attachmentPath file dir =
        Path.join dir (file.id ++ "_" ++ front ++ "/" ++ back) := by
      simp only [attachmentPath, hname, String.append_assoc]
    obtain ⟨above, inner, hopens⟩ := Files.exists_opens_of_leads
      (Slack.File.step_of_underscore (hsorted _ hid).oneStep hfront) (hpath ▸ hleads)
    exact hnot above inner hopens
  obtain ⟨fault, hcopyTo⟩ := Uploads.exists_error_of_copyTo hid hwrite
  refine ⟨fault, bind_of_error ?_⟩
  simp only [onFiles, hcopyTo]

/-- A copy stays where it is, whatever is done about another file. -/
theorem content_copyTo (hsorted : uploads.Sorted)
    (hfile : uploads.sources.contains file.id = true) (hname : '/' ∉ file.name.toList)
    (hother : uploads.sources.contains other.id = true → other.Spares file) :
    Keeps (fun files : Files => files.content (attachmentPath file dir) = .ok content)
      (uploads.copyTo other.id (attachmentPath other dir)) := by
  intro files hcontent
  by_cases hmem : uploads.sources.contains other.id = true
  · have hspares := hother hmem
    obtain ⟨-, place, hleads, -⟩ := Files.find_eq_ok.1 (Files.content_eq_ok.1 hcontent)
    obtain ⟨above, entries, hopens, rfl⟩ :=
      (leads_attachmentPath (hsorted _ hfile).oneStep hname).1 hleads
    have hdest : files.Leads (attachmentPath other dir) (above ++ [other.copyName]) :=
      (leads_attachmentPath (hsorted _ hmem).oneStep hspares.inside).2 ⟨above, entries, hopens, rfl⟩
    have hne : above ++ [file.copyName] ≠ above ++ [other.copyName] := by
      intro heq
      have hnames : other.copyName = file.copyName := by simpa using heq.symm
      exact ((Slack.File.copyName_eq_iff hspares.ids).1 hnames).elim hspares.distinct
        hspares.distinct'
    exact (Uploads.apart_copyTo files ⟨⟨_, _, hdest, hleads, hne⟩, hcontent⟩).content
  · have hnone : uploads.sources.find? other.id = none := by
      simpa [Table.contains] using hmem
    rw [stateAfter, Uploads.copyTo_of_find? hnone]
    exact hcontent

/-- A copy stays when another file is copied. -/
theorem content_copyAttachment (hsorted : uploads.Sorted)
    (hfile : uploads.sources.contains file.id = true) (hname : '/' ∉ file.name.toList)
    (hother : uploads.sources.contains other.id = true → other.Spares file) :
    Keeps (fun c : Conversion => c.files.content (attachmentPath file dir) = .ok content)
      (copyAttachment uploads dir other) := by
  unfold copyAttachment
  refine (keeps_onFiles (content_copyTo hsorted hfile hname hother)).bind fun copied => ?_
  cases copied with
  | true => exact (keeps_tell fun _ h => h).bind fun _ => keeps_pure
  | false => exact (keeps_tell fun _ h => h).bind fun _ => keeps_pure

/-- **A copy stays when other files are copied.** -/
theorem content_copyAttachments (hsorted : uploads.Sorted)
    (hfile : uploads.sources.contains file.id = true) (hname : '/' ∉ file.name.toList)
    {others : List Slack.File}
    (hothers : ∀ other ∈ others, uploads.sources.contains other.id = true → other.Spares file)
    (met : List String) :
    Keeps (fun c : Conversion => c.files.content (attachmentPath file dir) = .ok content)
      (copyAttachments uploads dir met others) := by
  induction others generalizing met with
  | nil => exact keeps_pure
  | cons other rest ih =>
    rw [List.forall_mem_cons] at hothers
    unfold copyAttachments
    split
    · exact ih hothers.2 met
    · refine (content_copyAttachment hsorted hfile hname hothers.1).bind fun path? => ?_
      cases path? with
      | none => exact ih hothers.2 _
      | some path => exact (ih hothers.2 _).bind fun _ => keeps_pure

/-- **The copies of two uploaded files part** unless the names of the files are at fault. The
identifiers are single parts of a path. A copy goes to the place of its name in the directory if
there is no slash in the name of the file; if there is one, the conversion ends with an error,
unless a directory is there that the part before the slash leads to. Two copies have one path if
and only if one of the files mimics the other, and a copy stays as it is whatever other files are
copied after it. -/
theorem copies_part {path : String} {e : Export} {log log' : Array LogLine}
    (horderly : files.root.Orderly) (hread : Export.read files path log = .ok e log')
    (hfile : e.uploads.sources.contains file.id = true)
    (hother : e.uploads.sources.contains other.id = true) (c : Conversion) :
    Path.Single file.id ∧
    ('/' ∉ file.name.toList → ∀ place, c.files.Leads (attachmentPath file dir) place ↔
      ∃ above entries, c.files.Opens dir above entries ∧ place = above ++ [file.copyName]) ∧
    (∀ front back, file.name = front ++ "/" ++ back → '/' ∉ front.toList →
      (∃ above inner, c.files.Opens (Path.join dir (file.id ++ "_" ++ front)) above inner) ∨
      ∃ fault, copyAttachment e.uploads dir file c =
        .error (.attachment file.id (attachmentPath file dir) fault) c) ∧
    (file.id ≠ other.id →
      (attachmentPath file dir = attachmentPath other dir ↔
        file.Mimics other ∨ other.Mimics file)) ∧
    ('/' ∉ file.name.toList → ∀ others : List Slack.File,
      (∀ other ∈ others, e.uploads.sources.contains other.id = true → other.Spares file) →
      ∀ met content, c.files.content (attachmentPath file dir) = .ok content →
        (stateAfter (copyAttachments e.uploads dir met others) c).files.content
          (attachmentPath file dir) = .ok content) := by
  have hsorted := Export.sorted_of_read horderly hread
  have hid := (hsorted _ hfile).oneStep
  refine ⟨hsorted _ hfile, fun hname place => leads_attachmentPath hid hname,
    fun front back hname hfront => ?_, fun hne => ?_,
    fun hname others hothers met content hcontent =>
      content_copyAttachments hsorted hfile hname hothers met c hcontent⟩
  · by_cases hopens : ∃ above inner,
        c.files.Opens (Path.join dir (file.id ++ "_" ++ front)) above inner
    · exact Or.inl hopens
    · exact Or.inr (exists_error_of_slash hfile hsorted hname hfront
        fun above inner h => hopens ⟨above, inner, h⟩)
  · rw [attachmentPath_eq_iff hid (hsorted _ hother).oneStep, Slack.File.copyName_eq_iff hne]

/-- An export that shares two files, and a directory for their copies that is not empty. -/
def sharingFiles : Files :=
  ⟨.directory [
    ("export", .directory [
      ("__uploads", .directory [
        ("A", .directory [("one.txt", .file "one".toUTF8)]),
        ("A_B", .directory [("two.txt", .file "two".toUTF8)])]),
      ("users.json", .file "[]".toUTF8)]),
    ("out", .directory [("A_x", .directory [])])], []⟩

theorem orderly_sharing : sharingFiles.root.Orderly := by
  simp only [sharingFiles, Node.Orderly, Node.EntriesOrderly]
  decide

/-- Whether a file that is copied takes the place of one that was copied before. -/
def overwrites (uploads : Uploads) (dir : String) (before file : Slack.File) (c : Conversion) :
    Bool :=
  let once := stateAfter (copyAttachment uploads dir before) c
  let twice := stateAfter (copyAttachment uploads dir file) once
  let content (c : Conversion) := (c.files.content (attachmentPath before dir)).toOption
  (content once).isSome && content twice != content once

/-- The export is read, and both of its files are known. -/
theorem read_sharing : ∃ e log, Export.read sharingFiles "export" #[] = .ok e log ∧
    (e.uploads.sources.contains "A" && e.uploads.sources.contains "A_B" &&
      overwrites e.uploads "out" ⟨"A", "B_c.txt", ""⟩ ⟨"A_B", "c.txt", ""⟩
        (fresh "" sharingFiles Backend.empty)) = true :=
  Running.exists_of_endsWith (by decide +kernel)

/-- Files whose names are not at fault are copied one beside the other. -/
theorem copies_part_of_plain_names :
    let c := fresh "" sharingFiles Backend.empty
    let one : Slack.File := ⟨"A", "one.txt", ""⟩
    let two : Slack.File := ⟨"A_B", "two.txt", ""⟩
    ∃ e log, sharingFiles.root.Orderly ∧ Export.read sharingFiles "export" #[] = .ok e log ∧
      e.uploads.sources.contains one.id = true ∧ e.uploads.sources.contains two.id = true ∧
      c.files.Leads (attachmentPath one "out") ["out", "A_one.txt"] ∧
      (one.id ≠ two.id → (attachmentPath one "out" = attachmentPath two "out" ↔
        one.Mimics two ∨ two.Mimics one)) := by
  intro c one two
  obtain ⟨e, log, hread, htest⟩ := read_sharing
  simp only [Bool.and_eq_true] at htest
  obtain ⟨⟨hone, htwo⟩, -⟩ := htest
  obtain ⟨-, hplace, -, hpaths, -⟩ :=
    @copies_part one two "out" sharingFiles "export" e #[] log orderly_sharing hread hone htwo c
  exact ⟨e, log, orderly_sharing, hread, hone, htwo,
    (hplace (by decide) _).2 ⟨["out"], [("A_x", .directory [])], ⟨rfl, rfl⟩, rfl⟩, hpaths⟩

/-- Names at fault: the second copy takes the place of the first, and the third leaves the
directory. -/
theorem copies_meet_of_underscore :
    let c := fresh "" sharingFiles Backend.empty
    ∃ e log, Export.read sharingFiles "export" #[] = .ok e log ∧
      e.uploads.sources.contains "A" = true ∧ e.uploads.sources.contains "A_B" = true ∧
      overwrites e.uploads "out" ⟨"A", "B_c.txt", ""⟩ ⟨"A_B", "c.txt", ""⟩ c = true ∧
      attachmentPath ⟨"A", "B_c.txt", ""⟩ "out" = attachmentPath ⟨"A_B", "c.txt", ""⟩ "out" ∧
      c.files.Leads (attachmentPath ⟨"A", "x/../../b.txt", ""⟩ "out") ["b.txt"] := by
  intro c
  obtain ⟨e, log, hread, htest⟩ := read_sharing
  simp only [Bool.and_eq_true] at htest
  exact ⟨e, log, hread, htest.1.1, htest.1.2, htest.2, by decide, rfl⟩

end Conversion

end ChatImport
