import ChatImport.Proofs.Export.Packing
/-!
# Directories and archives

An export can be read from the directory of its files or from an archive that packs
them. The two readers go about it in different ways: one walks the directories and
takes the files of each in order, the other meets all names in one order and sorts
out what each stands for. Both give what the tree of files tells, so they end alike
(`Export.read_alike`): both fail, or both give the same export, with the same file
for each upload.
-/

namespace ChatImport

namespace Export

open Running

variable {files files' : Files} {dir path : String} {entries : List (String × Node)}
variable {archive : Archive} {file : ByteArray}

/-- Two exports say the same, and where the uploads of the one are told by the names of files, those
of the other are told by the places of these files. -/
structure Same (place : String → String) (e e' : Export) : Prop where
  /-- The users are the same. -/
  users : e.users = e'.users
  /-- The channels that everyone may join are the same. -/
  publicChannels : e.publicChannels = e'.publicChannels
  /-- The channels that take an invitation are the same. -/
  privateChannels : e.privateChannels = e'.privateChannels
  /-- The conversations of groups are the same. -/
  groupChannels : e.groupChannels = e'.groupChannels
  /-- The conversations of two are the same. -/
  directChannels : e.directChannels = e'.directChannels
  /-- Each channel has the same messages in the same order; without an entry it has none. -/
  messages : ∀ channel, (e.messages.find? channel).getD [] = (e'.messages.find? channel).getD []
  /-- The same file stands for each upload. -/
  uploads : ∀ id, e.uploads.sources.find? id = (e'.uploads.sources.find? id).map place

/-- Exports that the same files tell say the same. -/
theorem Told.same {place : String → String} {e e' : Export} (h : Told entries place e)
    (h' : Told entries (fun name => name) e') : Same place e e' := by
  have hchannels : ∀ list ∈ channelLists, e.channelsOf list.2 = e'.channelsOf list.2 :=
    fun list hmem => Option.some.inj ((h.channels list hmem).symm.trans (h'.channels list hmem))
  exact {
    users := Option.some.inj (h.users.symm.trans h'.users)
    publicChannels := hchannels ("channels.json", .openToAll) (by decide)
    privateChannels := hchannels ("groups.json", .inviteOnly) (by decide)
    groupChannels := hchannels ("mpims.json", .group) (by decide)
    directChannels := hchannels ("dms.json", .direct) (by decide)
    messages := fun channel =>
      Option.some.inj ((h.messages channel).symm.trans (h'.messages channel))
    uploads := fun id => by rw [h.uploads, h'.uploads, Option.map_id'] }

/-! ## Both readers -/

/-- What is noted of an export does not change how its reading ends. -/
theorem ends_noted {P : Export → Prop} {reason : Prop} {act : Reading Export}
    (h : Ends P reason act) :
    Ends P reason (do let e ← act; Reading.note e.readNotice; return e) :=
  h.bind fun _ he => ends_note.bind fun _ _ => ends_pure he

theorem ends_read_directory (hdir : files.Stands 3 dir entries)
    (horderly : (Node.directory entries).Orderly) :
    Ends (Told entries (Path.join dir)) (Spoilt entries) (read files dir) := by
  have hread : read files dir =
      (do let e ← readDirectory files dir; Reading.note e.readNotice; return e) := by
    simp only [read, Files.isFile, Files.isDirectory, hdir.found, Bool.false_eq_true, if_false,
      if_true]
  rw [hread]
  exact ends_noted (ends_readDirectory hdir horderly)

theorem ends_read_archive (hfile : files.content path = .ok file)
    (hpacks : archive.Packs file (.directory entries)) (htidy : Tidy (.directory entries)) :
    Ends (Told entries fun name => name) (Spoilt entries) (read files path) := by
  have hisFile : files.isFile path = true := by
    unfold Files.content at hfile
    unfold Files.isFile
    cases hfind : files.find path with
    | error fault =>
      rw [hfind] at hfile
      cases hfile
    | ok node =>
      rw [hfind] at hfile
      cases node with
      | file content => rfl
      | directory inner => cases hfile
  have hread : read files path =
      (do let e ← readArchive files path; Reading.note e.readNotice; return e) := by
    simp only [read, hisFile, if_true]
  rw [hread]
  exact ends_noted (ends_readArchive hpacks htidy hfile)

/-- **A directory and an archive of the same files are read alike**: both readers fail, or both
give the same export, with the same file for each upload. -/
theorem read_alike (hdir : files.Stands 3 dir entries) (hfile : files'.content path = .ok file)
    (hpacks : archive.Packs file (.directory entries)) (htidy : Tidy (.directory entries))
    (log log' : Array LogLine) :
    Alike (Same (Path.join dir)) (read files dir log) (read files' path log') :=
  (ends_read_directory hdir htidy.orderly).alike (ends_read_archive hfile hpacks htidy)
    (fun _ _ h h' => h.same h') (fun _ h => h.not_spoilt) (fun _ h => h.not_spoilt) log log'

end Export

/-! ## A small export, packed and unpacked -/

namespace Archive

/-- A number in so many octets, the lowest first. -/
def digits : Nat → Nat → List UInt8
  | 0, _ => []
  | width + 1, n => UInt8.ofNat n :: digits width (n / 256)

/-- What the header of a file that is stored as it is and the directory tell alike: flags, method
and time, the checksum, both sizes, and the lengths of name and extras. -/
def storedFacts (leaf : String × ByteArray) : List UInt8 :=
  digits 2 2048 ++ digits 6 0 ++ digits 4 (checksum leaf.2).toNat ++ digits 4 leaf.2.size ++
    digits 4 leaf.2.size ++ digits 2 leaf.1.utf8ByteSize ++ digits 2 0

/-- A stored file behind its header. -/
def storedFile (leaf : String × ByteArray) : List UInt8 :=
  digits 4 headerMark ++ digits 2 20 ++ storedFacts leaf ++ leaf.1.toUTF8.toList ++ leaf.2.toList

/-- What the directory tells of a stored file whose header stands at a place. -/
def storedEntry (leaf : String × ByteArray) (place : Nat) : List UInt8 :=
  digits 4 directoryMark ++ digits 4 20 ++ storedFacts leaf ++ digits 10 0 ++ digits 4 place ++
    leaf.1.toUTF8.toList

/-- The directory of stored files, the first of which has its header at a place. -/
def storedDirectory : List (String × ByteArray) → Nat → List UInt8
  | [], _ => []
  | leaf :: rest, place =>
    storedEntry leaf place ++ storedDirectory rest (place + (storedFile leaf).length)

/-- An archive of files that are stored as they are. -/
def stored (leaves : List (String × ByteArray)) : ByteArray :=
  let octets := leaves.flatMap storedFile
  let directory := storedDirectory leaves 0
  ⟨(octets ++ directory ++ digits 4 Ending.mark ++ digits 4 0 ++ digits 2 leaves.length ++
    digits 2 leaves.length ++ digits 4 directory.length ++ digits 4 octets.length ++
    digits 2 0).toArray⟩

end Archive

namespace Export

open Running

/-- The files of a small export: an empty list of users, one message of a channel, and one
upload. -/
def sampleEntries : List (String × Node) :=
  [("__uploads", .directory [("F1", .directory [("a.txt", .file "x".toUTF8)])]),
   ("general", .directory [("day.json", .file "[\x7b\x7d]".toUTF8)]),
   ("users.json", .file "[]".toUTF8)]

/-- The archive of the small export as a file. -/
def sampleFile : ByteArray :=
  Archive.stored ((Node.directory sampleEntries).leaves.map fun leaf =>
    ("/".intercalate leaf.1, leaf.2))

/-- The archive of the small export. -/
def sampleArchive : Archive := (Archive.read? sampleFile).getD default

/-- The small export as a directory and as an archive. -/
def sampleFiles : Files :=
  ⟨.directory [("export", .directory sampleEntries), ("export.zip", .file sampleFile)], []⟩

theorem stands_sample : sampleFiles.Stands 3 "export" sampleEntries := .of_short rfl (by decide)

theorem packs_sample : sampleArchive.Packs sampleFile (.directory sampleEntries) where
  read := by
    have hsome : (Archive.read? sampleFile).isSome := by decide +kernel
    obtain ⟨archive, harchive⟩ := Option.isSome_iff_exists.1 hsome
    rw [sampleArchive, harchive, Option.getD_some]
  named := by decide +kernel
  given := by decide +kernel

theorem tidy_sample : Tidy (.directory sampleEntries) where
  orderly := by
    simp only [sampleEntries, Node.Orderly, Node.EntriesOrderly]
    decide
  text := by decide +kernel
  named leaf hmem channel hname := by
    have hlast : ∀ leaf ∈ (Node.directory sampleEntries).leaves,
        leaf.1.getLast? ≠ some ".json" := by decide +kernel
    exact absurd (by rw [hname]; rfl) (hlast leaf hmem)

/-- The small export is read, and alike from its directory and from its archive. -/
theorem read_alike_sample :
    sampleFiles.Stands 3 "export" sampleEntries ∧
    sampleFiles.content "export.zip" = .ok sampleFile ∧
    sampleArchive.Packs sampleFile (.directory sampleEntries) ∧
    Tidy (.directory sampleEntries) ∧
    endsWith (fun (e : Export) _ => ((e.messages.find? "general").getD []).length = 1 ∧
      e.uploads.sources.find? "F1" = some "__uploads/F1/a.txt")
      (read sampleFiles "export.zip" #[]) = true ∧
    Alike (Same (Path.join "export")) (read sampleFiles "export" #[])
      (read sampleFiles "export.zip" #[]) :=
  ⟨stands_sample, rfl, packs_sample, tidy_sample, by decide +kernel,
    read_alike stands_sample rfl packs_sample tidy_sample #[] #[]⟩

end Export

end ChatImport
