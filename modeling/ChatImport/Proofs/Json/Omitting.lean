import ChatImport.Proofs.Json.Admitting
/-!
# Members that are left out

A field that may be absent has its default where it is absent. So an object that reads
as a record still reads when the members of such fields are taken out of it, and the
record is the one that was read before with these fields at their defaults
(`Record.decode_without`), whatever the order of the members and whatever else stands
in the object.

The two readings go over the same members side by side. What the reading of the shorter
object has made so far is the other's with the fields at their defaults, and both have
seen the same names beside those that are left out.
-/

namespace ChatImport

namespace Json

/-- Does the token stand for one of the names? -/
def Token.isOneOf (names : List String) : Token → Bool
  | .string (some name) => names.contains name
  | _ => false

/-- Members of an object without those of some names. -/
def without (names : List String) (members : List (Token × Tree)) : List (Token × Tree) :=
  members.filter fun member => !member.1.isOneOf names

variable {names : List String} {token : Token} {name : String} {t : Tree}
variable {members : List (Token × Tree)}

theorem isOneOf_of_memberName (h : Decoder.memberName token = .ok name) :
    token.isOneOf names = names.contains name := by
  unfold Decoder.memberName at h
  split at h
  · cases h
    rfl
  · cases h
  · cases h

theorem without_cons_of_mem (h : Decoder.memberName token = .ok name) (hmem : name ∈ names) :
    without names ((token, t) :: members) = without names members := by
  rw [without, List.filter_cons_of_neg]
  · rfl
  · simpa [isOneOf_of_memberName h] using hmem

theorem without_cons_of_notMem (h : Decoder.memberName token = .ok name) (hmem : name ∉ names) :
    without names ((token, t) :: members) = (token, t) :: without names members := by
  rw [without, List.filter_cons_of_pos]
  · rfl
  · simpa [isOneOf_of_memberName h] using hmem

/-- What a field does to a record is in step with a function that puts the fields of some
names back to their defaults. -/
structure Field.Resets {ρ : Type} (field : Field ρ) (names : List String) (reset : ρ → ρ) :
    Prop where
  /-- A field that must be there is none of them. -/
  present : field.presence = .required → field.name ∉ names
  /-- What such a field does is forgotten. -/
  forgets : field.name ∈ names → ∀ level t change, field.read level t = .ok change →
    ∀ record, reset (change record) = reset record
  /-- What another field does is kept. -/
  keeps : field.name ∉ names → ∀ level t change, field.read level t = .ok change →
    ∀ record, reset (change record) = change (reset record)

theorem Field.resets_of {ρ α : Type} {presence : Presence} {decoder : Decoder α}
    {set : ρ → α → ρ} {reset : ρ → ρ} (hpresent : presence = .required → name ∉ names)
    (hforgets : name ∈ names → ∀ record value, reset (set record value) = reset record)
    (hkeeps : name ∉ names → ∀ record value,
      reset (set record value) = set (reset record) value) :
    (Field.of name presence decoder set).Resets names reset where
  present := hpresent
  forgets hmem level t change h record := by
    obtain ⟨value, -, rfl⟩ := exists_of_read_of h
    exact hforgets hmem record value
  keeps hmem level t change h record := by
    obtain ⟨value, -, rfl⟩ := exists_of_read_of h
    exact hkeeps hmem record value

/-- A field of another name is in step if what it sets stays. -/
theorem Field.resets_of_notMem {ρ α : Type} {presence : Presence} {decoder : Decoder α}
    {set : ρ → α → ρ} {reset : ρ → ρ} (hname : name ∉ names)
    (hkeeps : ∀ record value, reset (set record value) = set (reset record) value) :
    (Field.of name presence decoder set).Resets names reset :=
  resets_of (fun _ => hname) (fun hmem => absurd hmem hname) fun _ => hkeeps

namespace Record

variable {ρ : Type}

/-- Fields of some names may be left out of a record: nothing is known of them in the
beginning, and every field is in step with putting them back. -/
structure Omits (r : Record ρ) (names : List String) (reset : ρ → ρ) : Prop where
  blank : reset r.blank = r.blank
  fields : ∀ field ∈ r.fields, field.Resets names reset

variable {r : Record ρ} {reset : ρ → ρ} {level : Nat}

/-- Two lists of seen names that differ at most in names that are left out. -/
def SameBeside (names seen seen' : List String) : Prop :=
  ∀ name, name ∉ names → (name ∈ seen ↔ name ∈ seen')

theorem SameBeside.cons {seen seen' : List String} (h : SameBeside names seen seen')
    (name : String) : SameBeside names (name :: seen) (name :: seen') := by
  intro other hother
  rw [List.mem_cons, List.mem_cons, h other hother]

theorem SameBeside.cons_left {seen seen' : List String} (h : SameBeside names seen seen')
    (hmem : name ∈ names) : SameBeside names (name :: seen) seen' := by
  intro other hother
  have hne : other ≠ name := fun heq => hother (heq ▸ hmem)
  rw [List.mem_cons, h other hother, or_iff_right hne]

/-- **The members that are left are read as before**, into the record that is put back. -/
theorem readMembers_without (homits : r.Omits names reset) {seen seen' done : List String}
    {record out : ρ} (hseen : SameBeside names seen seen')
    (h : r.readMembers level members seen record = .ok (out, done)) :
    ∃ done', r.readMembers level (without names members) seen' (reset record) =
      .ok (reset out, done') ∧ SameBeside names done done' := by
  induction members generalizing seen seen' record with
  | nil =>
    cases h
    exact ⟨seen', rfl, hseen⟩
  | cons member rest ih =>
    obtain ⟨token, t⟩ := member
    rw [readMembers] at h
    obtain ⟨name, hname, h⟩ := ok_of_bind h
    by_cases hmem : name ∈ names
    · rw [without_cons_of_mem hname hmem]
      split at h
      · obtain ⟨-, -, h⟩ := ok_of_bind h
        exact ih hseen h
      · next field hfind =>
        have hfield : field.name = name := by simpa using List.find?_some hfind
        split at h
        · cases h
        · obtain ⟨change, hread, h⟩ := ok_of_bind h
          have hresets := homits.fields field (List.mem_of_find?_eq_some hfind)
          rw [← hresets.forgets (hfield ▸ hmem) level t change hread record]
          exact ih (hseen.cons_left hmem) h
    · rw [without_cons_of_notMem hname hmem, readMembers]
      split at h
      · next hfind =>
        obtain ⟨_, hskip, h⟩ := ok_of_bind h
        obtain ⟨done', hrest, hdone⟩ := ih hseen h
        refine ⟨done', ?_, hdone⟩
        simp only [hname, hfind, hskip, bind, Except.bind]
        exact hrest
      · next field hfind =>
        have hfield : field.name = name := by simpa using List.find?_some hfind
        split at h
        · cases h
        · next hnew =>
          have hnew' : ¬ seen'.contains name = true := by
            simpa [← hseen name hmem] using hnew
          obtain ⟨change, hread, h⟩ := ok_of_bind h
          obtain ⟨done', hrest, hdone⟩ := ih (hseen.cons name) h
          have hresets := homits.fields field (List.mem_of_find?_eq_some hfind)
          rw [hresets.keeps (hfield ▸ hmem) level t change hread record] at hrest
          refine ⟨done', ?_, hdone⟩
          simp only [hname, hfind, if_neg hnew', hread, bind, Except.bind]
          exact hrest

theorem checkPresent_congr {fields : List (Field ρ)} {done done' : List String}
    (hfields : ∀ field ∈ fields, field.Resets names reset)
    (h : SameBeside names done done') : checkPresent done' fields = checkPresent done fields := by
  induction fields with
  | nil => rfl
  | cons field rest ih =>
    have hfield : (field.presence = .required ∧ ¬ done'.contains field.name = true) ↔
        (field.presence = .required ∧ ¬ done.contains field.name = true) := by
      refine and_congr_right fun hrequired => not_congr ?_
      rw [List.contains_iff_mem, List.contains_iff_mem]
      exact (h _ ((hfields field List.mem_cons_self).present hrequired)).symm
    rw [checkPresent, checkPresent,
      ih fun other hmem => hfields other (List.mem_cons_of_mem _ hmem)]
    exact if_congr hfield rfl rfl

/-- **An object without some of its members reads as the record with their fields at their
defaults.** -/
theorem decode_without (homits : r.Omits names reset) {fault : Option Fault} {record : ρ}
    (h : r.decode level (.object members fault) = .ok record) :
    r.decode level (.object (without names members) fault) = .ok (reset record) := by
  rw [decode] at h ⊢
  obtain ⟨inner, hopened, h⟩ := ok_of_bind h
  obtain ⟨⟨out, done⟩, hread, h⟩ := ok_of_bind h
  obtain ⟨_, hclosed, h⟩ := ok_of_bind h
  obtain ⟨_, hpresent, h⟩ := ok_of_bind h
  cases h
  obtain ⟨done', hread', hdone⟩ := readMembers_without homits (fun _ _ => Iff.rfl) hread
  rw [homits.blank] at hread'
  rw [← checkPresent_congr homits.fields hdone] at hpresent
  simp only [hopened, hread', hclosed, hpresent, bind, Except.bind]
  rfl

end Record

/-! ## Texts of objects -/

/-- The text is that of an object with these members, whatever its blanks and the order of
the members. -/
def ObjectText (s : String) (members : List (Token × Tree)) : Prop :=
  Document.ofSymbols (Symbol.ofString s) = ⟨.object members none, false⟩

theorem objectText_text (members : List (String × Json)) :
    ObjectText (Json.object members).text (memberTrees members) :=
  Document.ofSymbols_text _

theorem ObjectText.read_eq {α : Type} {decoder : Decoder α} {s : String}
    {members : List (Token × Tree)} (h : ObjectText s members) :
    readString decoder s = decoder deepestNesting (.object members none) := by
  rw [readString, read, h]
  cases decoder deepestNesting (.object members none) with
  | ok value => rfl
  | error problem => rfl

end Json

end ChatImport
