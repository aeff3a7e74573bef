import ChatImport.Mattermost.Limits
import ChatImport.Proofs.Text.Cut
/-!
# Within the limits of the destination

What goes to the destination is brought within its limits, and this file says
what holds of it then: of users (`User.within_withinLimits`), of the texts of posts
(`Post.charCount_withinLimits_le`), of channels (`Channel.within_withinLimits`) and of
the handles of channels (`Channel.fits_or_eq_lowerCase`). A handle is either made of the
characters of handles, two to sixty-four of them, or it is the identifier in lower case.

Whoever takes a channel that is within the limits and limits it once more expects
nothing to change. `Channel.withinLimits_lasting` says how far that is so. The order
of the steps decides: names are trimmed first and cut then, so that a cut may leave what
the next trim takes away (`Channel.withinLimits_unsettled_of_cut`), and an identifier
that stands in for a name is neither trimmed nor cut.
-/

namespace ChatImport

namespace Mattermost

/-! ## Cutting -/

namespace Limits

variable {limit : Nat} {warning s : String}

/-- Whatever the log says, the text is cut to the limit. -/
@[simp] theorem fst_chars : (chars limit warning s).1 = takeChars limit s := by
  unfold chars
  split
  · rfl
  · next hfits => exact (takeChars_of_le (Nat.le_of_not_lt hfits)).symm

@[simp] theorem fst_octets : (octets limit warning s).1 = takeOctets limit s := by
  unfold octets
  split
  · rfl
  · next hfits => exact (takeOctets_of_le (Nat.le_of_not_lt hfits)).symm

end Limits

/-! ## Names of one character -/

namespace Channel

variable {s : String}

theorem lengthenedIfShort_of_ne (h : charCount s ≠ 1) : lengthenedIfShort s = s := if_neg h

/-- No name of one character is left. -/
theorem charCount_lengthenedIfShort_ne : charCount (lengthenedIfShort s) ≠ 1 := by
  unfold lengthenedIfShort
  split
  · have hlead : charCount "slack-channel-" = 14 := by decide
    rw [Handle.lengthened, charCount_append, hlead]
    omega
  · next hlong => exact hlong

/-- A name that is lengthened stays far below the limit. -/
theorem charCount_lengthenedIfShort_le {limit : Nat} (hlimit : 15 ≤ limit)
    (h : charCount s ≤ limit) : charCount (lengthenedIfShort s) ≤ limit := by
  unfold lengthenedIfShort
  split
  · next hshort =>
    have hlead : charCount "slack-channel-" = 14 := by decide
    rw [Handle.lengthened, charCount_append, hlead]
    omega
  · exact h

/-- What is put in front of a short name begins with a letter. -/
theorem bareFront_lengthenedIfShort (h : BareFront Handle.isEdge s) :
    BareFront Handle.isEdge (lengthenedIfShort s) := by
  unfold lengthenedIfShort
  split
  · intro c hc
    have hfirst : (Handle.lengthened s).toList.head? = some 's' := by
      rw [Handle.lengthened, String.toList_append]
      rfl
    rw [hfirst, Option.mem_some_iff] at hc
    subst hc
    decide
  · exact h

theorem bareEnd_lengthenedIfShort (h : BareEnd Handle.isEdge s) :
    BareEnd Handle.isEdge (lengthenedIfShort s) := by
  unfold lengthenedIfShort
  split
  · next hshort =>
    refine h.append fun hnil => ?_
    rw [hnil] at hshort
    exact absurd hshort (by decide)
  · exact h

end Channel

/-! ## Handles -/

namespace Handle

variable {name : String} {c : Char}

/-- A handle as the destination wants it. -/
structure Fits (name : String) : Prop where
  /-- It is made of small letters, digits, underscores and hyphens. -/
  allowed : ∀ c ∈ name.toList,
    ('a' ≤ c ∧ c ≤ 'z') ∨ ('0' ≤ c ∧ c ≤ '9') ∨ c = '_' ∨ c = '-'
  long : 2 ≤ name.utf8ByteSize
  short : name.utf8ByteSize ≤ 64

theorem allows_iff :
    allows c = true ↔ ('a' ≤ c ∧ c ≤ 'z') ∨ ('0' ≤ c ∧ c ≤ '9') ∨ c = '_' ∨ c = '-' := by
  simp only [allows, Bool.or_eq_true, Bool.and_eq_true, decide_eq_true_eq, beq_iff_eq, or_assoc]

theorem allows_of_valid (h : valid name = true) : ∀ c ∈ name.toList, allows c = true :=
  List.all_eq_true.1 (Bool.and_eq_true_iff.1 h).1

/-- The characters of handles take one octet each. -/
theorem utf8Size_of_allows (h : allows c = true) : c.utf8Size = 1 := by
  have hsmall : c.val ≤ 127 := by
    rcases allows_iff.1 h with ⟨-, hz⟩ | ⟨-, hnine⟩ | rfl | rfl
    · exact UInt32.le_trans hz (by decide)
    · exact UInt32.le_trans hnine (by decide)
    · decide
    · decide
  exact if_pos hsmall

/-- And so a valid handle has as many octets as characters. -/
theorem utf8ByteSize_of_valid (h : valid name = true) : name.utf8ByteSize = charCount name := by
  have hlen : ∀ {cs : List Char}, (∀ c ∈ cs, allows c = true) →
      String.utf8Len cs = cs.length := by
    intro cs hcs
    induction cs with
    | nil => rfl
    | cons c rest ih =>
      have hrest := ih fun d hd => hcs d (List.mem_cons_of_mem _ hd)
      rw [String.utf8Len_cons, hrest, utf8Size_of_allows (hcs c List.mem_cons_self),
        List.length_cons]
  rw [← String.utf8Len_toList, hlen (allows_of_valid h)]
  rfl

/-- **A valid handle fits** if it is not a single character and not too long. -/
theorem fits_of_valid (h : valid name = true) (hne : charCount name ≠ 1)
    (hle : charCount name ≤ 64) : Fits name := by
  have hsize := utf8ByteSize_of_valid h
  have hpos : charCount name ≠ 0 := by
    intro hzero
    have hnil : name.toList = [] := List.length_eq_zero_iff.1 hzero
    rw [valid, hnil] at h
    cases h
  exact ⟨fun c hc => allows_iff.1 (allows_of_valid h c hc), by omega, by omega⟩

/-- A name within the limits, before an identifier can stand in for it. -/
def fitted (name : String) : String :=
  Channel.lengthenedIfShort (takeOctets Limits.handleOctets (trimmed name))

/-- A name that would stay as it is if it were limited: it neither begins nor ends with
an underscore or a hyphen, it is short enough, and it is not a single character. -/
structure Settled (name : String) : Prop where
  front : BareFront isEdge name
  last : BareEnd isEdge name
  short : name.utf8ByteSize ≤ 64
  plural : charCount name ≠ 1

theorem bareFront_fitted : BareFront isEdge (fitted name) :=
  Channel.bareFront_lengthenedIfShort bareFront_trimEdges.takeOctets

theorem utf8ByteSize_of_short (h : charCount name = 1) : name.utf8ByteSize ≤ 4 := by
  obtain ⟨c, hc⟩ := List.length_eq_one_iff.1 h
  have hle := c.utf8Size_le_four
  rw [← String.utf8Len_toList, hc, String.utf8Len_cons, String.utf8Len_nil]
  omega

theorem utf8ByteSize_fitted_le : (fitted name).utf8ByteSize ≤ 64 := by
  unfold fitted Channel.lengthenedIfShort
  split
  · next hshort =>
    have hlead : "slack-channel-".utf8ByteSize = 14 := rfl
    have hsize := utf8ByteSize_of_short hshort
    rw [lengthened, String.utf8ByteSize_append, hlead]
    omega
  · exact utf8ByteSize_takeOctets_le

/-- **A handle that is made of a name fits.** -/
theorem fits_of_fitted (h : valid (fitted name) = true) : Fits (fitted name) := by
  have hsize := utf8ByteSize_of_valid h
  have hle := @utf8ByteSize_fitted_le name
  have hne : charCount (fitted name) ≠ 1 := by
    rw [fitted]
    exact Channel.charCount_lengthenedIfShort_ne
  exact fits_of_valid h hne (by omega)

theorem Settled.fitted_eq (h : Settled name) : fitted name = name := by
  have htrim : trimmed name = name := trimEdges_eq_self.2 ⟨h.front, h.last⟩
  have hcut : takeOctets Limits.handleOctets name = name := takeOctets_of_le h.short
  rw [fitted, htrim, hcut, Channel.lengthenedIfShort_of_ne h.plural]

/-- A single character that may stand in front may stand at the end. -/
theorem bareEnd_of_short (hfront : BareFront isEdge name) (h : charCount name = 1) :
    BareEnd isEdge name := by
  obtain ⟨c, hc⟩ := List.length_eq_one_iff.1 h
  intro d hd
  rw [hc] at hd
  exact hfront d (by rw [hc]; exact hd)

/-- A name of which the cut leaves all there is was not trimmed either. -/
theorem trimmed_eq_of_takeOctets_eq {limit : Nat} (h : takeOctets limit (trimmed name) = name) :
    trimmed name = name := by
  have hbegins : name.toList <+: (trimmed name).toList := by
    have hpart := @takeOctets_isPrefix (trimmed name) limit
    rwa [h] at hpart
  have hle : (trimmed name).toList.length ≤ name.toList.length := by
    rw [trimmed, trimEdges, String.toList_ofList]
    exact length_trimList_le
  exact String.toList_inj.1 (hbegins.eq_of_length_le hle).symm

/-- **The settled names are those that stay as they are.** -/
theorem fitted_eq_self : fitted name = name ↔ Settled name := by
  refine ⟨fun h => ?_, Settled.fitted_eq⟩
  have hlast : BareEnd isEdge name := by
    have hlong := h
    unfold fitted Channel.lengthenedIfShort at hlong
    split at hlong
    · next hshort =>
      have hend := bareEnd_of_short bareFront_trimEdges.takeOctets hshort
      rw [← h]
      exact Channel.bareEnd_lengthenedIfShort hend
    · rw [← trimmed_eq_of_takeOctets_eq hlong]
      exact bareEnd_trimEdges
  refine ⟨?_, hlast, ?_, ?_⟩
  · rw [← h]
    exact bareFront_fitted
  · rw [← h]
    exact utf8ByteSize_fitted_le
  · rw [← h]
    exact Channel.charCount_lengthenedIfShort_ne

/-- **A name that is fitted is settled, unless it was cut behind an underscore or a
hyphen.** -/
theorem settled_fitted (h : BareEnd isEdge (takeOctets Limits.handleOctets (trimmed name))) :
    Settled (fitted name) :=
  ⟨bareFront_fitted, Channel.bareEnd_lengthenedIfShort h, utf8ByteSize_fitted_le,
    Channel.charCount_lengthenedIfShort_ne⟩

end Handle

/-! ## Channels -/

namespace Channel

variable {c : Channel}

/-- A shown name within the limits. -/
def shown (name : String) : String :=
  lengthenedIfShort (takeChars Limits.displayNameChars (Handle.trimmed name))

/-- What a channel has of texts is as short as the destination wants it. -/
structure Within (c : Channel) : Prop where
  displayName : charCount c.displayName ≤ 64
  /-- The shown name is not a single character. -/
  plural : charCount c.displayName ≠ 1
  purpose : charCount c.purpose ≤ 250
  header : charCount c.header ≤ 1024

theorem withinLimits_of_direct (h : c.kind = .direct) : c.withinLimits.1 = c := by
  rw [withinLimits, if_pos h]

/-- **What becomes of a channel** that is no direct conversation. -/
theorem withinLimits_of_ne (h : c.kind ≠ .direct) : c.withinLimits.1 = { c with
    name := if Handle.valid (Handle.fitted c.name) then Handle.fitted c.name else lowerCase c.id
    displayName := shown c.displayName
    purpose := takeChars Limits.purposeChars c.purpose
    header := takeChars Limits.headerChars c.header } := by
  rw [withinLimits, if_neg h]
  simp only [limitedName, limitedDisplayName, Limits.fst_chars, Limits.fst_octets]
  rfl

/-- Only name, shown name, purpose and header are limited. -/
theorem withinLimits_eq (c : Channel) : c.withinLimits.1 = { c with
    name := c.withinLimits.1.name
    displayName := c.withinLimits.1.displayName
    purpose := c.withinLimits.1.purpose
    header := c.withinLimits.1.header } := by
  by_cases h : c.kind = .direct
  · rw [withinLimits_of_direct h]
  · rw [withinLimits_of_ne h]

@[simp] theorem kind_withinLimits (c : Channel) : c.withinLimits.1.kind = c.kind := by
  rw [withinLimits_eq]

/-- No channel becomes a direct conversation. -/
theorem kind_withinLimits_ne (h : c.kind ≠ .direct) : c.withinLimits.1.kind ≠ .direct := by
  rw [kind_withinLimits]
  exact h

theorem name_withinLimits (h : c.kind ≠ .direct) : c.withinLimits.1.name =
    if Handle.valid (Handle.fitted c.name) then Handle.fitted c.name else lowerCase c.id := by
  rw [withinLimits_of_ne h]

theorem displayName_withinLimits (h : c.kind ≠ .direct) :
    c.withinLimits.1.displayName = shown c.displayName := by rw [withinLimits_of_ne h]

theorem purpose_withinLimits (h : c.kind ≠ .direct) :
    c.withinLimits.1.purpose = takeChars Limits.purposeChars c.purpose := by
  rw [withinLimits_of_ne h]

theorem header_withinLimits (h : c.kind ≠ .direct) :
    c.withinLimits.1.header = takeChars Limits.headerChars c.header := by
  rw [withinLimits_of_ne h]

theorem charCount_shown_le {name : String} : charCount (shown name) ≤ 64 := by
  rw [shown]
  exact charCount_lengthenedIfShort_le (by decide) charCount_takeChars_le

theorem charCount_shown_ne {name : String} : charCount (shown name) ≠ 1 := by
  rw [shown]
  exact charCount_lengthenedIfShort_ne

/-- **A channel that has been limited is within the limits.** -/
theorem within_withinLimits (h : c.kind ≠ .direct) : c.withinLimits.1.Within := by
  refine ⟨?_, ?_, ?_, ?_⟩
  · rw [displayName_withinLimits h]
    exact charCount_shown_le
  · rw [displayName_withinLimits h]
    exact charCount_shown_ne
  · rw [purpose_withinLimits h]
    exact charCount_takeChars_le
  · rw [header_withinLimits h]
    exact charCount_takeChars_le

/-- **The handle of a channel that has been limited** fits, or it is the identifier in
lower case. -/
theorem fits_or_eq_lowerCase (h : c.kind ≠ .direct) :
    Handle.Fits c.withinLimits.1.name ∨ c.withinLimits.1.name = lowerCase c.id := by
  rw [name_withinLimits h]
  by_cases hvalid : Handle.valid (Handle.fitted c.name) = true
  · rw [if_pos hvalid]
    exact Or.inl (Handle.fits_of_fitted hvalid)
  · rw [if_neg hvalid]
    exact Or.inr rfl

/-! ## Limited once more -/

theorem bareFront_shown {name : String} : BareFront Handle.isEdge (shown name) := by
  rw [shown]
  exact bareFront_lengthenedIfShort bareFront_trimEdges.takeChars

theorem bareEnd_shown {name : String}
    (h : BareEnd Handle.isEdge (takeChars 64 (Handle.trimmed name))) :
    BareEnd Handle.isEdge (shown name) := by
  rw [shown]
  exact bareEnd_lengthenedIfShort h

/-- A shown name that is bare at its end stays as it is. -/
theorem shown_shown {name : String} (h : BareEnd Handle.isEdge (shown name)) :
    shown (shown name) = shown name := by
  have htrim : Handle.trimmed (shown name) = shown name :=
    trimEdges_eq_self.2 ⟨bareFront_shown, h⟩
  have hcut : takeChars Limits.displayNameChars (shown name) = shown name :=
    takeChars_of_le charCount_shown_le
  rw [shown, htrim, hcut, lengthenedIfShort_of_ne charCount_shown_ne]

/-- What is left of a channel that has been limited when it is limited once more. -/
structure Lasting (c : Channel) : Prop where
  /-- At most name and shown name change. -/
  others : c.withinLimits.1.withinLimits.1 = { c.withinLimits.1 with
    name := c.withinLimits.1.withinLimits.1.name
    displayName := c.withinLimits.1.withinLimits.1.displayName }
  direct : c.kind = .direct → c.withinLimits.1.withinLimits.1 = c.withinLimits.1
  /-- The shown name begins with neither underscore nor hyphen. -/
  shownFront : c.kind ≠ .direct → BareFront Handle.isEdge c.withinLimits.1.displayName
  /-- If it was not cut behind one of them, it does not end with one either, and it stays. -/
  shownEnd : c.kind ≠ .direct →
    BareEnd Handle.isEdge (takeChars 64 (Handle.trimmed c.displayName)) →
    BareEnd Handle.isEdge c.withinLimits.1.displayName ∧
      c.withinLimits.1.withinLimits.1.displayName = c.withinLimits.1.displayName
  /-- The same goes for a handle that is taken from the name. -/
  nameFront : c.kind ≠ .direct → Handle.valid (Handle.fitted c.name) = true →
    BareFront Handle.isEdge c.withinLimits.1.name
  nameEnd : c.kind ≠ .direct → Handle.valid (Handle.fitted c.name) = true →
    BareEnd Handle.isEdge (takeOctets 64 (Handle.trimmed c.name)) →
    BareEnd Handle.isEdge c.withinLimits.1.name ∧
      c.withinLimits.1.withinLimits.1.name = c.withinLimits.1.name
  /-- Any other handle is the identifier in lower case. It stays if it is a settled name,
  and also if no handle can be made of it. -/
  standIn : c.kind ≠ .direct → Handle.valid (Handle.fitted c.name) = false →
    c.withinLimits.1.name = lowerCase c.id ∧
      (c.withinLimits.1.withinLimits.1.name = c.withinLimits.1.name ↔
        Handle.Settled (lowerCase c.id) ∨
          Handle.valid (Handle.fitted (lowerCase c.id)) = false)

/-- A direct conversation is left alone, and then it is left alone again. -/
theorem lasting_of_direct (h : c.kind = .direct) : c.Lasting := by
  have honce := withinLimits_of_direct h
  have htwice : c.withinLimits.1.withinLimits.1 = c.withinLimits.1 := by rw [honce, honce]
  exact ⟨by rw [htwice], fun _ => htwice, fun hne => absurd h hne, fun hne => absurd h hne,
    fun hne => absurd h hne, fun hne => absurd h hne, fun hne => absurd h hne⟩

/-- **How far a channel that has been limited stays as it is.** -/
theorem withinLimits_lasting (c : Channel) : c.Lasting := by
  by_cases hdirect : c.kind = .direct
  · exact lasting_of_direct hdirect
  have hkind := kind_withinLimits_ne hdirect
  have hid : c.withinLimits.1.id = c.id := by rw [withinLimits_eq]
  have hname := name_withinLimits hdirect
  have hshown := displayName_withinLimits hdirect
  have hwithin := within_withinLimits hdirect
  have hshown' := displayName_withinLimits hkind
  have hname' := name_withinLimits hkind
  refine ⟨?_, fun h => absurd h hdirect, fun _ => ?_, fun _ hend => ?_, fun _ hvalid => ?_,
    fun _ hvalid hend => ?_, fun _ hvalid => ?_⟩
  · -- purpose and header are short enough by now
    have hpurpose := (purpose_withinLimits hkind).trans (takeChars_of_le hwithin.purpose)
    have hheader := (header_withinLimits hkind).trans (takeChars_of_le hwithin.header)
    rw [withinLimits_eq c.withinLimits.1, hpurpose, hheader]
  · rw [hshown]
    exact bareFront_shown
  · have hbare := bareEnd_shown hend
    rw [hshown', hshown]
    exact ⟨hbare, shown_shown hbare⟩
  · rw [hname, if_pos hvalid]
    exact Handle.bareFront_fitted
  · have hsettled := Handle.settled_fitted hend
    rw [if_pos hvalid] at hname
    rw [hname', hname, hsettled.fitted_eq, if_pos hvalid]
    exact ⟨hsettled.last, rfl⟩
  · have hstands : c.withinLimits.1.name = lowerCase c.id := by
      rw [hname, hvalid]
      rfl
    rw [hname', hstands, hid, ← Handle.fitted_eq_self]
    refine ⟨rfl, ?_⟩
    cases hagain : Handle.valid (Handle.fitted (lowerCase c.id)) with
    | true => simp
    | false => simp

/-- **An identifier that stands in for a name need not last**: `_C1` stands in as `_c1`, and
limited once more the handle loses its underscore. -/
theorem withinLimits_unsettled_of_id :
    let c :=
      { blank with id := "_C1", name := "Design Team", displayName := "Design Team" }
    c.withinLimits.1.name = "_c1" ∧ c.withinLimits.1.withinLimits.1.name = "c1" ∧
      c.withinLimits.1.withinLimits.1 ≠ c.withinLimits.1 := by
  intro c
  exact ⟨by decide +kernel, by decide +kernel, by decide +kernel⟩

/-- **Nor need a name that the cut leaves with a hyphen at its end**: of sixty-three letters, a
hyphen and one letter more, the cut takes the last letter, and the next trim takes the hyphen. -/
theorem withinLimits_unsettled_of_cut :
    let letters := String.ofList (List.replicate 63 'a')
    let c := { blank with id := "C1", name := letters ++ "-b", displayName := letters ++ "-b" }
    c.withinLimits.1.name = letters ++ "-" ∧ c.withinLimits.1.withinLimits.1.name = letters ∧
      c.withinLimits.1.displayName = letters ++ "-" ∧
      c.withinLimits.1.withinLimits.1.displayName = letters := by
  intro letters c
  have hkind : c.kind ≠ .direct := by decide
  have hkind' := kind_withinLimits_ne hkind
  -- nothing is trimmed at first, and the cut brings the hyphen to the end
  have hwhole : Handle.trimmed (letters ++ "-b") = letters ++ "-b" := by decide +kernel
  have hoctets : takeOctets Limits.handleOctets (letters ++ "-b") = letters ++ "-" := by
    decide +kernel
  have hchars : takeChars Limits.displayNameChars (letters ++ "-b") = letters ++ "-" := by
    decide +kernel
  have hplural : charCount (letters ++ "-") ≠ 1 := by decide +kernel
  -- then the hyphen is trimmed, and what is left is short enough
  have hbare : Handle.trimmed (letters ++ "-") = letters := by decide +kernel
  have hshort : charCount letters = 63 := by rw [charCount_ofList, List.length_replicate]
  have hplural' : charCount letters ≠ 1 := by omega
  have hfits : takeOctets Limits.handleOctets letters = letters :=
    takeOctets_of_le (by decide +kernel)
  have hfits' : takeChars Limits.displayNameChars letters = letters :=
    takeChars_of_le (by rw [hshort]; decide)
  have hname : c.withinLimits.1.name = letters ++ "-" := by
    rw [name_withinLimits hkind, Handle.fitted, hwhole, hoctets, lengthenedIfShort_of_ne hplural,
      if_pos (by decide +kernel)]
  have hshown : c.withinLimits.1.displayName = letters ++ "-" := by
    rw [displayName_withinLimits hkind, shown, hwhole, hchars, lengthenedIfShort_of_ne hplural]
  refine ⟨hname, ?_, hshown, ?_⟩
  · rw [name_withinLimits hkind', hname, Handle.fitted, hbare, hfits,
      lengthenedIfShort_of_ne hplural', if_pos (by decide +kernel)]
  · rw [displayName_withinLimits hkind', hshown, shown, hbare, hfits',
      lengthenedIfShort_of_ne hplural']

end Channel

/-! ## Users -/

namespace User

variable {u : User}

/-- What a user has of texts is there and short enough. -/
structure Within (u : User) : Prop where
  email : u.email ≠ ""
  position : charCount u.position ≤ 128
  firstName : charCount u.firstName ≤ 64
  lastName : charCount u.lastName ≤ 64

/-- An address that is filled in is one. -/
theorem placeholderEmail_ne (username : String) : placeholderEmail username ≠ "" := by
  intro hnone
  have hsize := congrArg String.utf8ByteSize hnone
  have htail : "@example.com".utf8ByteSize = 12 := rfl
  rw [placeholderEmail, String.utf8ByteSize_append, htail, String.utf8ByteSize_empty] at hsize
  omega

theorem email_withinLimits (u : User) : u.withinLimits.1.email =
    if u.email = "" then placeholderEmail u.username else u.email := by
  change u.filledEmail.1 = _
  simp only [filledEmail, String.isEmpty_iff]
  split <;> rfl

theorem fst_filledEmail_ne : u.filledEmail.1 ≠ "" := by
  unfold filledEmail
  split
  · exact placeholderEmail_ne u.username
  · next hgiven => exact fun hnone => hgiven (String.isEmpty_iff.2 hnone)

/-- **A user who has been limited is within the limits.** -/
theorem within_withinLimits (u : User) : u.withinLimits.1.Within := by
  simp only [withinLimits, Limits.fst_chars]
  exact ⟨fst_filledEmail_ne, charCount_takeChars_le, charCount_takeChars_le,
    charCount_takeChars_le⟩

/-- Memberships have no limits. -/
theorem Within.withMemberships (h : u.Within) (names : List String) :
    { u with memberships := names }.Within := ⟨h.email, h.position, h.firstName, h.lastName⟩

end User

/-! ## Posts -/

/-- **The text of a post that has been limited is short enough.** -/
theorem Post.charCount_withinLimits_le (p : Post) : charCount p.withinLimits.message ≤ 16383 := by
  rw [withinLimits]
  exact charCount_takeChars_le

end Mattermost

end ChatImport
