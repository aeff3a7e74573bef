import ChatImport.Text.Octets
/-!
# What a cut to a number of octets leaves

A text of too many octets is cut at the last boundary within the limit
(`IsCutPlace`). The boundaries of a text are the ends of its parts of whole
characters (`isBoundary_iff`), so what stands before the cut is the longest of those
that fit (`LongestFront`), and there is only one such part. The character behind it
did not fit, and no character has more than four octets: at most three octets are
given away (`LongestFront.limit_le`).
-/

namespace ChatImport

variable {s t u : String} {limit place : Nat}

/-! ## Boundaries -/

/-- **The boundaries of a text are the ends of its parts of whole characters.** -/
theorem isBoundary_iff : IsBoundary s place ↔
    ∃ front : String, front.toList <+: s.toList ∧ front.utf8ByteSize = place := by
  rw [IsBoundary, String.Pos.Raw.isValid_iff_exists_append]
  constructor
  · rintro ⟨front, rest, rfl, hplace⟩
    refine ⟨front, ?_, (congrArg String.Pos.Raw.byteIdx hplace).symm⟩
    rw [String.toList_append]
    exact List.prefix_append _ _
  · rintro ⟨front, ⟨rest, hrest⟩, rfl⟩
    refine ⟨front, String.ofList rest, ?_, rfl⟩
    rw [← String.toList_inj, String.toList_append, String.toList_ofList, hrest]

/-- What is found before a boundary is the part that ends there. -/
theorem exists_partBefore? (h : IsBoundary s place) :
    ∃ t, partBefore? s place = some t ∧ t.toList <+: s.toList ∧ t.utf8ByteSize = place := by
  have hsplits := (s.pos ⟨place⟩ h).splits
  refine ⟨_, dif_pos h, ?_, ?_⟩
  · have happend := congrArg String.toList hsplits.eq_append
    rw [String.toList_append] at happend
    exact ⟨_, happend.symm⟩
  · exact (congrArg String.Pos.Raw.byteIdx hsplits.offset_eq_rawEndPos).symm

/-- Of two parts from the front of a text, the one of fewer octets is a part of the other. -/
theorem isPrefix_of_utf8ByteSize_le (ht : t.toList <+: s.toList) (hu : u.toList <+: s.toList)
    (hle : t.utf8ByteSize ≤ u.utf8ByteSize) : t.toList <+: u.toList := by
  rcases List.prefix_or_prefix_of_prefix ht hu with htu | ⟨rest, hrest⟩
  · exact htu
  · -- `t` is `u` with something behind it, for which there are no octets left
    obtain rfl : u ++ String.ofList rest = t := by
      rw [← String.toList_inj, String.toList_append, String.toList_ofList, hrest]
    rw [String.utf8ByteSize_append] at hle
    have hnil : String.ofList rest = "" := String.utf8ByteSize_eq_zero_iff.1 (by omega)
    exact ⟨[], by rw [hnil, String.append_empty, List.append_nil]⟩

/-! ## The longest part that fits -/

/-- The longest part of whole characters from the front of a text that fits into a number of
octets: any other that fits is a part of it in turn. -/
structure LongestFront (limit : Nat) (s t : String) : Prop where
  isPrefix : t.toList <+: s.toList
  fits : t.utf8ByteSize ≤ limit
  longest : ∀ u : String, u.toList <+: s.toList → u.utf8ByteSize ≤ limit → u.toList <+: t.toList

/-- There is only one. -/
theorem LongestFront.unique (ht : LongestFront limit s t) (hu : LongestFront limit s u) : t = u := by
  have htu := hu.longest t ht.isPrefix ht.fits
  have hut := ht.longest u hu.isPrefix hu.fits
  exact String.toList_inj.1 (htu.eq_of_length_le hut.length_le)

/-- A text that fits is its own longest part. -/
theorem longestFront_self (h : s.utf8ByteSize ≤ limit) : LongestFront limit s s where
  isPrefix := List.prefix_rfl
  fits := h
  longest _ hu _ := hu

/-- **The part that ends at the place of the cut is the longest that fits.** A longer one would
end at a later boundary. -/
theorem IsCutPlace.longestFront (h : IsCutPlace s limit place) (ht : t.toList <+: s.toList)
    (hsize : t.utf8ByteSize = place) : LongestFront limit s t where
  isPrefix := ht
  fits := hsize ▸ h.within
  longest u hu hfits := by
    refine isPrefix_of_utf8ByteSize_le hu ht (Nat.le_of_not_lt fun hlonger => ?_)
    have hend : IsBoundary s u.utf8ByteSize := isBoundary_iff.2 ⟨u, hu, rfl⟩
    exact h.last u.utf8ByteSize (hsize ▸ hlonger) hfits hend

/-- **At most three octets are given away.** With four left the next character would have fitted. -/
theorem LongestFront.limit_le (h : LongestFront limit s t) (hlong : limit < s.utf8ByteSize) :
    limit ≤ t.utf8ByteSize + 3 := by
  obtain ⟨rest, hrest⟩ := h.isPrefix
  cases rest with
  | nil =>
    have hall : t = s := String.toList_inj.1 (by rw [← hrest, List.append_nil])
    exact absurd (hall ▸ h.fits) (Nat.not_le.2 hlong)
  | cons c others =>
    have hnext : (t.push c).toList <+: s.toList := by
      rw [String.toList_push]
      exact ⟨others, (List.append_cons ..).symm.trans hrest⟩
    have hover : limit < (t.push c).utf8ByteSize := by
      refine Nat.lt_of_not_le fun hfits => ?_
      have hlen := (h.longest _ hnext hfits).length_le
      rw [String.toList_push, List.length_append] at hlen
      exact Nat.not_succ_le_self _ hlen
    have hfour := c.utf8Size_le_four
    rw [String.utf8ByteSize_push] at hover
    omega

/-! ## The cut -/

theorem takeOctets?_eq_some (limit : Nat) (s : String) :
    takeOctets? limit s = some (takeOctets limit s) := (Option.some_get _).symm

/-- A text of few enough octets is left alone. -/
theorem takeOctets_of_le (h : s.utf8ByteSize ≤ limit) : takeOctets limit s = s := by
  have hcut := takeOctets?_eq_some limit s
  rw [takeOctets?, if_pos h] at hcut
  exact (Option.some.inj hcut).symm

/-- Of any other the longest part that fits is left, as it stands before the boundary to which
the way back from the limit leads. -/
theorem takeOctets_of_lt (h : limit < s.utf8ByteSize) :
    boundaryBack? s limit = some (takeOctets limit s).utf8ByteSize ∧
      partBefore? s (takeOctets limit s).utf8ByteSize = some (takeOctets limit s) ∧
      LongestFront limit s (takeOctets limit s) := by
  obtain ⟨place, hplace, hcut⟩ := exists_boundaryBack? s limit
  obtain ⟨t, ht, hprefix, rfl⟩ := exists_partBefore? hcut.boundary
  have hleft : takeOctets limit s = t := by
    apply Option.some.inj
    rw [← takeOctets?_eq_some, takeOctets?, if_neg (Nat.not_le.2 h), hplace, Option.bind_some, ht]
  rw [hleft]
  exact ⟨hplace, ht, hcut.longestFront hprefix rfl⟩

/-- **A cut leaves the longest part that fits.** -/
theorem longestFront_takeOctets (limit : Nat) (s : String) :
    LongestFront limit s (takeOctets limit s) := by
  rcases Nat.lt_or_ge limit s.utf8ByteSize with hlong | hfits
  · exact (takeOctets_of_lt hlong).2.2
  · rw [takeOctets_of_le hfits]
    exact longestFront_self hfits

theorem takeOctets_isPrefix : (takeOctets limit s).toList <+: s.toList :=
  (longestFront_takeOctets limit s).isPrefix

/-- A cut leaves a text of few enough octets. -/
theorem utf8ByteSize_takeOctets_le : (takeOctets limit s).utf8ByteSize ≤ limit :=
  (longestFront_takeOctets limit s).fits

/-- And only a text of few enough octets is left alone. -/
theorem takeOctets_eq_self : takeOctets limit s = s ↔ s.utf8ByteSize ≤ limit := by
  refine ⟨fun h => ?_, takeOctets_of_le⟩
  rw [← h]
  exact utf8ByteSize_takeOctets_le

/-- **A cut to a number of octets, for every text and every limit.** It always leaves a text, and
that is the one longest part of whole characters that fits: the text itself if that fits, and
otherwise the part before a boundary to which at most three steps lead back from the limit. -/
theorem takeOctets_longest (limit : Nat) (s : String) :
    takeOctets? limit s = some (takeOctets limit s) ∧
      (∀ t, LongestFront limit s t ↔ t = takeOctets limit s) ∧
      (takeOctets limit s = s ↔ s.utf8ByteSize ≤ limit) ∧
      (limit < s.utf8ByteSize →
        boundaryBack? s limit = some (takeOctets limit s).utf8ByteSize ∧
        partBefore? s (takeOctets limit s).utf8ByteSize = some (takeOctets limit s) ∧
        limit ≤ (takeOctets limit s).utf8ByteSize + 3) := by
  have hlongest := longestFront_takeOctets limit s
  refine ⟨takeOctets?_eq_some limit s, fun t => ⟨fun ht => ht.unique hlongest, ?_⟩,
    takeOctets_eq_self, fun hlong => ?_⟩
  · rintro rfl
    exact hlongest
  · obtain ⟨hback, hpart, -⟩ := takeOctets_of_lt hlong
    exact ⟨hback, hpart, hlongest.limit_le hlong⟩

/-- The boundary may be one octet back from the limit, or three, at the front itself. -/
example : takeOctets 3 "ééé" = "é" ∧ takeOctets 3 "😀é" = "" := by decide

end ChatImport
