/-!
# A text cut to a number of octets

A character takes one to four octets, so a text may not be cut at every place
between two octets. `takeOctets` goes back from the limit to the nearest place that
splits no character. Two things could go wrong on the way: there is no step back from
the front, and no part before a place in the middle of a character. Neither happens
(`isSome_takeOctets?`), so that there is always a part that is left.
-/

namespace ChatImport

/-- Between the octets before a place and those after it no character is split: one begins
there, or the text ends. -/
def IsBoundary (s : String) (place : Nat) : Prop := (⟨place⟩ : String.Pos.Raw).IsValid s

/-- It is told by one octet, that at the place: a character begins with it or does not. -/
instance {s : String} {place : Nat} : Decidable (IsBoundary s place) :=
  inferInstanceAs (Decidable ((⟨place⟩ : String.Pos.Raw).IsValid s))

/-- The nearest boundary from a place on backwards. From the front there is no step back. -/
def boundaryBack? (s : String) (place : Nat) : Option Nat :=
  if IsBoundary s place then some place
  else
    match place with
    | 0 => none
    | before + 1 => boundaryBack? s before

/-- The part of a text before a place, which must be a boundary. -/
def partBefore? (s : String) (place : Nat) : Option String :=
  if h : IsBoundary s place then some (s.sliceTo (s.pos ⟨place⟩ h)).copy else none

/-- A text of no more octets than the limit, or else its part before the nearest boundary from
the limit on backwards. -/
def takeOctets? (limit : Nat) (s : String) : Option String :=
  if s.utf8ByteSize ≤ limit then some s else (boundaryBack? s limit).bind (partBefore? s)

/-- The last boundary within a limit. -/
structure IsCutPlace (s : String) (limit place : Nat) : Prop where
  within : place ≤ limit
  boundary : IsBoundary s place
  last : ∀ other, place < other → other ≤ limit → ¬ IsBoundary s other

variable {s : String} {limit place : Nat}

/-- A limit that is a boundary is the last one itself. -/
theorem IsBoundary.isCutPlace (h : IsBoundary s limit) : IsCutPlace s limit limit where
  within := Nat.le_refl limit
  boundary := h
  last _ hlater hle := absurd hlater (Nat.not_lt.2 hle)

/-- From any other it takes a step back. -/
theorem IsCutPlace.step (h : IsCutPlace s limit place) (hsplit : ¬ IsBoundary s (limit + 1)) :
    IsCutPlace s (limit + 1) place where
  within := Nat.le_succ_of_le h.within
  boundary := h.boundary
  last other hlater hle := by
    rcases Nat.lt_or_eq_of_le hle with hlt | rfl
    · exact h.last other hlater (Nat.le_of_lt_succ hlt)
    · exact hsplit

/-- **The way back ends, and at the last boundary within the limit.** It does not get past the
front, which is a boundary of every text. -/
theorem exists_boundaryBack? (s : String) (limit : Nat) :
    ∃ place, boundaryBack? s limit = some place ∧ IsCutPlace s limit place := by
  induction limit with
  | zero =>
    have hfront : IsBoundary s 0 := String.Pos.Raw.isValid_zero
    exact ⟨0, by rw [boundaryBack?, if_pos hfront], hfront.isCutPlace⟩
  | succ limit ih =>
    by_cases h : IsBoundary s (limit + 1)
    · exact ⟨limit + 1, by rw [boundaryBack?, if_pos h], h.isCutPlace⟩
    · obtain ⟨place, hplace, hcut⟩ := ih
      exact ⟨place, by rw [boundaryBack?, if_neg h, hplace], hcut.step h⟩

/-- So nothing goes wrong with a cut. -/
theorem isSome_takeOctets? (limit : Nat) (s : String) : (takeOctets? limit s).isSome := by
  unfold takeOctets?
  split
  · rfl
  · obtain ⟨place, hplace, hcut⟩ := exists_boundaryBack? s limit
    rw [hplace, Option.bind_some, partBefore?, dif_pos hcut.boundary]
    rfl

/-- As much of a text from the front as fits into a number of octets without
splitting a character. -/
def takeOctets (limit : Nat) (s : String) : String :=
  (takeOctets? limit s).get (isSome_takeOctets? limit s)

end ChatImport
