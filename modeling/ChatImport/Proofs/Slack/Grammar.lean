import ChatImport.Proofs.Slack.Timestamp
import ChatImport.Proofs.Text.Cut
import Mathlib.Algebra.BigOperators.Group.Finset.Basic
/-!
# How times are written

The seconds of a time are a run of digits that may have a sign in front (`Signed`), and
they must be seconds of the calendar. Behind them there may be a point and a fraction, in
which the digit after so many others counts so many powers of ten less
(`fraction?_of_digits`). `times_of_texts` says which instant such a text stands for, and
that its two times, in microseconds and in milliseconds, never disagree.

Of a fraction, though, six characters are looked at and no more, and these as a number,
which may have a sign of its own. So a text may stand for a time whose fraction is no run of
digits: `parsed_iff` says which texts do.
-/

namespace ChatImport

namespace Slack

namespace Timestamp

variable {cs whole fraction : List Char} {n : Nat} {seconds : Int} {ts : String}

/-! ## Numbers -/

/-- Decimal digits and nothing else. -/
def AllDigits (cs : List Char) : Prop := ∀ c ∈ cs, c.isDigit = true

instance : Decidable (AllDigits cs) := List.decidableBAll _ cs

theorem allDigits_append {front back : List Char} :
    AllDigits (front ++ back) ↔ AllDigits front ∧ AllDigits back :=
  List.forall_mem_append

theorem allDigits_zeros : AllDigits (List.replicate n '0') := by
  intro c hmem
  rw [List.eq_of_mem_replicate hmem]
  rfl

theorem natural?_eq_some_iff : natural? cs = some n ↔
    cs ≠ [] ∧ AllDigits cs ∧ Nat.ofDigitChars 10 cs 0 = n := by
  rw [natural?, Option.ite_none_right_eq_some, Option.some_inj, Nat.ofDigitChars_eq_foldl,
    List.all_eq_true, and_assoc]
  rfl

theorem isSome_natural?_iff : (natural? cs).isSome = true ↔ cs ≠ [] ∧ AllDigits cs := by
  simp only [Option.isSome_iff_exists, natural?_eq_some_iff, exists_and_left, exists_eq',
    and_true]

/-- A run of digits that may have a sign in front, and the number that it makes. -/
inductive Signed : List Char → Int → Prop where
  | bare {digits : List Char} : digits ≠ [] → AllDigits digits →
    Signed digits (Nat.ofDigitChars 10 digits 0)
  | plus {digits : List Char} : digits ≠ [] → AllDigits digits →
    Signed ('+' :: digits) (Nat.ofDigitChars 10 digits 0)
  | minus {digits : List Char} : digits ≠ [] → AllDigits digits →
    Signed ('-' :: digits) (-(Nat.ofDigitChars 10 digits 0 : Nat))

/-- What begins with a digit has no sign. -/
theorem integer?_of_digits (hne : cs ≠ []) (hdigits : AllDigits cs) :
    integer? cs = (natural? cs).map fun n : Nat => (n : Int) := by
  unfold integer?
  split
  · exact absurd (hdigits '-' List.mem_cons_self) (by decide)
  · exact absurd (hdigits '+' List.mem_cons_self) (by decide)
  · rfl

/-- **The seconds are read as they are written.** -/
theorem integer?_eq_some_iff : integer? cs = some seconds ↔ Signed cs seconds := by
  constructor
  · intro h
    unfold integer? at h
    split at h
    all_goals
      obtain ⟨n, hn, rfl⟩ := Option.map_eq_some_iff.1 h
      obtain ⟨hne, hdigits, rfl⟩ := natural?_eq_some_iff.1 hn
    · exact .minus hne hdigits
    · exact .plus hne hdigits
    · exact .bare hne hdigits
  · intro h
    cases h with
    | bare hne hdigits =>
      rw [integer?_of_digits hne hdigits, natural?_eq_some_iff.2 ⟨hne, hdigits, rfl⟩]
      rfl
    | plus hne hdigits => rw [integer?, natural?_eq_some_iff.2 ⟨hne, hdigits, rfl⟩]; rfl
    | minus hne hdigits => rw [integer?, natural?_eq_some_iff.2 ⟨hne, hdigits, rfl⟩]; rfl

/-- No point is among the seconds. -/
theorem Signed.notMem (h : Signed whole seconds) : '.' ∉ whole := by
  have hnone : ∀ {digits : List Char}, AllDigits digits → '.' ∉ digits :=
    fun hdigits hmem => absurd (hdigits '.' hmem) (by decide)
  cases h with
  | bare _ hdigits => exact hnone hdigits
  | plus _ hdigits => exact List.not_mem_cons_of_ne_of_not_mem (by decide) (hnone hdigits)
  | minus _ hdigits => exact List.not_mem_cons_of_ne_of_not_mem (by decide) (hnone hdigits)

/-! ## Fractions -/

/-- The digit at a place, or zero behind the last one. -/
def digitAt (cs : List Char) (i : Nat) : Nat := (cs[i]?).elim 0 fun c => c.toNat - '0'.toNat

/-- The number of a run of digits, place by place. -/
theorem ofDigitChars_eq_sum (cs : List Char) : Nat.ofDigitChars 10 cs 0 =
    ∑ i ∈ Finset.range cs.length, digitAt cs i * 10 ^ (cs.length - 1 - i) := by
  induction cs with
  | nil => rfl
  | cons c rest ih =>
    rw [Nat.ofDigitChars_cons, Nat.ofDigitChars_eq_ofDigitChars_zero, ih, List.length_cons,
      Finset.sum_range_succ', Nat.add_comm]
    -- the first digit is the summand of the greatest power, the others have moved by one
    congr 1
    · refine Finset.sum_congr rfl fun i _ => ?_
      rw [Nat.add_sub_cancel, Nat.sub_sub, Nat.add_comm 1 i]
      rfl
    · rw [Nat.mul_zero, Nat.zero_add, Nat.mul_comm]
      rfl

/-- The first characters, filled up with zeros. -/
def padded (places : Nat) (cs : List Char) : List Char := (cs.take places).rightpad places '0'

theorem length_padded (places : Nat) : (padded places cs).length = places := by
  have hle : (cs.take places).length ≤ places := List.length_take_le _ _
  rw [padded, List.length_rightpad]
  omega

theorem padded_cons {places : Nat} {c : Char} {rest : List Char} :
    padded (places + 1) (c :: rest) = c :: padded places rest := by
  unfold padded List.rightpad
  rw [List.take_succ_cons, List.length_cons, Nat.add_sub_add_right]
  rfl

theorem allDigits_padded {places : Nat} :
    AllDigits (padded places cs) ↔ AllDigits (cs.take places) := by
  rw [padded, List.rightpad, allDigits_append, and_iff_left allDigits_zeros]

/-- Filling up with zeros changes no digit. -/
theorem digitAt_padded {places i : Nat} (h : i < places) :
    digitAt (padded places cs) i = digitAt cs i := by
  unfold digitAt padded List.rightpad
  rw [List.getElem?_append]
  split
  · rw [List.getElem?_take_of_lt h]
  · next hbehind =>
    rw [List.length_take] at hbehind
    have hzero : i - (cs.take places).length < places - (cs.take places).length := by
      rw [List.length_take]
      omega
    have hnone : cs[i]? = none := List.getElem?_eq_none (by omega)
    rw [List.getElem?_replicate, if_pos hzero, hnone]
    rfl

/-- The number of characters filled up with zeros: each digit counts ten times as much as the
one behind it, and those that are missing count nothing. -/
theorem ofDigitChars_padded (places : Nat) : Nat.ofDigitChars 10 (padded places cs) 0 =
    ∑ i ∈ Finset.range places, digitAt cs i * 10 ^ (places - 1 - i) := by
  rw [ofDigitChars_eq_sum, length_padded]
  exact Finset.sum_congr rfl fun i hi => by rw [digitAt_padded (Finset.mem_range.1 hi)]

/-- Of a fraction that is not empty six characters are read as a number. -/
theorem fraction?_cons {c : Char} {rest : List Char} : fraction? (c :: rest) =
    match c :: padded 5 rest with
    | '+' :: digits => natural? digits
    | digits => natural? digits := by
  rw [← padded_cons]
  rfl

theorem fraction?_of_ne {c : Char} {rest : List Char} (h : c ≠ '+') :
    fraction? (c :: rest) = natural? (padded 6 (c :: rest)) := by
  rw [fraction?_cons, padded_cons]
  split
  · next digits hfilled => exact absurd (List.cons.inj hfilled).1 h
  · rfl

/-- **Digits are read as a fraction place by place**, the first of them counting tenths of a
second. -/
theorem fraction?_of_digits (h : AllDigits (cs.take 6)) :
    fraction? cs = some (∑ i ∈ Finset.range 6, digitAt cs i * 10 ^ (5 - i)) := by
  cases cs with
  | nil => rfl
  | cons c rest =>
    -- digits have no sign in front, so all that is filled up is read as one number
    have hne : c ≠ '+' := by
      rintro rfl
      exact absurd (h '+' List.mem_cons_self) (by decide)
    have hsome : padded 6 (c :: rest) ≠ [] := by
      rw [padded_cons]
      exact List.cons_ne_nil _ _
    rw [fraction?_of_ne hne, natural?_eq_some_iff]
    exact ⟨hsome, allDigits_padded.2 h, ofDigitChars_padded 6⟩

/-- What passes as a fraction: digits in front, of which the first may be a plus sign. -/
inductive Passable : List Char → Prop where
  | digits {fraction : List Char} : AllDigits (fraction.take 6) → Passable fraction
  | sign {rest : List Char} : AllDigits (rest.take 5) → Passable ('+' :: rest)

theorem AllDigits.passable (h : AllDigits fraction) : Passable fraction :=
  .digits fun c hmem => h c (List.mem_of_mem_take hmem)

theorem isSome_fraction?_iff : (fraction? fraction).isSome = true ↔ Passable fraction := by
  constructor
  · intro h
    cases fraction with
    | nil => exact .digits fun _ hmem => nomatch hmem
    | cons c rest =>
      by_cases hsign : c = '+'
      · rw [hsign, fraction?_cons] at h
        rw [hsign]
        exact .sign (allDigits_padded.1 (isSome_natural?_iff.1 h).2)
      · rw [fraction?_of_ne hsign] at h
        exact .digits (allDigits_padded.1 (isSome_natural?_iff.1 h).2)
  · intro h
    cases h with
    | digits hdigits => rw [fraction?_of_digits hdigits]; rfl
    | @sign rest hdigits =>
      have hsome : padded 5 rest ≠ [] := List.ne_nil_of_length_pos (by rw [length_padded]; decide)
      rw [fraction?_cons]
      exact isSome_natural?_iff.2 ⟨hsome, allDigits_padded.2 hdigits⟩

/-! ## Texts -/

/-- The characters make a second of the calendar. -/
def Whole (cs : List Char) : Prop :=
  ∃ seconds, Signed cs seconds ∧ firstSecond ≤ seconds ∧ seconds ≤ lastSecond

/-- The characters are written as a time: a second of the calendar and, if a point follows,
a fraction that is admitted behind it. -/
inductive Written (admitted : List Char → Prop) : List Char → Prop where
  | whole {whole : List Char} : Whole whole → Written admitted whole
  | fraction {whole fraction : List Char} : Whole whole → admitted fraction →
    Written admitted (whole ++ '.' :: fraction)

/-- The seconds stand before the first point. -/
theorem written_iff {admitted : List Char → Prop} : Written admitted cs ↔
    Whole (splitAtFirst '.' cs).1 ∧ ∀ fraction ∈ (splitAtFirst '.' cs).2, admitted fraction := by
  constructor
  · intro h
    cases h with
    | whole hwhole =>
      obtain ⟨seconds, hsigned, -⟩ := id hwhole
      rw [splitAtFirst_of_notMem hsigned.notMem]
      exact ⟨hwhole, fun _ hmem => nomatch hmem⟩
    | fraction hwhole hadmitted =>
      obtain ⟨seconds, hsigned, -⟩ := id hwhole
      -- the seconds hold no point, so the first one is that before the fraction
      rw [splitAtFirst_append hsigned.notMem]
      exact ⟨hwhole, fun _ hmem => Option.some.inj hmem ▸ hadmitted⟩
  · rintro ⟨hwhole, hadmitted⟩
    by_cases hpoint : '.' ∈ cs
    · obtain ⟨front, back, rfl, hfront⟩ := List.eq_append_cons_of_mem hpoint
      rw [splitAtFirst_append hfront] at hwhole hadmitted
      exact .fraction hwhole (hadmitted back rfl)
    · rw [splitAtFirst_of_notMem hpoint] at hwhole
      exact .whole hwhole

/-- Where there is no point the fraction is empty, and that passes. -/
theorem passable_getD_iff {behind : Option (List Char)} :
    Passable (behind.getD []) ↔ ∀ fraction ∈ behind, Passable fraction := by
  cases behind with
  | none => exact ⟨fun _ _ hmem => (nomatch hmem), fun _ => .digits fun _ hmem => (nomatch hmem)⟩
  | some fraction => exact ⟨fun h _ hmem => Option.some.inj hmem ▸ h, fun h => h fraction rfl⟩

/-- A second of the calendar with a fraction behind it is an instant. -/
theorem exists_parse? {micros : Nat}
    (hseconds : integer? (splitAtFirst '.' ts.toList).1 = some seconds)
    (hmicros : fraction? ((splitAtFirst '.' ts.toList).2.getD []) = some micros)
    (hfirst : firstSecond ≤ seconds) (hlast : seconds ≤ lastSecond) :
    ∃ t, parse? ts = some t ∧ t.seconds = seconds ∧ t.nanoseconds = micros * 1000 := by
  have hlt := fraction?_lt hmicros
  have hparse : parse? ts = Instant.of? seconds (micros * 1000) := by
    simp only [parse?, hseconds, hmicros]
  exact ⟨_, hparse.trans (dif_pos ⟨⟨hfirst, hlast⟩, by omega⟩), rfl, rfl⟩

theorem isSome_parse?_iff : (parse? ts).isSome = true ↔ Written Passable ts.toList := by
  rw [written_iff, ← passable_getD_iff]
  constructor
  · intro h
    unfold parse? at h
    simp only [] at h
    split at h
    · cases h
    next seconds hseconds =>
    split at h
    · cases h
    next micros hmicros =>
    unfold Instant.of? at h
    split at h
    next hcalendar =>
      have hpasses : (fraction? ((splitAtFirst '.' ts.toList).2.getD [])).isSome = true := by
        rw [hmicros]
        rfl
      exact ⟨⟨seconds, integer?_eq_some_iff.1 hseconds, hcalendar.1⟩,
        isSome_fraction?_iff.1 hpasses⟩
    · cases h
  · rintro ⟨⟨seconds, hsigned, hfirst, hlast⟩, hpasses⟩
    obtain ⟨micros, hmicros⟩ := Option.isSome_iff_exists.1 (isSome_fraction?_iff.2 hpasses)
    obtain ⟨t, ht, -⟩ := exists_parse? (integer?_eq_some_iff.2 hsigned) hmicros hfirst hlast
    rw [ht]
    rfl

/-- **Which texts stand for a time**: a second of the calendar, written as digits that may have
a sign in front, and if a point follows a fraction of which the first six characters are
digits, but for a plus sign that may be the first. The texts whose fraction is a run of digits
are among these, and they are those of them in which nothing but digits is behind the point. -/
theorem parsed_iff (ts : String) :
    ((parse? ts).isSome = true ↔ Written Passable ts.toList) ∧
    (Written AllDigits ts.toList ↔ (parse? ts).isSome = true ∧
      ∀ fraction ∈ (splitAtFirst '.' ts.toList).2, AllDigits fraction) := by
  refine ⟨isSome_parse?_iff, ?_⟩
  rw [isSome_parse?_iff, written_iff, written_iff, and_assoc]
  refine and_congr_right fun _ => ⟨fun hdigits => ⟨fun fraction hmem => ?_, hdigits⟩, And.right⟩
  exact (hdigits fraction hmem).passable

/-- **Strays in a fraction**: a sign in front of it, or a letter behind six digits. Neither text
is written as a time, and both are read as one. -/
theorem parsed_of_stray :
    (micros? "12.+5" = some 12050000 ∧ ¬ Written AllDigits "12.+5".toList) ∧
    micros? "12.123456x" = some 12123456 ∧ ¬ Written AllDigits "12.123456x".toList := by
  refine ⟨⟨by decide +kernel, fun h => ?_⟩, by decide +kernel, fun h => ?_⟩
  · have hdigits := (written_iff.1 h).2 "+5".toList rfl
    exact absurd hdigits (by decide)
  · have hdigits := (written_iff.1 h).2 "123456x".toList rfl
    exact absurd hdigits (by decide)

/-! ## Times -/

/-- **The times of texts.** Whatever the text is, its time in milliseconds is the one in
microseconds divided by a thousand and rounded down, so that the two never order texts in
different ways. And a number of seconds of the calendar, from zero on, with a point and digits
behind it is the instant so many seconds after the epoch and as many microseconds as the
first six digits make, zeros standing for those that are missing. -/
theorem times_of_texts :
    (∀ ts, millis ts = (sortKey ts).fdiv 1000 ∧
      ∀ ts', sortKey ts ≤ sortKey ts' → millis ts ≤ millis ts') ∧
    ∀ (seconds : Nat) (fraction : String), (seconds : Int) ≤ lastSecond →
      AllDigits fraction.toList → ∃ t, parse? (Nat.repr seconds ++ "." ++ fraction) = some t ∧
        t.seconds = seconds ∧
        t.nanoseconds =
          (∑ i ∈ Finset.range 6, digitAt fraction.toList i * 10 ^ (5 - i)) * 1000 := by
  refine ⟨fun ts => ⟨?_, fun ts' hle => millis_le hle⟩, fun seconds fraction hlast hdigits => ?_⟩
  · rw [millis_eq, Int.fdiv_eq_ediv_of_nonneg _ (by decide)]
  have hsigned : Signed (Nat.toDigits 10 seconds) seconds := by
    have hall : AllDigits (Nat.toDigits 10 seconds) := fun c hmem =>
      Nat.isDigit_of_mem_toDigits (by decide) (by decide) hmem
    have hbare := Signed.bare Nat.toDigits_ne_nil hall
    rwa [Nat.ofDigitChars_ten_toDigits] at hbare
  have hsplit : splitAtFirst '.' (Nat.repr seconds ++ "." ++ fraction).toList =
      (Nat.toDigits 10 seconds, some fraction.toList) := by
    rw [String.toList_append, String.toList_append, Nat.toList_repr, List.append_assoc]
    exact splitAtFirst_append hsigned.notMem _
  have hfirst : firstSecond ≤ (seconds : Int) := Int.le_trans (by decide) (Int.natCast_nonneg _)
  refine exists_parse? ?_ ?_ hfirst hlast
  · rw [hsplit]
    exact integer?_eq_some_iff.2 hsigned
  · rw [hsplit]
    exact fraction?_of_digits fun c hmem => hdigits c (List.mem_of_mem_take hmem)

/-- A fraction of seven digits, and two times before the epoch in one second. -/
theorem times_of_texts_of_long_fraction :
    ((1700000000 : Nat) : Int) ≤ lastSecond ∧ AllDigits "1234567".toList ∧
    (∃ t, parse? (Nat.repr 1700000000 ++ "." ++ "1234567") = some t ∧ t.seconds = 1700000000 ∧
      t.nanoseconds = 123456000) ∧
    sortKey "-2.0009" ≤ sortKey "-2.001" ∧ millis "-2.0009" ≤ millis "-2.001" ∧
    millis "-2.0009" = (-1999100 : Int).fdiv 1000 := by
  obtain ⟨htimes, hinstants⟩ := times_of_texts
  obtain ⟨hmillis, horder⟩ := htimes "-2.0009"
  have hlast : ((1700000000 : Nat) : Int) ≤ lastSecond := by decide
  have hdigits : AllDigits "1234567".toList := by decide
  have hle : sortKey "-2.0009" ≤ sortKey "-2.001" := by decide +kernel
  have hkey : sortKey "-2.0009" = -1999100 := by decide +kernel
  obtain ⟨t, hparse, hseconds, hrest⟩ := hinstants 1700000000 "1234567" hlast hdigits
  refine ⟨hlast, hdigits, ⟨t, hparse, hseconds, hrest.trans (by decide)⟩, hle, horder _ hle, ?_⟩
  rw [hmillis, hkey]

end Timestamp

end Slack

end ChatImport
