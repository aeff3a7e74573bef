import ChatImport.Json.Value
import ChatImport.Proofs.Json.Lexing
/-!
# The numerals of numbers

A numeral that is sound is read back from its spelling (`spells_shown`): its digits
are digits, no zero stands before them, and there are some after the point and in
the exponent if there is one. Both kinds of numbers are written as sound numerals,
a whole number with digits alone (`spells_integer`), and a double with a point, an
exponent or both (`spells_double`).
-/

namespace ChatImport

namespace Json

open Lexer (run)

/-! ## Digits -/

/-- The decimal digits of a number, in reading order. -/
def decimals (n : Nat) : List Nat := (Nat.toDigits 10 n).map fun c => c.toNat - 48

theorem digitChar_of_isDigit {c : Char} (h : c.isDigit = true) :
    c.toNat - 48 < 10 ∧ Nat.digitChar (c.toNat - 48) = c := by
  have hbounds := Char.isDigit_iff_toNat.1 h
  have hzero : '0'.toNat = 48 := rfl
  have hnine : '9'.toNat = 57 := rfl
  have hlt : c.toNat - 48 < 10 := by omega
  refine ⟨hlt, ?_⟩
  have hchar : ∀ d < 10, Nat.digitChar d = Char.ofNat (48 + d) := by decide
  rw [hchar _ hlt, show 48 + (c.toNat - 48) = c.toNat by omega, Char.ofNat_toNat]

/-- The decimal text of a number shows its digits. -/
theorem toDigits_eq_decimals (n : Nat) : Nat.toDigits 10 n = (decimals n).map Nat.digitChar := by
  rw [decimals, List.map_map]
  refine (List.map_id _).symm.trans (List.map_congr_left fun c hc => ?_)
  have hdigit := Nat.isDigit_of_mem_toDigits (by decide) (by decide) hc
  exact (digitChar_of_isDigit hdigit).2.symm

theorem lt_of_mem_decimals {n d : Nat} (h : d ∈ decimals n) : d < 10 := by
  obtain ⟨c, hc, rfl⟩ := List.mem_map.1 h
  exact (digitChar_of_isDigit (Nat.isDigit_of_mem_toDigits (by decide) (by decide) hc)).1

theorem toNat_digitChar : ∀ d < 10, (Nat.digitChar d).toNat - 48 = d := by decide

theorem decimals_of_lt {n : Nat} (h : n < 10) : decimals n = [n] := by
  rw [decimals, Nat.toDigits_of_lt_base h, List.map_singleton, toNat_digitChar n h]

theorem decimals_of_le {n : Nat} (h : 10 ≤ n) : decimals n = decimals (n / 10) ++ [n % 10] := by
  rw [decimals, Nat.toDigits_of_base_le (by decide) h, List.map_append, List.map_singleton,
    toNat_digitChar _ (Nat.mod_lt n (by decide))]
  rfl

/-- The digits make the number. -/
theorem ofDigits_decimals (n : Nat) : ofDigits (decimals n) = n := by
  induction n using Nat.strongRecOn with
  | ind n ih =>
    by_cases h : n < 10
    · rw [decimals_of_lt h]
      simp [ofDigits]
    · rw [decimals_of_le (by omega), ofDigits, List.foldl_append]
      have hrest := ih (n / 10) (by omega)
      rw [ofDigits] at hrest
      rw [hrest, List.foldl_cons, List.foldl_nil]
      omega

/-- Only the number zero begins with the digit zero. -/
theorem eq_zero_of_decimals {n : Nat} {ds : List Nat} (h : decimals n = 0 :: ds) : n = 0 := by
  induction n using Nat.strongRecOn generalizing ds with
  | ind n ih =>
    by_cases hlt : n < 10
    · rw [decimals_of_lt hlt] at h
      exact (List.cons.inj h).1
    · rw [decimals_of_le (by omega)] at h
      cases hrest : decimals (n / 10) with
      | nil =>
        rw [decimals, List.map_eq_nil_iff] at hrest
        exact absurd hrest Nat.toDigits_ne_nil
      | cons d more =>
        rw [hrest, List.cons_append] at h
        obtain ⟨rfl, -⟩ := List.cons.inj h
        have := ih (n / 10) (by omega) hrest
        omega

/-! ## Sound numerals -/

/-- Digits that may stand somewhere in a numeral. -/
structure Digital (ds : List Nat) : Prop where
  ne_nil : ds ≠ []
  lt_ten : ∀ d ∈ ds, d < 10

namespace Numeral

/-- A numeral as the format has it. -/
structure Sound (n : Numeral) : Prop where
  whole : Digital n.whole
  /-- A zero comes first only if it is alone. -/
  zero : n.whole.head? = some 0 → n.whole = [0]
  fraction {ds : List Nat} : n.fraction = some ds → Digital ds
  exponent {down : Bool} {ds : List Nat} : n.exponent = some (down, ds) → Digital ds

/-- The spelling of a numeral; an exponent has its sign in any case. -/
def shown (n : Numeral) : List Char :=
  (if n.negative then ['-'] else []) ++ n.whole.map Nat.digitChar ++
    n.fraction.elim [] (fun ds => '.' :: ds.map Nat.digitChar) ++
    n.exponent.elim [] fun e =>
      'e' :: (if e.1 then '-' else '+') :: e.2.map Nat.digitChar

end Numeral

/-- Where the machine is after the first digit. -/
def firstPhase (d : Nat) : NumeralPhase := if d = 0 then .zero else .whole

theorem start_digitChar : ∀ d < 10,
    Lexer.start (Nat.digitChar d) = (.numeral (firstPhase d) ⟨false, [d], none, none⟩, []) := by
  decide

theorem inNumeral_sign : ∀ d < 10, Lexer.inNumeral .sign ⟨true, [], none, none⟩ (Nat.digitChar d) =
    (.numeral (firstPhase d) ⟨true, [d], none, none⟩, []) := by decide

theorem digit?_digitChar : ∀ d < 10, digit? (Nat.digitChar d) = some d := by decide

/-- Digits are gathered where the machine takes each of them. -/
theorem run_gather {phase : NumeralPhase} (put : List Nat → Numeral)
    (hput : ∀ done, ∀ d < 10, Lexer.inNumeral phase (put done) (Nat.digitChar d) =
      (.numeral phase (put (d :: done)), [])) {ds : List Nat} (hds : ∀ d ∈ ds, d < 10)
    (done : List Nat) (found : List Token) (rest : List Symbol) :
    run (.numeral phase (put done)) found (symbols (ds.map Nat.digitChar) ++ rest) =
      run (.numeral phase (put (ds.reverse ++ done))) found rest := by
  induction ds generalizing done with
  | nil => rfl
  | cons d ds ih =>
    rw [List.map_cons, symbols_cons, List.cons_append, run]
    simp only [Lexer.step, hput done d (hds d List.mem_cons_self)]
    refine (ih (fun other hmem => hds other (List.mem_cons_of_mem _ hmem)) (d :: done)).trans ?_
    rw [List.reverse_cons, List.append_assoc]
    rfl

/-- Where no exponent has begun, a numeral may go on with one. -/
def NumeralPhase.unmarked : NumeralPhase → Bool
  | .zero | .whole | .fraction => true
  | .sign | .point | .mark | .markSign | .exponent => false

theorem NumeralPhase.complete_of_unmarked {phase : NumeralPhase} (h : phase.unmarked = true) :
    phase.complete = true := by
  cases phase with
  | zero | whole | fraction => rfl
  | sign | point | mark | markSign | exponent => cases h

/-- A numeral ends where a value may end. -/
theorem run_ends {phase : NumeralPhase} (hphase : phase.complete = true) {n : Numeral}
    {rest : List Symbol} (hrest : Ends rest) (found : List Token) :
    run (.numeral phase n) found rest = run .between (.number n.reversed :: found) rest := by
  rcases hrest with rfl | ⟨c, hc, tail, rfl⟩
  · simp [run, Lexer.finish, hphase]
  · have hstep : Lexer.inNumeral phase n c =
        ((Lexer.start c).1, .number n.reversed :: (Lexer.start c).2) := by
      simp only [List.mem_cons, List.not_mem_nil, or_false] at hc
      cases phase with
      | zero | whole | fraction | exponent => rcases hc with rfl | rfl | rfl <;> rfl
      | sign | point | mark | markSign => cases hphase
    rw [run, run]
    simp only [Lexer.step, hstep, List.reverse_cons, List.append_assoc, List.cons_append,
      List.nil_append]

/-- The sign, if there is one, and the digits before the point. -/
theorem run_whole {negative : Bool} {ds : List Nat} (hds : Digital ds)
    (hzero : ds.head? = some 0 → ds = [0]) : ∃ phase, (phase = .zero ∨ phase = .whole) ∧
    ∀ (found : List Token) (rest : List Symbol),
      run .between found (symbols ((if negative then ['-'] else []) ++ ds.map Nat.digitChar) ++
        rest) = run (.numeral phase ⟨negative, ds.reverse, none, none⟩) found rest := by
  obtain ⟨hnil, hlt⟩ := hds
  cases ds with
  | nil => exact absurd rfl hnil
  | cons d ds =>
    have hd := hlt d List.mem_cons_self
    -- after the sign, if there is one, and the first digit
    have hfirst : ∀ (found : List Token) (rest : List Symbol),
        run .between found (symbols ((if negative then ['-'] else []) ++
          (d :: ds).map Nat.digitChar) ++ rest) =
        run (.numeral (firstPhase d) ⟨negative, [d], none, none⟩) found
          (symbols (ds.map Nat.digitChar) ++ rest) := by
      intro found rest
      cases negative with
      | true =>
        change run (.numeral .sign ⟨true, [], none, none⟩) found
          (.char (Nat.digitChar d) :: (symbols (ds.map Nat.digitChar) ++ rest)) = _
        rw [run]
        simp only [Lexer.step, inNumeral_sign d hd]
        rfl
      | false =>
        change run .between found
          (.char (Nat.digitChar d) :: (symbols (ds.map Nat.digitChar) ++ rest)) = _
        rw [run]
        simp only [Lexer.step, start_digitChar d hd]
        rfl
    by_cases hd0 : d = 0
    · -- after a zero no digit may follow, and none does
      subst hd0
      obtain ⟨-, rfl⟩ := List.cons.inj (hzero rfl)
      exact ⟨.zero, Or.inl rfl, hfirst⟩
    · refine ⟨.whole, Or.inr rfl, fun found rest => (hfirst found rest).trans ?_⟩
      rw [firstPhase, if_neg hd0, List.reverse_cons]
      refine run_gather (fun done => ⟨negative, done, none, none⟩) (fun done d hd => ?_)
        (fun other hmem => hlt other (List.mem_cons_of_mem _ hmem)) [d] found rest
      simp only [Lexer.inNumeral, digit?_digitChar d hd]

/-- The point and the digits after it. -/
theorem run_fraction {phase : NumeralPhase} (hphase : phase = .zero ∨ phase = .whole)
    {n : Numeral} {ds : List Nat} (hds : Digital ds) (found : List Token) (rest : List Symbol) :
    run (.numeral phase n) found (symbols ('.' :: ds.map Nat.digitChar) ++ rest) =
      run (.numeral .fraction { n with fraction := some ds.reverse }) found rest := by
  obtain ⟨hnil, hlt⟩ := hds
  cases ds with
  | nil => exact absurd rfl hnil
  | cons d ds =>
    have hpoint : Lexer.inNumeral phase n '.' = (.numeral .point n, []) := by
      rcases hphase with rfl | rfl <;> rfl
    have hdigit : Lexer.inNumeral .point n (Nat.digitChar d) =
        (.numeral .fraction { n with fraction := some [d] }, []) := by
      simp only [Lexer.inNumeral, digit?_digitChar d (hlt d List.mem_cons_self)]
    rw [List.map_cons, symbols_cons, symbols_cons, List.cons_append, List.cons_append, run, run]
    simp only [Lexer.step, hpoint, hdigit]
    rw [List.reverse_cons]
    refine run_gather (fun done => { n with fraction := some done }) (fun done d hd => ?_)
      (fun other hmem => hlt other (List.mem_cons_of_mem _ hmem)) [d] found rest
    simp only [Lexer.inNumeral, digit?_digitChar d hd, Option.map_some]

/-- The letter of the exponent, its sign and its digits. -/
theorem run_exponent {phase : NumeralPhase} (hphase : phase.unmarked = true) {n : Numeral}
    {down : Bool} {ds : List Nat} (hds : Digital ds) (found : List Token) (rest : List Symbol) :
    run (.numeral phase n) found
        (symbols ('e' :: (if down then '-' else '+') :: ds.map Nat.digitChar) ++ rest) =
      run (.numeral .exponent { n with exponent := some (down, ds.reverse) }) found rest := by
  obtain ⟨hnil, hlt⟩ := hds
  cases ds with
  | nil => exact absurd rfl hnil
  | cons d ds =>
    have hmark : Lexer.inNumeral phase n 'e' =
        (.numeral .mark { n with exponent := some (false, []) }, []) := by
      cases phase with
      | zero | whole | fraction => rfl
      | sign | point | mark | markSign | exponent => cases hphase
    have hsign : Lexer.inNumeral .mark { n with exponent := some (false, []) }
        (if down then '-' else '+') =
          (.numeral .markSign { n with exponent := some (down, []) }, []) := by
      cases down <;> rfl
    have hdigit : Lexer.inNumeral .markSign { n with exponent := some (down, []) }
        (Nat.digitChar d) = (.numeral .exponent { n with exponent := some (down, [d]) }, []) := by
      simp only [Lexer.inNumeral, digit?_digitChar d (hlt d List.mem_cons_self), Option.map_some]
    rw [List.map_cons]
    simp only [symbols_cons, List.cons_append, run, Lexer.step, hmark, hsign, hdigit]
    rw [List.reverse_cons]
    refine run_gather (fun done => { n with exponent := some (down, done) })
      (fun done d hd => ?_) (fun other hmem => hlt other (List.mem_cons_of_mem _ hmem)) [d] found
      rest
    simp only [Lexer.inNumeral, digit?_digitChar d hd, Option.map_some]

/-- **A sound numeral is read back from its spelling.** -/
theorem spells_shown {n : Numeral} (h : n.Sound) : Spells n.shown [.number n] := by
  intro found rest hrest
  obtain ⟨negative, whole, fraction, exponent⟩ := n
  obtain ⟨hwhole, hzero, hfraction, hexponent⟩ := h
  obtain ⟨phase, hphase, hrun⟩ := @run_whole negative whole hwhole hzero
  -- then the digits after the point, if there are any
  obtain ⟨phase', hunmarked, hrun'⟩ : ∃ phase', NumeralPhase.unmarked phase' = true ∧
      ∀ rest, run (.numeral phase ⟨negative, whole.reverse, none, none⟩) found
        (symbols (fraction.elim [] fun ds => '.' :: ds.map Nat.digitChar) ++ rest) =
      run (.numeral phase' ⟨negative, whole.reverse, fraction.map List.reverse, none⟩) found
        rest := by
    cases fraction with
    | none => exact ⟨phase, by rcases hphase with rfl | rfl <;> rfl, fun rest => rfl⟩
    | some ds => exact ⟨.fraction, rfl, fun rest => run_fraction hphase (hfraction rfl) found rest⟩
  have hreversed : (fraction.map List.reverse).map List.reverse = fraction := by
    cases fraction with
    | none => rfl
    | some ds => rw [Option.map_some, Option.map_some, List.reverse_reverse]
  rw [Numeral.shown, symbols_append, symbols_append, List.append_assoc, List.append_assoc, hrun,
    hrun']
  cases exponent with
  | none =>
    refine (run_ends (NumeralPhase.complete_of_unmarked hunmarked) hrest found).trans ?_
    simp only [Numeral.reversed, hreversed, List.reverse_reverse, Option.map_none]
    rfl
  | some e =>
    obtain ⟨down, ds⟩ := e
    refine (run_exponent hunmarked (hexponent rfl) found rest).trans ?_
    refine (run_ends rfl hrest found).trans ?_
    simp only [Numeral.reversed, hreversed, List.reverse_reverse, Option.map_some]
    rfl

/-! ## Whole numbers -/

theorem digital_decimals (n : Nat) : Digital (decimals n) where
  ne_nil h := by
    rw [decimals, List.map_eq_nil_iff] at h
    exact Nat.toDigits_ne_nil h
  lt_ten _ := lt_of_mem_decimals

theorem eq_zero_of_head? {n : Nat} (h : (decimals n).head? = some 0) : n = 0 := by
  obtain ⟨ds, hds⟩ := List.head?_eq_some_iff.1 h
  exact eq_zero_of_decimals hds

/-- The numeral of a whole number. -/
def numeral (n : Int) : Numeral := ⟨n < 0, decimals n.natAbs, none, none⟩

theorem sound_numeral (n : Int) : (numeral n).Sound where
  whole := digital_decimals _
  zero h := by
    rw [numeral, eq_zero_of_head? h]
    rfl
  fraction h := nomatch h
  exponent h := nomatch h

/-- **The text of a whole number is read as its numeral.** -/
theorem spells_integer (n : Int) : Spells (integerText n).toList [.number (numeral n)] := by
  have hshown : (integerText n).toList = (numeral n).shown := by
    unfold integerText Numeral.shown numeral
    by_cases hneg : n < 0
    · simp [hneg, toDigits_eq_decimals]
    · simp [hneg, toDigits_eq_decimals]
  rw [hshown]
  exact spells_shown (sound_numeral n)

/-! ## Doubles -/

/-- The numeral of a decimal. -/
def decimalNumeral (negative : Bool) (d : Double.Shortest) : Numeral :=
  let digits := decimals d.digits
  let first : Int := d.power + digits.length - 1
  if d.digits = 0 then ⟨negative, [0], some [0], none⟩
  else if plainRange.1 ≤ first ∧ first ≤ plainRange.2 then
    if 0 ≤ d.power then
      ⟨negative, digits ++ List.replicate d.power.natAbs 0, some [0], none⟩
    else if 0 ≤ first then
      ⟨negative, digits.take (first.natAbs + 1), some (digits.drop (first.natAbs + 1)), none⟩
    else ⟨negative, [0], some (List.replicate (first.natAbs - 1) 0 ++ digits), none⟩
  else
    ⟨negative, digits.take 1, if digits.length = 1 then none else some (digits.drop 1),
      some (first < 0, decimals first.natAbs)⟩

theorem digital_append {ds es : List Nat} (h : Digital ds) (hlt : ∀ e ∈ es, e < 10) :
    Digital (ds ++ es) where
  ne_nil := List.append_ne_nil_of_left_ne_nil h.ne_nil es
  lt_ten d hmem := by
    rcases List.mem_append.1 hmem with hmem | hmem
    · exact h.lt_ten d hmem
    · exact hlt d hmem

theorem digital_take {ds : List Nat} (h : Digital ds) {n : Nat} (hn : 0 < n) :
    Digital (ds.take n) where
  ne_nil := List.ne_nil_of_length_pos <| by
    have hlength := List.length_pos_iff.2 h.ne_nil
    rw [List.length_take]
    omega
  lt_ten d hmem := h.lt_ten d (List.mem_of_mem_take hmem)

theorem digital_drop {ds : List Nat} (h : Digital ds) {n : Nat} (hn : n < ds.length) :
    Digital (ds.drop n) where
  ne_nil := List.ne_nil_of_length_pos <| by
    rw [List.length_drop]
    omega
  lt_ten d hmem := h.lt_ten d (List.mem_of_mem_drop hmem)

theorem digital_zero : Digital [0] := ⟨List.cons_ne_nil _ _, by decide⟩

theorem sound_decimalNumeral (negative : Bool) (d : Double.Shortest) :
    (decimalNumeral negative d).Sound := by
  have hzeros : ∀ n, ∀ e ∈ List.replicate n 0, e < 10 := fun n e hmem => by
    rw [(List.mem_replicate.1 hmem).2]
    decide
  have hdigits := digital_decimals d.digits
  have hlength : 0 < (decimals d.digits).length := List.length_pos_iff.2 hdigits.ne_nil
  unfold decimalNumeral
  simp only []
  by_cases hzero : d.digits = 0
  · rw [if_pos hzero]
    exact ⟨digital_zero, fun _ => rfl, fun h => Option.some.inj h ▸ digital_zero, nofun⟩
  rw [if_neg hzero]
  -- the digits of another number do not begin with a zero, nor does what begins with them
  have hhead : ∀ {ds : List Nat}, ds.head? = (decimals d.digits).head? →
      ds.head? = some 0 → ds = [0] := fun heq h => absurd (eq_zero_of_head? (heq ▸ h)) hzero
  have htake : ∀ n, ((decimals d.digits).take (n + 1)).head? = (decimals d.digits).head? := by
    intro n
    cases decimals d.digits <;> rfl
  split
  · split
    · refine ⟨digital_append hdigits (hzeros _), hhead ?_,
        fun h => Option.some.inj h ▸ digital_zero, nofun⟩
      cases hcases : decimals d.digits with
      | nil => exact absurd hcases hdigits.ne_nil
      | cons first rest => rfl
    · split
      · next hpower hfirst =>
        refine ⟨digital_take hdigits (Nat.succ_pos _), hhead (htake _), fun h => ?_, nofun⟩
        rw [← Option.some.inj h]
        exact digital_drop hdigits (by omega)
      · refine ⟨digital_zero, fun _ => rfl, fun h => ?_, nofun⟩
        rw [← Option.some.inj h]
        refine ⟨List.append_ne_nil_of_right_ne_nil _ hdigits.ne_nil, fun e hmem => ?_⟩
        rcases List.mem_append.1 hmem with hmem | hmem
        · exact hzeros _ e hmem
        · exact hdigits.lt_ten e hmem
  · refine ⟨digital_take hdigits Nat.one_pos, hhead (htake 0), fun h => ?_, fun h => ?_⟩
    · split at h
      · cases h
      · rw [← Option.some.inj h]
        exact digital_drop hdigits (by omega)
    · rw [← (Prod.mk.inj (Option.some.inj h)).2]
      exact digital_decimals _

theorem toList_decimalText (negative : Bool) (d : Double.Shortest) :
    ((if negative then "-" else "") ++ decimalText d).toList =
      (decimalNumeral negative d).shown := by
  have hsign : (if negative then "-" else "").toList = if negative then ['-'] else [] := by
    cases negative <;> rfl
  have hlength : (Nat.repr d.digits).length = (decimals d.digits).length := by
    rw [← String.length_toList, Nat.toList_repr, toDigits_eq_decimals, List.length_map]
  obtain ⟨first, hfirst⟩ : ∃ first : Int, d.power + (decimals d.digits).length - 1 = first :=
    ⟨_, rfl⟩
  rw [String.toList_append, hsign]
  unfold decimalText decimalNumeral Numeral.shown
  simp only [hlength, hfirst]
  by_cases hzero : d.digits = 0
  · simp only [if_pos hzero, List.append_assoc]
    rfl
  by_cases hplain : plainRange.1 ≤ first ∧ first ≤ plainRange.2
  · by_cases hpower : 0 ≤ d.power
    · simp [hzero, hplain, hpower, toDigits_eq_decimals]
      rfl
    · by_cases hnat : 0 ≤ first
      · simp [hzero, hplain, hpower, hnat, toDigits_eq_decimals]
      · simp [hzero, hplain, hpower, hnat, toDigits_eq_decimals]
  · by_cases hone : (decimals d.digits).length = 1
    · by_cases hneg : first < 0
      · simp [hzero, hplain, hone, hneg, toDigits_eq_decimals]
      · simp [hzero, hplain, hone, hneg, toDigits_eq_decimals]
    · by_cases hneg : first < 0
      · simp [hzero, hplain, hone, hneg, toDigits_eq_decimals]
      · simp [hzero, hplain, hone, hneg, toDigits_eq_decimals]

/-- The numeral of a double. -/
def doubleNumeral (x : Double) : Numeral := decimalNumeral x.negative x.shortest

/-- **The text of a double is read as its numeral.** -/
theorem spells_double (x : Double) : Spells (doubleText x).toList [.number (doubleNumeral x)] := by
  rw [doubleText, toList_decimalText]
  exact spells_shown (sound_decimalNumeral _ _)

end Json

end ChatImport
