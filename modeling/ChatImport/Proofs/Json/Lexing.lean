import ChatImport.Json.Token
/-!
# What the machine makes of a text

The machine takes a text apart character by character. What is said here is said
of a stretch of a text, with what comes after it in view: the signs, the words and
the texts in quotes are read alike whatever follows (`SpellsAlone`); a numeral ends
only where a sign follows that cannot belong to it, so it is read where nothing
follows, or a sign that ends a value (`Spells`).

A text in quotes is found again character by character, since each is written so
that the machine reads it back (`run_escaped`).
-/

namespace ChatImport

namespace Json

/-! ## What the machine makes of a text -/

open Lexer (run)

/-- The symbols of characters. -/
def symbols (cs : List Char) : List Symbol := cs.map .char

@[simp] theorem symbols_nil : symbols [] = [] := rfl

@[simp] theorem symbols_cons {c : Char} {cs : List Char} :
    symbols (c :: cs) = .char c :: symbols cs := rfl

@[simp] theorem symbols_append {a b : List Char} : symbols (a ++ b) = symbols a ++ symbols b :=
  List.map_append

/-- Here a value may end: nothing follows, or a sign that no value goes on
with. -/
def Ends (rest : List Symbol) : Prop :=
  rest = [] ∨ ∃ c ∈ [',', ']', '\x7d'], ∃ tail, rest = .char c :: tail

/-- The characters are read as the tokens, whatever ends them. -/
def Spells (cs : List Char) (toks : List Token) : Prop :=
  ∀ found rest, Ends rest →
    run .between found (symbols cs ++ rest) = run .between (toks.reverse ++ found) rest

/-- The characters are read as the tokens, whatever follows. -/
def SpellsAlone (cs : List Char) (toks : List Token) : Prop :=
  ∀ found rest, run .between found (symbols cs ++ rest) = run .between (toks.reverse ++ found) rest

theorem ends_nil : Ends [] := Or.inl rfl

theorem ends_cons {c : Char} (h : c ∈ [',', ']', '\x7d']) {tail : List Symbol} :
    Ends (.char c :: tail) := Or.inr ⟨c, h, tail, rfl⟩

section

variable {a b : List Char} {ta tb : List Token}

theorem SpellsAlone.spells (h : SpellsAlone a ta) : Spells a ta := fun found rest _ => h found rest

theorem SpellsAlone.append_alone (h : SpellsAlone a ta) (h' : SpellsAlone b tb) :
    SpellsAlone (a ++ b) (ta ++ tb) := by
  intro found rest
  rw [symbols_append, List.append_assoc, h, h', List.reverse_append, List.append_assoc]

/-- A value and the sign that closes what it stands in. -/
theorem Spells.append_alone (h : Spells a ta) (h' : SpellsAlone b tb)
    (hends : ∀ rest, Ends (symbols b ++ rest)) : SpellsAlone (a ++ b) (ta ++ tb) := by
  intro found rest
  rw [symbols_append, List.append_assoc, h _ _ (hends rest), h', List.reverse_append,
    List.append_assoc]

end

/-- A sign that is a token by itself. -/
theorem spellsAlone_sign {c : Char} {tok : Token} (h : Lexer.start c = (.between, [tok])) :
    SpellsAlone [c] [tok] := by
  intro found rest
  simp only [symbols_cons, symbols_nil, List.cons_append, List.nil_append, run, Lexer.step, h,
    List.reverse_cons, List.reverse_nil]

/-! ## Words -/

/-- A word that is a value by itself. -/
theorem spellsAlone_null : SpellsAlone ['n', 'u', 'l', 'l'] [.null] := fun _ _ => rfl

theorem spellsAlone_true : SpellsAlone ['t', 'r', 'u', 'e'] [.boolean true] := fun _ _ => rfl

theorem spellsAlone_false : SpellsAlone ['f', 'a', 'l', 's', 'e'] [.boolean false] :=
  fun _ _ => rfl

/-! ## Texts in quotes -/

/-- Between the quotes of a sound text, after some of its characters. -/
def Quotation.within (done : List Char) : Quotation := ⟨done, true, false, none, .plain⟩

/-- The digits to base sixteen are read as what they stand for. -/
theorem hexValue_hexDigit : ∀ n < 16, Quotation.hexValue (hexDigit n) = some n := by decide

theorem octets_hexDigit : ∀ n < 16, (Symbol.char (hexDigit n)).octets = 1 := by decide

/-- Between the digits of an escape by number. -/
def Quotation.amid (done : List Char) (octets number : Nat) : Quotation :=
  ⟨done, true, false, none, .code octets (some number)⟩

/-- One digit more of an escape by number. -/
theorem step_hexDigit {done : List Char} {octets number d : Nat} (hd : d < 16) :
    Lexer.step (.quotation (Quotation.amid done octets number)) (.char (hexDigit d)) =
      if octets + 1 < 4 then
        (.quotation (Quotation.amid done (octets + 1) (16 * number + d)), [])
      else (.quotation ((Quotation.amid done octets number).coded (16 * number + d)), []) := by
  simp only [Lexer.step, Lexer.inQuotation, Quotation.amid, hexValue_hexDigit d hd,
    octets_hexDigit d hd, Option.map_some]

/-- The character of a small number. -/
theorem coded_of_lt {done : List Char} {octets number code : Nat} (h : code < 32) :
    (Quotation.amid done octets number).coded code =
      Quotation.within (Char.ofNat code :: done) := by
  have hfirst : (0xD800 ≤ code && code ≤ 0xDBFF) = false := by
    simp only [Bool.and_eq_false_iff, decide_eq_false_iff_not]
    omega
  have hsecond : (0xDC00 ≤ code && code ≤ 0xDFFF) = false := by
    simp only [Bool.and_eq_false_iff, decide_eq_false_iff_not]
    omega
  simp only [Quotation.coded, Quotation.amid, hfirst, hsecond, Bool.false_eq_true, if_false,
    Quotation.push, Quotation.within]

/-- A backslash and a letter are read as the character that the letter stands for. -/
theorem run_shortEscape {letter c : Char} {done : List Char} {found : List Token}
    {rest : List Symbol} (hletter : letter ≠ 'u') (h : Quotation.shortEscape letter = some c) :
    run (.quotation (Quotation.within done)) found (symbols ['\\', letter] ++ rest) =
      run (.quotation (Quotation.within (c :: done))) found rest := by
  simp only [symbols_cons, symbols_nil, List.cons_append, List.nil_append, run, Lexer.step,
    Lexer.inQuotation, Quotation.within, if_true, if_neg hletter, h]
  rfl

/-- An escape by number begins with two zeros. -/
theorem run_zeros {high low : Char} {done : List Char} {found : List Token} {rest : List Symbol} :
    run (.quotation (Quotation.within done)) found
        (symbols ['\\', 'u', '0', '0', high, low] ++ rest) =
      run (.quotation (Quotation.amid done 2 0)) found (.char high :: .char low :: rest) := rfl

/-- **A character is read as it was written.** -/
theorem run_escaped (c : Char) (done : List Char) (found : List Token) (rest : List Symbol) :
    run (.quotation (Quotation.within done)) found (symbols (escaped c) ++ rest) =
      run (.quotation (Quotation.within (c :: done))) found rest := by
  unfold escaped
  split
  · next h =>
    rw [h]
    exact run_shortEscape (by decide) rfl
  split
  · next h =>
    rw [h]
    exact run_shortEscape (by decide) rfl
  split
  · next h =>
    rw [h]
    exact run_shortEscape (by decide) rfl
  split
  · next h =>
    rw [h]
    exact run_shortEscape (by decide) rfl
  split
  · next h =>
    rw [h]
    exact run_shortEscape (by decide) rfl
  split
  · next h =>
    rw [h]
    exact run_shortEscape (by decide) rfl
  split
  · next h =>
    rw [h]
    exact run_shortEscape (by decide) rfl
  split
  · next hlt =>
    have hhigh : c.toNat / 16 < 16 := by omega
    have hlow : c.toNat % 16 < 16 := Nat.mod_lt _ (by decide)
    have hnumber : 16 * (16 * 0 + c.toNat / 16) + c.toNat % 16 = c.toNat := by omega
    rw [run_zeros, run, step_hexDigit hhigh, if_pos (by decide), run, step_hexDigit hlow,
      if_neg (by decide), hnumber, coded_of_lt hlt, Char.ofNat_toNat]
    rfl
  · next hquote hback _ _ _ _ _ hge =>
    rw [symbols_cons, symbols_nil, List.cons_append, List.nil_append, run]
    simp only [Lexer.step, Lexer.inQuotation, Quotation.within, if_neg hback, if_neg hquote,
      if_neg hge]
    rfl

theorem run_quoted (cs done : List Char) (found : List Token) (rest : List Symbol) :
    run (.quotation (Quotation.within done)) found (symbols (cs.flatMap escaped) ++ rest) =
      run (.quotation (Quotation.within (cs.reverse ++ done))) found rest := by
  induction cs generalizing done with
  | nil => rfl
  | cons c cs ih =>
    rw [List.flatMap_cons, symbols_append, List.append_assoc, run_escaped, ih,
      List.reverse_cons, List.append_assoc]
    rfl

/-- **A text in quotes is read as the text.** -/
theorem spellsAlone_quote (s : String) :
    SpellsAlone (quote s).toList [.string (some s)] := by
  intro found rest
  have hchars : (quote s).toList = '"' :: (s.toList.flatMap escaped ++ ['"']) := by
    simp [quote, String.toList_append]
  have hcontent : (Quotation.within s.toList.reverse).content = some s := by
    simp [Quotation.within, Quotation.content, Quotation.settled]
  rw [hchars, symbols_cons, symbols_append, List.cons_append, List.append_assoc]
  change run (.quotation (Quotation.within [])) found _ = _
  rw [run_quoted, List.append_nil]
  simp only [symbols_cons, symbols_nil, List.cons_append, List.nil_append, run]
  change run .between ([Token.string (Quotation.within s.toList.reverse).content].reverse ++ found)
    rest = _
  rw [hcontent]

theorem spellsAlone_comma : SpellsAlone [','] [.comma] := spellsAlone_sign rfl

theorem spellsAlone_colon : SpellsAlone [':'] [.colon] := spellsAlone_sign rfl

end Json

end ChatImport
