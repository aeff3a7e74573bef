import ChatImport.Json.Numeral
import ChatImport.Text.Symbol
/-!
# The tokens of a JSON text

The text is taken apart by a machine that meets one symbol at a time. Where
the machine cannot go on it leaves a last token that says so, and the
tokens before it stand; an end of the text between two tokens leaves
nothing. So whoever reads the tokens meets every problem of the text in its
place.

Two readers share the tokens: one that wants the values, and one that only
passes over them. The second is content with a text between quotes whose
escapes or octets make no characters, and it words the end of the text
inside a numeral differently; a token keeps what both need.
-/

namespace ChatImport

namespace Json

/-- What a token that stops short means to each of the two readers. -/
structure Cut where
  /-- The fault for a reader that wants the value. -/
  read : Fault
  /-- The fault for a reader that passes over it. -/
  skipped : Fault
  deriving DecidableEq, Inhabited

/-- A cut that means the same to both readers. -/
def Cut.both (f : Fault) : Cut := ⟨f, f⟩

/-- A token of the text. -/
inductive Token where
  /-- The sign that opens an array. -/
  | openArray
  /-- The sign that closes an array. -/
  | closeArray
  /-- The sign that opens an object. -/
  | openObject
  /-- The sign that closes an object. -/
  | closeObject
  /-- The sign between items or members. -/
  | comma
  /-- The sign between the name of a member and its value. -/
  | colon
  /-- The value `null`. -/
  | null
  /-- A truth value. -/
  | boolean (b : Bool)
  /-- A number. -/
  | number (n : Numeral)
  /-- What stands between two quotes; nothing if it is no text. -/
  | string (content : Option String)
  /-- Here the tokens stop, inside quotes or outside. -/
  | broken (quoted : Bool) (cut : Cut)
  deriving DecidableEq, Inhabited

/-! ## Between quotes -/

/-- Where the machine is between two quotes. -/
inductive QuotePhase where
  /-- In the text. -/
  | plain
  /-- After a backslash. -/
  | escape
  /-- Among the digits of an escape: the octets passed, and the number so
  far unless one of them was no digit. -/
  | code (octets : Nat) (number : Option Nat)
  deriving DecidableEq

/-- What the machine knows between two quotes. -/
structure Quotation where
  /-- The characters so far, last first. -/
  done : List Char
  /-- Has no stray octet been met? -/
  sound : Bool
  /-- Has half of a pair stood alone? -/
  halved : Bool
  /-- The first half of a pair, if the second must follow. -/
  lead : Option Nat
  /-- Where the machine is. -/
  phase : QuotePhase
  deriving DecidableEq

namespace Quotation

/-- The state after the opening quote. -/
def opened : Quotation := ⟨[], true, false, none, .plain⟩

/-- A first half that waits for its second has waited in vain. -/
def settled (q : Quotation) : Quotation :=
  if q.lead.isSome then { q with halved := true, lead := none } else q

/-- One character more. -/
def push (q : Quotation) (c : Char) : Quotation :=
  { q with done := c :: q.done, lead := none, phase := .plain }

/-- The text between the quotes, if it is one. -/
def content (q : Quotation) : Option String :=
  if q.sound && !q.settled.halved then some (String.ofList q.done.reverse) else none

/-- What the end of the text means between quotes. -/
def unfinished (q : Quotation) : Cut := ⟨if q.halved then .malformed else .ended, .ended⟩

/-- The value of a digit to base sixteen. -/
def hexValue (c : Char) : Option Nat :=
  if '0' ≤ c ∧ c ≤ '9' then some (c.toNat - 48)
  else if 'a' ≤ c ∧ c ≤ 'f' then some (c.toNat - 87)
  else if 'A' ≤ c ∧ c ≤ 'F' then some (c.toNat - 55)
  else none

/-- The state after an escape by number. A number in the first range of
halves waits for one in the second range, and the two are one character. -/
def coded (q : Quotation) (code : Nat) : Quotation :=
  let first := 0xD800 ≤ code && code ≤ 0xDBFF
  let second := 0xDC00 ≤ code && code ≤ 0xDFFF
  match q.lead with
  | some lead =>
    if second then q.push (Char.ofNat (0x10000 + (lead - 0xD800) * 0x400 + (code - 0xDC00)))
    else { q with halved := true, lead := none, phase := .plain }
  | none =>
    if first then { q with lead := some code, phase := .plain }
    else if second then { q with halved := true, phase := .plain }
    else q.push (Char.ofNat code)

/-- The character that a letter after a backslash stands for. -/
def shortEscape (c : Char) : Option Char :=
  if c = '"' ∨ c = '\\' ∨ c = '/' then some c
  else if c = 'b' then some (Char.ofNat 8)
  else if c = 'f' then some (Char.ofNat 12)
  else if c = 'n' then some '\n'
  else if c = 'r' then some '\r'
  else if c = 't' then some '\t'
  else none

end Quotation

/-! ## Numerals and words -/

/-- Where the machine is inside a numeral. -/
inductive NumeralPhase where
  /-- After the minus sign. -/
  | sign
  /-- After a first digit zero. -/
  | zero
  /-- Among the digits before the point. -/
  | whole
  /-- After the point. -/
  | point
  /-- Among the digits after the point. -/
  | fraction
  /-- After the letter of the exponent. -/
  | mark
  /-- After the sign of the exponent. -/
  | markSign
  /-- Among the digits of the exponent. -/
  | exponent
  deriving DecidableEq

/-- May a numeral end here? -/
def NumeralPhase.complete : NumeralPhase → Bool
  | .zero | .whole | .fraction | .exponent => true
  | .sign | .point | .mark | .markSign => false

/-- A numeral with its digits in reading order, from one with its last digits
first. -/
def Numeral.reversed (n : Numeral) : Numeral :=
  { n with
    whole := n.whole.reverse
    fraction := n.fraction.map List.reverse
    exponent := n.exponent.map fun e => (e.1, e.2.reverse) }

/-- The value of a decimal digit. -/
def digit? (c : Char) : Option Nat := if '0' ≤ c ∧ c ≤ '9' then some (c.toNat - 48) else none

/-! ## The machine -/

/-- The state of the machine. -/
inductive Lexer where
  /-- Between two tokens. -/
  | between
  /-- Inside a word, of which these letters are due. -/
  | word (due : List Char) (token : Token)
  /-- Inside a numeral, its digits last first. -/
  | numeral (phase : NumeralPhase) (n : Numeral)
  /-- Between quotes. -/
  | quotation (q : Quotation)
  /-- The machine has stopped. -/
  | stopped
  deriving DecidableEq

namespace Lexer

/-- The machine stops outside quotes, for both readers alike. -/
def stop : Lexer × List Token := (.stopped, [.broken false (.both .malformed)])

/-- The machine stops between quotes, for both readers alike. -/
def stopQuoted : Lexer × List Token := (.stopped, [.broken true (.both .malformed)])

/-- A character met between two tokens. -/
def start (c : Char) : Lexer × List Token :=
  if c = ' ' ∨ c = '\n' ∨ c = '\t' ∨ c = '\r' then (.between, [])
  else if c = '[' then (.between, [.openArray])
  else if c = ']' then (.between, [.closeArray])
  else if c = '\x7b' then (.between, [.openObject])
  else if c = '\x7d' then (.between, [.closeObject])
  else if c = ',' then (.between, [.comma])
  else if c = ':' then (.between, [.colon])
  else if c = '"' then (.quotation .opened, [])
  else if c = 'n' then (.word ['u', 'l', 'l'] .null, [])
  else if c = 't' then (.word ['r', 'u', 'e'] (.boolean true), [])
  else if c = 'f' then (.word ['a', 'l', 's', 'e'] (.boolean false), [])
  else if c = '-' then (.numeral .sign ⟨true, [], none, none⟩, [])
  else if c = '0' then (.numeral .zero ⟨false, [0], none, none⟩, [])
  else
    match digit? c with
    | some d => (.numeral .whole ⟨false, [d], none, none⟩, [])
    | none => stop

/-- A character met inside a numeral. One that cannot continue it ends it,
where it may end, and is then met between two tokens. -/
def inNumeral (phase : NumeralPhase) (n : Numeral) (c : Char) : Lexer × List Token :=
  let done : Lexer × List Token :=
    if phase.complete then ((start c).1, .number n.reversed :: (start c).2) else stop
  let marked : Lexer × List Token := (.numeral .mark { n with exponent := some (false, []) }, [])
  match phase, digit? c with
  | .sign, some d =>
    (.numeral (if d = 0 then .zero else .whole) { n with whole := [d] }, [])
  | .zero, some _ => stop
  | .whole, some d => (.numeral .whole { n with whole := d :: n.whole }, [])
  | .point, some d => (.numeral .fraction { n with fraction := some [d] }, [])
  | .fraction, some d =>
    (.numeral .fraction { n with fraction := n.fraction.map (d :: ·) }, [])
  | .mark, some d | .markSign, some d | .exponent, some d =>
    (.numeral .exponent { n with exponent := n.exponent.map fun e => (e.1, d :: e.2) }, [])
  | .zero, none | .whole, none =>
    if c = '.' then (.numeral .point n, [])
    else if c = 'e' ∨ c = 'E' then marked
    else done
  | .fraction, none => if c = 'e' ∨ c = 'E' then marked else done
  | .mark, none =>
    if c = '+' then (.numeral .markSign n, [])
    else if c = '-' then (.numeral .markSign { n with exponent := some (true, []) }, [])
    else stop
  | .sign, none | .point, none | .markSign, none | .exponent, none => done

/-- A symbol met between quotes. -/
def inQuotation (q : Quotation) (s : Symbol) : Lexer × List Token :=
  match q.phase, s with
  | .plain, .char c =>
    if c = '\\' then (.quotation { q with phase := .escape }, [])
    else if c = '"' then (.between, [.string q.content])
    else if c.toNat < 32 then stopQuoted
    else (.quotation (q.settled.push c), [])
  | .plain, .stray _ => (.quotation { q.settled with sound := false }, [])
  | .escape, .char c =>
    if c = 'u' then (.quotation { q with phase := .code 0 (some 0) }, [])
    else
      match Quotation.shortEscape c with
      | some escaped => (.quotation (q.settled.push escaped), [])
      | none => stopQuoted
  | .escape, .stray _ => stopQuoted
  | .code octets number, s =>
    let number := match s, number with
      | .char c, some n => (Quotation.hexValue c).map (16 * n + ·)
      | _, _ => none
    if octets + s.octets < 4 then
      (.quotation { q with phase := .code (octets + s.octets) number }, [])
    else
      match number with
      | some code => (.quotation (q.coded code), [])
      | none => stopQuoted

/-- The machine meets a symbol: its next state, and the tokens that end. -/
def step : Lexer → Symbol → Lexer × List Token
  | .between, .char c => start c
  | .between, .stray _ => stop
  | .word [] _, _ => stop
  | .word (due :: more) token, s =>
    if s = .char due then
      if more.isEmpty then (.between, [token]) else (.word more token, [])
    else stop
  | .numeral phase n, .char c => inNumeral phase n c
  | .numeral phase n, .stray _ =>
    if phase.complete then (.stopped, .number n.reversed :: stop.2) else stop
  | .quotation q, s => inQuotation q s
  | .stopped, _ => (.stopped, [])

/-- The machine meets the end of the text. -/
def finish : Lexer → List Token
  | .between | .stopped => []
  | .word _ _ => [.broken false (.both .ended)]
  | .numeral phase n =>
    if phase.complete then [.number n.reversed] else [.broken false ⟨.ended, .malformed⟩]
  | .quotation q => [.broken true q.unfinished]

/-- Runs the machine over the symbols; `found` holds the tokens so far, last
first. -/
def run (state : Lexer) (found : List Token) : List Symbol → List Token
  | [] => found.reverse ++ state.finish
  | s :: rest => run (state.step s).1 ((state.step s).2.reverse ++ found) rest

end Lexer

/-- The tokens of a text. -/
def tokens (symbols : List Symbol) : List Token := Lexer.run .between [] symbols

end Json

end ChatImport
