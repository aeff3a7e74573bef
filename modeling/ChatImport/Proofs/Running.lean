import ChatImport.Error
/-!
# Steps one after the other

The steps of the library end with a value or with an error, and with a state
in either case. Two steps in a row go as the first of them ends: with a value
the second takes over where the first has come to (`bind_of_ok`), with an error
it never starts (`bind_of_error`).

`Running.Ends` says how a step ends from any state: with a value of a kind, or with an
error for a reason. Where two steps have the same reasons, and none where a value
is had, they end alike (`Running.Ends.alike`).

`Running.stateAfter` is the state that a step leads to, whichever way it ends. What holds of
the state before a step and after it is kept by the step (`Running.Keeps`), and so it is kept
by steps in a row. `Running.endsWith` tests a run on fixed input for what it leads to.
-/

namespace ChatImport

namespace Running

variable {ε σ α β : Type} {first : EStateM ε σ α} {next : α → EStateM ε σ β}
variable {s s' : σ} {a : α} {error : ε}

theorem bind_of_ok (h : first s = .ok a s') : (first >>= next) s = next a s' := by
  simp only [bind, EStateM.bind, h]

theorem bind_of_error (h : first s = .error error s') :
    (first >>= next) s = .error error s' := by
  simp only [bind, EStateM.bind, h]

/-- To ask for the state comes to nothing else. -/
theorem bind_get {next : σ → EStateM ε σ β} : (get >>= next) s = next s s := rfl

/-- Two steps without a state give a value if both do. -/
theorem bind_eq_ok {act : Except ε α} {next : α → Except ε β} {b : β} :
    (act >>= next) = .ok b ↔ ∃ a, act = .ok a ∧ next a = .ok b := by
  cases act with
  | error error => simp [bind, Except.bind]
  | ok a => simp [bind, Except.bind]

/-! ## How steps end -/

/-- The step ends with a value that has the property, or with an error for the reason. -/
def Ends (P : α → Prop) (reason : Prop) (act : EStateM ε σ α) : Prop :=
  ∀ s, match act s with
    | .ok a _ => P a
    | .error _ _ => reason

section

variable {P : α → Prop} {Q : β → Prop} {reason : Prop}

theorem ends_pure (h : P a) : Ends P reason (pure a : EStateM ε σ α) := fun _ => h

theorem ends_throw (h : reason) : Ends P reason (throw error : EStateM ε σ α) := fun _ => h

theorem Ends.bind (h : Ends P reason first) (hnext : ∀ a, P a → Ends Q reason (next a)) :
    Ends Q reason (first >>= next) := by
  intro s
  have hs := h s
  cases hfirst : first s with
  | ok a s' =>
    rw [hfirst] at hs
    rw [bind_of_ok hfirst]
    exact hnext a hs s'
  | error error s' =>
    rw [hfirst] at hs
    rw [bind_of_error hfirst]
    exact hs

theorem Ends.imp {P' : α → Prop} {reason' : Prop} (h : Ends P reason first)
    (hvalue : ∀ a, P a → P' a) (hreason : reason → reason') : Ends P' reason' first := by
  intro s
  have hs := h s
  cases hfirst : first s with
  | ok a s' =>
    rw [hfirst] at hs
    exact hvalue a hs
  | error error s' =>
    rw [hfirst] at hs
    exact hreason hs

/-- Two runs end alike: both with an error, or both with a value and the values related. -/
def Alike (related : α → β → Prop) : EStateM.Result ε σ α → EStateM.Result ε σ β → Prop
  | .ok a _, .ok b _ => related a b
  | .error _ _, .error _ _ => True
  | _, _ => False

/-- Two steps that fail for the same reason, and not where they give a value, end alike. -/
theorem Ends.alike {act : EStateM ε σ β} {related : α → β → Prop}
    (h : Ends P reason first) (h' : Ends Q reason act) (hrelated : ∀ a b, P a → Q b → related a b)
    (hleft : ∀ a, P a → ¬ reason) (hright : ∀ b, Q b → ¬ reason) (s s' : σ) :
    Alike related (first s) (act s') := by
  have hs := h s
  have hs' := h' s'
  cases hfirst : first s with
  | ok a _ =>
    rw [hfirst] at hs
    cases hact : act s' with
    | ok b _ =>
      rw [hact] at hs'
      exact hrelated a b hs hs'
    | error _ _ =>
      rw [hact] at hs'
      exact absurd hs' (hleft a hs)
  | error _ _ =>
    rw [hfirst] at hs
    cases hact : act s' with
    | ok b _ =>
      rw [hact] at hs'
      exact absurd hs (hright b hs')
    | error _ _ => trivial

end

/-! ## Where runs lead -/

/-- The state that a step leads to. -/
def stateAfter (act : EStateM ε σ α) (s : σ) : σ :=
  match act s with
  | .ok _ s' => s'
  | .error _ s' => s'

theorem stateAfter_of_ok (h : first s = .ok a s') : stateAfter first s = s' := by
  simp only [stateAfter, h]

/-- Whichever way the step ends, what holds of the state before holds of it afterwards. -/
def Keeps (I : σ → Prop) (act : EStateM ε σ α) : Prop := ∀ s, I s → I (stateAfter act s)

section

variable {I : σ → Prop}

theorem keeps_pure : Keeps I (pure a : EStateM ε σ α) := fun _ h => h

theorem keeps_throw : Keeps I (throw error : EStateM ε σ α) := fun _ h => h

theorem keeps_get : Keeps I (get : EStateM ε σ σ) := fun _ h => h

theorem keeps_modify {f : σ → σ} (hf : ∀ s, I s → I (f s)) :
    Keeps I (modify f : EStateM ε σ PUnit) := hf

/-- What is done with the state may depend on it. -/
theorem keeps_get_bind {next : σ → EStateM ε σ β} (h : ∀ s, I s → I (stateAfter (next s) s)) :
    Keeps I (get >>= next) := h

/-- **What two steps keep they keep in a row.** -/
theorem Keeps.bind (h : Keeps I first) (hnext : ∀ a, Keeps I (next a)) :
    Keeps I (first >>= next) := by
  intro s hs
  have hmid := h s hs
  unfold stateAfter at hmid ⊢
  cases hfirst : first s with
  | ok a s' =>
    rw [hfirst] at hmid
    rw [bind_of_ok hfirst]
    exact hnext a s' hmid
  | error error s' =>
    rw [hfirst] at hmid
    rw [bind_of_error hfirst]
    exact hmid

end

/-- Whether a run ends with a value, and with a state of which a test is true. -/
def endsWith (test : α → σ → Bool) : EStateM.Result ε σ α → Bool
  | .ok a s => test a s
  | .error _ _ => false

theorem exists_of_endsWith {test : α → σ → Bool} {result : EStateM.Result ε σ α}
    (h : endsWith test result = true) : ∃ a s, result = .ok a s ∧ test a s = true := by
  cases result with
  | ok a s => exact ⟨a, s, rfl, h⟩
  | error error s => cases h

end Running

end ChatImport
