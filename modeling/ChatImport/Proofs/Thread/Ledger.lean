import ChatImport.Thread.Ledger
/-!
# Claims on the ledger

`Ledger.free` is the first time from the requested one on that has not been
given out: no earlier (`le_free`), not given out (`free_notMem`), and with
nothing free before it (`mem_used_of_lt_free`). From these three the order of
claims in a row follows. Requests that never go back are given times that
always go forward (`pairwise_times`), because the times given out from the
last request on leave no gap (`Tight`).
-/

namespace ChatImport

namespace Ledger

variable {ledger : Ledger} {time request x : Int}

/-! ## One claim -/

/-- What the first free time is, on any ascending list. -/
theorem firstFree_spec {used : List Int} (h : used.Pairwise (· < ·)) :
    time ≤ firstFree time used ∧ firstFree time used ∉ used ∧
      ∀ x, time ≤ x → x < firstFree time used → x ∈ used := by
  induction used generalizing time with
  | nil => exact ⟨Int.le_refl _, by simp, fun x h1 h2 => by simp only [firstFree] at h2; omega⟩
  | cons u rest ih =>
    obtain ⟨hhead, htail⟩ := List.pairwise_cons.1 h
    simp only [firstFree]
    -- the first entry lies before the time, is that very time, or leaves it free
    split
    · next hlt =>
      obtain ⟨hle, hfree, hmin⟩ := @ih time htail
      refine ⟨hle, ?_, fun x h1 h2 => List.mem_cons_of_mem _ (hmin x h1 h2)⟩
      rw [List.mem_cons, not_or]
      exact ⟨by omega, hfree⟩
    · split
      · next heq =>
        obtain ⟨hle, hfree, hmin⟩ := @ih (time + 1) htail
        refine ⟨by omega, ?_, fun x h1 h2 => ?_⟩
        · rw [List.mem_cons, not_or]
          exact ⟨by omega, hfree⟩
        · rcases Int.lt_or_le time x with hlt | hge
          · exact List.mem_cons_of_mem _ (hmin x (by omega) h2)
          · exact List.mem_cons.2 (Or.inl (by omega))
      · refine ⟨Int.le_refl _, fun hmem => ?_, fun x h1 h2 => by omega⟩
        rcases List.mem_cons.1 hmem with h1 | h1
        · omega
        · have := hhead time h1
          omega

theorem le_free : time ≤ ledger.free time := (firstFree_spec ledger.ascending).1

theorem free_notMem : ledger.free time ∉ ledger.used := (firstFree_spec ledger.ascending).2.1

theorem mem_used_of_lt_free (h1 : time ≤ x) (h2 : x < ledger.free time) : x ∈ ledger.used :=
  (firstFree_spec ledger.ascending).2.2 x h1 h2

@[simp] theorem used_empty : empty.used = [] := rfl

theorem mem_used_claim : x ∈ (ledger.claim time).used ↔ x = ledger.free time ∨ x ∈ ledger.used :=
  mem_place

/-! ## Claims in a row -/

/-- The ledger after claims in a row. -/
def claimAll (ledger : Ledger) (requests : List Int) : Ledger := requests.foldl claim ledger

/-- The times that claims in a row are given. -/
def times (ledger : Ledger) : List Int → List Int
  | [] => []
  | request :: rest => ledger.free request :: (ledger.claim request).times rest

/-- From a time on, the times given out leave no gap. -/
def Tight (ledger : Ledger) (time : Int) : Prop :=
  ∀ x ∈ ledger.used, ∀ y, time ≤ y → y ≤ x → y ∈ ledger.used

theorem tight_empty : empty.Tight time := fun x hx => by simp at hx

theorem Tight.mono (h : ledger.Tight time) (hle : time ≤ request) : ledger.Tight request :=
  fun x hx y h1 h2 => h x hx y (by omega) h2

/-- A claim keeps the ledger tight from its request on: what lies between the
request and its time had been given out. -/
theorem Tight.claim (h : ledger.Tight request) : (ledger.claim request).Tight request := by
  intro x hx y h1 h2
  rw [mem_used_claim] at hx ⊢
  rcases hx with rfl | hx
  · rcases Int.lt_or_le y (ledger.free request) with hlt | hge
    · exact Or.inr (mem_used_of_lt_free h1 hlt)
    · exact Or.inl (by omega)
  · exact Or.inr (h x hx y h1 h2)

/-- **On a tight ledger a claim goes past every time given out.** -/
theorem Tight.lt_free (h : ledger.Tight request) (hx : x ∈ ledger.used) :
    x < ledger.free request := by
  rcases Int.lt_or_le x (ledger.free request) with hlt | hge
  · exact hlt
  · exact absurd (h x hx _ le_free hge) free_notMem

/-- And so do all claims after it that do not go back. -/
theorem Tight.lt_times {requests : List Int} (h : ledger.Tight request)
    (hle : ∀ r ∈ requests, request ≤ r) (hord : requests.Pairwise (· ≤ ·))
    (hx : x ∈ ledger.used) : ∀ t ∈ ledger.times requests, x < t := by
  induction requests generalizing ledger request with
  | nil => simp [times]
  | cons r rest ih =>
    obtain ⟨hhead, htail⟩ := List.pairwise_cons.1 hord
    -- tightness is carried along: each claim keeps the ledger tight for the next
    have hr : ledger.Tight r := h.mono (hle r (by simp))
    intro t ht
    rcases List.mem_cons.1 ht with rfl | ht
    · exact hr.lt_free hx
    · exact ih hr.claim hhead htail (mem_used_claim.2 (Or.inr hx)) t ht

/-- **Requests that never go back are given times that always go forward.** -/
theorem Tight.pairwise_times {requests : List Int} (h : ledger.Tight request)
    (hle : ∀ r ∈ requests, request ≤ r) (hord : requests.Pairwise (· ≤ ·)) :
    (ledger.times requests).Pairwise (· < ·) := by
  induction requests generalizing ledger request with
  | nil => exact List.Pairwise.nil
  | cons r rest ih =>
    obtain ⟨hhead, htail⟩ := List.pairwise_cons.1 hord
    have hr : (ledger.claim r).Tight r := (h.mono (hle r (by simp))).claim
    exact List.pairwise_cons.2
      ⟨hr.lt_times hhead htail (mem_used_claim.2 (Or.inl rfl)), ih hr hhead htail⟩

/-- The times of a new ledger go forward as long as the requests do not go
back. -/
theorem pairwise_times {requests : List Int} (hord : requests.Pairwise (· ≤ ·)) :
    (empty.times requests).Pairwise (· < ·) := by
  cases requests with
  | nil => exact List.Pairwise.nil
  | cons r rest =>
    refine (tight_empty : empty.Tight r).pairwise_times (fun q hq => ?_) hord
    rcases List.mem_cons.1 hq with rfl | hq
    · exact Int.le_refl _
    · exact (List.pairwise_cons.1 hord).1 q hq

/-! ## How far claims go -/

theorem firstFree_le {used : List Int} : firstFree time used ≤ time + used.length := by
  induction used generalizing time with
  | nil => exact Int.le_of_eq (Int.add_zero time).symm
  | cons u rest ih =>
    have hsame := @ih time
    have hnext := @ih (time + 1)
    simp only [firstFree, List.length_cons]
    split
    · omega
    · split <;> omega

theorem length_place_le {used : List Int} : (place time used).length ≤ used.length + 1 := by
  induction used with
  | nil => exact Nat.le_refl 1
  | cons u rest ih =>
    simp only [place]
    split
    · exact Nat.le_refl _
    · split
      · simpa using ih
      · exact Nat.le_succ _

/-- **A time is no further from its request than there are times to avoid.** -/
theorem exists_of_mem_times {requests : List Int} {t : Int} (h : t ∈ ledger.times requests) :
    ∃ r ∈ requests, r ≤ t ∧ t ≤ r + (ledger.size + requests.length : Nat) := by
  induction requests generalizing ledger with
  | nil => cases h
  | cons r rest ih =>
    rw [List.length_cons]
    rcases List.mem_cons.1 h with rfl | h
    · have hle : ledger.free r ≤ r + ledger.size := firstFree_le
      exact ⟨r, List.mem_cons_self, le_free, by omega⟩
    · obtain ⟨q, hmem, hle, hfar⟩ := ih h
      have hsize : (ledger.claim r).size ≤ ledger.size + 1 := length_place_le
      exact ⟨q, List.mem_cons_of_mem _ hmem, hle, by omega⟩

end Ledger

end ChatImport
