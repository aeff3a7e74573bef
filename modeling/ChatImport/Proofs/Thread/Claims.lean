import ChatImport.Proofs.Thread.Ledger
import Mathlib.Order.Bounds.Basic
/-!
# Claims in any order

Which time a claim is given depends on the claims before it, and two requests that
come in the other order may well be given each other's time. What does not depend
on the order is which times are given out in the end (`Ledger.claimAll_perm`). It
is enough to exchange two claims next to each other (`Ledger.claim_comm`): if they
are after different times, neither stands in the way of the other; if they are
after one time, the first takes it, whichever it is, and the second goes on from
there.

A claim is found by trying one time after the other (`Ledger.Search`). On a ledger
this ends, with the least of the times that are free from the request on
(`Ledger.search_free`, `Ledger.Search.isLeast`), and with each claim the ledger has
one time more (`Ledger.perm_claimAll`).
-/

namespace ChatImport

namespace Ledger

/-! ## The search for a free time -/

/-- One time after the other is tried, until one is not among those that are used. -/
inductive Search (used : List Int) : Int → Int → Prop where
  | found {time : Int} : time ∉ used → Search used time time
  | next {request time : Int} :
    request ∈ used → Search used (request + 1) time → Search used request time

variable {ledger other : Ledger} {used requests requests' : List Int}
variable {time request a b x : Int}

/-- What a search finds is the least time that will do. -/
theorem Search.isLeast (h : Search used request time) :
    IsLeast {t | request ≤ t ∧ t ∉ used} time := by
  induction h with
  | found hfree => exact ⟨⟨Int.le_refl _, hfree⟩, fun t ht => ht.1⟩
  | next hused hsearch ih =>
    obtain ⟨⟨hle, hfree⟩, hleast⟩ := ih
    refine ⟨⟨by omega, hfree⟩, fun t ht => hleast ⟨?_, ht.2⟩⟩
    -- the candidate was used, so a free time is past it
    have hne : t ≠ _ := fun heq => ht.2 (heq ▸ hused)
    have := ht.1
    omega

/-- A search goes through any number of used times. -/
theorem search_of_used (hfree : time ∉ used) (n : Nat)
    (hused : ∀ x, time - n ≤ x → x < time → x ∈ used) : Search used (time - n) time := by
  induction n with
  | zero => exact (Int.sub_zero time).symm ▸ .found hfree
  | succ n ih =>
    refine .next (hused _ (Int.le_refl _) (by omega)) ?_
    have hnext : time - (n + 1 : Nat) + 1 = time - n := by omega
    rw [hnext]
    exact ih fun x hle hlt => hused x (by omega) hlt

/-- **The search for a free time ends**, and at the time that the claim is given. -/
theorem search_free : Search ledger.used request (ledger.free request) := by
  have hle : request ≤ ledger.free request := le_free
  have hfree : ledger.free request ∉ ledger.used := free_notMem
  have hsearch := search_of_used hfree (ledger.free request - request).toNat
    fun x hx hlt => mem_used_of_lt_free (by omega) hlt
  have hstart : ledger.free request - (ledger.free request - request).toNat = request := by omega
  rwa [hstart] at hsearch

/-- The times that a claim tries: the one requested and, as long as it is used, the next. -/
inductive Tried (used : List Int) (request : Int) : Int → Prop where
  | first : Tried used request request
  | next {time : Int} : Tried used request time → time ∈ used → Tried used request (time + 1)

/-- A claim goes up from its request, and not past the time that it is given. -/
theorem Tried.le_free (h : Tried ledger.used request time) :
    request ≤ time ∧ time ≤ ledger.free request := by
  induction h with
  | first => exact ⟨Int.le_refl _, Ledger.le_free⟩
  | @next time _ hused ih =>
    -- the time tried before was used, so it is not the one that is given
    have hne : time ≠ ledger.free request := fun heq => free_notMem (heq ▸ hused)
    omega

theorem Tried.of_next (hused : request ∈ used) (h : Tried used (request + 1) time) :
    Tried used request time := by
  induction h with
  | first => exact .next .first hused
  | next _ hmem ih => exact .next ih hmem

/-- What a search finds is the last of the times that it tries. -/
theorem Search.tried (h : Search used request time) : Tried used request time := by
  induction h with
  | found _ => exact .first
  | next hused _ ih => exact ih.of_next hused

/-- A claim is given the only time that is the least of those free from the request on. -/
theorem free_eq_of_isLeast (h : IsLeast {t | request ≤ t ∧ t ∉ ledger.used} time) :
    ledger.free request = time :=
  search_free.isLeast.unique h

/-! ## Two claims -/

theorem nodup_used : ledger.used.Nodup :=
  ledger.ascending.imp fun hlt heq => Int.ne_of_lt hlt heq

/-- Ledgers with the same times are the same. -/
theorem ext_used (h : ∀ x, x ∈ ledger.used ↔ x ∈ other.used) : ledger = other := by
  have hperm : ledger.used.Perm other.used :=
    (List.perm_ext_iff_of_nodup nodup_used nodup_used).2 h
  have hused : ledger.used = other.used :=
    hperm.eq_of_pairwise (fun x y _ _ hxy hyx => absurd hxy (by omega)) ledger.ascending
      other.ascending
  cases ledger
  cases other
  cases hused
  rfl

/-- Requests with no free time between them are given the same time. -/
theorem free_congr (hle : a ≤ b) (hused : ∀ x, a ≤ x → x < b → x ∈ ledger.used) :
    ledger.free a = ledger.free b := by
  refine free_eq_of_isLeast ⟨⟨Int.le_trans hle le_free, free_notMem⟩, fun t ht => ?_⟩
  -- a free time from the earlier request on is not before the later one
  have hge : b ≤ t := Int.not_lt.1 fun hlt => ht.2 (hused t ht.1 hlt)
  exact search_free.isLeast.2 ⟨hge, ht.2⟩

/-- A claim is not disturbed by one that was given another time. -/
theorem free_claim_of_ne (hne : ledger.free b ≠ ledger.free a) :
    (ledger.claim a).free b = ledger.free b := by
  refine free_eq_of_isLeast ⟨⟨le_free, fun hmem => ?_⟩, fun t ht => ?_⟩
  · rcases mem_used_claim.1 hmem with heq | hmem
    · exact hne heq
    · exact free_notMem hmem
  · exact search_free.isLeast.2 ⟨ht.1, fun hmem => ht.2 (mem_used_claim.2 (Or.inr hmem))⟩

/-- Once a request has been given its time, a request for it is one for the time after. -/
theorem free_claim_self : (ledger.claim a).free a = (ledger.claim a).free (ledger.free a + 1) := by
  have hnear : a ≤ ledger.free a := le_free
  refine free_congr (by omega) fun x hle hlt => ?_
  rw [mem_used_claim]
  rcases Int.lt_or_le x (ledger.free a) with hlt | hge
  · exact Or.inr (mem_used_of_lt_free hle hlt)
  · exact Or.inl (by omega)

/-- **Two claims can be exchanged.** The ledger comes to the same. -/
theorem claim_comm (ledger : Ledger) (a b : Int) :
    (ledger.claim a).claim b = (ledger.claim b).claim a := by
  by_cases hsame : ledger.free a = ledger.free b
  · -- both are after one time: whichever comes second goes on from there
    have hclaim : ledger.claim a = ledger.claim b := by simp only [claim, hsame]
    have hsecond : (ledger.claim a).free b = (ledger.claim b).free a := by
      rw [hclaim, free_claim_self, ← hclaim, free_claim_self, hsame]
    refine ext_used fun x => ?_
    rw [mem_used_claim, hsecond, hclaim, ← mem_used_claim]
  · refine ext_used fun x => ?_
    rw [mem_used_claim, mem_used_claim, mem_used_claim, mem_used_claim,
      free_claim_of_ne (Ne.symm hsame), free_claim_of_ne hsame]
    exact or_left_comm

/-! ## Claims in a row -/

/-- **The times that are given out depend on the requests alone**, not on their order. -/
theorem claimAll_perm (h : requests.Perm requests') :
    ledger.claimAll requests = ledger.claimAll requests' :=
  h.foldl_eq' (fun a _ b _ ledger => claim_comm ledger a b) ledger

theorem perm_place (h : time ∉ used) : (place time used).Perm (time :: used) := by
  induction used with
  | nil => exact .refl _
  | cons u rest ih =>
    rw [List.mem_cons, not_or] at h
    simp only [place]
    split
    · exact .refl _
    split
    · exact ((ih h.2).cons u).trans (.swap time u rest)
    · exact absurd (by omega) h.1

/-- **With each claim the ledger has one time more**, the one that it was given. -/
theorem perm_claimAll : (ledger.claimAll requests).used.Perm
    (ledger.times requests ++ ledger.used) := by
  induction requests generalizing ledger with
  | nil => exact .refl _
  | cons request rest ih =>
    have hclaim : (ledger.claim request).used.Perm (ledger.free request :: ledger.used) :=
      perm_place free_notMem
    exact ih.trans ((hclaim.append_left _).trans List.perm_middle)

theorem times_append : ledger.times (requests ++ requests') =
    ledger.times requests ++ (ledger.claimAll requests).times requests' := by
  induction requests generalizing ledger with
  | nil => rfl
  | cons request rest ih => exact congrArg _ ih

theorem length_times : (ledger.times requests).length = requests.length := by
  induction requests generalizing ledger with
  | nil => rfl
  | cons request rest ih => exact congrArg Nat.succ ih

theorem mem_used_claimAll_empty : x ∈ (empty.claimAll requests).used ↔ x ∈ empty.times requests :=
  perm_claimAll.mem_iff.trans (by rw [used_empty, List.append_nil])

theorem size_claimAll_empty : (empty.claimAll requests).size = requests.length := by
  have hperm : (empty.claimAll requests).used.Perm (empty.times requests ++ empty.used) :=
    perm_claimAll
  have hlength := hperm.length_eq
  rwa [used_empty, List.append_nil, length_times] at hlength

theorem nodup_times : (empty.times requests).Nodup := by
  have hnodup : (empty.claimAll requests).used.Nodup := nodup_used
  rwa [perm_claimAll.nodup_iff, used_empty, List.append_nil] at hnodup

/-- What holds of a claim on a new ledger, after others that were given their times. -/
structure Given (before : List Int) (request time : Int) : Prop where
  /-- The search among the times of the ledger ends here. -/
  search : Search (empty.claimAll before).used request time
  /-- It is the smallest time from the request on that no claim before was given. -/
  isLeast : IsLeast {t | request ≤ t ∧ t ∉ empty.times before} time
  /-- So no more times are tried in vain than there were claims before. -/
  near : time ≤ request + before.length

theorem given_free (before : List Int) (request : Int) :
    Given before request ((empty.claimAll before).free request) := by
  refine ⟨search_free, ?_, ?_⟩
  · have hsearch : Search (empty.claimAll before).used request
        ((empty.claimAll before).free request) := search_free
    simpa only [mem_used_claimAll_empty] using hsearch.isLeast
  · have hnear : (empty.claimAll before).free request ≤ request + (empty.claimAll before).size :=
      firstFree_le
    rwa [size_claimAll_empty] at hnear

/-- **Claims on a new ledger.** Whatever is requested, each claim comes to an end and is given
the smallest time from its request on that was not given out before; no time is given out
twice, the ledger has as many times as there were claims, and these are the ones it has; and
requests in any other order leave the same ledger. -/
theorem claims_settled (requests : List Int) :
    (∀ before request after, requests = before ++ request :: after →
      ∃ time, (empty.times requests)[before.length]? = some time ∧ Given before request time) ∧
    (empty.times requests).Nodup ∧
    (empty.times requests).length = requests.length ∧
    (empty.claimAll requests).size = requests.length ∧
    (∀ x, x ∈ (empty.claimAll requests).used ↔ x ∈ empty.times requests) ∧
    ∀ requests', requests.Perm requests' →
      empty.claimAll requests' = empty.claimAll requests := by
  refine ⟨?_, nodup_times, length_times, size_claimAll_empty,
    fun x => mem_used_claimAll_empty, fun requests' h => (claimAll_perm h).symm⟩
  rintro before request after rfl
  refine ⟨_, ?_, given_free before request⟩
  rw [times_append, List.getElem?_append_right (Nat.le_of_eq length_times), length_times,
    Nat.sub_self]
  rfl

/-- Three requests for two times: in the other order the times are given to others. -/
example : empty.times [5, 5, 6] = [5, 6, 7] ∧ empty.times [6, 5, 5] = [6, 5, 7] := by decide

end Ledger

end ChatImport
