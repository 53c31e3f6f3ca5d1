import Mathlib.Data.List.Basic
import Mathlib.Tactic.Common

/-!
# Serving a list of requests

The requests are served in order until one is found to have no answer. Each may be answered
any number of times, and the keys of the answers are the requests themselves exactly when
each is answered once.
-/

namespace RequestLoop

variable {K S α : Type*} {keys : S → List K} {found : S → Bool} {step : K → S → S}
  {count : K → ℕ} {requests : List K} {k : K} {s : S}

/-- Serves the requests until the last one served has not been found. -/
def serve (found : S → Bool) (step : K → S → S) : List K → S → S
  | [], s => s
  | k :: requests, s =>
    let s := step k s
    if found s then serve found step requests s else s

/-- A step adds as many answers to its request as there are, and knows whether there are any. -/
structure Serves (keys : S → List K) (found : S → Bool) (step : K → S → S) (count : K → ℕ) :
    Prop where
  keys_step : ∀ k s, keys (step k s) = keys s ++ List.replicate (count k) k
  found_step : ∀ k s, found (step k s) = true ↔ count k ≠ 0

theorem foldl_answers {answer : S → S} (hkeys : ∀ s, keys (answer s) = keys s ++ [k])
    (hfound : ∀ s, found (answer s) = true) (l : List α) (s : S) :
    keys (l.foldl (fun s _ => answer s) s) = keys s ++ List.replicate l.length k ∧
      (found (l.foldl (fun s _ => answer s) s) = true ↔ found s = true ∨ l ≠ []) := by
  induction l generalizing s with
  | nil => simp
  | cons a l ih =>
      obtain ⟨hk, hf⟩ := ih (answer s)
      rw [List.foldl_cons]
      constructor
      · rw [hk, hkeys, List.append_assoc, List.length_cons, List.replicate_succ]
        rfl
      · rw [hf, hfound]
        simp

namespace Serves

variable (h : Serves keys found step count)
include h

theorem found_serve (hne : requests ≠ []) :
    found (serve found step requests s) = true ↔ ∀ k ∈ requests, count k ≠ 0 := by
  induction requests generalizing s with
  | nil => exact absurd rfl hne
  | cons k requests ih =>
      rw [serve, List.forall_mem_cons, ← h.found_step k s]
      by_cases hk : found (step k s) = true
      · simp only [hk, if_true, true_and]
        cases requests with
        | nil => exact iff_of_true hk nofun
        | cons k' requests => exact ih (List.cons_ne_nil k' requests)
      · simp [hk]

theorem keys_serve (hall : ∀ k ∈ requests, count k ≠ 0) :
    keys (serve found step requests s) =
      keys s ++ requests.flatMap fun k => List.replicate (count k) k := by
  induction requests generalizing s with
  | nil => simp [serve]
  | cons k requests ih =>
      rw [List.forall_mem_cons] at hall
      have hk : found (step k s) = true := (h.found_step k s).mpr hall.1
      simp only [serve, hk, if_true]
      rw [ih hall.2, h.keys_step, List.append_assoc, List.flatMap_cons]

end Serves

theorem length_le_flatMap_replicate (hall : ∀ k ∈ requests, count k ≠ 0) :
    requests.length ≤ (requests.flatMap fun k => List.replicate (count k) k).length := by
  induction requests with
  | nil => exact Nat.zero_le _
  | cons k requests ih =>
      rw [List.forall_mem_cons] at hall
      have hrest := ih hall.2
      have hk := Nat.pos_of_ne_zero hall.1
      rw [List.flatMap_cons, List.length_append, List.length_replicate, List.length_cons]
      omega

/-- Requests that are all answered are answered with themselves exactly when each is answered
once. -/
theorem flatMap_replicate_eq_iff (hall : ∀ k ∈ requests, count k ≠ 0) :
    requests.flatMap (fun k => List.replicate (count k) k) = requests ↔
      ∀ k ∈ requests, count k = 1 := by
  induction requests with
  | nil => exact iff_of_true rfl nofun
  | cons k requests ih =>
      rw [List.forall_mem_cons] at hall ⊢
      have hrest := length_le_flatMap_replicate hall.2
      have hk := Nat.pos_of_ne_zero hall.1
      constructor
      · intro heq
        have hcount : count k = 1 := by
          have hsum := congrArg List.length heq
          rw [List.flatMap_cons, List.length_append, List.length_replicate,
            List.length_cons] at hsum
          omega
        rw [List.flatMap_cons, hcount] at heq
        exact ⟨hcount, (ih hall.2).mp (List.tail_eq_of_cons_eq heq)⟩
      · rintro ⟨hcount, hones⟩
        rw [List.flatMap_cons, hcount, (ih hall.2).mpr hones]
        rfl

/-- What is found are the requests that have a name and are answered with themselves, exactly
when each request of a list that names them all is answered once and no other list is. -/
theorem Serves.answers_iff (h : Serves keys found step count) {names : K → Prop}
    (hkeys : keys s = []) (hfound : found s = false) :
    ((found (serve found step requests s) = true ↔
        requests ≠ [] ∧ ∀ k ∈ requests, names k) ∧
      (found (serve found step requests s) = true →
        keys (serve found step requests s) = requests)) ↔
    ((∀ k ∈ requests, names k) → ∀ k ∈ requests, count k = 1) ∧
      (requests ≠ [] → (∀ k ∈ requests, count k ≠ 0) → ∀ k ∈ requests, names k) := by
  by_cases hne : requests = []
  · subst hne
    simp [serve, hfound]
  · rw [h.found_serve hne]
    simp only [ne_eq, hne, not_false_eq_true, true_and, true_imp_iff]
    constructor
    · rintro ⟨hiff, hanswers⟩
      refine ⟨fun hnames => ?_, hiff.mp⟩
      have hall := hiff.mpr hnames
      have heq := hanswers hall
      rw [h.keys_serve hall, hkeys, List.nil_append] at heq
      exact (flatMap_replicate_eq_iff hall).mp heq
    · rintro ⟨honce, hnames⟩
      refine ⟨⟨hnames, fun hall k hk => ?_⟩, fun hall => ?_⟩
      · rw [honce hall k hk]
        exact Nat.one_ne_zero
      · rw [h.keys_serve hall, hkeys, List.nil_append]
        exact (flatMap_replicate_eq_iff hall).mpr (honce (hnames hall))

theorem unserved_answers_iff {names : K → Prop} {answers : List K} :
    ((False ↔ requests ≠ [] ∧ ∀ k ∈ requests, names k) ∧ (False → answers = requests)) ↔
    ((∀ k ∈ requests, names k) → ∀ k ∈ requests, 0 = 1) ∧
      (requests ≠ [] → (∀ k ∈ requests, 0 ≠ 0) → ∀ k ∈ requests, names k) := by
  cases requests with
  | nil => simp
  | cons k requests =>
      constructor
      · rintro ⟨hiff, -⟩
        refine ⟨fun hnames => ?_, fun _ hzero => absurd rfl (hzero k List.mem_cons_self)⟩
        exact (hiff.mpr ⟨List.cons_ne_nil k requests, hnames⟩).elim
      · rintro ⟨honce, -⟩
        refine ⟨⟨False.elim, fun hnames => ?_⟩, False.elim⟩
        exact absurd (honce hnames.2 k List.mem_cons_self) (by decide)

end RequestLoop
