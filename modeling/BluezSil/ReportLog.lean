import Mathlib.Data.List.Chain
import Mathlib.Tactic.Common

/-!
# The last report about a subject

A log has the reports made so far, latest first, each about a subject. What was said
of a subject last is the first entry about it. Where reports say yes or no, those about a
subject alternate if each says the opposite of the one before it.
-/

namespace ReportLog

variable {R K : Type*} [DecidableEq K] {subject : R → K} {log reports : List R} {k : K} {r : R}

def last (subject : R → K) (log : List R) (k : K) : Option R :=
  log.find? fun r => decide (subject r = k)

@[simp] theorem last_nil : last subject ([] : List R) k = none := rfl

theorem last_cons : last subject (r :: log) k =
    if subject r = k then some r else last subject log k := by
  unfold last
  rw [List.find?_cons]
  split_ifs with h
  · simp [h]
  · simp [h]

theorem last_eq_some (h : last subject log k = some r) : r ∈ log ∧ subject r = k :=
  ⟨List.mem_of_find?_eq_some h, of_decide_eq_true
    (List.find?_some (p := fun r => decide (subject r = k)) h)⟩

theorem last_eq_none : last subject log k = none ↔ ∀ r ∈ log, subject r ≠ k := by
  unfold last
  rw [List.find?_eq_none]
  simp

theorem last_append : last subject (reports ++ log) k =
    (last subject reports k).or (last subject log k) :=
  List.find?_append

def about (subject : R → K) (log : List R) (k : K) : List R :=
  log.filter fun r => decide (subject r = k)

theorem about_cons_self (h : subject r = k) :
    about subject (r :: log) k = r :: about subject log k :=
  List.filter_cons_of_pos (decide_eq_true h)

theorem about_cons_ne (h : subject r ≠ k) : about subject (r :: log) k = about subject log k :=
  List.filter_cons_of_neg (by simpa using h)

theorem head?_about : (about subject log k).head? = last subject log k := by
  unfold about last
  rw [List.head?_filter]

/-- The reports about `k` say yes and no in turn, and the earliest says yes. -/
structure Alternating (subject : R → K) (value : R → Bool) (log : List R) (k : K) : Prop where
  turns : ((about subject log k).map value).IsChain (· ≠ ·)
  first : ((about subject log k).map value).getLast? ≠ some false

variable {value : R → Bool}

theorem alternating_nil : Alternating subject value [] k := by
  constructor
  · exact List.isChain_nil
  · exact fun h => by cases h

/-- A report continues the turns if it says no exactly after a yes. -/
theorem Alternating.cons (h : Alternating subject value log k)
    (hr : subject r = k → ((last subject log k).map value = some true ↔ value r = false)) :
    Alternating subject value (r :: log) k := by
  by_cases hk : subject r = k
  · have hturn := hr hk
    rw [← head?_about, ← List.head?_map] at hturn
    obtain ⟨hturns, hfirst⟩ := h
    constructor
    · rw [about_cons_self hk, List.map_cons, List.isChain_cons]
      refine ⟨?_, hturns⟩
      intro v hv heq
      rw [Option.mem_def.mp hv, heq] at hturn
      cases v <;> simp at hturn
    · rw [about_cons_self hk, List.map_cons]
      cases hvalues : (about subject log k).map value with
      | nil =>
          rw [hvalues] at hturn
          have hyes : value r = true := by simpa using hturn
          simp [hyes]
      | cons v vs =>
          rw [hvalues] at hfirst
          rw [List.getLast?_cons_cons]
          exact hfirst
  · constructor
    · rw [about_cons_ne hk]
      exact h.turns
    · rw [about_cons_ne hk]
      exact h.first

end ReportLog
