import Mathlib.Data.List.Nodup
import Mathlib.Data.List.Count
import Mathlib.Logic.Relation
import Mathlib.Tactic.Common

/-!
# Requests that are answered once

A queue is a list searched from the front. A ledger lists the requests that have
been opened, the keys of the queue, and one entry for each answer given. In a
settled ledger an opened request either waits and has no answer, or has left the
queue with exactly one. Queueing a fresh request and taking one out with its
answer keep the ledger settled.
-/

namespace RequestLedger

/-! ### Queues searched from the front -/

section Queue

variable {α κ : Type*}

theorem eraseP_of_find [DecidableEq α] {p : α → Bool} {l : List α} {a : α}
    (h : l.find? p = some a) :
    l.eraseP p = l.erase a := by
  induction l with
  | nil => cases h
  | cons b l ih =>
      by_cases hb : p b
      · rw [List.find?_cons_of_pos hb, Option.some.injEq] at h
        rw [List.eraseP_cons_of_pos hb, h, List.erase_cons_head]
      · rw [List.find?_cons_of_neg hb] at h
        have hne : b ≠ a := by
          rintro rfl
          exact hb (List.find?_some h)
        rw [List.eraseP_cons_of_neg hb, List.erase_cons_tail (by simpa using hne), ih h]

theorem find_key [DecidableEq κ] (key : α → κ) {l : List α} (hl : (l.map key).Nodup) {a : α}
    (ha : a ∈ l) :
    l.find? (fun b => key b == key a) = some a := by
  cases hfind : l.find? (fun b => key b == key a) with
  | none =>
      have := List.find?_eq_none.mp hfind a ha
      simp at this
  | some b =>
      have hb : key b = key a := by simpa using List.find?_some hfind
      rw [List.inj_on_of_nodup_map hl (List.mem_of_find?_eq_some hfind) ha hb]

/-- In a queue in the order of its keys, the element found is the oldest one. -/
theorem find_oldest (key : α → ℕ) {p : α → Bool} {l : List α}
    (hl : (l.map key).Pairwise (· < ·)) {a b : α} (ha : l.find? p = some a) (hb : b ∈ l)
    (hpb : p b = true) : key a ≤ key b := by
  induction l with
  | nil => cases hb
  | cons c l ih =>
      rw [List.map_cons, List.pairwise_cons] at hl
      by_cases hc : p c
      · rw [List.find?_cons_of_pos hc, Option.some.injEq] at ha
        subst ha
        rcases List.mem_cons.mp hb with rfl | hb
        · exact Nat.le_refl _
        · exact Nat.le_of_lt (hl.1 _ (List.mem_map_of_mem hb))
      · rw [List.find?_cons_of_neg hc] at ha
        have hne : b ≠ c := by
          rintro rfl
          exact hc hpb
        exact ih hl.2 ha ((List.mem_cons.mp hb).resolve_left hne)

theorem map_erase_of_nodup [DecidableEq α] [DecidableEq κ] (key : α → κ) {l : List α}
    (hl : (l.map key).Nodup) {a : α} (ha : a ∈ l) :
    (l.erase a).map key = (l.map key).erase (key a) := by
  induction l with
  | nil => cases ha
  | cons b l ih =>
      rw [List.map_cons, List.nodup_cons] at hl
      by_cases hb : b = a
      · rw [hb, List.erase_cons_head, List.map_cons, List.erase_cons_head]
      · have hmem : a ∈ l := (List.mem_cons.mp ha).resolve_left (Ne.symm hb)
        have hkey : key b ≠ key a := by
          intro h
          exact hl.1 (h ▸ List.mem_map_of_mem hmem)
        rw [List.erase_cons_tail (by simpa using hb), List.map_cons, List.map_cons,
          List.erase_cons_tail (by simpa using hkey), ih hl.2 hmem]

end Queue

/-! ### The ledger -/

structure Ledger (K : Type*) where
  opened : List K
  pending : List K
  answered : List K

namespace Ledger

variable {K : Type*} [DecidableEq K]

/-- Every opened request waits unanswered, or has been answered once. -/
def Settled (l : Ledger K) : Prop :=
  ∀ k ∈ l.opened, l.pending.count k + l.answered.count k = 1

/-- What one step of a well-behaved server does. Requests may also be queued
without being opened; nothing is promised about their answers. -/
inductive Step (l : Ledger K) : Ledger K → Prop
  | idle : Step l l
  | queue (k : K) : k ∉ l.opened → Step l { l with pending := l.pending ++ [k] }
  | openRequest (k : K) : k ∉ l.opened → k ∉ l.pending → k ∉ l.answered →
      Step l { l with opened := k :: l.opened, pending := l.pending ++ [k] }
  | answer (k : K) (n : ℕ) : k ∈ l.pending → (k ∈ l.opened → n = 1) →
      Step l { l with pending := l.pending.erase k, answered := List.replicate n k ++ l.answered }

variable {l l' : Ledger K} {k : K}

theorem Settled.step (h : l.Settled) (hs : Step l l') : l'.Settled := by
  cases hs with
  | idle => exact h
  | queue j hj =>
      intro k hk
      have hne : j ≠ k := by
        rintro rfl
        exact hj hk
      have hcount : [j].count k = 0 := by simp [hne]
      change (l.pending ++ [j]).count k + l.answered.count k = 1
      rw [List.count_append, hcount, Nat.add_zero, h k hk]
  | openRequest j hopen hpend hans =>
      intro k hk
      change (l.pending ++ [j]).count k + l.answered.count k = 1
      rw [List.count_append]
      by_cases hjk : j = k
      · subst hjk
        rw [List.count_eq_zero.mpr hpend, List.count_eq_zero.mpr hans, List.count_singleton_self]
      · have hcount : [j].count k = 0 := by simp [hjk]
        rw [hcount, Nat.add_zero, h k ((List.mem_cons.mp hk).resolve_left (Ne.symm hjk))]
  | answer j n hpend hone =>
      intro k hk
      change (l.pending.erase j).count k + (List.replicate n j ++ l.answered).count k = 1
      have hsettled := h k hk
      rw [List.count_append]
      by_cases hjk : j = k
      · subst hjk
        have hpos := List.count_pos_iff.mpr hpend
        rw [List.count_erase_self, List.count_replicate_self, hone hk]
        omega
      · have hcount : (List.replicate n j).count k = 0 := by
          rw [List.count_eq_zero]
          intro hmem
          exact hjk (List.eq_of_mem_replicate hmem).symm
        rw [List.count_erase_of_ne (Ne.symm hjk), hcount, Nat.zero_add, hsettled]

theorem Settled.unanswered (h : l.Settled) (hk : k ∈ l.opened) (hp : k ∈ l.pending) :
    l.answered.count k = 0 := by
  have hone := h k hk
  have hpos := List.count_pos_iff.mpr hp
  omega

/-- A request that no longer waits has been answered exactly once. -/
theorem Settled.answered_once (h : l.Settled) (hk : k ∈ l.opened) (hp : k ∉ l.pending) :
    l.answered.count k = 1 := by
  have hone := h k hk
  rwa [List.count_eq_zero.mpr hp, Nat.zero_add] at hone

/-- A request that has been opened and no longer waits never waits again. -/
theorem Step.not_pending (hs : Step l l') (hk : k ∈ l.opened) (hp : k ∉ l.pending) :
    k ∉ l'.pending := by
  cases hs with
  | idle => exact hp
  | queue j hj | openRequest j hj =>
      intro hmem
      rcases List.mem_append.mp hmem with h | h
      · exact hp h
      · exact hj (List.mem_singleton.mp h ▸ hk)
  | answer j n hj => exact fun hmem => hp (List.mem_of_mem_erase hmem)

theorem Step.opened_subset (hs : Step l l') : l.opened ⊆ l'.opened := by
  cases hs with
  | idle | queue | answer => exact List.Subset.refl _
  | openRequest j => exact List.subset_cons_self _ _

abbrev Steps : Ledger K → Ledger K → Prop := Relation.ReflTransGen Step

theorem Settled.steps (h : l.Settled) (hs : Steps l l') : l'.Settled := by
  induction hs with
  | refl => exact h
  | tail _ hlast ih => exact ih.step hlast

theorem Steps.opened_subset (hs : Steps l l') : l.opened ⊆ l'.opened := by
  induction hs with
  | refl => exact List.Subset.refl _
  | tail _ hlast ih => exact List.Subset.trans ih hlast.opened_subset

theorem Steps.not_pending (hs : Steps l l') (hk : k ∈ l.opened) (hp : k ∉ l.pending) :
    k ∉ l'.pending := by
  induction hs with
  | refl => exact hp
  | tail hfirst hlast ih => exact hlast.not_pending (Steps.opened_subset hfirst hk) ih

end Ledger

end RequestLedger
