import Mathlib.Data.Set.Insert
import Mathlib.Tactic.Common

/-!
# A set followed through signals

Whoever follows a set from outside hears of elements that appear, vanish or are touched. A
log has the signals, latest first, and what is followed is the set they add up to. A log is
proper if only elements that are followed at the time are touched.
-/

namespace FollowedSet

inductive Signal (K : Type*)
  | appeared (k : K)
  | vanished (k : K)
  | touched (k : K)

variable {K : Type*} {log signals : List (Signal K)} {k : K}

/-- The set that the signals add up to. -/
def followed : List (Signal K) → Set K
  | [] => ∅
  | .appeared k :: log => insert k (followed log)
  | .vanished k :: log => followed log \ {k}
  | .touched _ :: log => followed log

def Proper : List (Signal K) → Prop
  | [] => True
  | .touched k :: log => k ∈ followed log ∧ Proper log
  | _ :: log => Proper log

theorem mem_followed_of_appeared (h : ∀ signal ∈ signals, ∃ j, signal = .appeared j) :
    k ∈ followed (signals ++ log) ↔ .appeared k ∈ signals ∨ k ∈ followed log := by
  induction signals with
  | nil => simp
  | cons signal signals ih =>
      obtain ⟨⟨j, rfl⟩, hrest⟩ := List.forall_mem_cons.mp h
      rw [List.cons_append, followed, Set.mem_insert_iff, ih hrest, List.mem_cons,
        Signal.appeared.injEq, or_assoc]

theorem mem_followed_of_vanished (h : ∀ signal ∈ signals, ∃ j, signal = .vanished j) :
    k ∈ followed (signals ++ log) ↔ .vanished k ∉ signals ∧ k ∈ followed log := by
  induction signals with
  | nil => simp
  | cons signal signals ih =>
      obtain ⟨⟨j, rfl⟩, hrest⟩ := List.forall_mem_cons.mp h
      rw [List.cons_append, followed, Set.mem_sdiff, Set.mem_singleton_iff, ih hrest, List.mem_cons,
        Signal.vanished.injEq, not_or]
      tauto

theorem followed_of_touched (h : ∀ signal ∈ signals, ∃ j, signal = .touched j) :
    followed (signals ++ log) = followed log := by
  induction signals with
  | nil => rfl
  | cons signal signals ih =>
      obtain ⟨⟨j, rfl⟩, hrest⟩ := List.forall_mem_cons.mp h
      exact ih hrest

theorem Proper.append (hlog : Proper log) (h : ∀ k, .touched k ∉ signals) :
    Proper (signals ++ log) := by
  induction signals with
  | nil => exact hlog
  | cons signal signals ih =>
      have hrest := ih fun k hk => h k (List.mem_cons_of_mem signal hk)
      cases signal with
      | appeared j => exact hrest
      | vanished j => exact hrest
      | touched j => exact absurd List.mem_cons_self (h j)

theorem Proper.append_touched (hlog : Proper log)
    (h : ∀ signal ∈ signals, ∃ j ∈ followed log, signal = .touched j) :
    Proper (signals ++ log) := by
  induction signals with
  | nil => exact hlog
  | cons signal signals ih =>
      obtain ⟨⟨j, hj, rfl⟩, hrest⟩ := List.forall_mem_cons.mp h
      have hsame : followed (signals ++ log) = followed log :=
        followed_of_touched fun signal hsignal => (hrest signal hsignal).imp fun _ => And.right
      exact ⟨hsame ▸ hj, ih hrest⟩

/-- Wherever a proper log is cut before a touch, the element is followed. -/
theorem Proper.touched_mem {later : List (Signal K)}
    (h : Proper (later ++ .touched k :: log)) : k ∈ followed log := by
  induction later with
  | nil => exact h.1
  | cons signal later ih =>
      cases signal with
      | appeared j => exact ih h
      | vanished j => exact ih h
      | touched j => exact ih h.2

end FollowedSet
