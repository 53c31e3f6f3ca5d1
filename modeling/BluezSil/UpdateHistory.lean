import Mathlib.Data.List.Basic
import Mathlib.Tactic.Common

/-!
# What a history of updates leaves in a field

Each update either concerns a field or leaves it alone. A field the updates are
appended to holds all of them, and a field they replace holds the last. So the former
holds the last update alone exactly when the updates before it add nothing.
-/

namespace UpdateHistory

variable {σ ε α β : Type*} {step : σ → ε → σ} {pick : ε → Option β} {f : β → List α}

/-- The part of the last update. -/
def latest (f : β → List α) (updates : List β) : List α := updates.getLast?.elim [] f

theorem foldl_appended (read : σ → List α)
    (hstep : ∀ s e, read (step s e) = read s ++ (pick e).elim [] f) (s : σ) (l : List ε) :
    read (l.foldl step s) = read s ++ (l.filterMap pick).flatMap f := by
  induction l generalizing s with
  | nil => exact (List.append_nil _).symm
  | cons e rest ih =>
      rw [List.foldl_cons, ih, hstep, List.append_assoc, List.filterMap_cons]
      cases pick e with
      | none => rfl
      | some b => rw [List.flatMap_cons]; rfl

theorem foldl_replaced (read : σ → β) (hstep : ∀ s e, read (step s e) = (pick e).getD (read s))
    (s : σ) (l : List ε) :
    read (l.foldl step s) = (l.filterMap pick).getLast?.getD (read s) := by
  induction l generalizing s with
  | nil => rfl
  | cons e rest ih =>
      rw [List.foldl_cons, ih, hstep, List.filterMap_cons]
      cases pick e with
      | none => rfl
      | some b => rw [List.getLast?_cons, Option.getD_some, Option.getD_some]

/-- What is appended is the last update if and only if the updates before it are empty. -/
theorem flatMap_eq_latest_iff (updates : List β) :
    updates.flatMap f = latest f updates ↔ ∀ b ∈ updates.dropLast, f b = [] := by
  rcases List.eq_nil_or_concat updates with rfl | ⟨earlier, b, rfl⟩
  · exact iff_of_true rfl fun b hb => absurd hb List.not_mem_nil
  · have hlatest : latest f (earlier ++ [b]) = f b := by
      unfold latest
      rw [List.getLast?_concat]
      rfl
    rw [List.concat_eq_append, hlatest, List.dropLast_concat, List.flatMap_append,
      List.flatMap_singleton, List.append_left_eq_self]
    exact List.flatMap_eq_nil_iff

end UpdateHistory
