import Mathlib.Data.List.Chain
import Mathlib.Data.List.Destutter
import Mathlib.Tactic.Common

/-!
# Streams of values that are told when they change

A value is told unless it is the one told last, so no two values told one after the
other are the same. A stream that ends with its only marked value has it once, and
nothing after it.
-/

namespace ChangeStream

variable {α : Type*} {values before rest : List α} {x y last : α} {Marked : α → Prop}

section Push

variable [DecidableEq α]

def push (values : List α) (x : α) : List α :=
  if values.getLast? = some x then values else values ++ [x]

theorem append_ite_eq_push (values : List α) (x : α) :
    values ++ (if values.getLast? = some x then [] else [x]) = push values x := by
  unfold push
  split_ifs
  · exact List.append_nil _
  · rfl

theorem getLast?_push (values : List α) (x : α) : (push values x).getLast? = some x := by
  unfold push
  split_ifs with hlast
  · exact hlast
  · exact List.getLast?_concat

theorem push_ne_nil (values : List α) (x : α) : push values x ≠ [] := by
  intro h
  have hlast := getLast?_push values x
  rw [h] at hlast
  cases hlast

theorem mem_push (h : y ∈ push values x) : y ∈ values ∨ y = x := by
  unfold push at h
  split_ifs at h with hlast
  · exact .inl h
  · exact (List.mem_append.mp h).imp_right List.mem_singleton.mp

end Push

theorem isChain_concat (h : values.IsChain (· ≠ ·)) (hne : values.getLast? ≠ some x) :
    (values ++ [x]).IsChain (· ≠ ·) := by
  refine h.append (List.isChain_singleton x) fun y hy z hz => ?_
  cases hz
  rintro rfl
  exact hne hy

theorem isChain_push [DecidableEq α] (h : values.IsChain (· ≠ ·)) (x : α) :
    (push values x).IsChain (· ≠ ·) := by
  unfold push
  split_ifs with hlast
  · exact h
  · exact isChain_concat h hlast

section Destutter

variable [DecidableEq α]

theorem getLast?_destutter' (values : List α) (x : α) :
    (values.destutter' (· ≠ ·) x).getLast? = (x :: values).getLast? := by
  induction values generalizing x with
  | nil => rfl
  | cons y values ih =>
      by_cases hne : x ≠ y
      · rw [List.destutter'_cons_pos _ hne, List.getLast?_cons, ih]
        simp [List.getLast?_cons]
      · obtain rfl := not_not.mp hne
        rw [List.destutter'_cons_neg _ hne, ih]
        simp [List.getLast?_cons]

theorem getLast?_destutter (values : List α) :
    (values.destutter (· ≠ ·)).getLast? = values.getLast? := by
  cases values with
  | nil => rfl
  | cons x values => exact getLast?_destutter' values x

/-- A first value goes in front of the changes unless they start with it. -/
theorem destutter_cons_scanl {β : Type*} (f : α → β → α) (x y : α) (steps : List β) :
    (x :: steps.scanl f y).destutter (· ≠ ·) =
      if x = y then (steps.scanl f y).destutter (· ≠ ·)
      else x :: (steps.scanl f y).destutter (· ≠ ·) := by
  obtain ⟨rest, hrest⟩ : ∃ rest, steps.scanl f y = y :: rest := by
    cases steps with
    | nil => exact ⟨_, List.scanl_nil⟩
    | cons b steps => exact ⟨_, List.scanl_cons⟩
  rw [hrest, List.destutter_cons']
  by_cases heq : x = y
  · rw [if_pos heq, List.destutter'_cons_neg _ (not_not.mpr heq), heq]
    rfl
  · rw [if_neg heq, List.destutter'_cons_pos _ heq]
    rfl

end Destutter

theorem eq_of_marked (hopen : ∀ v ∈ values, ¬ Marked v) (h : values ++ [last] = before ++ x :: rest)
    (hx : Marked x) : before = values ∧ x = last ∧ rest = [] := by
  induction values generalizing before with
  | nil =>
      cases before with
      | nil =>
          rw [List.nil_append, List.nil_append, List.cons_eq_cons] at h
          exact ⟨rfl, h.1.symm, h.2.symm⟩
      | cons b before =>
          have hnil := (List.cons_eq_cons.mp h).2
          exact absurd hnil.symm (List.append_ne_nil_of_right_ne_nil _ (List.cons_ne_nil _ _))
  | cons v values ih =>
      cases before with
      | nil =>
          have hv := (List.cons_eq_cons.mp h).1
          exact absurd (hv ▸ hx) (hopen v List.mem_cons_self)
      | cons b before =>
          obtain ⟨hb, htail⟩ := List.cons_eq_cons.mp h
          obtain ⟨hbefore, hlast⟩ := ih (fun w hw => hopen w (List.mem_cons_of_mem _ hw)) htail
          exact ⟨by rw [hb, hbefore], hlast⟩

end ChangeStream
