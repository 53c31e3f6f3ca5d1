import Mathlib.Data.List.Basic
import Mathlib.Tactic.Common

/-!
# Changing the first element that is found

A list is searched from the front and the element found is changed in place. Two searches
change the same element exactly when they stop at the same position.
-/

namespace FirstMatch

variable {α β : Type*} {p q : α → Bool} {f : α → α} {l : List α} {a b : α}

def modifyFirst (p : α → Bool) (f : α → α) (l : List α) : List α := l.modify (l.findIdx p) f

theorem modifyFirst_cons_pos (h : p a = true) : modifyFirst p f (a :: l) = f a :: l := by
  unfold modifyFirst
  rw [List.findIdx_cons, h]
  rfl

theorem modifyFirst_cons_neg (h : p a = false) :
    modifyFirst p f (a :: l) = a :: modifyFirst p f l := by
  unfold modifyFirst
  rw [List.findIdx_cons, h, cond_false, List.modify_succ_cons]

theorem find_eq_some_iff_before [DecidableEq α] (ha : a ∈ l) (hp : p a = true) :
    l.find? p = some a ↔ ∀ b ∈ l.takeWhile (· ≠ a), p b = false := by
  induction l with
  | nil => cases ha
  | cons c l ih =>
      by_cases hc : c = a
      · subst hc
        rw [List.find?_cons_of_pos hp, List.takeWhile_cons_of_neg (by simp)]
        exact iff_of_true rfl nofun
      · have hmem : a ∈ l := (List.mem_cons.mp ha).resolve_left (Ne.symm hc)
        rw [List.takeWhile_cons_of_pos (by simpa using hc), List.forall_mem_cons]
        cases hpc : p c with
        | true =>
            rw [List.find?_cons_of_pos hpc]
            constructor
            · intro h
              exact absurd (Option.some.inj h) hc
            · intro h
              cases h.1
        | false =>
            rw [List.find?_cons_of_neg (by simp [hpc]), ih hmem]
            exact (and_iff_right rfl).symm

theorem mem_modifyFirst_of_find (h : l.find? p = some a) : f a ∈ modifyFirst p f l := by
  induction l with
  | nil => cases h
  | cons b l ih =>
      cases hb : p b with
      | true =>
          rw [List.find?_cons_of_pos hb, Option.some.injEq] at h
          rw [modifyFirst_cons_pos hb, h]
          exact List.mem_cons_self
      | false =>
          rw [List.find?_cons_of_neg (by simp [hb])] at h
          rw [modifyFirst_cons_neg hb]
          exact List.mem_cons_of_mem _ (ih h)

theorem mem_modifyFirst (h : b ∈ modifyFirst p f l) :
    b ∈ l ∨ ∃ a, l.find? p = some a ∧ b = f a := by
  induction l with
  | nil => cases h
  | cons c l ih =>
      cases hc : p c with
      | true =>
          rw [modifyFirst_cons_pos hc] at h
          rcases List.mem_cons.mp h with rfl | h
          · exact .inr ⟨c, List.find?_cons_of_pos hc, rfl⟩
          · exact .inl (List.mem_cons_of_mem _ h)
      | false =>
          rw [modifyFirst_cons_neg hc] at h
          rw [List.find?_cons_of_neg (by simp [hc])]
          rcases List.mem_cons.mp h with rfl | h
          · exact .inl List.mem_cons_self
          · exact (ih h).imp_left (List.mem_cons_of_mem _)

/-- What a function sees of the list stays the same if and only if it sees no change of the
element found. -/
theorem map_modifyFirst_eq_iff {g : α → β} :
    (modifyFirst p f l).map g = l.map g ↔ ∀ a, l.find? p = some a → g (f a) = g a := by
  induction l with
  | nil => exact iff_of_true rfl nofun
  | cons b l ih =>
      cases hb : p b with
      | true =>
          rw [modifyFirst_cons_pos hb, List.find?_cons_of_pos hb, List.map_cons, List.map_cons,
            List.cons.injEq]
          constructor
          · rintro ⟨hg, _⟩ a ha
            cases ha
            exact hg
          · intro h
            exact ⟨h b rfl, rfl⟩
      | false =>
          rw [modifyFirst_cons_neg hb, List.find?_cons_of_neg (by simp [hb]), List.map_cons,
            List.map_cons, List.cons.injEq, ih]
          exact and_iff_right rfl

theorem map_modify {g : α → β} {h : β → β} (hg : ∀ a, g (f a) = h (g a)) (l : List α) (i : ℕ) :
    (l.modify i f).map g = (l.map g).modify i h := by
  induction l generalizing i with
  | nil => simp
  | cons a l ih =>
      cases i with
      | zero => simp [hg]
      | succ i =>
          rw [List.modify_succ_cons, List.map_cons, List.map_cons, List.modify_succ_cons, ih]

/-- A change that changes something at two positions changes the same one. -/
theorem modify_eq_modify_iff (hf : ∀ a, f a ≠ a) {i j : ℕ} (hi : i < l.length) :
    l.modify i f = l.modify j f ↔ i = j := by
  constructor
  · intro h
    by_contra hne
    have hget := congrArg (fun m => m[i]?) h
    rw [List.getElem?_modify_eq, List.getElem?_modify_ne _ _ (Ne.symm hne),
      List.getElem?_eq_getElem hi] at hget
    exact hf _ (Option.some.inj hget)
  · rintro rfl
    rfl

theorem findIdx_lt_of_find (h : l.find? p = some a) : l.findIdx p < l.length :=
  List.findIdx_lt_length_of_exists ⟨a, List.mem_of_find?_eq_some h, List.find?_some h⟩

theorem length_eraseP_of_find (h : l.find? p = some a) :
    (l.eraseP p).length + 1 = l.length := by
  have hmem := List.mem_of_find?_eq_some h
  rw [List.length_eraseP_of_mem hmem (List.find?_some h)]
  have hpos := List.length_pos_of_mem hmem
  omega

theorem eraseP_of_find_none (h : l.find? p = none) : l.eraseP p = l := by
  apply List.eraseP_of_forall_not
  intro a ha
  exact List.find?_eq_none.mp h a ha

end FirstMatch
