import Mathlib.Data.List.Basic
import Mathlib.Data.List.Perm.Basic
import Mathlib.Tactic.Common

/-!
# A flag carried through a loop

A loop tells the elements that have an entry once it has seen one that is marked. The elements
told are the marked ones exactly when no unmarked one with an entry comes after a marked one.
-/

namespace CarriedFlag

variable {α : Type*} {marked hasEntry : α → Bool} {l : List α} {b : α}

/-- The elements told, where `found` says whether a marked one has been seen before. -/
def told (marked hasEntry : α → Bool) : Bool → List α → List α
  | _, [] => []
  | found, b :: l =>
    let found := found || marked b
    if hasEntry b && found then b :: told marked hasEntry found l
    else told marked hasEntry found l

theorem told_sublist (found : Bool) : (told marked hasEntry found l).Sublist l := by
  induction l generalizing found with
  | nil => exact List.Sublist.slnil
  | cons b l ih =>
      rw [told]
      split_ifs
      · exact (ih _).cons_cons b
      · exact (ih _).cons b

theorem told_true : told marked hasEntry true l = l.filter hasEntry := by
  induction l with
  | nil => rfl
  | cons b l ih =>
      rw [told, List.filter_cons]
      simp only [Bool.true_or, Bool.and_true, ih]

theorem told_of_unmarked (h : ∀ b ∈ l, marked b = false) : told marked hasEntry false l = [] := by
  induction l with
  | nil => rfl
  | cons b l ih =>
      rw [List.forall_mem_cons] at h
      simp [told, h.1, ih h.2]

theorem mem_told_of_marked (hentry : ∀ b, marked b = true → hasEntry b = true) {found : Bool}
    (hb : b ∈ l) (hmarked : marked b = true) : b ∈ told marked hasEntry found l := by
  induction l generalizing found with
  | nil => cases hb
  | cons c l ih =>
      rw [told]
      rcases List.mem_cons.mp hb with rfl | hb
      · simp [hentry b hmarked, hmarked]
      · split_ifs
        · exact List.mem_cons_of_mem c (ih hb)
        · exact ih hb

theorem mem_told_iff_pairwise (hentry : ∀ b, marked b = true → hasEntry b = true) :
    (∀ b, b ∈ told marked hasEntry false l ↔ b ∈ l ∧ marked b = true) ↔
      l.Pairwise fun a b => marked a = true → hasEntry b = true → marked b = true := by
  induction l with
  | nil => simp [told]
  | cons b l ih =>
      rw [List.pairwise_cons]
      cases hb : marked b with
      | false =>
          have htold : told marked hasEntry false (b :: l) = told marked hasEntry false l := by
            simp [told, hb]
          rw [htold, ← ih]
          have hmem : ∀ x, x ∈ b :: l ∧ marked x = true ↔ x ∈ l ∧ marked x = true := by
            intro x
            rw [List.mem_cons, or_and_right]
            refine or_iff_right ?_
            rintro ⟨rfl, hx⟩
            rw [hb] at hx
            cases hx
          simp only [hmem, Bool.false_eq_true, false_imp_iff, implies_true, true_and]
      | true =>
          -- from a marked element on, everything with an entry is told
          have htold : told marked hasEntry false (b :: l) = b :: l.filter hasEntry := by
            simp [told, hb, hentry b hb, told_true]
          rw [htold]
          constructor
          · intro h
            have hrest : ∀ x ∈ l, hasEntry x = true → marked x = true := fun x hx hentry =>
              ((h x).mp (List.mem_cons_of_mem b (List.mem_filter.mpr ⟨hx, hentry⟩))).2
            refine ⟨fun x hx _ => hrest x hx, ?_⟩
            exact List.pairwise_of_forall_mem_list fun _ _ x hx _ => hrest x hx
          · rintro ⟨h, -⟩ x
            rw [List.mem_cons, List.mem_cons, List.mem_filter]
            constructor
            · rintro (rfl | ⟨hx, hentryx⟩)
              · exact ⟨.inl rfl, hb⟩
              · exact ⟨.inr hx, h x hx rfl hentryx⟩
            · rintro ⟨rfl | hx, hmarked⟩
              · exact .inl rfl
              · exact .inr ⟨hx, hentry x hmarked⟩

end CarriedFlag
