import Mathlib.Data.List.Forall2
import Mathlib.Data.Set.Basic
import Mathlib.Tactic.Common

/-!
# Words that agree at a set of positions

A pattern is a word together with the set of positions at which it counts, and
letters are compared after a folding such as the one to lower case. The words
that are matched have a form: a list of slots, each of which some letters fit.
Two patterns, one of which looks at fewer positions, accept the same words of the
form exactly when they differ only where the form leaves no choice.
-/

namespace PositionAgreement

variable {α β κ : Type*} {fold : α → β} {fits : κ → α → Prop}
variable {s t : Set ℕ} {u v d : List α} {slots : List κ} {j : ℕ}

/-- The words read the same, up to `fold`, at every position of `s`. -/
def AgreeOn (fold : α → β) (s : Set ℕ) (u d : List α) : Prop :=
  ∀ j ∈ s, (u.map fold)[j]? = (d.map fold)[j]?

/-- No two letters that fit the slot at `j` are told apart by `fold`. -/
def Rigid (fold : α → β) (fits : κ → α → Prop) (slots : List κ) (j : ℕ) : Prop :=
  ∀ slot, slots[j]? = some slot → ∀ a b, fits slot a → fits slot b → fold a = fold b

theorem AgreeOn.refl (fold : α → β) (s : Set ℕ) (u : List α) : AgreeOn fold s u u := by
  intro j _
  rfl

theorem agreeOn_univ_iff : AgreeOn fold Set.univ u d ↔ u.map fold = d.map fold := by
  constructor
  · intro h
    apply List.ext_getElem?
    intro j
    exact h j (Set.mem_univ j)
  · intro h j _
    rw [h]

theorem agreeOn_set_iff (a : α) (hj : j ∉ s) :
    AgreeOn fold s u (d.set j a) ↔ AgreeOn fold s u d := by
  unfold AgreeOn
  apply forall₂_congr
  intro i hi
  have hne : j ≠ i := by
    rintro rfl
    exact hj hi
  rw [List.map_set, List.getElem?_set_ne hne]

theorem word_getElem? (h : List.Forall₂ fits slots d) :
    ∀ {j : ℕ} {slot : κ}, slots[j]? = some slot → ∃ a, d[j]? = some a ∧ fits slot a := by
  induction h with
  | nil =>
      intro j slot hslot
      rw [List.getElem?_nil] at hslot
      cases hslot
  | cons hfit _ ih =>
      intro j slot hslot
      cases j with
      | zero =>
          cases hslot
          exact ⟨_, rfl, hfit⟩
      | succ j => exact ih hslot

theorem word_getElem?_none (h : List.Forall₂ fits slots d) (hj : slots[j]? = none) :
    d[j]? = none := by
  rw [List.getElem?_eq_none_iff] at hj ⊢
  rw [← h.length_eq]
  exact hj

theorem word_set (h : List.Forall₂ fits slots d) :
    ∀ {j : ℕ} {slot : κ} {a : α}, slots[j]? = some slot → fits slot a →
      List.Forall₂ fits slots (d.set j a) := by
  induction h with
  | nil =>
      intro j slot a _ _
      exact List.Forall₂.nil
  | cons hfit hrest ih =>
      intro j slot a hslot ha
      cases j with
      | zero =>
          cases hslot
          exact List.Forall₂.cons ha hrest
      | succ j => exact List.Forall₂.cons hfit (ih hslot ha)

theorem word_agree_of_rigid (hu : List.Forall₂ fits slots u) (hd : List.Forall₂ fits slots d)
    (hj : Rigid fold fits slots j) : (u.map fold)[j]? = (d.map fold)[j]? := by
  rw [List.getElem?_map, List.getElem?_map]
  cases hslot : slots[j]? with
  | none => rw [word_getElem?_none hu hslot, word_getElem?_none hd hslot]
  | some slot =>
      obtain ⟨a, hua, ha⟩ := word_getElem? hu hslot
      obtain ⟨b, hdb, hb⟩ := word_getElem? hd hslot
      rw [hua, hdb, Option.map_some, Option.map_some, hj slot hslot a b ha hb]

/-- Where the form leaves a choice, a word can be changed to a different one. -/
theorem exists_word_differs (hd : List.Forall₂ fits slots d)
    (hj : ¬ Rigid fold fits slots j) :
    ∃ a, List.Forall₂ fits slots (d.set j a) ∧
      (d.map fold)[j]? ≠ ((d.set j a).map fold)[j]? := by
  classical
  unfold Rigid at hj
  push Not at hj
  obtain ⟨slot, hslot, a, b, ha, hb, hne⟩ := hj
  obtain ⟨c, hc, _⟩ := word_getElem? hd hslot
  have hlt : j < d.length := (List.getElem?_eq_some_iff.mp hc).1
  have hdiff : ∀ x, fold c ≠ fold x → (d.map fold)[j]? ≠ ((d.set j x).map fold)[j]? := by
    intro x hx heq
    rw [List.getElem?_map, List.getElem?_map, hc, List.getElem?_set_self hlt] at heq
    exact hx (Option.some.inj heq)
  by_cases hca : fold c = fold a
  · have hcb : fold c ≠ fold b := fun heq => hne (hca.symm.trans heq)
    exact ⟨b, word_set hd hslot hb, hdiff b hcb⟩
  · exact ⟨a, word_set hd hslot ha, hdiff a hca⟩

/-- The pattern `u` at fewer positions accepts the same words of the form as the
pattern `v`, itself such a word, if and only if every position of the second that
leaves a choice is one of the first at which the patterns agree, and the patterns
agree at the positions of the first that leave none. -/
theorem accepts_iff (fold : α → β) (u : List α) (hst : s ⊆ t) (hv : List.Forall₂ fits slots v) :
    (∀ d, List.Forall₂ fits slots d → (AgreeOn fold s u d ↔ AgreeOn fold t v d)) ↔
      AgreeOn fold {j ∈ s | Rigid fold fits slots j} u v ∧
      ∀ j ∈ t, ¬ Rigid fold fits slots j → j ∈ s ∧ (u.map fold)[j]? = (v.map fold)[j]? := by
  constructor
  · intro h
    have hagree : AgreeOn fold s u v := (h v hv).mpr (AgreeOn.refl fold t v)
    constructor
    · intro j hj
      exact hagree j hj.1
    · intro j hj hfree
      by_cases hjs : j ∈ s
      · exact ⟨hjs, hagree j hjs⟩
      · -- the word changed at `j` is accepted by the first pattern only
        obtain ⟨a, hword, hne⟩ := exists_word_differs hv hfree
        have hacc : AgreeOn fold s u (v.set j a) := (agreeOn_set_iff a hjs).mpr hagree
        exact absurd ((h _ hword).mp hacc j hj) hne
  · rintro ⟨hrigid, hfree⟩ d hd
    constructor
    · intro h j hj
      by_cases hr : Rigid fold fits slots j
      · exact word_agree_of_rigid hv hd hr
      · obtain ⟨hjs, heq⟩ := hfree j hj hr
        exact heq.symm.trans (h j hjs)
    · intro h j hj
      have heq : (u.map fold)[j]? = (v.map fold)[j]? := by
        by_cases hr : Rigid fold fits slots j
        · exact hrigid j ⟨hj, hr⟩
        · exact (hfree j (hst hj) hr).2
      exact heq.trans (h j (hst hj))

end PositionAgreement
