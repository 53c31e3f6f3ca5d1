import Mathlib.Data.List.Pairwise
import Mathlib.Data.List.Sort
import Mathlib.Tactic.Common

/-!
# Ranges handed out below a mark

A range is a start and a length. Ranges that all stop at or below a mark overlap no
range that starts there, so an allocator that never moves its mark below a range in use
hands out disjoint ranges. The mark may be put back after the greatest of a list of
addresses if that list covers the ranges in use.
-/

namespace AddressRanges

structure Range where
  start : ℕ
  length : ℕ
  deriving DecidableEq, Repr

def Range.stop (r : Range) : ℕ := r.start + r.length

def Range.Contains (r : Range) (a : ℕ) : Prop := r.start ≤ a ∧ a < r.stop

def Range.Disjoint (r s : Range) : Prop := ∀ a, r.Contains a → ¬ s.Contains a

/-- Every range stops at or below the mark. -/
def Below (mark : ℕ) (rs : List Range) : Prop := ∀ r ∈ rs, r.stop ≤ mark

variable {r s : Range} {rs : List Range} {mark n : ℕ}

theorem Range.Disjoint.symm (h : r.Disjoint s) : s.Disjoint r := by
  intro a hs hr
  exact h a hr hs

theorem Range.disjoint_of_stop_le (h : r.stop ≤ s.start) : r.Disjoint s := by
  rintro a ⟨_, hr⟩ ⟨hs, _⟩
  omega

theorem Below.cons (h : Below mark rs) : Below (mark + n) (⟨mark, n⟩ :: rs) := by
  intro r hr
  rcases List.mem_cons.mp hr with rfl | hr
  · exact Nat.le_refl _
  · exact Nat.le_trans (h r hr) (Nat.le_add_right _ _)

/-- The range that starts at the mark is disjoint from those below it. -/
theorem Below.pairwise_cons (h : Below mark rs) (hrs : rs.Pairwise Range.Disjoint) :
    (⟨mark, n⟩ :: rs).Pairwise Range.Disjoint := by
  rw [List.pairwise_cons]
  constructor
  · intro r hr
    exact (Range.disjoint_of_stop_le (h r hr)).symm
  · exact hrs

theorem Below.subset {rs' : List Range} (h : Below mark rs) (hsub : rs' ⊆ rs) : Below mark rs' := by
  intro r hr
  exact h r (hsub hr)

theorem rel_last_insertionSort {α : Type*} {le : α → α → Prop} [DecidableRel le] [Std.Total le]
    [IsTrans α le] {xs : List α} {a m : α} (ha : a ∈ xs)
    (hm : (xs.insertionSort le).getLast? = some m) : le a m := by
  have hmem : a ∈ xs.insertionSort le := (List.mem_insertionSort _).mpr ha
  have hle := (List.pairwise_insertionSort le xs).rel_getLast hmem
  rw [List.getLast?_eq_some_getLast (List.ne_nil_of_mem hmem), Option.some.injEq] at hm
  rwa [hm] at hle

end AddressRanges
