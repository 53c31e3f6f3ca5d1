import Mathlib.Data.List.Basic
import Mathlib.Tactic.Common

/-!
# Searching in a text

The first occurrence of a text in another one, and the parts cut out at a position. A text
that does not contain the separator is not found across one, so that what stands before the
separator can be left out of a search.
-/

namespace TextSearch

variable {α : Type*} {sep c : α} {needle pre rest text : List α}

theorem prefix_of_prefix_append_cons (hsep : sep ∉ needle)
    (h : needle <+: pre ++ sep :: rest) : needle <+: pre := by
  by_cases hlength : needle.length ≤ pre.length
  · exact List.prefix_of_prefix_length_le h (List.prefix_append pre _) hlength
  · have hpre : pre ++ [sep] <+: pre ++ sep :: rest := by
      rw [List.prefix_append_right_inj]
      exact ⟨rest, rfl⟩
    have hmem := List.prefix_of_prefix_length_le hpre h (by simp; omega)
    exact absurd (hmem.subset (by simp)) hsep

variable [DecidableEq α]

/-- The position of the first occurrence of `needle`. -/
def find (needle : List α) : List α → Option ℕ
  | [] => if needle = [] then some 0 else none
  | c :: text => if needle <+: c :: text then some 0 else (find needle text).map (· + 1)

def findFrom (needle text : List α) (pos : ℕ) : Option ℕ :=
  (find needle (text.drop pos)).map (· + pos)

/-- `count` elements from `pos` on, or all of them. -/
def substr (text : List α) (pos : ℕ) : Option ℕ → List α
  | some count => (text.drop pos).take count
  | none => text.drop pos

def erase (text : List α) (pos : ℕ) : Option ℕ → List α
  | some count => text.take pos ++ text.drop (pos + count)
  | none => text.take pos

theorem find_of_prefix (h : needle <+: text) : find needle text = some 0 := by
  cases text with
  | nil => simp [find, List.prefix_nil.mp h]
  | cons c text => rw [find, if_pos h]

theorem find_eq_none_iff : find needle text = none ↔ ¬ needle <:+: text := by
  induction text with
  | nil => simp [find]
  | cons c text ih =>
      rw [find, List.infix_cons_iff]
      split_ifs with hbegins
      · simp [hbegins]
      · simp [hbegins, ih]

theorem find_append_cons (hne : needle ≠ []) (hsep : sep ∉ needle)
    (hpre : ¬ needle <:+: pre) :
    find needle (pre ++ sep :: rest) = (find needle rest).map (· + (pre.length + 1)) := by
  induction pre with
  | nil =>
      have hhead : ¬ needle <+: sep :: rest := by
        intro h
        have hnil : needle <+: [] := prefix_of_prefix_append_cons hsep h
        exact hne (List.prefix_nil.mp hnil)
      rw [List.nil_append, find, if_neg hhead]
      rfl
  | cons c pre ih =>
      rw [List.infix_cons_iff, not_or] at hpre
      have hhead : ¬ needle <+: c :: (pre ++ sep :: rest) := fun h =>
        hpre.1 (prefix_of_prefix_append_cons hsep h)
      rw [List.cons_append, find, if_neg hhead, ih hpre.2, Option.map_map]
      rfl

/-- A component that begins with `needle` is found where it begins, if nothing before it
contains `needle`. -/
theorem find_component (hsep : sep ∉ needle) (hne : needle ≠ [])
    (hpre : pre = [] ∨ ∃ before, pre = before ++ [sep]) (hbefore : ¬ needle <:+: pre)
    (hrest : needle <+: rest) : find needle (pre ++ rest) = some pre.length := by
  rcases hpre with rfl | ⟨before, rfl⟩
  · exact find_of_prefix hrest
  · have hpath : ¬ needle <:+: before := fun h =>
      hbefore (h.trans (List.prefix_append before [sep]).isInfix)
    rw [List.append_assoc, List.singleton_append, find_append_cons hne hsep hpath,
      find_of_prefix hrest]
    simp

theorem find_singleton_of_not_mem (h : c ∉ text) : find [c] text = none :=
  find_eq_none_iff.mpr fun hwithin => h (hwithin.subset List.mem_cons_self)

end TextSearch
