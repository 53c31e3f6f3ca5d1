import Mathlib.Data.List.Flatten
import Mathlib.Tactic.Common

/-!
# Streams told in pieces between marks

A log has pieces of several streams and marks, latest first, each with a key. What has been
told of a key is made up of the pieces since the last mark of the key.
-/

namespace MarkedStream

inductive Entry (K A : Type*)
  | mark (k : K)
  | piece (k : K) (items : List A)

variable {K A : Type*} [DecidableEq K] {k j : K} {log : List (Entry K A)}

/-- What has been told of `k` since its last mark. -/
def told (k : K) : List (Entry K A) → List A
  | [] => []
  | .mark j :: log => if j = k then [] else told k log
  | .piece j items :: log => if j = k then told k log ++ items else told k log

theorem told_mark_self : told k (.mark k :: log) = [] := if_pos rfl

theorem told_mark_ne (h : j ≠ k) : told k (.mark j :: log) = told k log := if_neg h

theorem told_pieces_self (pieces : List (List A)) :
    told k ((pieces.map (.piece k)).reverse ++ log) = told k log ++ pieces.flatten := by
  induction pieces generalizing log with
  | nil => simp
  | cons items pieces ih =>
      rw [List.map_cons, List.reverse_cons, List.append_assoc, List.singleton_append, ih, told,
        if_pos rfl, List.flatten_cons, List.append_assoc]

theorem told_pieces_ne (h : j ≠ k) (pieces : List (List A)) :
    told k ((pieces.map (.piece j)).reverse ++ log) = told k log := by
  induction pieces generalizing log with
  | nil => rfl
  | cons items pieces ih =>
      rw [List.map_cons, List.reverse_cons, List.append_assoc, List.singleton_append, ih, told,
        if_neg h]

end MarkedStream
