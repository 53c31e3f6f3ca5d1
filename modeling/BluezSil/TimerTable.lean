import Mathlib.Data.List.Nodup
import Mathlib.Logic.Function.Basic
import Mathlib.Tactic.Common

/-!
# Tables of one-shot timers

Each key has at most one timer, known by the id of its source; zero stands for none. The
table is right when the live sources are those it holds and no two keys hold the same
one. Disarming a key and arming it with a fresh source keep the table right.
-/

namespace TimerTable

/-- The live sources are the non-zero entries, one for each key. -/
structure Matched {K : Type*} (live : List ℕ) (armed : K → ℕ) : Prop where
  nodup : live.Nodup
  mem_iff : ∀ n, n ∈ live ↔ n ≠ 0 ∧ ∃ k, armed k = n
  unique : ∀ k l, armed k = armed l → armed k ≠ 0 → k = l

section Matched

variable {K : Type*} {live : List ℕ} {armed : K → ℕ} {n : ℕ}

theorem Matched.zero_not_mem (h : Matched live armed) : 0 ∉ live := by
  intro hzero
  exact ((h.mem_iff 0).mp hzero).1 rfl

theorem matched_nil (h : ∀ k, armed k = 0) : Matched [] armed := by
  constructor
  · exact List.nodup_nil
  · intro n
    refine iff_of_false List.not_mem_nil ?_
    rintro ⟨hn, k, rfl⟩
    exact hn (h k)
  · intro k _ _ hk
    exact absurd (h k) hk

def removeSource (live : List ℕ) (source : ℕ) : List ℕ :=
  if source ≠ 0 then live.erase source else live

theorem mem_of_mem_removeSource {source : ℕ} (h : n ∈ removeSource live source) : n ∈ live := by
  unfold removeSource at h
  split_ifs at h
  · exact List.mem_of_mem_erase h
  · exact h

variable [DecidableEq K] {k : K}

theorem Matched.disarm (h : Matched live armed) (k : K) :
    Matched (removeSource live (armed k)) (Function.update armed k 0) := by
  have hlive : removeSource live (armed k) = live.erase (armed k) := by
    unfold removeSource
    split_ifs with hk
    · rfl
    · rw [not_not.mp hk, List.erase_of_not_mem h.zero_not_mem]
  rw [hlive]
  constructor
  · exact h.nodup.erase _
  · intro n
    rw [h.nodup.mem_erase_iff, h.mem_iff]
    constructor
    · rintro ⟨hne, hn, l, rfl⟩
      have hlk : l ≠ k := by
        rintro rfl
        exact hne rfl
      exact ⟨hn, l, Function.update_of_ne hlk _ _⟩
    · rintro ⟨hn, l, hl⟩
      have hlk : l ≠ k := by
        rintro rfl
        rw [Function.update_self] at hl
        exact hn hl.symm
      rw [Function.update_of_ne hlk] at hl
      refine ⟨?_, hn, l, hl⟩
      rintro rfl
      exact hlk (h.unique l k hl (hl ▸ hn))
  · intro a b hab ha
    have hak : a ≠ k := by
      rintro rfl
      exact ha (Function.update_self _ _ _)
    rw [Function.update_of_ne hak] at hab ha
    have hbk : b ≠ k := by
      rintro rfl
      rw [Function.update_self] at hab
      exact ha hab
    rw [Function.update_of_ne hbk] at hab
    exact h.unique a b hab ha

theorem Matched.arm (h : Matched live armed) (hk : armed k = 0) (hn : n ≠ 0) (hfresh : n ∉ live) :
    Matched (n :: live) (Function.update armed k n) := by
  have hnew : ∀ l, armed l ≠ n := by
    intro l hl
    exact hfresh ((h.mem_iff n).mpr ⟨hn, l, hl⟩)
  constructor
  · exact List.nodup_cons.mpr ⟨hfresh, h.nodup⟩
  · intro m
    rw [List.mem_cons, h.mem_iff]
    constructor
    · rintro (rfl | ⟨hm, l, rfl⟩)
      · exact ⟨hn, k, Function.update_self _ _ _⟩
      · have hlk : l ≠ k := by
          rintro rfl
          exact hm hk
        exact ⟨hm, l, Function.update_of_ne hlk _ _⟩
    · rintro ⟨hm, l, hl⟩
      by_cases hlk : l = k
      · rw [hlk, Function.update_self] at hl
        exact .inl hl.symm
      · rw [Function.update_of_ne hlk] at hl
        exact .inr ⟨hm, l, hl⟩
  · intro a b hab ha
    by_cases hak : a = k
    · by_cases hbk : b = k
      · rw [hak, hbk]
      · rw [hak, Function.update_self, Function.update_of_ne hbk] at hab
        exact absurd hab.symm (hnew b)
    · rw [Function.update_of_ne hak] at hab ha
      by_cases hbk : b = k
      · rw [hbk, Function.update_self] at hab
        exact absurd hab (hnew a)
      · rw [Function.update_of_ne hbk] at hab
        exact h.unique a b hab ha

end Matched

/-- The live sources, the source that comes next, and the entries. -/
structure Timers (K : Type*) where
  live : List ℕ
  next : ℕ
  armed : K → ℕ

namespace Timers

variable {K : Type*} {x y : Timers K}

/-- The entries and the live sources agree, and the source that comes next is a fresh one. -/
structure Right (x : Timers K) : Prop where
  matched : Matched x.live x.armed
  below : ∀ n ∈ x.live, n < x.next
  pos : 0 < x.next

structure Idle (x : Timers K) : Prop where
  live : x.live = []
  armed : ∀ k, x.armed k = 0

theorem Idle.matched (h : x.Idle) : Matched x.live x.armed := by
  rw [h.live]
  exact matched_nil h.armed

variable [DecidableEq K]

inductive Quiet (x y : Timers K) : Prop
  | keep : y = x → Quiet x y
  | disarm (k : K) : y.live = removeSource x.live (x.armed k) → y.next = x.next →
      y.armed = Function.update x.armed k 0 → Quiet x y

/-- The timer of a key, if it has one, is replaced by a fresh one. -/
structure Arms (x y : Timers K) (k : K) : Prop where
  live : y.live = x.next :: removeSource x.live (x.armed k)
  next : y.next = x.next + 1
  armed : y.armed = Function.update x.armed k x.next

theorem Quiet.next_eq (hs : Quiet x y) : y.next = x.next := by
  cases hs with
  | keep heq => rw [heq]
  | disarm _ _ hnext _ => exact hnext

theorem Right.quiet (h : x.Right) (hs : Quiet x y) : y.Right := by
  cases hs with
  | keep heq => exact heq ▸ h
  | disarm k hlive hnext harmed =>
      constructor
      · rw [hlive, harmed]
        exact h.matched.disarm k
      · intro n hn
        rw [hlive] at hn
        rw [hnext]
        exact h.below n (mem_of_mem_removeSource hn)
      · rw [hnext]
        exact h.pos

theorem Right.arms {k : K} (h : x.Right) (hs : Arms x y k) : y.Right := by
  have hfresh : x.next ∉ removeSource x.live (x.armed k) := by
    intro hmem
    exact absurd (h.below _ (mem_of_mem_removeSource hmem)) (Nat.lt_irrefl _)
  constructor
  · have harm := (h.matched.disarm k).arm (Function.update_self k 0 x.armed)
      (Nat.pos_iff_ne_zero.mp h.pos) hfresh
    rw [Function.update_idem] at harm
    rw [hs.live, hs.armed]
    exact harm
  · intro n hn
    rw [hs.live] at hn
    rw [hs.next]
    rcases List.mem_cons.mp hn with rfl | hn
    · exact Nat.lt_succ_self _
    · exact Nat.lt_succ_of_lt (h.below n (mem_of_mem_removeSource hn))
  · rw [hs.next]
    exact Nat.succ_pos _

theorem Idle.quiet (h : x.Idle) (hs : Quiet x y) : y.Idle := by
  cases hs with
  | keep heq => exact heq ▸ h
  | disarm k hlive _ harmed =>
      constructor
      · rw [hlive, h.armed k, h.live]
        rfl
      · intro l
        rw [harmed]
        by_cases hlk : l = k
        · rw [hlk, Function.update_self]
        · rw [Function.update_of_ne hlk, h.armed l]

end Timers

end TimerTable
