import Mathlib.Tactic.Common

/-!
# Machines, their runs, and invariants of runs

A machine has an initial state and a step function that refuses an event by
`none`. `ReachWith G` are the states reached by steps that all meet the condition
`G` on the event and the state before it; `Reach` puts no condition. An invariant
is established once and then read off every reached state.
-/

namespace TransitionRun

structure Machine (S E : Type*) where
  init : S
  step : S → E → Option S

namespace Machine

variable {S E : Type*} (M : Machine S E)

/-- The states reached by steps that all meet `G`. -/
inductive ReachWith (G : S → E → Prop) : S → Prop
  | init : ReachWith G M.init
  | step {s t : S} {e : E} : ReachWith G s → G s e → M.step s e = some t → ReachWith G t

def Reach : S → Prop := M.ReachWith (fun _ _ => True)

/-- The state after the listed events, if none of them is refused. -/
def run (s : S) : List E → Option S
  | [] => some s
  | e :: es => (M.step s e).bind (fun t => run t es)

def runWith (G : S → E → Prop) [DecidableRel G] (s : S) : List E → Option S
  | [] => some s
  | e :: es => if G s e then (M.step s e).bind (fun t => runWith G t es) else none

variable {M} {G : S → E → Prop}

theorem ReachWith.invariant {P : S → Prop} (hinit : P M.init)
    (hstep : ∀ s e t, P s → G s e → M.step s e = some t → P t) {s : S}
    (h : M.ReachWith G s) : P s := by
  induction h with
  | init => exact hinit
  | step _ hg hs ih => exact hstep _ _ _ ih hg hs

/-- Where steps keep `P` exactly if they meet the condition, and `Q` if they keep `P`, the states
reached under the condition satisfy `P`, and the condition is exact for the steps from them. -/
theorem ReachWith.invariant_iff_of {P Q : S → Prop} (hP : P M.init) (hQ : Q M.init)
    (hstep : ∀ s e t, P s → Q s → M.step s e = some t → (P t ↔ G s e) ∧ (P t → Q t))
    {s : S} (h : M.ReachWith G s) : P s ∧ ∀ e t, M.step s e = some t → (P t ↔ G s e) := by
  have hboth : P s ∧ Q s := by
    refine h.invariant (P := fun s => P s ∧ Q s) ⟨hP, hQ⟩ ?_
    rintro s e t ⟨hp, hq⟩ hg hs
    obtain ⟨hiff, hkept⟩ := hstep s e t hp hq hs
    exact ⟨hiff.mpr hg, hkept (hiff.mpr hg)⟩
  exact ⟨hboth.1, fun e t hs => (hstep s e t hboth.1 hboth.2 hs).1⟩

theorem ReachWith.invariant_iff {P : S → Prop} (hP : P M.init)
    (hstep : ∀ s e t, P s → M.step s e = some t → (P t ↔ G s e))
    {s : S} (h : M.ReachWith G s) : P s ∧ ∀ e t, M.step s e = some t → (P t ↔ G s e) :=
  h.invariant_iff_of (Q := fun _ => True) hP trivial
    fun s e t hp _ hs => ⟨hstep s e t hp hs, fun _ => trivial⟩

theorem reachWith_of_run {s t : S} (es : List E) (hG : ∀ e ∈ es, ∀ s, G s e)
    (h : M.ReachWith G s) (hrun : M.run s es = some t) : M.ReachWith G t := by
  induction es generalizing s with
  | nil =>
      cases hrun
      exact h
  | cons e es ih =>
      cases hs : M.step s e with
      | none => simp [run, hs] at hrun
      | some u =>
          have hrest : M.run u es = some t := by simpa [run, hs] using hrun
          exact ih (fun e' he' => hG e' (List.mem_cons_of_mem _ he'))
            (.step h (hG e List.mem_cons_self s) hs) hrest

theorem reach_of_run {t : S} (es : List E) (hrun : M.run M.init es = some t) : M.Reach t :=
  reachWith_of_run es (fun _ _ _ => trivial) ReachWith.init hrun

/-- Where what holds after `n` steps can always be carried one step further, it is reached for
every `n`. -/
theorem exists_reach {P : ℕ → S → Prop} (hinit : P 0 M.init)
    (hstep : ∀ n s, P n s → ∃ e t, M.step s e = some t ∧ P (n + 1) t) (n : ℕ) :
    ∃ s, M.Reach s ∧ P n s := by
  induction n with
  | zero => exact ⟨M.init, .init, hinit⟩
  | succ n ih =>
      obtain ⟨s, hreach, hs⟩ := ih
      obtain ⟨e, t, ht, hP⟩ := hstep n s hs
      exact ⟨t, .step hreach trivial ht, hP⟩

theorem reachWith_of_runWith [DecidableRel G] {s t : S} (es : List E) (h : M.ReachWith G s)
    (hrun : M.runWith G s es = some t) : M.ReachWith G t := by
  induction es generalizing s with
  | nil =>
      cases hrun
      exact h
  | cons e es ih =>
      unfold runWith at hrun
      split_ifs at hrun with hg
      cases hs : M.step s e with
      | none => simp [hs] at hrun
      | some u => exact ih (.step h hg hs) (by simpa [hs] using hrun)

/-- A run whose steps all meet `G`, seen through `view`: where the events that are kept step
another machine and the others leave the view alone, the view has run on those kept. -/
theorem run_filter_of_runWith [DecidableRel G] {T : Type*} {N : Machine T E} (view : S → T)
    (keep : E → Bool) (P : S → Prop)
    (hstep : ∀ s e t, P s → G s e → M.step s e = some t →
      P t ∧ (keep e = true → N.step (view s) e = some (view t)) ∧
        (keep e = false → view t = view s))
    {s t : S} (es : List E) (hs : P s) (hrun : M.runWith G s es = some t) :
    N.run (view s) (es.filter keep) = some (view t) := by
  induction es generalizing s with
  | nil =>
      cases hrun
      rfl
  | cons e es ih =>
      unfold runWith at hrun
      split_ifs at hrun with hg
      cases hu : M.step s e with
      | none => simp [hu] at hrun
      | some u =>
          obtain ⟨hP, hkept, hother⟩ := hstep s e u hs hg hu
          have hrest := ih hP (by simpa [hu] using hrun)
          cases hk : keep e with
          | true =>
              rw [List.filter_cons_of_pos hk, run, hkept hk]
              exact hrest
          | false =>
              rw [List.filter_cons_of_neg (by rw [hk]; exact Bool.false_ne_true), ← hother hk]
              exact hrest

end Machine

end TransitionRun
