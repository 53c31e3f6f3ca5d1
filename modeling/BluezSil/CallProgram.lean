import Mathlib.Tactic.Common

/-!
# Programs that make calls, and the traces of their runs

A program ends with a value or makes a call and goes on with the answer. A run
lists the calls made, each with its answer. Runs of a sequence are the runs of its
parts one after the other, and what has been run so far can always be completed.
-/

namespace CallProgram

/-- Programs over the calls `C`; a call `c` is answered by an `R c`. -/
inductive Program (C : Type) (R : C → Type) (α : Type)
  | pure (a : α)
  | call (c : C) (next : R c → Program C R α)

abbrev Answered {C : Type} (R : C → Type) := (c : C) × R c

namespace Program

variable {C : Type} {R : C → Type} {α β : Type}

protected def bind : Program C R α → (α → Program C R β) → Program C R β
  | .pure a, f => f a
  | .call c next, f => .call c fun r => (next r).bind f

instance : Monad (Program C R) where
  pure := Program.pure
  bind := Program.bind

def perform (c : C) : Program C R (R c) := .call c .pure

/-- The statement `for (auto x : xs) f(x)`. -/
def forEach : List β → (β → Program C R Unit) → Program C R Unit
  | [], _ => .pure ()
  | x :: xs, f => do
    f x
    forEach xs f

/-- The complete runs of a program, with the calls made and the value returned. -/
inductive Run : Program C R α → List (Answered R) → α → Prop
  | pure (a : α) : Run (.pure a) [] a
  | call {c : C} {next : R c → Program C R α} {r : R c} {t : List (Answered R)} {a : α} :
      Run (next r) t a → Run (.call c next) (⟨c, r⟩ :: t) a

def Calls (P : C → Prop) : Program C R α → Prop
  | .pure _ => True
  | .call c next => P c ∧ ∀ r, Calls P (next r)

/-- What is left of a program after the listed calls. -/
inductive Steps : Program C R α → List (Answered R) → Program C R α → Prop
  | refl (p : Program C R α) : Steps p [] p
  | call {c : C} {next : R c → Program C R α} {r : R c} {t : List (Answered R)}
      {q : Program C R α} : Steps (next r) t q → Steps (.call c next) (⟨c, r⟩ :: t) q

variable {p q : Program C R α} {f : α → Program C R β} {t s : List (Answered R)} {a : α} {b : β}

theorem run_pure_iff {a' : α} : Run (Pure.pure a : Program C R α) t a' ↔ t = [] ∧ a' = a := by
  constructor
  · intro h
    cases h
    exact ⟨rfl, rfl⟩
  · rintro ⟨rfl, rfl⟩
    exact Run.pure _

theorem run_call_iff {c : C} {next : R c → Program C R α} :
    Run (.call c next) t a ↔ ∃ r t', t = ⟨c, r⟩ :: t' ∧ Run (next r) t' a := by
  constructor
  · intro h
    cases h with
    | call h => exact ⟨_, _, rfl, h⟩
  · rintro ⟨r, t', rfl, h⟩
    exact Run.call h

theorem run_bind_iff :
    Run (p >>= f) t b ↔ ∃ t₁ t₂ a, t = t₁ ++ t₂ ∧ Run p t₁ a ∧ Run (f a) t₂ b := by
  induction p generalizing t with
  | pure a =>
      constructor
      · intro h
        exact ⟨[], t, a, rfl, Run.pure a, h⟩
      · rintro ⟨t₁, t₂, a', rfl, hp, hf⟩
        cases hp
        exact hf
  | call c next ih =>
      constructor
      · intro h
        obtain ⟨r, t', rfl, hrest⟩ := run_call_iff.mp h
        obtain ⟨t₁, t₂, a, rfl, hp, hf⟩ := (ih r).mp hrest
        exact ⟨⟨c, r⟩ :: t₁, t₂, a, rfl, Run.call hp, hf⟩
      · rintro ⟨t₁, t₂, a, rfl, hp, hf⟩
        obtain ⟨r, t', rfl, hrest⟩ := run_call_iff.mp hp
        exact Run.call ((ih r).mpr ⟨t', t₂, a, rfl, hrest, hf⟩)

theorem run_perform_iff {c : C} {r : R c} : Run (perform c) t r ↔ t = [⟨c, r⟩] := by
  constructor
  · intro h
    obtain ⟨r', t', rfl, hrest⟩ := run_call_iff.mp h
    cases hrest
    rfl
  · rintro rfl
    exact Run.call (Run.pure r)

theorem run_perform_bind_iff {c : C} {f : R c → Program C R β} :
    Run (perform c >>= f) t b ↔ ∃ r t', t = ⟨c, r⟩ :: t' ∧ Run (f r) t' b := by
  rw [run_bind_iff]
  constructor
  · rintro ⟨t₁, t₂, r, rfl, hp, hf⟩
    obtain rfl := run_perform_iff.mp hp
    exact ⟨r, t₂, rfl, hf⟩
  · rintro ⟨r, t', rfl, hf⟩
    exact ⟨[⟨c, r⟩], t', r, rfl, run_perform_iff.mpr rfl, hf⟩

section Calls

variable {P : C → Prop}

theorem Calls.bind (hp : p.Calls P) (hf : ∀ a, (f a).Calls P) : (p >>= f).Calls P := by
  induction p with
  | pure a => exact hf a
  | call c next ih => exact ⟨hp.1, fun r => ih r (hp.2 r)⟩

theorem calls_pure (a : α) : (Pure.pure a : Program C R α).Calls P := trivial

theorem calls_perform {c : C} (hc : P c) : (perform c : Program C R (R c)).Calls P :=
  ⟨hc, fun _ => trivial⟩

theorem calls_forEach {xs : List β} {f : β → Program C R Unit} (hf : ∀ x, (f x).Calls P) :
    (forEach xs f).Calls P := by
  induction xs with
  | nil => trivial
  | cons x xs ih => exact (hf x).bind (fun _ => ih)

theorem Calls.run (hp : p.Calls P) (h : Run p t a) : ∀ e ∈ t, P e.1 := by
  induction h with
  | pure => exact fun e he => absurd he List.not_mem_nil
  | call _ ih =>
      intro e he
      rcases List.mem_cons.mp he with rfl | he
      · exact hp.1
      · exact ih (hp.2 _) e he

end Calls

theorem Steps.append {p' : Program C R α} (h : Steps p t q) (h' : Steps q s p') :
    Steps p (t ++ s) p' := by
  induction h with
  | refl => exact h'
  | call _ ih => exact Steps.call (ih h')

theorem Steps.run (h : Steps p t q) (hq : Run q s a) : Run p (t ++ s) a := by
  induction h with
  | refl => exact hq
  | call _ ih => exact Run.call (ih hq)

/-- The run in which every call is answered by `answer`. -/
def follow (answer : ∀ c, R c) : Program C R α → List (Answered R) × α
  | .pure a => ([], a)
  | .call c next =>
    let run := (next (answer c)).follow answer
    (⟨c, answer c⟩ :: run.1, run.2)

theorem run_follow (answer : ∀ c, R c) (p : Program C R α) :
    Run p (p.follow answer).1 (p.follow answer).2 := by
  induction p with
  | pure a => exact Run.pure a
  | call c next ih => exact Run.call (ih (answer c))

theorem follow_answers (answer : ∀ c, R c) (p : Program C R α) :
    ∀ e ∈ (p.follow answer).1, e.2 = answer e.1 := by
  induction p with
  | pure a => exact fun e he => absurd he List.not_mem_nil
  | call c next ih =>
      intro e he
      rcases List.mem_cons.mp he with rfl | he
      · rfl
      · exact ih (answer c) e he

end Program

end CallProgram
