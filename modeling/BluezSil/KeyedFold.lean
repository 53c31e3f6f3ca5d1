import Mathlib.Data.List.Nodup
import Mathlib.Data.List.Perm.Basic

/-!
# Keyed entries folded in any order

A list with one entry for each key is folded into a state. Where any two entries may
be swapped, and the entries of other keys leave it so, every order folds to the same
state. Conversely what no other key changes is read alike after any two of the
entries in both orders.
-/

namespace KeyedFold

variable {σ ε κ τ : Type*} {step : σ → ε → σ} {key : ε → κ} {Swaps : σ → ε → ε → Prop}
variable {l l' : List ε} {s : σ} {e e' : ε}

def OrderFree (step : σ → ε → σ) (s : σ) (l : List ε) : Prop :=
  ∀ l₁ l₂ : List ε, l₁.Perm l → l₂.Perm l → l₁.foldl step s = l₂.foldl step s

/-- Any two entries of the list may be swapped at `s`. -/
def AllSwap (key : ε → κ) (Swaps : σ → ε → ε → Prop) (s : σ) (l : List ε) : Prop :=
  ∀ e ∈ l, ∀ e' ∈ l, key e ≠ key e' → Swaps s e e'

structure SwapLaws (step : σ → ε → σ) (key : ε → κ) (Swaps : σ → ε → ε → Prop) : Prop where
  comm : ∀ s e e', key e ≠ key e' → Swaps s e e' → step (step s e) e' = step (step s e') e
  keep : ∀ s e e' r, key r ≠ key e → key r ≠ key e' → Swaps s e e' → Swaps (step s r) e e'

theorem AllSwap.of_perm (h : AllSwap key Swaps s l) (hperm : l.Perm l') :
    AllSwap key Swaps s l' :=
  fun e he e' he' => h e (hperm.mem_iff.mpr he) e' (hperm.mem_iff.mpr he')

namespace SwapLaws

variable (laws : SwapLaws step key Swaps)
include laws

theorem foldl_eq_of_perm (hperm : l.Perm l') (hkeys : (l.map key).Nodup)
    (h : AllSwap key Swaps s l) : l.foldl step s = l'.foldl step s := by
  induction hperm generalizing s with
  | nil => rfl
  | cons r _ ih =>
      rw [List.map_cons, List.nodup_cons] at hkeys
      rw [List.foldl_cons, List.foldl_cons]
      have hother {e : ε} (he : e ∈ _) : key r ≠ key e :=
        fun heq => hkeys.1 (heq ▸ List.mem_map_of_mem he)
      refine ih hkeys.2 fun e he e' he' hne => ?_
      exact laws.keep s e e' r (hother he) (hother he')
        (h e (List.mem_cons_of_mem _ he) e' (List.mem_cons_of_mem _ he') hne)
  | swap e e' rest =>
      rw [List.map_cons, List.map_cons, List.nodup_cons] at hkeys
      have hne : key e' ≠ key e := fun heq => hkeys.1 (heq ▸ List.mem_cons_self)
      have hswap := h e' List.mem_cons_self e (List.mem_cons_of_mem _ List.mem_cons_self) hne
      rw [List.foldl_cons, List.foldl_cons, List.foldl_cons, List.foldl_cons,
        laws.comm s e' e hne hswap]
  | trans hfirst _ ihfirst ihsecond =>
      have hkeys' := (hfirst.map key).nodup_iff.mp hkeys
      exact (ihfirst hkeys h).trans (ihsecond hkeys' (h.of_perm hfirst))

theorem orderFree (hkeys : (l.map key).Nodup) (h : AllSwap key Swaps s l) :
    OrderFree step s l := by
  intro l₁ l₂ h₁ h₂
  have hfold {l' : List ε} (hperm : l'.Perm l) : l'.foldl step s = l.foldl step s :=
    laws.foldl_eq_of_perm hperm ((hperm.map key).nodup_iff.mpr hkeys) (h.of_perm hperm.symm)
  rw [hfold h₁, hfold h₂]

end SwapLaws

theorem exists_perm_front (hkeys : (l.map key).Nodup) (he : e ∈ l) (he' : e' ∈ l)
    (hne : key e ≠ key e') :
    ∃ rest, (e :: e' :: rest).Perm l ∧ ∀ r ∈ rest, key r ≠ key e ∧ key r ≠ key e' := by
  obtain ⟨before, after, rfl⟩ := List.append_of_mem he
  have hmoved : (before ++ e :: after).Perm (e :: (before ++ after)) := List.perm_middle
  have hmem : e' ∈ before ++ after := by
    rcases List.mem_cons.mp (hmoved.mem_iff.mp he') with heq | hmem
    · exact absurd (congrArg key heq).symm hne
    · exact hmem
  obtain ⟨before', after', hsplit⟩ := List.append_of_mem hmem
  have hperm : (e :: e' :: (before' ++ after')).Perm (before ++ e :: after) := by
    refine (List.Perm.cons e ?_).trans hmoved.symm
    rw [hsplit]
    exact List.perm_middle.symm
  refine ⟨before' ++ after', hperm, fun r hr => ?_⟩
  have hfront := (hperm.map key).nodup_iff.mpr hkeys
  rw [List.map_cons, List.map_cons, List.nodup_cons, List.nodup_cons] at hfront
  have hkey : key r ∈ (before' ++ after').map key := List.mem_map_of_mem hr
  exact ⟨fun heq => hfront.1 (List.mem_cons_of_mem _ (heq ▸ hkey)),
    fun heq => hfront.2.1 (heq ▸ hkey)⟩

theorem OrderFree.read_eq {f : σ → τ} (h : OrderFree step s l) (hkeys : (l.map key).Nodup)
    (he : e ∈ l) (he' : e' ∈ l) (hne : key e ≠ key e')
    (hframe : ∀ t r, key r ≠ key e → key r ≠ key e' → f (step t r) = f t) :
    f (step (step s e) e') = f (step (step s e') e) := by
  obtain ⟨rest, hperm, hother⟩ := exists_perm_front hkeys he he' hne
  have hread (t : σ) : f (rest.foldl step t) = f t := by
    refine List.foldlRecOn (motive := fun u => f u = f t) rest step rfl fun u hu r hr => ?_
    rw [hframe u r (hother r hr).1 (hother r hr).2, hu]
  have hfold := h _ _ hperm ((List.Perm.swap e e' rest).trans hperm)
  calc f (step (step s e) e')
      = f ((e :: e' :: rest).foldl step s) := (hread _).symm
    _ = f ((e' :: e :: rest).foldl step s) := congrArg f hfold
    _ = f (step (step s e') e) := hread _

end KeyedFold
