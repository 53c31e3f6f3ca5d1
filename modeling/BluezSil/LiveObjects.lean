import Mathlib.Data.List.Nodup
import Mathlib.Tactic.Common

/-!
# Live objects and the places they are stored at

Objects are handed out by their ids and stored at places, each with one id. The list of the
live ones has the place and the object of each. They are told apart if no two of them have
one id and each is stored at its place.
-/

namespace LiveObjects

variable {P I O : Type*} {ident : P → I} {Stored Stored' : P → O → Prop}
variable {live rest : List (P × O)} {p : P} {o : O}

def idents (ident : P → I) (live : List (P × O)) : List I := live.map fun e => ident e.1

/-- No live object shares its id, and each is stored at its place. -/
structure Apart (ident : P → I) (Stored : P → O → Prop) (live : List (P × O)) : Prop where
  nodup : (idents ident live).Nodup
  stored : ∀ e ∈ live, Stored e.1 e.2

theorem apart_nil : Apart ident Stored [] := ⟨List.nodup_nil, nofun⟩

theorem Apart.sublist (h : Apart ident Stored live) (hrest : rest.Sublist live)
    (hkept : ∀ e ∈ rest, Stored e.1 e.2 → Stored' e.1 e.2) : Apart ident Stored' rest where
  nodup := (hrest.map _).nodup h.nodup
  stored := fun e he => hkept e he (h.stored e (hrest.subset he))

/-- A new object keeps the live ones apart if and only if its id is not in use and it is
stored. -/
theorem apart_cons_iff (h : Apart ident Stored live)
    (hkept : ident p ∉ idents ident live → ∀ e ∈ live, Stored e.1 e.2 → Stored' e.1 e.2) :
    Apart ident Stored' ((p, o) :: live) ↔ ident p ∉ idents ident live ∧ Stored' p o := by
  constructor
  · rintro ⟨hnodup, hstored⟩
    exact ⟨(List.nodup_cons.mp hnodup).1, hstored (p, o) List.mem_cons_self⟩
  · rintro ⟨hnew, hp⟩
    refine ⟨List.nodup_cons.mpr ⟨hnew, h.nodup⟩, ?_⟩
    intro e he
    rcases List.mem_cons.mp he with rfl | he
    · exact hp
    · exact hkept hnew e he (h.stored e he)

theorem mem_idents (h : (p, o) ∈ live) : ident p ∈ idents ident live :=
  List.mem_map.mpr ⟨(p, o), h, rfl⟩

end LiveObjects
