import Mathlib.Data.List.AList
import Mathlib.Tactic.Common

/-!
# Maps with one entry for each key

A map keeps its entries in the order in which an iteration meets them. An insertion
that finds the key leaves the map as it is, so the entry made first stays until it
is erased.
-/

abbrev KeyedMap (K V : Type*) := AList (fun _ : K => V)

namespace KeyedMap

variable {K V W : Type*} [DecidableEq K] {m : KeyedMap K V} {n : KeyedMap K W}
variable {k a : K} {v b : V} {w : W} {R : V → W → Prop}

/-- Enters `v` under `k` unless `k` has an entry. -/
def emplace (m : KeyedMap K V) (k : K) (v : V) : KeyedMap K V :=
  if k ∈ m then m else m.insert k v

def values (m : KeyedMap K V) : List V := m.entries.map Sigma.snd

theorem mem_values_iff : v ∈ m.values ↔ ∃ k, m.lookup k = some v := by
  unfold values
  rw [List.mem_map]
  constructor
  · rintro ⟨⟨k, w⟩, hmem, rfl⟩
    exact ⟨k, AList.mem_lookup_iff.mpr hmem⟩
  · rintro ⟨k, hk⟩
    exact ⟨⟨k, v⟩, AList.mem_lookup_iff.mp hk, rfl⟩

theorem lookup_emplace (m : KeyedMap K V) (k a : K) (v : V) :
    (m.emplace k v).lookup a = if a = k then some ((m.lookup k).getD v) else m.lookup a := by
  unfold emplace
  by_cases hk : k ∈ m
  · obtain ⟨w, hw⟩ := Option.isSome_iff_exists.mp (AList.lookup_isSome.mpr hk)
    rw [if_pos hk, hw, Option.getD_some]
    split_ifs with ha
    · rw [ha, hw]
    · rfl
  · rw [if_neg hk, AList.lookup_eq_none.mpr hk, Option.getD_none]
    split_ifs with ha
    · rw [ha, AList.lookup_insert]
    · exact AList.lookup_insert_ne ha

theorem lookup_emplace_self (h : k ∉ m) : (m.emplace k v).lookup k = some v := by
  rw [lookup_emplace, if_pos rfl, AList.lookup_eq_none.mpr h, Option.getD_none]

theorem lookup_emplace_of_some (h : m.lookup a = some b) :
    (m.emplace k v).lookup a = some b := by
  rw [lookup_emplace]
  split_ifs with ha
  · rw [← ha, h, Option.getD_some]
  · exact h

theorem lookup_insert_cases (h : (m.insert k v).lookup a = some b) :
    a = k ∧ b = v ∨ a ≠ k ∧ m.lookup a = some b := by
  by_cases hne : a = k
  · rw [hne, AList.lookup_insert] at h
    exact .inl ⟨hne, (Option.some.inj h).symm⟩
  · rw [AList.lookup_insert_ne hne] at h
    exact .inr ⟨hne, h⟩

theorem lookup_emplace_cases (h : (m.emplace k v).lookup a = some b) :
    m.lookup a = some b ∨ a = k ∧ b = v := by
  unfold emplace at h
  split_ifs at h with hk
  · exact .inl h
  · rcases lookup_insert_cases h with hnew | ⟨_, hold⟩
    · exact .inr hnew
    · exact .inl hold

theorem mem_emplace : a ∈ m.emplace k v ↔ a ∈ m ∨ a = k := by
  unfold emplace
  split_ifs with hk
  · exact ⟨Or.inl, fun h => h.elim id fun ha => ha ▸ hk⟩
  · rw [AList.mem_insert]
    exact or_comm

theorem mem_of_lookup (h : m.lookup a = some b) : a ∈ m :=
  AList.lookup_isSome.mp (by rw [h]; rfl)

theorem exists_lookup (h : a ∈ m) : ∃ b, m.lookup a = some b :=
  Option.isSome_iff_exists.mp (AList.lookup_isSome.mpr h)

theorem lookup_erase_some (h : (m.erase k).lookup a = some b) :
    a ≠ k ∧ m.lookup a = some b := by
  have hne : a ≠ k := by
    rintro rfl
    rw [AList.lookup_erase] at h
    cases h
  rw [AList.lookup_erase_ne hne] at h
  exact ⟨hne, h⟩

theorem lookup_erase_eq_some : (m.erase k).lookup a = some b ↔ a ≠ k ∧ m.lookup a = some b := by
  constructor
  · exact lookup_erase_some
  · rintro ⟨hne, h⟩
    rw [AList.lookup_erase_ne hne, h]

/-- The values under some keys are the value under the first of them and those that are left
under the others without it. -/
theorem lookup_mem_cons_iff (h : m.lookup k = some v) (ks : List K) (b : V) :
    (∃ a ∈ k :: ks, m.lookup a = some b) ↔ b = v ∨ ∃ a ∈ ks, (m.erase k).lookup a = some b := by
  constructor
  · rintro ⟨a, ha, hb⟩
    by_cases hak : a = k
    · rw [hak, h, Option.some.injEq] at hb
      exact .inl hb.symm
    · rw [← AList.lookup_erase_ne hak] at hb
      exact .inr ⟨a, (List.mem_cons.mp ha).resolve_left hak, hb⟩
  · rintro (rfl | ⟨a, ha, hb⟩)
    · exact ⟨k, List.mem_cons_self, h⟩
    · exact ⟨a, List.mem_cons_of_mem _ ha, (lookup_erase_some hb).2⟩

theorem lookup_foldl_some {α : Type*} {f : KeyedMap K V → α → KeyedMap K V}
    (hf : ∀ m x, (f m x).lookup a = some b → m.lookup a = some b) (xs : List α)
    (h : (xs.foldl f m).lookup a = some b) : m.lookup a = some b := by
  induction xs generalizing m with
  | nil => exact h
  | cons x xs ih => exact hf m x (ih h)

def modify (m : KeyedMap K V) (k : K) (f : V → V) : KeyedMap K V :=
  match m.lookup k with
  | some v => m.insert k (f v)
  | none => m

theorem lookup_modify_self (m : KeyedMap K V) (k : K) (f : V → V) :
    (m.modify k f).lookup k = (m.lookup k).map f := by
  unfold modify
  cases h : m.lookup k with
  | none => rw [h, Option.map_none]
  | some v => rw [AList.lookup_insert, Option.map_some]

theorem lookup_modify_ne {f : V → V} (h : a ≠ k) : (m.modify k f).lookup a = m.lookup a := by
  unfold modify
  cases m.lookup k with
  | none => rfl
  | some v => exact AList.lookup_insert_ne h

theorem mem_modify {f : V → V} : a ∈ m.modify k f ↔ a ∈ m := by
  rw [← AList.lookup_isSome, ← AList.lookup_isSome]
  by_cases h : a = k
  · rw [h, lookup_modify_self, Option.isSome_map]
  · rw [lookup_modify_ne h]

theorem lookup_foldl_modify {f : K → V → V} (ks : List K) (hks : ks.Nodup) (m : KeyedMap K V)
    (a : K) :
    (ks.foldl (fun m k => m.modify k (f k)) m).lookup a =
      if a ∈ ks then (m.lookup a).map (f a) else m.lookup a := by
  induction ks generalizing m with
  | nil => simp
  | cons k ks ih =>
      obtain ⟨hk, hks⟩ := List.nodup_cons.mp hks
      rw [List.foldl_cons, ih hks]
      by_cases ha : a = k
      · subst ha
        simp [hk, lookup_modify_self]
      · rw [lookup_modify_ne ha]
        simp [ha]

section Nested

variable {G : Type*} [DecidableEq G]

/-- The entry of `k` in the map filed under `g`. -/
def lookupIn (m : KeyedMap G (KeyedMap K V)) (g : G) (k : K) : Option V :=
  (m.lookup g).bind fun inner => inner.lookup k

/-- Enters `v` under `k` in the map filed under `g`, which is made if there is none. -/
def emplaceIn (m : KeyedMap G (KeyedMap K V)) (g : G) (k : K) (v : V) :
    KeyedMap G (KeyedMap K V) :=
  m.insert g (((m.lookup g).getD ∅).emplace k v)

theorem lookupIn_eq_some {m : KeyedMap G (KeyedMap K V)} {g : G} :
    m.lookupIn g k = some v ↔ ∃ inner, m.lookup g = some inner ∧ inner.lookup k = some v := by
  rw [lookupIn, Option.bind_eq_some_iff]

theorem lookupIn_emplaceIn_self (m : KeyedMap G (KeyedMap K V)) (g : G) (k : K) (v : V) :
    (m.emplaceIn g k v).lookupIn g k = some ((m.lookupIn g k).getD v) := by
  have hlookup : ((m.lookup g).getD ∅).lookup k = m.lookupIn g k := by
    unfold lookupIn
    cases m.lookup g with
    | none => exact AList.lookup_empty k
    | some inner => rfl
  rw [lookupIn, emplaceIn, AList.lookup_insert, Option.bind_some, ← hlookup]
  cases h : ((m.lookup g).getD ∅).lookup k with
  | none => exact lookup_emplace_self (mt exists_lookup (by simp [h]))
  | some w => exact lookup_emplace_of_some h

theorem lookupIn_emplaceIn_ne {m : KeyedMap G (KeyedMap K V)} {g g' : G}
    (h : ¬ (g' = g ∧ a = k)) : (m.emplaceIn g k v).lookupIn g' a = m.lookupIn g' a := by
  unfold lookupIn emplaceIn
  by_cases hg : g' = g
  · subst hg
    have ha : a ≠ k := fun he => h ⟨rfl, he⟩
    rw [AList.lookup_insert, Option.bind_some, emplace]
    cases m.lookup g' with
    | none =>
        rw [Option.getD_none, if_neg (AList.notMem_empty k), AList.lookup_insert_ne ha]
        exact AList.lookup_empty a
    | some inner =>
        rw [Option.getD_some]
        split_ifs
        · rfl
        · exact AList.lookup_insert_ne ha
  · rw [AList.lookup_insert_ne hg]

theorem lookupIn_emplaceIn_eq_none {m : KeyedMap G (KeyedMap K V)} {g g' : G} :
    (m.emplaceIn g k v).lookupIn g' a = none ↔ ¬ (g' = g ∧ a = k) ∧ m.lookupIn g' a = none := by
  by_cases hnew : g' = g ∧ a = k
  · obtain ⟨rfl, rfl⟩ := hnew
    simp [lookupIn_emplaceIn_self]
  · simp [lookupIn_emplaceIn_ne hnew, hnew]

theorem lookupIn_emplaceIn_cases {m : KeyedMap G (KeyedMap K V)} {g g' : G}
    (h : (m.emplaceIn g k v).lookupIn g' a = some b) :
    m.lookupIn g' a = some b ∨ g' = g ∧ a = k ∧ b = v := by
  by_cases hnew : g' = g ∧ a = k
  · obtain ⟨rfl, rfl⟩ := hnew
    rw [lookupIn_emplaceIn_self, Option.some.injEq] at h
    cases hold : m.lookupIn g' a with
    | none =>
        rw [hold, Option.getD_none] at h
        exact .inr ⟨rfl, rfl, h.symm⟩
    | some w =>
        rw [hold, Option.getD_some] at h
        exact .inl (congrArg some h)
  · rw [lookupIn_emplaceIn_ne hnew] at h
    exact .inl h

end Nested

def mapValues (f : V → W) (m : KeyedMap K V) : KeyedMap K W where
  entries := m.entries.map fun e => ⟨e.1, f e.2⟩
  nodupKeys := by
    have hkeys : (m.entries.map fun e => (⟨e.1, f e.2⟩ : Sigma fun _ : K => W)).keys =
        m.entries.keys := by
      rw [List.keys, List.map_map]
      rfl
    rw [List.NodupKeys, hkeys]
    exact m.nodupKeys

theorem lookup_mapValues (f : V → W) (m : KeyedMap K V) (k : K) :
    (m.mapValues f).lookup k = (m.lookup k).map f := by
  have hentries : ∀ es : List (Sigma fun _ : K => V),
      List.dlookup k (es.map fun e => (⟨e.1, f e.2⟩ : Sigma fun _ : K => W)) =
        (List.dlookup k es).map f := by
    intro es
    induction es with
    | nil => rfl
    | cons e es ih =>
        obtain ⟨a, v⟩ := e
        rw [List.map_cons]
        by_cases h : k = a
        · subst h
          rw [List.dlookup_cons_eq, List.dlookup_cons_eq, Option.map_some]
        · rw [List.dlookup_cons_ne _ _ h, List.dlookup_cons_ne _ _ h, ih]
  exact hentries m.entries

theorem mem_mapValues {f : V → W} : a ∈ m.mapValues f ↔ a ∈ m := by
  rw [← AList.lookup_isSome, ← AList.lookup_isSome, lookup_mapValues, Option.isSome_map]

/-- The maps have the same keys, with related values. -/
def Paired (R : V → W → Prop) (m : KeyedMap K V) (n : KeyedMap K W) : Prop :=
  ∀ k, Option.Rel R (m.lookup k) (n.lookup k)

theorem Paired.mem_iff (h : Paired R m n) : k ∈ m ↔ k ∈ n := by
  have hrel := h k
  rw [← AList.lookup_isSome, ← AList.lookup_isSome]
  generalize AList.lookup k m = x at hrel ⊢
  generalize AList.lookup k n = y at hrel ⊢
  cases hrel with
  | some _ => rfl
  | none => rfl

theorem Paired.emplace (h : Paired R m n) (hvw : R v w) :
    Paired R (m.emplace k v) (n.emplace k w) := by
  intro a
  unfold KeyedMap.emplace
  by_cases hk : k ∈ m
  · rw [if_pos hk, if_pos (h.mem_iff.mp hk)]
    exact h a
  · rw [if_neg hk, if_neg (mt h.mem_iff.mpr hk)]
    by_cases ha : a = k
    · subst ha
      rw [AList.lookup_insert, AList.lookup_insert]
      exact .some hvw
    · rw [AList.lookup_insert_ne ha, AList.lookup_insert_ne ha]
      exact h a

theorem Paired.erase (h : Paired R m n) (k : K) : Paired R (m.erase k) (n.erase k) := by
  intro a
  by_cases ha : a = k
  · subst ha
    rw [AList.lookup_erase, AList.lookup_erase]
    exact .none
  · rw [AList.lookup_erase_ne ha, AList.lookup_erase_ne ha]
    exact h a

theorem Paired.exists_value (h : Paired R m n) (hv : v ∈ m.values) : ∃ w ∈ n.values, R v w := by
  obtain ⟨k, hk⟩ := mem_values_iff.mp hv
  have hrel := h k
  rw [hk] at hrel
  cases hn : n.lookup k with
  | none =>
      rw [hn] at hrel
      cases hrel
  | some w =>
      rw [hn] at hrel
      cases hrel with
      | some hvw => exact ⟨w, mem_values_iff.mpr ⟨k, hn⟩, hvw⟩

theorem mem_values_emplace (h : b ∈ (m.emplace k v).values) : b ∈ m.values ∨ b = v := by
  obtain ⟨a, ha⟩ := mem_values_iff.mp h
  rcases lookup_emplace_cases ha with hold | ⟨_, hnew⟩
  · exact .inl (mem_values_iff.mpr ⟨a, hold⟩)
  · exact .inr hnew

theorem mem_values_of_mem_erase (h : b ∈ (KeyedMap.values (m.erase k))) : b ∈ m.values := by
  obtain ⟨a, ha⟩ := mem_values_iff.mp h
  exact mem_values_iff.mpr ⟨a, (lookup_erase_some ha).2⟩

/-- In `final` the change from `before` to `after` is undone and the changes made from there
to `mid` stand: an entry nobody has changed since is as it was before. -/
def Undone [DecidableEq V] (before after mid final : KeyedMap K V) : Prop :=
  ∀ k, final.lookup k =
    if mid.lookup k = after.lookup k then before.lookup k else mid.lookup k

/-- The insertion of a new value is undone by doing nothing if and only if the value has
been taken out or replaced. -/
theorem undone_insert_iff [DecidableEq V] {n : KeyedMap K V} (h : m.lookup k ≠ some v) :
    Undone m (m.insert k v) n n ↔ n.lookup k ≠ some v := by
  unfold Undone
  constructor
  · intro hundone hk
    have hself := hundone k
    rw [AList.lookup_insert, if_pos hk, hk] at hself
    exact h hself.symm
  · intro hk a
    by_cases ha : a = k
    · subst ha
      rw [AList.lookup_insert, if_neg hk]
    · rw [AList.lookup_insert_ne ha]
      split_ifs with heq
      · exact heq
      · rfl

end KeyedMap
