import BluezSil.KeyedMap

/-!
# Objects made once, kept under a key, and deleted

An object is known by its pointer. A table keeps the pointer of an object under a key, and
an insertion that finds the key leaves the table as it is. While an object is made only for
a key that is free and is deleted as its key is erased, the live objects are exactly those
in the table and none is deleted twice.
-/

/-- `deleted` has an entry for each time an object is deleted, the latest first. -/
structure OwnedObjects (K V : Type*) where
  table : KeyedMap K ℕ := ∅
  live : KeyedMap ℕ V := ∅
  next : ℕ := 0
  deleted : List ℕ := []

namespace OwnedObjects

variable {K V : Type*} [DecidableEq K]

section Operations

variable (o : OwnedObjects K V)

/-- Makes an object and enters it under `k` unless `k` has an entry. -/
def make (k : K) (v : V) : OwnedObjects K V :=
  { o with
    table := o.table.emplace k o.next
    live := o.live.insert o.next v
    next := o.next + 1 }

def eraseKey (k : K) : OwnedObjects K V := { o with table := o.table.erase k }

def delete (p : ℕ) : OwnedObjects K V :=
  { o with live := o.live.erase p, deleted := p :: o.deleted }

def modify (p : ℕ) (f : V → V) : OwnedObjects K V := { o with live := o.live.modify p f }

def find (k : K) : Option V := (o.table.lookup k).bind o.live.lookup

/-- Takes the object kept under `k` out of the table and deletes it. -/
def remove (k : K) : OwnedObjects K V :=
  match o.table.lookup k with
  | some p => (o.eraseKey k).delete p
  | none => o

end Operations

def Tracked (key : V → K) (o : OwnedObjects K V) : Prop :=
  ∀ p v, o.live.lookup p = some v → o.table.lookup (key v) = some p

/-- The objects made are live or have been deleted once, and the live ones are those in the
table, each under its own key. -/
structure Sound (key : V → K) (o : OwnedObjects K V) : Prop where
  tracked : o.Tracked key
  stored : ∀ k p, o.table.lookup k = some p → ∃ v, o.live.lookup p = some v ∧ key v = k
  live_iff : ∀ p, p ∈ o.live ↔ p < o.next ∧ p ∉ o.deleted
  deleted_lt : ∀ p ∈ o.deleted, p < o.next
  once : o.deleted.Nodup

variable {key : V → K} {o : OwnedObjects K V} {k : K} {v w : V} {p q : ℕ} {f : V → V}

theorem sound_empty : Sound key ({} : OwnedObjects K V) where
  tracked := nofun
  stored := nofun
  live_iff := by
    intro p
    exact iff_of_false (AList.notMem_empty p) fun h => Nat.not_lt_zero p h.1
  deleted_lt := nofun
  once := List.nodup_nil

theorem Sound.lt_next (h : o.Sound key) (hp : o.live.lookup p = some v) : p < o.next :=
  ((h.live_iff p).mp (KeyedMap.mem_of_lookup hp)).1

theorem Sound.not_deleted (h : o.Sound key) (hp : o.live.lookup p = some v) : p ∉ o.deleted :=
  ((h.live_iff p).mp (KeyedMap.mem_of_lookup hp)).2

theorem Sound.key_injective (h : o.Sound key) (hp : o.live.lookup p = some v)
    (hq : o.live.lookup q = some w) (hkey : key v = key w) : p = q := by
  have hpk := h.tracked p v hp
  rw [hkey, h.tracked q w hq] at hpk
  exact (Option.some.inj hpk).symm

/-- What the table leads to is live and kept under its own key. -/
def Kept (key : V → K) (o : OwnedObjects K V) : Prop :=
  ∀ k p, o.table.lookup k = some p → ∃ v, o.live.lookup p = some v ∧ key v = k

theorem Sound.kept (h : o.Sound key) : o.Kept key := h.stored

/-- An object is taken out of the table, and no other object is touched. -/
structure Takes (k : K) (p : ℕ) (o o' : OwnedObjects K V) : Prop where
  table : o'.table = o.table.erase k
  live : ∀ q, q ≠ p → o'.live.lookup q = o.live.lookup q

theorem Kept.ne_of_takes (h : o.Kept key) (hk : o.table.lookup k = some p) {k' : K}
    (hq : o.table.lookup k' = some q) (hne : k' ≠ k) : q ≠ p := by
  rintro rfl
  obtain ⟨v, hv, hkey⟩ := h k q hk
  obtain ⟨w, hw, hkey'⟩ := h k' q hq
  rw [hv, Option.some.injEq] at hw
  exact hne (by rw [← hkey', ← hw, hkey])

theorem Kept.takes {o' : OwnedObjects K V} (h : o.Kept key) (hk : o.table.lookup k = some p)
    (htakes : Takes k p o o') :
    o'.Kept key ∧ ∀ k', o'.find k' = if k' = k then none else o.find k' := by
  have hlookup : ∀ k' q, o'.table.lookup k' = some q →
      o.table.lookup k' = some q ∧ o'.live.lookup q = o.live.lookup q := by
    intro k' q hq
    rw [htakes.table] at hq
    obtain ⟨hne, hold⟩ := KeyedMap.lookup_erase_some hq
    exact ⟨hold, htakes.live q (h.ne_of_takes hk hold hne)⟩
  constructor
  · intro k' q hq
    obtain ⟨hold, hsame⟩ := hlookup k' q hq
    rw [hsame]
    exact h k' q hold
  · intro k'
    unfold find
    split_ifs with hne
    · rw [htakes.table, hne, AList.lookup_erase]
      rfl
    · rw [htakes.table, AList.lookup_erase_ne hne]
      cases hq : o.table.lookup k' with
      | none => rfl
      | some q => exact htakes.live q (h.ne_of_takes hk hq hne)

theorem lookup_make_self (o : OwnedObjects K V) (k : K) (v : V) :
    (o.make k v).live.lookup o.next = some v := AList.lookup_insert _

theorem lookup_make_of_lt (hp : p < o.next) :
    (o.make k v).live.lookup p = o.live.lookup p := AList.lookup_insert_ne (Nat.ne_of_lt hp)

theorem lookup_make_cases (hq : (o.make k v).live.lookup q = some w) :
    q = o.next ∧ w = v ∨ q ≠ o.next ∧ o.live.lookup q = some w := by
  rcases KeyedMap.lookup_insert_cases hq with hnew | hold
  · exact .inl hnew
  · exact .inr hold

theorem Sound.make (h : o.Sound key) (hk : key v ∉ o.table) : (o.make (key v) v).Sound key where
  tracked := by
    intro q w hq
    rcases lookup_make_cases hq with ⟨rfl, rfl⟩ | ⟨_, hold⟩
    · exact KeyedMap.lookup_emplace_self hk
    · exact KeyedMap.lookup_emplace_of_some (h.tracked q w hold)
  stored := by
    intro k q hk
    rcases KeyedMap.lookup_emplace_cases hk with hold | ⟨rfl, rfl⟩
    · obtain ⟨w, hw, hkey⟩ := h.stored k q hold
      exact ⟨w, by rw [lookup_make_of_lt (h.lt_next hw), hw], hkey⟩
    · exact ⟨v, lookup_make_self o _ v, rfl⟩
  live_iff := by
    intro q
    change q ∈ o.live.insert o.next v ↔ q < o.next + 1 ∧ q ∉ o.deleted
    rw [AList.mem_insert, h.live_iff]
    constructor
    · rintro (rfl | ⟨hlt, hdel⟩)
      · exact ⟨Nat.lt_succ_self _, fun hmem => Nat.lt_irrefl _ (h.deleted_lt _ hmem)⟩
      · exact ⟨Nat.lt_succ_of_lt hlt, hdel⟩
    · rintro ⟨hlt, hdel⟩
      rcases Nat.lt_succ_iff_lt_or_eq.mp hlt with hlt | heq
      · exact .inr ⟨hlt, hdel⟩
      · exact .inl heq
  deleted_lt := fun q hq => Nat.lt_succ_of_lt (h.deleted_lt q hq)
  once := h.once

theorem Sound.not_tracked_make (h : o.Sound key) (hk : key v ∈ o.table) :
    ¬ (o.make (key v) v).Tracked key := by
  intro htracked
  obtain ⟨q, hq⟩ := KeyedMap.exists_lookup hk
  have hkept := KeyedMap.lookup_emplace_of_some (v := o.next) (k := key v) hq
  have hself := htracked o.next v (lookup_make_self o _ v)
  obtain ⟨w, hw, _⟩ := h.stored _ _ hq
  rw [OwnedObjects.make, hkept, Option.some.injEq] at hself
  exact Nat.ne_of_lt (h.lt_next hw) hself

omit [DecidableEq K] in
theorem lookup_delete_self (o : OwnedObjects K V) (p : ℕ) : (o.delete p).live.lookup p = none :=
  AList.lookup_erase _ _

omit [DecidableEq K] in
theorem lookup_delete_ne (h : q ≠ p) : (o.delete p).live.lookup q = o.live.lookup q :=
  AList.lookup_erase_ne h

theorem Sound.erase (h : o.Sound key) (hp : o.live.lookup p = some v) :
    ((o.eraseKey (key v)).delete p).Sound key where
  tracked := by
    intro q w hq
    obtain ⟨hne, hq⟩ := KeyedMap.lookup_erase_some hq
    have hkey : key w ≠ key v := fun hkey => hne (h.key_injective hq hp hkey)
    exact (AList.lookup_erase_ne hkey).trans (h.tracked q w hq)
  stored := by
    intro k q hq
    obtain ⟨hne, hq⟩ := KeyedMap.lookup_erase_some hq
    obtain ⟨w, hw, rfl⟩ := h.stored k q hq
    refine ⟨w, ?_, rfl⟩
    have hqp : q ≠ p := by
      rintro rfl
      rw [hp] at hw
      exact hne (congrArg key (Option.some.inj hw).symm)
    exact (lookup_delete_ne hqp).trans hw
  live_iff := by
    intro q
    change q ∈ o.live.erase p ↔ q < o.next ∧ q ∉ p :: o.deleted
    rw [AList.mem_erase, h.live_iff, List.mem_cons, not_or]
    exact and_left_comm
  deleted_lt := by
    intro q hq
    rcases List.mem_cons.mp hq with rfl | hq
    · exact h.lt_next hp
    · exact h.deleted_lt q hq
  once := List.nodup_cons.mpr ⟨h.not_deleted hp, h.once⟩

theorem remove_of_lookup (hk : o.table.lookup k = some p) :
    o.remove k = (o.eraseKey k).delete p := by
  rw [remove, hk]

theorem takes_remove (hk : o.table.lookup k = some p) : Takes k p o (o.remove k) := by
  rw [remove_of_lookup hk]
  exact ⟨rfl, fun _ hq => lookup_delete_ne hq⟩

theorem remove_of_not_mem (hk : k ∉ o.table) : o.remove k = o := by
  rw [remove, AList.lookup_eq_none.mpr hk]

theorem Sound.remove (h : o.Sound key) (k : K) : (o.remove k).Sound key := by
  cases hk : o.table.lookup k with
  | none =>
      rw [remove_of_not_mem (AList.lookup_eq_none.mp hk)]
      exact h
  | some p =>
      obtain ⟨v, hv, rfl⟩ := h.stored k p hk
      rw [remove_of_lookup hk]
      exact h.erase hv

theorem Sound.modify (h : o.Sound key)
    (hf : ∀ v, o.live.lookup p = some v → key (f v) = key v) : (o.modify p f).Sound key where
  tracked := by
    intro q w hq
    by_cases hqp : q = p
    · subst hqp
      rw [OwnedObjects.modify, KeyedMap.lookup_modify_self, Option.map_eq_some_iff] at hq
      obtain ⟨v, hv, rfl⟩ := hq
      rw [hf v hv]
      exact h.tracked q v hv
    · rw [OwnedObjects.modify, KeyedMap.lookup_modify_ne hqp] at hq
      exact h.tracked q w hq
  stored := by
    intro k q hq
    obtain ⟨v, hv, rfl⟩ := h.stored k q hq
    by_cases hqp : q = p
    · subst hqp
      refine ⟨f v, ?_, hf v hv⟩
      rw [OwnedObjects.modify, KeyedMap.lookup_modify_self, hv, Option.map_some]
    · exact ⟨v, by rw [OwnedObjects.modify, KeyedMap.lookup_modify_ne hqp, hv], rfl⟩
  live_iff := by
    intro q
    rw [OwnedObjects.modify, KeyedMap.mem_modify]
    exact h.live_iff q
  deleted_lt := h.deleted_lt
  once := h.once

end OwnedObjects
