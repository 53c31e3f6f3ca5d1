import BluezSil.FirstMatch
import BluezSil.SilApi
import Mathlib.Data.List.Infix

/-!
# Adapters and the object paths below them

An object of BlueZ belongs to the adapter whose path its own path continues. Both lookups
scan the list of adapters from the front. One compares the front of the object path, the
other searches the adapter path anywhere in it, so an adapter that comes earlier is taken
where its path is the front of a longer number.
-/

namespace BluezSil.Sil

open FirstMatch

/-- An adapter, told apart from every other that is ever made, and the agent it holds. -/
structure Adapter where
  serial : ℕ
  mObjectPath : Text
  mAgent : Option ℕ := none
  deriving DecidableEq, Repr

def findAdapterForObjectPath (mAdapters : List Adapter) (objectPath : Text) : Option Adapter :=
  mAdapters.find? fun adapter =>
    objectPath.take adapter.mObjectPath.length == adapter.mObjectPath

def getBluez5Adapter (mAdapters : List Adapter) (objectPath : Text) : Option Adapter :=
  mAdapters.find? fun adapter => decide (adapter.mObjectPath <:+: objectPath)

/-- The object path is the adapter's path, or continues it with a slash. -/
def BelongsTo (objectPath : Text) (adapter : Adapter) : Prop :=
  objectPath = adapter.mObjectPath ∨ adapter.mObjectPath ++ ['/'] <+: objectPath

instance (objectPath : Text) (adapter : Adapter) : Decidable (BelongsTo objectPath adapter) :=
  inferInstanceAs (Decidable (_ ∨ _))

section

variable {mAdapters : List Adapter} {adapter : Adapter} {objectPath : Text}

theorem take_beq_iff (p text : Text) : (text.take p.length == p) = true ↔ p <+: text := by
  rw [beq_iff_eq, eq_comm, List.prefix_iff_eq_take]

theorem BelongsTo.isPrefix (h : BelongsTo objectPath adapter) :
    adapter.mObjectPath <+: objectPath := by
  rcases h with rfl | h
  · exact List.prefix_refl _
  · exact (List.prefix_append _ _).trans h

theorem findAdapterForObjectPath_iff (ha : adapter ∈ mAdapters)
    (hpath : BelongsTo objectPath adapter) :
    findAdapterForObjectPath mAdapters objectPath = some adapter ↔
      ∀ b ∈ mAdapters.takeWhile (· ≠ adapter), ¬ b.mObjectPath <+: objectPath := by
  unfold findAdapterForObjectPath
  rw [find_eq_some_iff_before ha ((take_beq_iff _ _).mpr hpath.isPrefix)]
  simp only [← Bool.not_eq_true, take_beq_iff]

theorem getBluez5Adapter_iff (ha : adapter ∈ mAdapters) (hpath : BelongsTo objectPath adapter) :
    getBluez5Adapter mAdapters objectPath = some adapter ↔
      ∀ b ∈ mAdapters.takeWhile (· ≠ adapter), ¬ b.mObjectPath <:+: objectPath := by
  unfold getBluez5Adapter
  rw [find_eq_some_iff_before ha (decide_eq_true hpath.isPrefix.isInfix)]
  simp only [decide_eq_false_iff_not]

end

/-- Both lookups return the adapter the object belongs to if and only if the path of no
adapter before it occurs in the object path. -/
theorem routed_iff {mAdapters : List Adapter} {adapter : Adapter} {objectPath : Text}
    (ha : adapter ∈ mAdapters) (hpath : BelongsTo objectPath adapter) :
    (findAdapterForObjectPath mAdapters objectPath = some adapter ∧
      getBluez5Adapter mAdapters objectPath = some adapter) ↔
    ∀ b ∈ mAdapters.takeWhile (· ≠ adapter), ¬ b.mObjectPath <:+: objectPath := by
  rw [findAdapterForObjectPath_iff ha hpath, getBluez5Adapter_iff ha hpath]
  constructor
  · exact And.right
  · intro h
    exact ⟨fun b hb hbegins => h b hb hbegins.isInfix, h⟩

def hci1 : Adapter := ⟨1, "/org/bluez/hci1".toList, none⟩

def hci10 : Adapter := ⟨2, "/org/bluez/hci10".toList, none⟩

/-- The longer number comes first. -/
theorem routed_longer_first :
    findAdapterForObjectPath [hci10, hci1] "/org/bluez/hci10/dev_00".toList = some hci10 ∧
      getBluez5Adapter [hci10, hci1] "/org/bluez/hci10/dev_00".toList = some hci10 :=
  (routed_iff List.mem_cons_self (by decide)).mpr (by decide)

/-- The objects of the tenth adapter go to the first one. -/
theorem routed_elsewhere :
    ¬ ∀ (mAdapters : List Adapter) (adapter : Adapter) (objectPath : Text),
      (mAdapters.map Adapter.mObjectPath).Nodup → adapter ∈ mAdapters →
      BelongsTo objectPath adapter →
      findAdapterForObjectPath mAdapters objectPath = some adapter ∧
        getBluez5Adapter mAdapters objectPath = some adapter := by
  intro h
  have hrouted := (h [hci1, hci10] hci10 "/org/bluez/hci10/dev_00".toList (by decide)
    (by decide) (by decide)).1
  have hfirst : findAdapterForObjectPath [hci1, hci10] "/org/bluez/hci10/dev_00".toList =
      some hci1 := rfl
  rw [hfirst] at hrouted
  exact absurd (Option.some.inj hrouted) (by decide)

end BluezSil.Sil
