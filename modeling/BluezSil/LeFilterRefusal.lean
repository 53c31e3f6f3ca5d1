import BluezSil.AdapterDiscoveryRuns

/-!
# Refused discovery filters

`addLeDiscoveryFilter` decides anew whether BlueZ is to filter, stops discovery,
empties the filter, sets a new one and resumes, and returns at the first of these
calls that fails. Nothing that was done before the failure is undone, so a refusal
leaves things as they were only where they already stood as the calls before it
leave them.
-/

namespace BluezSil.Adapter

open TransitionRun

/-- Where `addLeDiscoveryFilter` of a valid filter returns -1: at a call that fails, or at
the scan id that reads as -1. -/
inductive Refusal
  | stop
  | clear
  | resumeUnfiltered
  | set
  | resumeFiltered
  | scanId
  deriving DecidableEq

/-- BlueZ filters by the set of the UUIDs it is given. -/
def SameUuids (uuids uuids' : List Text) : Prop := ∀ uuid, uuid ∈ uuids ↔ uuid ∈ uuids'

theorem sameUuids_refl (uuids : List Text) : SameUuids uuids uuids := fun _ => Iff.rfl

theorem sameUuids_nil_left {uuids : List Text} : SameUuids [] uuids ↔ uuids = [] := by
  constructor
  · intro h
    exact List.eq_nil_iff_forall_not_mem.mpr fun uuid hmem => List.not_mem_nil ((h uuid).mpr hmem)
  · rintro rfl
    exact sameUuids_refl []

namespace Bluez5Adapter

/-- The stored filters, what is known of BlueZ and what BlueZ does are those of `s`. -/
structure SameDiscovery (s t : Bluez5Adapter) : Prop where
  filters : s.mLeScanFilters = t.mLeScanFilters
  types : s.mLeScanFilterTypes = t.mLeScanFilterTypes
  use : s.mUseBluezFilter = t.mUseBluezFilter
  sil : s.mSILDiscovery = t.mSILDiscovery
  discovering : s.bluez.discovering = t.bluez.discovering
  uuids : SameUuids t.bluez.uuids s.bluez.uuids

def RefusalKeeps (api : FilterApi) (s : Bluez5Adapter) (filter : BluetoothLeDiscoveryFilter)
    (calls : Calls) : Prop :=
  (s.addLeDiscoveryFilter api filter calls).2 = -1 →
    SameDiscovery s (s.addLeDiscoveryFilter api filter calls).1

def uuidsWith (s : Bluez5Adapter) (filter : BluetoothLeDiscoveryFilter) : List Text :=
  (s.setBluezFilter filter true).1.bluez.uuids

def refusedScanId (s : Bluez5Adapter) : Option Refusal :=
  if s.nextScanId.toInt32 = -1 then some .scanId else none

/-- The exits that are left once BlueZ is prepared for a filter of type `type`. -/
def refusalPrepared (s : Bluez5Adapter) (type : UInt8) (calls : Calls) : Option Refusal :=
  if ¬ s.bluezFilterUsageCriteria type then s.refusedScanId
  else if ¬ calls.set then some .set
  else if s.mSILDiscovery ∧ ¬ calls.resume then some .resumeFiltered
  else s.refusedScanId

/-- The first exit on the way of a valid filter of type `type`. -/
def refusal (s : Bluez5Adapter) (type : UInt8) (calls : Calls) : Option Refusal :=
  if s.mLegacyScan then s.refusedScanId
  else if ¬ s.mSILDiscovery then s.refusalPrepared type calls
  else if ¬ calls.stop then some .stop
  else if ¬ calls.clear then some .clear
  else if ¬ s.bluezFilterUsageCriteria type ∧ ¬ calls.resume then some .resumeUnfiltered
  else s.refusalPrepared type calls

/-- The adapter and BlueZ already stand as the steps before the exit leave them. -/
def Stands (s : Bluez5Adapter) (accepted : BluetoothLeDiscoveryFilter) (type : UInt8) :
    Refusal → Prop
  | .stop => s.mUseBluezFilter = s.bluezFilterUsageCriteria type
  | .clear => s.mUseBluezFilter = s.bluezFilterUsageCriteria type ∧ s.bluez.discovering = false
  | .resumeUnfiltered =>
    s.mUseBluezFilter = false ∧ s.bluez.discovering = false ∧ s.bluez.uuids = []
  | .set =>
    s.mUseBluezFilter = true ∧
    (s.mSILDiscovery = true → s.bluez.discovering = false ∧ s.bluez.uuids = [])
  | .resumeFiltered =>
    s.mUseBluezFilter = true ∧ s.bluez.discovering = false ∧
    SameUuids (s.uuidsWith accepted) s.bluez.uuids
  | .scanId =>
    s.nextScanId ∈ s.mLeScanFilters ∧ s.nextScanId ∈ s.mLeScanFilterTypes ∧
    (s.mLegacyScan = false →
      s.mUseBluezFilter = s.bluezFilterUsageCriteria type ∧
      (s.mSILDiscovery = true → s.bluez.discovering = true ∧
        SameUuids (if s.bluezFilterUsageCriteria type then s.uuidsWith accepted else [])
          s.bluez.uuids) ∧
      (s.mSILDiscovery = false → s.bluezFilterUsageCriteria type = false))

variable {api : FilterApi} {s t : Bluez5Adapter} {accepted : BluetoothLeDiscoveryFilter}
variable {type : UInt8} {calls : Calls}

structure SameStored (s t : Bluez5Adapter) : Prop where
  filters : t.mLeScanFilters = s.mLeScanFilters
  types : t.mLeScanFilterTypes = s.mLeScanFilterTypes
  next : t.nextScanId = s.nextScanId

theorem sameDiscovery_iff (h : SameStored s t) :
    SameDiscovery s t ↔
      s.mUseBluezFilter = t.mUseBluezFilter ∧ s.mSILDiscovery = t.mSILDiscovery ∧
      s.bluez.discovering = t.bluez.discovering ∧ SameUuids t.bluez.uuids s.bluez.uuids :=
  ⟨fun h => ⟨h.use, h.sil, h.discovering, h.uuids⟩,
    fun ⟨huse, hsil, hdisc, huuids⟩ =>
      ⟨h.filters.symm, h.types.symm, huse, hsil, hdisc, huuids⟩⟩

theorem emplace_eq_self_iff {V : Type} {m : KeyedMap UInt32 V} {k : UInt32} {v : V} :
    m = m.emplace k v ↔ k ∈ m := by
  constructor
  · intro h
    rw [h]
    exact KeyedMap.mem_emplace.mpr (.inr rfl)
  · intro h
    rw [KeyedMap.emplace, if_pos h]

theorem sameDiscovery_insertFilter_iff (h : SameStored s t) :
    SameDiscovery s (t.insertFilter accepted type).1 ↔
      s.nextScanId ∈ s.mLeScanFilters ∧ s.nextScanId ∈ s.mLeScanFilterTypes ∧
      SameDiscovery s t := by
  rw [← emplace_eq_self_iff (v := accepted), ← emplace_eq_self_iff (v := type), ← h.next]
  constructor
  · rintro ⟨hf, ht, huse, hsil, hdisc, huuids⟩
    rw [insertFilter, h.filters] at hf
    rw [insertFilter, h.types] at ht
    exact ⟨hf, ht, ⟨h.filters.symm, h.types.symm, huse, hsil, hdisc, huuids⟩⟩
  · rintro ⟨hf, ht, hsame⟩
    refine ⟨?_, ?_, hsame.use, hsame.sil, hsame.discovering, hsame.uuids⟩
    · rw [insertFilter, h.filters]
      exact hf
    · rw [insertFilter, h.types]
      exact ht

theorem insertFilter_refused_iff (h : SameStored s t) :
    (t.insertFilter accepted type).2 = -1 ↔ s.refusedScanId = some .scanId := by
  have hid : (t.insertFilter accepted type).2 = s.nextScanId.toInt32 := by
    rw [← h.next]
    rfl
  rw [hid, refusedScanId]
  split_ifs with hlast
  · exact iff_of_true hlast rfl
  · exact iff_of_false hlast (fun he => nomatch he)

/-- A filter that comes out as `result` changes nothing on a refusal where `s` stands right
for the exit that is taken. -/
def KeptBy (s : Bluez5Adapter) (accepted : BluetoothLeDiscoveryFilter) (type : UInt8)
    (result : Bluez5Adapter × Int32) (exit : Option Refusal) : Prop :=
  (result.2 = -1 → SameDiscovery s result.1) ↔
    ∀ refusal, exit = some refusal → s.Stands accepted type refusal

theorem keptBy_exit {exit : Refusal} (h : SameDiscovery s t ↔ s.Stands accepted type exit) :
    s.KeptBy accepted type (t, -1) (some exit) := by
  unfold KeptBy
  rw [h]
  constructor
  · rintro hs e he
    cases he
    exact hs rfl
  · exact fun hs _ => hs exit rfl

theorem keptBy_insertFilter (hstored : SameStored s t)
    (h : s.nextScanId ∈ s.mLeScanFilters ∧ s.nextScanId ∈ s.mLeScanFilterTypes ∧
      SameDiscovery s t ↔ s.Stands accepted type .scanId) :
    s.KeptBy accepted type (t.insertFilter accepted type) s.refusedScanId := by
  unfold KeptBy
  rw [sameDiscovery_insertFilter_iff hstored, insertFilter_refused_iff hstored, h]
  constructor
  · intro hs exit hexit
    have hscan : exit = .scanId := by
      unfold refusedScanId at hexit
      split_ifs at hexit
      exact (Option.some.inj hexit).symm
    rw [hscan] at hexit ⊢
    exact hs hexit
  · exact fun hs hexit => hs _ hexit

def resumed (t : Bluez5Adapter) (accepted : BluetoothLeDiscoveryFilter) : Bluez5Adapter :=
  { ((t.setBluezFilter accepted true).1.resumeLeDiscovery true).1 with mSILDiscovery := true }

theorem addPrepared_none :
    t.addPrepared .none accepted type calls =
      if t.mUseBluezFilter = false then t.insertFilter accepted type
      else if calls.set = false then (t, -1)
      else if t.mSILDiscovery = false then
        insertFilter { (t.setBluezFilter accepted true).1 with mSILDiscovery := true } accepted type
      else if calls.resume = false then ((t.setBluezFilter accepted true).1, -1)
      else (t.resumed accepted).insertFilter accepted type := by
  cases huse : t.mUseBluezFilter with
  | false => simp [addPrepared, huse]
  | true =>
      cases hset : calls.set with
      | false => simp [addPrepared, setBluezFilter, huse, hset]
      | true =>
          cases hsil : t.mSILDiscovery with
          | false => simp [addPrepared, setBluezFilter, huse, hset, hsil]
          | true =>
              cases hresume : calls.resume with
              | false =>
                  simp [addPrepared, setBluezFilter, resumeLeDiscovery, huse, hset, hsil, hresume]
              | true =>
                  simp [resumed, addPrepared, setBluezFilter, resumeLeDiscovery, huse, hset, hsil,
                    hresume]

theorem keptBy_addPrepared (hstored : SameStored s t)
    (hsil : t.mSILDiscovery = s.mSILDiscovery) (hlegacy : s.mLegacyScan = false)
    (huse : t.mUseBluezFilter = s.bluezFilterUsageCriteria type)
    (hbluez : t.bluez = if s.mSILDiscovery then
      { discovering := ! s.bluezFilterUsageCriteria type, uuids := [] } else s.bluez) :
    s.KeptBy accepted type (t.addPrepared .none accepted type calls)
      (s.refusalPrepared type calls) := by
  unfold refusalPrepared
  rw [addPrepared_none, huse, hsil]
  cases hc : s.bluezFilterUsageCriteria type with
  | false =>
      rw [hc] at huse
      rw [if_pos rfl, if_pos Bool.false_ne_true]
      apply keptBy_insertFilter hstored
      rw [sameDiscovery_iff hstored, huse, hsil, hbluez]
      cases hs : s.mSILDiscovery with
      | false => simp [Stands, hlegacy, hs, hc, sameUuids_refl]
      | true => simp [Stands, hlegacy, hs, hc]
  | true =>
      rw [hc] at huse
      rw [if_neg Bool.noConfusion, if_neg (not_not.mpr rfl)]
      cases calls.set with
      | false =>
          rw [if_pos rfl, if_pos Bool.false_ne_true]
          apply keptBy_exit
          rw [sameDiscovery_iff hstored, huse, hsil, hbluez]
          cases hs : s.mSILDiscovery with
          | false => simp [Stands, hs, sameUuids_refl]
          | true => simp [Stands, hs, hc, sameUuids_nil_left]
      | true =>
          rw [if_neg Bool.noConfusion, if_neg (not_not.mpr rfl)]
          have hset : SameStored s (t.setBluezFilter accepted true).1 :=
            ⟨hstored.filters, hstored.types, hstored.next⟩
          cases hs : s.mSILDiscovery with
          | false =>
              have hsame : SameStored s
                  { (t.setBluezFilter accepted true).1 with mSILDiscovery := true } :=
                ⟨hset.filters, hset.types, hset.next⟩
              rw [if_pos rfl, if_neg (fun h => Bool.false_ne_true h.1)]
              apply keptBy_insertFilter hsame
              rw [sameDiscovery_iff hsame]
              simp [Stands, hlegacy, hs, hc]
          | true =>
              rw [if_neg Bool.noConfusion]
              cases calls.resume with
              | false =>
                  rw [if_pos rfl, if_pos ⟨rfl, Bool.false_ne_true⟩]
                  apply keptBy_exit
                  rw [sameDiscovery_iff hset]
                  simp [Stands, uuidsWith, setBluezFilter, huse, hs, hsil, hbluez, hc,
                    hstored.filters]
              | true =>
                  have hsame : SameStored s (t.resumed accepted) :=
                    ⟨hset.filters, hset.types, hset.next⟩
                  rw [if_neg Bool.noConfusion, if_neg fun h => h.2 rfl]
                  apply keptBy_insertFilter hsame
                  rw [sameDiscovery_iff hsame]
                  simp [resumed, Stands, hlegacy, hs, hc, uuidsWith, setBluezFilter,
                    resumeLeDiscovery, startDiscoveryTimeout, huse, hstored.filters]

def decided (s : Bluez5Adapter) (type : UInt8) : Bluez5Adapter :=
  { s with mUseBluezFilter := s.bluezFilterUsageCriteria type }

def stopped (s : Bluez5Adapter) (type : UInt8) : Bluez5Adapter :=
  { (s.decided type).resetDiscoveryTimeout with bluez := { s.bluez with discovering := false } }

def cleared (s : Bluez5Adapter) (type : UInt8) : Bluez5Adapter :=
  { (s.decided type).resetDiscoveryTimeout with bluez := { discovering := false, uuids := [] } }

theorem prepareFilterForDiscovery_decided :
    (s.decided type).prepareFilterForDiscovery calls =
      if calls.stop = false then ((s.decided type).resetDiscoveryTimeout, .fail)
      else if calls.clear = false then (s.stopped type, .fail)
      else if s.bluezFilterUsageCriteria type = true then (s.cleared type, .none)
      else if calls.resume = false then (s.cleared type, .fail)
      else (((s.cleared type).resumeLeDiscovery true).1, .none) := by
  unfold stopped cleared prepareFilterForDiscovery stopLeDiscovery clearPreviousFilter
    resumeLeDiscovery resetDiscoveryTimeout decided
  cases calls.stop with
  | false => rfl
  | true =>
      cases calls.clear with
      | false => rfl
      | true =>
          cases s.bluezFilterUsageCriteria type with
          | true => rfl
          | false =>
              cases calls.resume with
              | false => rfl
              | true => rfl

theorem keptBy_prepare (hlegacy : s.mLegacyScan = false) (hsil : s.mSILDiscovery = true) :
    s.KeptBy accepted type
      (((s.decided type).prepareFilterForDiscovery calls).1.addPrepared
        ((s.decided type).prepareFilterForDiscovery calls).2 accepted type calls)
      (s.refusal type calls) := by
  have hfail : ∀ u : Bluez5Adapter, u.addPrepared .fail accepted type calls = (u, -1) := by
    intro u
    simp [addPrepared]
  have hstopped : SameStored s (s.stopped type) := ⟨rfl, rfl, rfl⟩
  have hcleared : SameStored s (s.cleared type) := ⟨rfl, rfl, rfl⟩
  unfold refusal
  rw [prepareFilterForDiscovery_decided, hlegacy, if_neg Bool.false_ne_true,
    if_neg (not_not.mpr hsil)]
  cases calls.stop with
  | false =>
      have hsame : SameStored s (s.decided type).resetDiscoveryTimeout := ⟨rfl, rfl, rfl⟩
      rw [if_pos rfl, hfail, if_pos Bool.false_ne_true]
      apply keptBy_exit
      rw [sameDiscovery_iff hsame]
      simp [Stands, resetDiscoveryTimeout, decided, sameUuids_refl]
  | true =>
      rw [if_neg Bool.noConfusion, if_neg (not_not.mpr rfl)]
      cases calls.clear with
      | false =>
          rw [if_pos rfl, hfail, if_pos Bool.false_ne_true]
          apply keptBy_exit
          rw [sameDiscovery_iff hstopped]
          simp [stopped, Stands, resetDiscoveryTimeout, decided, sameUuids_refl]
      | true =>
          rw [if_neg Bool.noConfusion, if_neg (not_not.mpr rfl)]
          cases hc : s.bluezFilterUsageCriteria type with
          | true =>
              rw [if_pos rfl, if_neg fun h => h.1 rfl]
              apply keptBy_addPrepared hcleared rfl hlegacy rfl
              simp [cleared, hsil, hc]
          | false =>
              rw [if_neg Bool.false_ne_true]
              cases hresume : calls.resume with
              | false =>
                  rw [if_pos rfl, hfail, if_pos ⟨Bool.false_ne_true, Bool.false_ne_true⟩]
                  apply keptBy_exit
                  rw [sameDiscovery_iff hcleared]
                  simp [cleared, resetDiscoveryTimeout, decided, Stands, hc, sameUuids_nil_left]
              | true =>
                  have hresumed : SameStored s ((s.cleared type).resumeLeDiscovery true).1 :=
                    ⟨rfl, rfl, rfl⟩
                  rw [if_neg Bool.noConfusion, if_neg fun h => h.2 rfl]
                  apply keptBy_addPrepared hresumed rfl hlegacy rfl
                  simp [cleared, resumeLeDiscovery, startDiscoveryTimeout, hsil, hc]

theorem keptBy_addLeDiscoveryFilter {filter : BluetoothLeDiscoveryFilter}
    (hvalid : api.isFilterValid filter = some (accepted, type)) :
    s.KeptBy accepted type (s.addLeDiscoveryFilter api filter calls) (s.refusal type calls) := by
  unfold addLeDiscoveryFilter
  rw [hvalid]
  dsimp only
  cases hlegacy : s.mLegacyScan with
  | true =>
      have hexit : s.refusal type calls = s.refusedScanId := by
        rw [refusal, if_pos hlegacy]
      rw [hexit, if_pos rfl]
      apply keptBy_insertFilter ⟨rfl, rfl, rfl⟩
      rw [sameDiscovery_iff ⟨rfl, rfl, rfl⟩]
      simp [Stands, hlegacy, sameUuids_refl]
  | false =>
      rw [if_neg Bool.false_ne_true, ← hlegacy]
      cases hsil : s.mSILDiscovery with
      | false =>
          have hexit : s.refusal type calls = s.refusalPrepared type calls := by
            simp [refusal, hlegacy, hsil]
          rw [hexit, if_neg Bool.false_ne_true, ← hsil]
          exact keptBy_addPrepared (t := s.decided type) ⟨rfl, rfl, rfl⟩ rfl hlegacy rfl
            (by simp [hsil, decided])
      | true =>
          rw [if_pos rfl, ← hsil]
          exact keptBy_prepare hlegacy hsil

end Bluez5Adapter

/-- A refusal changes nothing if and only if the adapter and BlueZ already stood as the steps
before the exit leave them. -/
theorem refusalKeeps_iff (api : FilterApi) (s : Bluez5Adapter)
    (filter : BluetoothLeDiscoveryFilter) (calls : Calls) :
    s.RefusalKeeps api filter calls ↔
      ∀ accepted type refusal, api.isFilterValid filter = some (accepted, type) →
        s.refusal type calls = some refusal → s.Stands accepted type refusal := by
  cases hvalid : api.isFilterValid filter with
  | none =>
      have hadd : s.addLeDiscoveryFilter api filter calls = (s, -1) := by
        simp [Bluez5Adapter.addLeDiscoveryFilter, hvalid]
      unfold Bluez5Adapter.RefusalKeeps
      rw [hadd]
      refine iff_of_true (fun _ => ⟨rfl, rfl, rfl, rfl, rfl, sameUuids_refl _⟩) ?_
      intro _ _ _ he
      cases he
  | some result =>
      obtain ⟨accepted, type⟩ := result
      have hkept : s.KeptBy accepted type (s.addLeDiscoveryFilter api filter calls)
          (s.refusal type calls) := Bluez5Adapter.keptBy_addLeDiscoveryFilter hvalid
      constructor
      · intro hkeeps _ _ exit he hexit
        cases he
        exact hkept.mp hkeeps exit hexit
      · intro hstands
        exact hkept.mpr fun exit hexit => hstands accepted type exit rfl hexit

/-- A second filter whose StopDiscovery succeeds and whose filter cannot be emptied. -/
theorem refusalKeeps_not :
    ¬ ∀ s, (discoveryMachine formApi).Reach s → ∀ filter calls,
      s.RefusalKeeps formApi filter calls := by
  intro h
  have hrun : ∃ t, (discoveryMachine formApi).run (discoveryMachine formApi).init
      [.addLeDiscoveryFilter (heartRateFilter "") {}, .startLeDiscovery {},
        .discoveringChanged true] = some t ∧ t.bluez.discovering = true ∧
      (t.addLeDiscoveryFilter formApi (heartRateFilter "") { clear := false }).2 = -1 ∧
      (t.addLeDiscoveryFilter formApi (heartRateFilter "") { clear := false }).1.bluez.discovering
        = false :=
    ⟨_, rfl, rfl, rfl, rfl⟩
  obtain ⟨t, hrun, hdisc, hrefused, hstopped⟩ := hrun
  have hkept := (h t (Machine.reach_of_run _ hrun) _ _ hrefused).discovering
  rw [hdisc, hstopped] at hkept
  cases hkept

end BluezSil.Adapter
