import BluezSil.AdapterDiscovery
import BluezSil.TransitionRun

/-!
# What the filter at BlueZ hides

BlueZ reports a device only if its filter is empty or the device has one of the
UUIDs in it. The flags of the adapter say whether the filter is empty as long as a
call that should have emptied it did so: where such a call fails, the adapter
forgets that a filter is set, and a later scan runs behind it.
-/

namespace BluezSil.Adapter

open ByteAccess TransitionRun

inductive DiscoveryEvent
  | addLeDiscoveryFilter (filter : BluetoothLeDiscoveryFilter) (calls : Calls)
  | removeLeDiscoveryFilter (scanId : UInt32)
  | startDiscovery (calls : Calls)
  | cancelDiscovery (callback : ℕ) (calls : Calls)
  | startLeDiscovery (calls : Calls)
  | cancelLeDiscovery (calls : Calls)
  | discoveringChanged (discovering : Bool)
  | discoveryTimeout (source : ℕ) (calls : Calls)
  | setDiscoveryTimeout (seconds : UInt32)

/-- One event. The timer can expire only for a live source. -/
def Bluez5Adapter.step (api : FilterApi) (s : Bluez5Adapter) :
    DiscoveryEvent → Option Bluez5Adapter
  | .addLeDiscoveryFilter filter calls => some (s.addLeDiscoveryFilter api filter calls).1
  | .removeLeDiscoveryFilter scanId => some (s.removeLeDiscoveryFilter scanId).1
  | .startDiscovery calls => some (s.startDiscovery calls).1
  | .cancelDiscovery callback calls => some (s.cancelDiscovery (.caller callback) calls).1
  | .startLeDiscovery calls => some (s.startLeDiscovery calls).1
  | .cancelLeDiscovery calls => some (s.cancelLeDiscovery calls).1
  | .discoveringChanged discovering => some (s.discoveringChanged discovering).1
  | .discoveryTimeout source calls =>
    if source ∈ s.timer.sources then some (s.handleDiscoveryTimeout source calls) else none
  | .setDiscoveryTimeout seconds =>
    some { s with timer := { s.timer with mDiscoveryTimeout := seconds } }

def discoveryMachine (api : FilterApi) : Machine Bluez5Adapter DiscoveryEvent :=
  ⟨{}, Bluez5Adapter.step api⟩

def Bluez.Admits (b : Bluez) (device : Bluez5Device) : Prop :=
  b.uuids = [] ∨ ∃ uuid ∈ device.uuids, convertToLowerCase uuid ∈ b.uuids

/-- While discovery runs, BlueZ reports every device that matches a stored filter, and
every device at all during a legacy scan. -/
def Bluez5Adapter.NeverHides (s : Bluez5Adapter) : Prop :=
  s.mDiscovering = true ∨ s.bluez.discovering = true →
    (∀ filter ∈ s.mLeScanFilters.values, ∀ device,
      filterMatchCriteria filter device = .ok true → s.bluez.Admits device) ∧
    (s.mLegacyScan = true → s.bluez.uuids = [])

/-- The operation finds the discovery its own to stop. -/
def Bluez5Adapter.Unused (s : Bluez5Adapter) : Prop :=
  s.mDiscovering = true ∧ s.mLeScanFilters.keys.length = 0

/-- The steps that empty the filter of BlueZ where they mean to. A failure does no harm
while the filter is empty, or where the stored filters go on using it. -/
def Empties (api : FilterApi) (s : Bluez5Adapter) : DiscoveryEvent → Prop
  | .addLeDiscoveryFilter filter calls => ∀ accepted type,
    api.isFilterValid filter = some (accepted, type) →
      s.bluezFilterUsageCriteria type = false → s.bluez.uuids ≠ [] →
        calls.stop = true ∧ calls.clear = true
  | .startDiscovery calls => s.bluez.uuids ≠ [] → calls.stop = true ∧ calls.clear = true
  | .cancelDiscovery _ calls =>
    s.Unused → s.bluez.uuids ≠ [] → calls.stop = true ∧ calls.clear = true
  | .discoveryTimeout _ calls =>
    s.Unused → s.bluez.uuids ≠ [] → calls.stop = true ∧ calls.clear = true
  | .cancelLeDiscovery calls =>
    s.Unused → s.mLegacyScan = false → s.bluez.uuids ≠ [] →
      calls.stop = true ∧ calls.clear = true
  | _ => True

namespace Bluez5Adapter

variable {api : FilterApi} {s t : Bluez5Adapter}

def Typed (api : FilterApi) (s : Bluez5Adapter) : Prop :=
  KeyedMap.Paired (fun accepted type => ∃ filter, api.isFilterValid filter = some (accepted, type))
    s.mLeScanFilters s.mLeScanFilterTypes

/-- The filter asks for a service UUID without a mask, which BlueZ has in its filter. -/
def Covers (uuids : List Text) (filter : BluetoothLeDiscoveryFilter) : Prop :=
  filter.serviceUuid.uuid ≠ [] ∧ filter.serviceUuid.mask = [] ∧
  convertToLowerCase filter.serviceUuid.uuid ∈ uuids

/-- A filter set at BlueZ is remembered, and covers the stored filters. -/
structure Good (api : FilterApi) (s : Bluez5Adapter) : Prop where
  typed : s.Typed api
  flags : s.bluez.uuids ≠ [] →
    s.mUseBluezFilter = true ∧ s.mSILDiscovery = true ∧ s.mLegacyScan = false
  covers : s.bluez.uuids ≠ [] → ∀ filter ∈ s.mLeScanFilters.values, Covers s.bluez.uuids filter

theorem good_init : Good api {} := by
  refine ⟨fun _ => .none, fun h => absurd rfl h, fun h => absurd rfl h⟩

structure Keeps (s t : Bluez5Adapter) : Prop where
  filters : t.mLeScanFilters = s.mLeScanFilters
  types : t.mLeScanFilterTypes = s.mLeScanFilterTypes
  use : t.mUseBluezFilter = s.mUseBluezFilter
  sil : t.mSILDiscovery = s.mSILDiscovery
  legacy : t.mLegacyScan = s.mLegacyScan

theorem Good.of_keeps (h : s.Good api) (hkeeps : Keeps s t)
    (huuids : t.bluez.uuids = s.bluez.uuids) : t.Good api := by
  constructor
  · unfold Typed
    rw [hkeeps.filters, hkeeps.types]
    exact h.typed
  · rw [huuids, hkeeps.use, hkeeps.sil, hkeeps.legacy]
    exact h.flags
  · rw [huuids, hkeeps.filters]
    exact h.covers

theorem Good.of_emptied (h : s.Good api) (hfilters : t.mLeScanFilters = s.mLeScanFilters)
    (htypes : t.mLeScanFilterTypes = s.mLeScanFilterTypes) (hempty : t.bluez.uuids = []) :
    t.Good api := by
  refine ⟨?_, fun hne => absurd hempty hne, fun hne => absurd hempty hne⟩
  unfold Typed
  rw [hfilters, htypes]
  exact h.typed

theorem Good.uuids_nil_of_legacy (h : s.Good api) (hlegacy : s.mLegacyScan = true) :
    s.bluez.uuids = [] := by
  by_contra hne
  rw [(h.flags hne).2.2] at hlegacy
  cases hlegacy

theorem Good.neverHides (h : s.Good api) : s.NeverHides := by
  intro _
  refine ⟨fun filter hfilter device hmatch => ?_, h.uuids_nil_of_legacy⟩
  by_cases hne : s.bluez.uuids = []
  · exact .inl hne
  · obtain ⟨huuid, hmask, hmem⟩ := h.covers hne filter hfilter
    have hcheck := matchServiceUuid_of_match hmatch
    rw [matchServiceUuid, if_pos (mt List.isEmpty_iff.mp huuid), checkServiceUuid,
      if_neg (not_not.mpr (List.isEmpty_iff.mpr hmask)), Except.ok.injEq,
      List.any_eq_true] at hcheck
    obtain ⟨uuid, hdevice, heq⟩ := hcheck
    rw [beq_iff_eq] at heq
    refine .inr ⟨uuid, hdevice, ?_⟩
    rw [heq]
    exact hmem

theorem prepareFilterForDiscovery_spec (s : Bluez5Adapter) (calls : Calls) :
    Keeps s (s.prepareFilterForDiscovery calls).1 ∧
    ((s.prepareFilterForDiscovery calls).1.bluez.uuids = [] ∨
     (s.prepareFilterForDiscovery calls).1.bluez.uuids = s.bluez.uuids ∧
     (s.prepareFilterForDiscovery calls).2 = .fail ∧
     ¬ (calls.stop = true ∧ calls.clear = true)) := by
  obtain ⟨stop, clear, set, resume, start⟩ := calls
  obtain ⟨_, _, use, _, _, _, _, _, _, _⟩ := s
  cases stop with
  | false => exact ⟨⟨rfl, rfl, rfl, rfl, rfl⟩, .inr ⟨rfl, rfl, by simp⟩⟩
  | true =>
      cases clear with
      | false => exact ⟨⟨rfl, rfl, rfl, rfl, rfl⟩, .inr ⟨rfl, rfl, by simp⟩⟩
      | true =>
          cases use with
          | true => exact ⟨⟨rfl, rfl, rfl, rfl, rfl⟩, .inl rfl⟩
          | false =>
              cases resume with
              | false => exact ⟨⟨rfl, rfl, rfl, rfl, rfl⟩, .inl rfl⟩
              | true => exact ⟨⟨rfl, rfl, rfl, rfl, rfl⟩, .inl rfl⟩

theorem callStopDiscovery_spec (s : Bluez5Adapter) (calls : Calls) :
    (s.callStopDiscovery calls).1.mLeScanFilters = s.mLeScanFilters ∧
    (s.callStopDiscovery calls).1.mLeScanFilterTypes = s.mLeScanFilterTypes ∧
    ((s.callStopDiscovery calls).1.bluez.uuids = [] ∨
     (s.callStopDiscovery calls).1.bluez.uuids = s.bluez.uuids ∧
     (s.mUseBluezFilter = false ∨ ¬ (calls.stop = true ∧ calls.clear = true))) := by
  obtain ⟨stop, clear, set, resume, start⟩ := calls
  obtain ⟨_, _, use, _, _, _, _, _, _, _⟩ := s
  cases stop with
  | false => exact ⟨rfl, rfl, .inr ⟨rfl, .inr (by simp)⟩⟩
  | true =>
      cases use with
      | false => exact ⟨rfl, rfl, .inr ⟨rfl, .inl rfl⟩⟩
      | true =>
          cases clear with
          | false => exact ⟨rfl, rfl, .inr ⟨rfl, .inr (by simp)⟩⟩
          | true => exact ⟨rfl, rfl, .inl rfl⟩

theorem callStartDiscovery_spec (s : Bluez5Adapter) (start : Bool) :
    Keeps s (s.callStartDiscovery start).1 ∧
    (s.callStartDiscovery start).1.bluez.uuids = s.bluez.uuids := by
  cases start with
  | false => exact ⟨⟨rfl, rfl, rfl, rfl, rfl⟩, rfl⟩
  | true => exact ⟨⟨rfl, rfl, rfl, rfl, rfl⟩, rfl⟩

theorem resumeLeDiscovery_spec (s : Bluez5Adapter) (resume : Bool) :
    Keeps s (s.resumeLeDiscovery resume).1 ∧
    (s.resumeLeDiscovery resume).1.bluez.uuids = s.bluez.uuids := by
  cases resume with
  | false => exact ⟨⟨rfl, rfl, rfl, rfl, rfl⟩, rfl⟩
  | true => exact ⟨⟨rfl, rfl, rfl, rfl, rfl⟩, rfl⟩

theorem Good.callStopDiscovery (h : s.Good api) (hfilters : t.mLeScanFilters = s.mLeScanFilters)
    (htypes : t.mLeScanFilterTypes = s.mLeScanFilterTypes)
    (huse : t.mUseBluezFilter = s.mUseBluezFilter) (huuids : t.bluez.uuids = s.bluez.uuids)
    (calls : Calls) (hcalls : s.bluez.uuids ≠ [] → calls.stop = true ∧ calls.clear = true) :
    Good api (t.callStopDiscovery calls).1 := by
  obtain ⟨hfilters', htypes', hcases⟩ := callStopDiscovery_spec t calls
  apply h.of_emptied (hfilters'.trans hfilters) (htypes'.trans htypes)
  rcases hcases with hempty | ⟨hsame, hkept⟩
  · exact hempty
  · by_contra hne
    have hset : s.bluez.uuids ≠ [] := fun he => hne (hsame.trans (huuids.trans he))
    rcases hkept with hunused | hfail
    · rw [huse, (h.flags hset).1] at hunused
      cases hunused
    · exact hfail (hcalls hset)

theorem Good.cancelDiscovery (h : s.Good api) (callback : CancelCallback) (calls : Calls)
    (hcalls : s.Unused → s.bluez.uuids ≠ [] → calls.stop = true ∧ calls.clear = true) :
    Good api (s.cancelDiscovery callback calls).1 := by
  unfold Bluez5Adapter.cancelDiscovery
  by_cases hdisc : s.mDiscovering = true
  · rw [if_neg (not_not.mpr hdisc)]
    dsimp only
    by_cases hfilters : s.mLeScanFilters.keys.length = 0
    · rw [if_pos hfilters]
      have hstop := h.callStopDiscovery (t := { s with mLegacyScan := false }) rfl rfl rfl rfl
        calls (hcalls ⟨hdisc, hfilters⟩)
      split_ifs
      · exact hstop.of_keeps ⟨rfl, rfl, rfl, rfl, rfl⟩ rfl
      · exact hstop
    · rw [if_neg hfilters]
      exact ⟨h.typed, fun hne => ⟨(h.flags hne).1, (h.flags hne).2.1, rfl⟩, h.covers⟩
  · rw [if_pos hdisc]
    exact h

theorem Good.cancelLeDiscovery (h : s.Good api) (calls : Calls)
    (hcalls : s.Unused → s.mLegacyScan = false → s.bluez.uuids ≠ [] →
      calls.stop = true ∧ calls.clear = true) :
    Good api (s.cancelLeDiscovery calls).1 := by
  unfold Bluez5Adapter.cancelLeDiscovery
  by_cases hdisc : s.mDiscovering = true
  · rw [if_neg (not_not.mpr hdisc)]
    split_ifs with hunused
    · exact h.callStopDiscovery rfl rfl rfl rfl calls (hcalls ⟨hdisc, hunused.1⟩ hunused.2)
    · exact h
  · rw [if_pos hdisc]
    exact h

theorem Good.callStartDiscovery (h : s.Good api) (start : Bool) :
    Good api (s.callStartDiscovery start).1 := by
  obtain ⟨hkeeps, huuids⟩ := callStartDiscovery_spec s start
  exact h.of_keeps hkeeps huuids

theorem Good.startDiscovery (h : s.Good api) (calls : Calls)
    (hcalls : s.bluez.uuids ≠ [] → calls.stop = true ∧ calls.clear = true) :
    Good api (s.startDiscovery calls).1 := by
  unfold Bluez5Adapter.startDiscovery
  dsimp only
  by_cases huse : s.mUseBluezFilter = true
  · rw [if_pos huse]
    set u : Bluez5Adapter := { s with mUseBluezFilter := false, mLegacyScan := true }
    obtain ⟨hkeeps, hcases⟩ := prepareFilterForDiscovery_spec u calls
    have hprepared : Good api (u.prepareFilterForDiscovery calls).1 := by
      apply h.of_emptied hkeeps.filters hkeeps.types
      rcases hcases with hempty | ⟨hsame, _, hfail⟩
      · exact hempty
      · by_contra hne
        exact hfail (hcalls fun he => hne (hsame.trans he))
    split_ifs
    · exact hprepared
    · exact hprepared
    · exact hprepared.callStartDiscovery _
  · have hempty : s.bluez.uuids = [] := by
      by_contra hne
      exact huse (h.flags hne).1
    have hlegacy : Good api { s with mLegacyScan := true } :=
      h.of_emptied (t := { s with mLegacyScan := true }) rfl rfl hempty
    rw [if_neg huse]
    dsimp only
    rw [if_neg (fun he => nomatch he)]
    split_ifs
    · exact hlegacy
    · exact hlegacy.callStartDiscovery _

theorem Good.startLeDiscovery (h : s.Good api) (calls : Calls) :
    Good api (s.startLeDiscovery calls).1 := by
  unfold Bluez5Adapter.startLeDiscovery
  split_ifs
  · exact h
  · exact h.callStartDiscovery _

theorem Good.removeLeDiscoveryFilter (h : s.Good api) (scanId : UInt32) :
    Good api (s.removeLeDiscoveryFilter scanId).1 := by
  unfold Bluez5Adapter.removeLeDiscoveryFilter
  split_ifs
  · exact ⟨h.typed.erase scanId, h.flags, fun hne filter hfilter =>
      h.covers hne filter (KeyedMap.mem_values_of_mem_erase hfilter)⟩
  · exact h

theorem Good.insertFilter (h : s.Good api) {filter accepted : BluetoothLeDiscoveryFilter}
    {type : UInt8} (hvalid : api.isFilterValid filter = some (accepted, type))
    (hcovers : s.bluez.uuids ≠ [] → Covers s.bluez.uuids accepted) :
    Good api (s.insertFilter accepted type).1 := by
  refine ⟨h.typed.emplace ⟨filter, hvalid⟩, h.flags, fun hne f hf => ?_⟩
  rcases KeyedMap.mem_values_emplace hf with hold | rfl
  · exact h.covers hne f hold
  · exact hcovers hne

theorem within_foldl (types : List UInt8) : ∀ type : UInt8,
    WithinServiceUuid (types.foldl (· ||| ·) type) →
      WithinServiceUuid type ∧ ∀ t ∈ types, WithinServiceUuid t := by
  induction types with
  | nil =>
      intro type h
      exact ⟨h, fun t ht => absurd ht List.not_mem_nil⟩
  | cons t types ih =>
      intro type h
      obtain ⟨hboth, hrest⟩ := ih (type ||| t) h
      exact ⟨hboth.left, List.forall_mem_cons.mpr ⟨hboth.right, hrest⟩⟩

theorem covers_of_criteria (hapi : api.Documented) (htyped : s.Typed api)
    {filter accepted : BluetoothLeDiscoveryFilter} {type : UInt8}
    (hvalid : api.isFilterValid filter = some (accepted, type))
    (hcriteria : s.bluezFilterUsageCriteria type = true) :
    ∀ f ∈ accepted :: s.mLeScanFilters.values,
      Covers (s.setBluezFilter accepted true).1.bluez.uuids f := by
  rw [bluezFilterUsageCriteria, beq_iff_eq] at hcriteria
  have hwithin : WithinServiceUuid (s.mLeScanFilterTypes.values.foldl (· ||| ·) 0 ||| type) := by
    rw [WithinServiceUuid, hcriteria, UInt8.or_self]
  obtain ⟨_, htypes⟩ := within_foldl _ _ hwithin.left
  intro f hf
  have hmem : convertToLowerCase f.serviceUuid.uuid ∈
      (s.setBluezFilter accepted true).1.bluez.uuids :=
    List.mem_map_of_mem (f := fun f : BluetoothLeDiscoveryFilter =>
      convertToLowerCase f.serviceUuid.uuid) hf
  rcases List.mem_cons.mp hf with rfl | hstored
  · obtain ⟨huuid, hmask⟩ := unmasked_of_within hapi hvalid hwithin.right
    exact ⟨huuid, hmask, hmem⟩
  · obtain ⟨t, ht, g, hg⟩ := htyped.exists_value hstored
    obtain ⟨huuid, hmask⟩ := unmasked_of_within hapi hg (htypes t ht)
    exact ⟨huuid, hmask, hmem⟩

theorem Good.of_set (hapi : api.Documented) (h : s.Good api)
    {filter accepted : BluetoothLeDiscoveryFilter} {type : UInt8}
    (hvalid : api.isFilterValid filter = some (accepted, type))
    (hcriteria : s.bluezFilterUsageCriteria type = true)
    (hkeeps : Keeps
      { s with mUseBluezFilter := true, mSILDiscovery := true, mLegacyScan := false } t)
    (huuids : t.bluez.uuids = (s.setBluezFilter accepted true).1.bluez.uuids) :
    t.Good api ∧ Good api (t.insertFilter accepted type).1 := by
  have hcovers := covers_of_criteria hapi h.typed hvalid hcriteria
  rw [← huuids] at hcovers
  have hgood : t.Good api := by
    constructor
    · unfold Typed
      rw [hkeeps.filters, hkeeps.types]
      exact h.typed
    · exact fun _ => ⟨hkeeps.use, hkeeps.sil, hkeeps.legacy⟩
    · rw [hkeeps.filters]
      exact fun _ f hf => hcovers f (List.mem_cons_of_mem _ hf)
  exact ⟨hgood, hgood.insertFilter hvalid fun _ => hcovers accepted List.mem_cons_self⟩

/-- Setting the filter of BlueZ for a filter that can use it, wherever this stops. -/
theorem Good.setPrepared (hapi : api.Documented) (h : s.Good api)
    {filter accepted : BluetoothLeDiscoveryFilter} {type : UInt8}
    (hvalid : api.isFilterValid filter = some (accepted, type))
    (hcriteria : s.bluezFilterUsageCriteria type = true) (huse : s.mUseBluezFilter = true)
    (hlegacy : s.mLegacyScan = false) (calls : Calls) :
    Good api (s.addPrepared .none accepted type calls).1 := by
  unfold Bluez5Adapter.addPrepared
  rw [if_pos rfl, if_neg (not_not.mpr huse)]
  cases calls.set with
  | false => exact h
  | true =>
      have hset : ∀ u : Bluez5Adapter,
          Keeps { s with mSILDiscovery := true } u →
          u.bluez.uuids = (s.setBluezFilter accepted true).1.bluez.uuids →
          u.Good api ∧ Good api (u.insertFilter accepted type).1 := by
        intro u hu huuids
        apply h.of_set hapi hvalid hcriteria _ huuids
        exact ⟨hu.filters, hu.types, hu.use.trans huse, hu.sil, hu.legacy.trans hlegacy⟩
      dsimp only
      have hok : (s.setBluezFilter accepted true).2 = true := rfl
      rw [if_neg (not_not.mpr hok)]
      by_cases hsil : (s.setBluezFilter accepted true).1.mSILDiscovery = true
      · obtain ⟨hresume, hsame⟩ :=
          resumeLeDiscovery_spec (s.setBluezFilter accepted true).1 calls.resume
        rw [if_pos hsil]
        split_ifs
        · exact (hset { ((s.setBluezFilter accepted true).1.resumeLeDiscovery
            calls.resume).1 with mSILDiscovery := true }
            ⟨hresume.filters, hresume.types, hresume.use, rfl, hresume.legacy⟩ hsame).2
        · exact (hset _ ⟨hresume.filters, hresume.types, hresume.use,
            hresume.sil.trans hsil, hresume.legacy⟩ hsame).1
      · rw [if_neg hsil]
        exact (hset { (s.setBluezFilter accepted true).1 with mSILDiscovery := true }
          ⟨rfl, rfl, rfl, rfl, rfl⟩ rfl).2

theorem Good.addPrepared (hapi : api.Documented) (h : s.Good api)
    {filter accepted : BluetoothLeDiscoveryFilter} {type : UInt8} {err : BluetoothError}
    (hvalid : api.isFilterValid filter = some (accepted, type)) (hlegacy : s.mLegacyScan = false)
    (hkeeps : Keeps { s with mUseBluezFilter := s.bluezFilterUsageCriteria type } t)
    (calls : Calls)
    (huuids : t.bluez.uuids = [] ∨ t.bluez.uuids = s.bluez.uuids ∧ err = .fail ∧
      (s.bluez.uuids ≠ [] → s.bluezFilterUsageCriteria type = true)) :
    Good api (t.addPrepared err accepted type calls).1 := by
  have hcriteria : t.bluezFilterUsageCriteria type = s.bluezFilterUsageCriteria type := by
    unfold bluezFilterUsageCriteria
    rw [hkeeps.types]
  have hgood : t.Good api := by
    rcases huuids with hempty | ⟨hsame, _, huse⟩
    · exact h.of_emptied hkeeps.filters hkeeps.types hempty
    · have hdecided : Good api { s with mUseBluezFilter := s.bluezFilterUsageCriteria type } :=
        ⟨h.typed, fun hne => ⟨huse hne, (h.flags hne).2.1, hlegacy⟩, h.covers⟩
      exact hdecided.of_keeps hkeeps hsame
  by_cases herr : err = .none
  · subst herr
    by_cases huse : t.mUseBluezFilter = true
    · exact hgood.setPrepared hapi hvalid (hcriteria.trans (hkeeps.use.symm.trans huse)) huse
        (hkeeps.legacy.trans hlegacy) calls
    · have hempty : t.bluez.uuids = [] := by
        rcases huuids with hempty | ⟨_, hfail, _⟩
        · exact hempty
        · cases hfail
      unfold Bluez5Adapter.addPrepared
      rw [if_pos rfl, if_pos huse]
      exact hgood.insertFilter hvalid fun hne => absurd hempty hne
  · unfold Bluez5Adapter.addPrepared
    rw [if_neg herr]
    exact hgood

theorem Good.addLeDiscoveryFilter (hapi : api.Documented) (h : s.Good api)
    (filter : BluetoothLeDiscoveryFilter) (calls : Calls)
    (hcalls : Empties api s (.addLeDiscoveryFilter filter calls)) :
    Good api (s.addLeDiscoveryFilter api filter calls).1 := by
  cases hvalid : api.isFilterValid filter with
  | none =>
      rw [Bluez5Adapter.addLeDiscoveryFilter, hvalid]
      exact h
  | some result =>
      obtain ⟨accepted, type⟩ := result
      rw [Bluez5Adapter.addLeDiscoveryFilter, hvalid]
      dsimp only
      by_cases hlegacy : s.mLegacyScan = true
      · rw [if_pos hlegacy]
        exact h.insertFilter hvalid fun hne => absurd (h.uuids_nil_of_legacy hlegacy) hne
      · have hoff : s.mLegacyScan = false := Bool.eq_false_of_not_eq_true hlegacy
        rw [if_neg hlegacy]
        split_ifs with hsil
        · obtain ⟨hkeeps, hcases⟩ := prepareFilterForDiscovery_spec
            { s with mUseBluezFilter := s.bluezFilterUsageCriteria type } calls
          refine h.addPrepared hapi hvalid hoff hkeeps calls ?_
          rcases hcases with hempty | ⟨hsame, hfail, hcall⟩
          · exact .inl hempty
          · refine .inr ⟨hsame, hfail, fun hne => ?_⟩
            by_contra hother
            exact hcall (hcalls accepted type hvalid (Bool.eq_false_of_not_eq_true hother) hne)
        · refine h.addPrepared hapi hvalid hoff ⟨rfl, rfl, rfl, rfl, rfl⟩ calls (.inl ?_)
          by_contra hne
          exact hsil (h.flags hne).2.1

theorem Good.step (hapi : api.Documented) (h : s.Good api) {e : DiscoveryEvent}
    (he : Empties api s e) (hstep : s.step api e = some t) : t.Good api := by
  cases e with
  | addLeDiscoveryFilter filter calls =>
      cases hstep
      exact h.addLeDiscoveryFilter hapi filter calls he
  | removeLeDiscoveryFilter scanId =>
      cases hstep
      exact h.removeLeDiscoveryFilter scanId
  | startDiscovery calls =>
      cases hstep
      exact h.startDiscovery calls he
  | cancelDiscovery callback calls =>
      cases hstep
      exact h.cancelDiscovery _ calls he
  | startLeDiscovery calls =>
      cases hstep
      exact h.startLeDiscovery calls
  | cancelLeDiscovery calls =>
      cases hstep
      exact h.cancelLeDiscovery calls he
  | discoveringChanged discovering =>
      cases hstep
      unfold Bluez5Adapter.discoveringChanged
      dsimp only
      split_ifs
      · exact h.of_keeps ⟨rfl, rfl, rfl, rfl, rfl⟩ rfl
      · exact h.of_keeps ⟨rfl, rfl, rfl, rfl, rfl⟩ rfl
  | discoveryTimeout source calls =>
      simp only [Bluez5Adapter.step, Option.ite_none_right_eq_some, Option.some.injEq] at hstep
      obtain ⟨_, rfl⟩ := hstep
      exact (h.cancelDiscovery .timeout calls he).of_keeps ⟨rfl, rfl, rfl, rfl, rfl⟩ rfl
  | setDiscoveryTimeout seconds =>
      cases hstep
      exact h.of_keeps ⟨rfl, rfl, rfl, rfl, rfl⟩ rfl

theorem good_of_reach (hapi : api.Documented)
    (hs : (discoveryMachine api).ReachWith (Empties api) s) : s.Good api :=
  hs.invariant good_init fun _ _ _ h he hstep => h.step hapi he hstep

end Bluez5Adapter

/-- In a run in which the calls that are to empty the filter of BlueZ succeed, BlueZ never
hides a device from a running scan. -/
theorem discovery_neverHides {api : FilterApi} (hapi : api.Documented) {s : Bluez5Adapter}
    (hs : (discoveryMachine api).ReachWith (Empties api) s) : s.NeverHides :=
  (Bluez5Adapter.good_of_reach hapi hs).neverHides

/-- A scan for a service that runs behind the filter of BlueZ. -/
theorem discovery_neverHides_filtered :
    ∃ s : Bluez5Adapter, s.mDiscovering = true ∧ s.bluez.uuids ≠ [] ∧ s.NeverHides := by
  have hadd : Empties formApi (discoveryMachine formApi).init
      (.addLeDiscoveryFilter (heartRateFilter "") {}) :=
    fun _ _ _ _ hne => absurd rfl hne
  exact ⟨_, rfl, by decide, discovery_neverHides formApi_documented
    (.step (e := .discoveringChanged true)
      (.step (e := .startLeDiscovery {}) (.step .init hadd rfl) trivial rfl) trivial rfl)⟩

/-- A legacy scan that cannot stop discovery goes on behind the filter of an LE scan. -/
theorem discovery_hides_legacy :
    ¬ ∀ s : Bluez5Adapter, (discoveryMachine formApi).Reach s → s.NeverHides := by
  intro h
  have hrun : ∃ t, (discoveryMachine formApi).run (discoveryMachine formApi).init
      [.addLeDiscoveryFilter (heartRateFilter "") {}, .startLeDiscovery {},
        .discoveringChanged true, .startDiscovery { stop := false }] = some t ∧
      t.mDiscovering = true ∧ t.mLegacyScan = true ∧ t.bluez.uuids ≠ [] :=
    ⟨_, rfl, by decide, by decide, by decide⟩
  obtain ⟨t, hrun, hdisc, hlegacy, hset⟩ := hrun
  exact hset ((h t (Machine.reach_of_run _ hrun) (.inl hdisc)).2 hlegacy)

end BluezSil.Adapter
