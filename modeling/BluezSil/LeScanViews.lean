import BluezSil.FollowedSet
import BluezSil.LeFilterRefusal
import BluezSil.LeRemovalReports

/-!
# What the clients of the scans see

A device that is added is reported as found, to everyone and to each active scan whose filter
it matches, and a removed one as removed. Later scans are told of a removal that does not
concern them, but only of an address that they do not have. What the reports add up to
is therefore the table behind them, for everyone and for each scan.
-/

namespace BluezSil.Adapter

open TransitionRun FollowedSet

/-- A report with the address of the device it is about. Properties sent along are left out. -/
inductive DeviceReport
  | deviceFound (address : Text)
  | leDeviceFoundByScanId (scanId : UInt32) (address : Text)
  | removal (report : RemovalReport)
  | leDevicePropertiesChangedByScanId (scanId : UInt32) (address : Text)
  | devicePropertiesChanged (address : Text)
  deriving DecidableEq

/-- Who hears of a device and its address, which comes in upper case when the device is found
and in lower case when it is removed. -/
abbrev Sighting := Option UInt32 × Text

def DeviceReport.signal : DeviceReport → Option (Signal Sighting)
  | .deviceFound address => some (.appeared (none, convertAddressToLowerCase address))
  | .leDeviceFoundByScanId scanId address =>
    some (.appeared (some scanId, convertAddressToLowerCase address))
  | .removal (.leDeviceRemovedByScanId scanId address) =>
    some (.vanished (some scanId, convertAddressToLowerCase address))
  | .removal (.deviceRemoved address) =>
    some (.vanished (none, convertAddressToLowerCase address))
  | .leDevicePropertiesChangedByScanId scanId address =>
    some (.touched (some scanId, convertAddressToLowerCase address))
  | .devicePropertiesChanged _ => none

/-- What the clients see after the reports, of which the latest comes first. -/
def sees (log : List DeviceReport) : Set Sighting := followed (log.filterMap DeviceReport.signal)

namespace DeviceTables

variable (matcher : Matcher) (s : DeviceTables) (scans : List UInt32)

def foundReports (d : DeviceObject) : List DeviceReport :=
  if s.observer then
    .deviceFound d.address ::
      if d.isBle then
        (scans.filter fun scanId => (s.adapter.mLeScanFilters.lookup scanId).any fun filter =>
          matcher.answers filter d.criteria).map (.leDeviceFoundByScanId · d.address)
      else []
  else []

/-- The devices that match a filter. The observer is called without asking whether there is
one. -/
def matchReports (filter : BluetoothLeDiscoveryFilter) (scanId : UInt32) : List DeviceReport :=
  s.mDevices.values.filterMap fun device =>
    match s.heap.lookup device with
    | some d =>
      if d.isBle ∧ matcher.answers filter d.criteria ∧ ¬ d.connected then
        some (.leDeviceFoundByScanId scanId d.address)
      else none
    | none => none

def changedReports (d : DeviceObject) : List DeviceReport :=
  if s.observer then
    (if d.isBle then
      (scans.filter fun scanId => (s.mLeDevicesByScanId.lookup scanId).any fun table =>
        table.keys.any fun key => decide (s.addressIn table key = d.address)).map
          (.leDevicePropertiesChangedByScanId · (convertAddressToLowerCase d.address))
    else []) ++ [.devicePropertiesChanged d.address]
  else []

/-- The reports of an event other than a removal, where `scans` are the active scans in the
order of the hash table. -/
def reports : DeviceTableEvent → List DeviceReport
  | .matchLeDiscoveryFilterDevices filter scanId => s.matchReports matcher filter scanId
  | .addDevice d => s.foundReports matcher scans d
  | .devicePropertiesChanged _ d => s.changedReports scans d
  | _ => []

end DeviceTables

/-- The tables and what the observer has been told, latest first. -/
structure ObservedTables where
  tables : DeviceTables
  log : List DeviceReport := []

def ObservedTables.step (api : FilterApi) (matcher : Matcher) (s : ObservedTables) :
    DeviceTableEvent × List UInt32 → Option ObservedTables
  | (e, scans) =>
    if scans.Perm s.tables.adapter.mLeScanFilters.keys then
      match e with
      | .removeDevice objectPath order =>
        let (tables, reports) := s.tables.removeDeviceReporting objectPath order scans
        some ⟨tables, (reports.map .removal).reverse ++ s.log⟩
      | e => (DeviceTables.step api matcher s.tables e).map fun tables =>
        ⟨tables, (tables.reports matcher scans e).reverse ++ s.log⟩
    else none

/-- An adapter from the time on at which it has an observer and no device yet. -/
def observedMachine (api : FilterApi) (matcher : Matcher) :
    Machine ObservedTables (DeviceTableEvent × List UInt32) :=
  ⟨⟨{ observer := true }, []⟩, ObservedTables.step api matcher⟩

/-- The observer stays, the scan id given next is not in use, and the devices of an adapter
have addresses in upper case, different for different object paths. -/
def Announced (s : ObservedTables) : DeviceTableEvent × List UInt32 → Prop
  | (.registerObserver present, _) => present = true
  | (.addLeDiscoveryFilter _ _, _) =>
    s.tables.adapter.nextScanId ∉ s.tables.mLeDevicesByScanId
  | (.addDevice d, _) =>
    d.address ≠ [] ∧ convertAddressToUpperCase d.address = d.address ∧
      ∀ device e, s.tables.heap.lookup device = some e →
        (e.objectPath = d.objectPath ↔ e.address = d.address)
  | _ => True

namespace Bluez5Adapter

section Filters

variable {api : FilterApi} {s t : Bluez5Adapter} {filter : BluetoothLeDiscoveryFilter}

def Widened (s t : Bluez5Adapter) : Prop :=
  ∀ scanId ∈ t.mLeScanFilters, scanId ∈ s.mLeScanFilters ∨ scanId = s.nextScanId

theorem SameStored.widened (h : SameStored s t) : Widened s t := by
  intro scanId hscan
  rw [h.filters] at hscan
  exact .inl hscan

theorem SameStored.insertFilter (h : SameStored s t) (filter : BluetoothLeDiscoveryFilter)
    (type : UInt8) : Widened s (t.insertFilter filter type).1 := by
  intro scanId hscan
  rcases KeyedMap.mem_emplace.mp hscan with hold | rfl
  · exact h.widened scanId hold
  · exact .inr h.next

theorem SameStored.setBluezFilter (h : SameStored s t) (filter : BluetoothLeDiscoveryFilter)
    (set : Bool) : SameStored s (t.setBluezFilter filter set).1 := by
  unfold Bluez5Adapter.setBluezFilter
  split_ifs
  · exact ⟨h.filters, h.types, h.next⟩
  · exact h

theorem SameStored.resumeLeDiscovery (h : SameStored s t) (resume : Bool) :
    SameStored s (t.resumeLeDiscovery resume).1 := by
  unfold Bluez5Adapter.resumeLeDiscovery
  split_ifs
  · exact ⟨h.filters, h.types, h.next⟩
  · exact h

theorem SameStored.prepareFilterForDiscovery (h : SameStored s t) (calls : Calls) :
    SameStored s (t.prepareFilterForDiscovery calls).1 := by
  have hstop : SameStored s (t.stopLeDiscovery calls.stop).1 := by
    unfold stopLeDiscovery
    split_ifs <;> exact ⟨h.filters, h.types, h.next⟩
  have hclear : SameStored s ((t.stopLeDiscovery calls.stop).1.clearPreviousFilter
      calls.clear).1 := by
    unfold clearPreviousFilter
    split_ifs
    · exact ⟨hstop.filters, hstop.types, hstop.next⟩
    · exact hstop
  unfold Bluez5Adapter.prepareFilterForDiscovery
  dsimp only
  split_ifs
  · exact hclear
  · exact hclear.resumeLeDiscovery calls.resume
  · exact hclear.resumeLeDiscovery calls.resume
  · exact hclear
  · exact hstop

theorem SameStored.addPrepared (h : SameStored s t) (err : BluetoothError)
    (filter : BluetoothLeDiscoveryFilter) (type : UInt8) (calls : Calls) :
    Widened s (t.addPrepared err filter type calls).1 := by
  have hset := h.setBluezFilter filter calls.set
  have hresume := hset.resumeLeDiscovery calls.resume
  unfold Bluez5Adapter.addPrepared
  dsimp only
  split_ifs
  · exact SameStored.insertFilter ⟨hresume.filters, hresume.types, hresume.next⟩ filter type
  · exact hresume.widened
  · exact SameStored.insertFilter ⟨hset.filters, hset.types, hset.next⟩ filter type
  · exact hset.widened
  · exact h.insertFilter filter type
  · exact h.widened

theorem widened_addLeDiscoveryFilter (s : Bluez5Adapter) (filter : BluetoothLeDiscoveryFilter)
    (calls : Calls) : Widened s (s.addLeDiscoveryFilter api filter calls).1 := by
  unfold addLeDiscoveryFilter
  cases api.isFilterValid filter with
  | none => exact SameStored.widened ⟨rfl, rfl, rfl⟩
  | some accepted =>
      obtain ⟨accepted, type⟩ := accepted
      dsimp only
      split_ifs
      · exact SameStored.insertFilter ⟨rfl, rfl, rfl⟩ accepted type
      · exact SameStored.addPrepared (SameStored.prepareFilterForDiscovery ⟨rfl, rfl, rfl⟩ calls)
          _ accepted type calls
      · exact SameStored.addPrepared ⟨rfl, rfl, rfl⟩ _ accepted type calls

end Filters

end Bluez5Adapter

namespace DeviceTables

variable {matcher : Matcher} {s : DeviceTables} {objectPath address : Text} {order : IterationOrder}
variable {scans : List UInt32}

/-- Devices differ in their addresses as in their object paths. Each pointer filed for a scan
once had the device of its address, and for an active scan it still has. -/
structure Filed (s : DeviceTables) : Prop where
  owned : s.Owned
  named : ∀ device d, s.heap.lookup device = some d →
    d.address ≠ [] ∧ convertAddressToUpperCase d.address = d.address
  distinct : ∀ device d other e, s.heap.lookup device = some d → s.heap.lookup other = some e →
    (d.objectPath = e.objectPath ↔ d.address = e.address)
  old : ∀ scanId key device, s.mLeDevicesByScanId.lookupIn scanId key = some device →
    device < s.nextDevice ∧ ∀ d, s.heap.lookup device = some d → d.address = key
  live : ∀ scanId ∈ s.adapter.mLeScanFilters, ∀ key device,
    s.mLeDevicesByScanId.lookupIn scanId key = some device →
      key ∈ s.mDevices ∧ ∃ d, s.heap.lookup device = some d

def NamedBy (s : DeviceTables) (objectPath address : Text) : Prop :=
  ∀ device d, s.heap.lookup device = some d → (d.objectPath = objectPath ↔ d.address = address)

theorem Filed.exists_namedBy (h : s.Filed) (objectPath : Text) :
    ∃ address, s.NamedBy objectPath address ∧ convertAddressToUpperCase address = address := by
  by_cases hpath : ∃ device d, s.heap.lookup device = some d ∧ d.objectPath = objectPath
  · obtain ⟨device, d, hd, rfl⟩ := hpath
    exact ⟨d.address, fun other e he => h.distinct other e device d he hd, (h.named device d hd).2⟩
  · refine ⟨[], fun device d hd => ?_, rfl⟩
    exact iff_of_false (fun he => hpath ⟨device, d, hd, he⟩) (h.named device d hd).1

theorem Filed.filedUnder (h : s.Filed) (hnamed : s.NamedBy objectPath address) :
    s.FiledUnder objectPath address := by
  intro scanId table key device d htable hkey hd hpath
  have haddress := (hnamed device d hd).mp hpath
  have hold := (h.old scanId key device
    (KeyedMap.lookupIn_eq_some.mpr ⟨table, htable, hkey⟩)).2 d hd
  exact ⟨hold.symm.trans haddress, haddress⟩

theorem Filed.key_filed (h : s.Filed) {scanId : UInt32} {key : Text} {device : ℕ}
    (hscan : scanId ∈ s.adapter.mLeScanFilters)
    (hkey : s.mLeDevicesByScanId.lookupIn scanId key = some device) :
    ∃ d, s.heap.lookup device = some d ∧ d.address = key ∧ key ≠ [] ∧
      convertAddressToUpperCase key = key := by
  obtain ⟨-, d, hd⟩ := h.live scanId hscan key device hkey
  have haddress := (h.old scanId key device hkey).2 d hd
  subst haddress
  exact ⟨d, hd, rfl, h.named device d hd⟩

theorem Filed.key_owned (h : s.Filed) {key : Text} {device : ℕ}
    (hkey : s.mDevices.lookup key = some device) :
    ∃ d, s.heap.lookup device = some d ∧ d.address = key ∧ key ≠ [] ∧
      convertAddressToUpperCase key = key := by
  obtain ⟨d, hd, rfl⟩ := h.owned.live key device hkey
  exact ⟨d, hd, rfl, h.named device d hd⟩

theorem Filed.seenBy_iff (h : s.Filed) (hnamed : s.NamedBy objectPath address) {scanId : UInt32}
    (hscan : scanId ∈ s.adapter.mLeScanFilters) :
    s.SeenBy objectPath scanId ↔
      ∃ device, s.mLeDevicesByScanId.lookupIn scanId address = some device := by
  constructor
  · rintro ⟨table, htable, key, device, d, hkey, hd, hpath⟩
    obtain ⟨rfl, -⟩ := h.filedUnder hnamed scanId table key device d htable hkey hd hpath
    exact ⟨device, KeyedMap.lookupIn_eq_some.mpr ⟨table, htable, hkey⟩⟩
  · rintro ⟨device, hfiled⟩
    obtain ⟨d, hd, haddress, -⟩ := h.key_filed hscan hfiled
    obtain ⟨table, htable, hkey⟩ := KeyedMap.lookupIn_eq_some.mp hfiled
    exact ⟨table, htable, address, device, d, hkey, hd, (hnamed device d hd).mpr haddress⟩

theorem Filed.firstWithPath_mDevices (h : s.Filed) (hnamed : s.NamedBy objectPath address)
    (order : List Text) :
    s.firstWithPath s.mDevices objectPath order =
      if address ∈ s.mDevices then some address else none := by
  have hfirst : ∀ key, s.firstWithPath s.mDevices objectPath order = some key → key = address := by
    intro key hkey
    obtain ⟨device, d, hdevice, hd, hpath⟩ := firstWithPath_spec hkey
    obtain ⟨e, he, rfl, -⟩ := h.key_owned hdevice
    rw [hd, Option.some.injEq] at he
    exact he ▸ (hnamed device d hd).mp hpath
  split_ifs with hmem
  · obtain ⟨device, hdevice⟩ := KeyedMap.exists_lookup hmem
    obtain ⟨d, hd, haddress, -⟩ := h.key_owned hdevice
    have hsome := (@firstWithPath_isSome_iff s objectPath s.mDevices order).mpr
      ⟨address, device, d, hdevice, hd, (hnamed device d hd).mpr haddress⟩
    obtain ⟨key, hkey⟩ := Option.isSome_iff_exists.mp hsome
    rw [hkey, hfirst key hkey]
  · rw [Option.eq_none_iff_forall_ne_some]
    intro key hkey
    obtain ⟨device, hdevice⟩ := firstWithPath_mem hkey
    exact hmem (hfirst key hkey ▸ KeyedMap.mem_of_lookup hdevice)

section Removal

/-- But for the tables of the scans, the state is left as `removeDevice` leaves it. -/
theorem removeDeviceReporting_eq :
    ∃ tables, (s.removeDeviceReporting objectPath order scans).1 =
      { s.removeDevice objectPath order with mLeDevicesByScanId := tables } := by
  refine ⟨(s.removeDeviceReporting objectPath order scans).1.mLeDevicesByScanId, ?_⟩
  unfold removeDeviceReporting removeDevice
  cases hfirst : s.firstWithPath s.mDevices objectPath order.devices with
  | none =>
      unfold firstWithPath at hfirst ⊢
      simp only [hfirst]
  | some key =>
      obtain ⟨device, hdevice⟩ := firstWithPath_mem hfirst
      unfold firstWithPath at hfirst ⊢
      simp only [hfirst, hdevice]

theorem removeDevice_observer : (s.removeDevice objectPath order).observer = s.observer := by
  unfold removeDevice
  dsimp only
  split <;> rfl

theorem Filed.removeDeviceReporting_spec (h : s.Filed) (hnamed : s.NamedBy objectPath address)
    (hscans : scans.Perm s.adapter.mLeScanFilters.keys) :
    (s.removeDeviceReporting objectPath order scans).1.adapter = s.adapter ∧
    (s.removeDeviceReporting objectPath order scans).1.observer = s.observer ∧
    (s.removeDeviceReporting objectPath order scans).1.nextDevice = s.nextDevice ∧
    (∀ key device, (s.removeDeviceReporting objectPath order scans).1.mDevices.lookup key =
      some device ↔ key ≠ address ∧ s.mDevices.lookup key = some device) ∧
    (∀ device d, (s.removeDeviceReporting objectPath order scans).1.heap.lookup device = some d ↔
      s.mDevices.lookup address ≠ some device ∧ s.heap.lookup device = some d) ∧
    ∀ scanId key device,
      (s.removeDeviceReporting objectPath order scans).1.mLeDevicesByScanId.lookupIn scanId key =
        some device ↔
      ¬ (scanId ∈ s.adapter.mLeScanFilters ∧ key = address) ∧
        s.mLeDevicesByScanId.lookupIn scanId key = some device := by
  have hnodup : scans.Nodup := hscans.symm.nodup (AList.keys_nodup _)
  have htables : ∀ scanId key device,
      (s.removeDeviceReporting objectPath order scans).1.mLeDevicesByScanId.lookupIn scanId key =
        some device ↔
      ¬ (scanId ∈ s.adapter.mLeScanFilters ∧ key = address) ∧
        s.mLeDevicesByScanId.lookupIn scanId key = some device := by
    intro scanId key device
    rw [removeDeviceReporting_removed (h.filedUnder hnamed) hnodup, ← mem_scans_iff hscans,
      and_comm]
    apply and_congr_left
    intro hkey
    apply not_congr
    apply and_congr_right
    intro hscan
    constructor
    · exact And.right
    · rintro rfl
      exact ⟨(h.seenBy_iff hnamed hscan).mpr ⟨device, hkey⟩, rfl⟩
  obtain ⟨tables, heq⟩ := @removeDeviceReporting_eq s objectPath order scans
  have hobserver : (s.removeDevice objectPath order).observer = s.observer :=
    removeDevice_observer
  obtain ⟨hadapter, hnext, hcases⟩ := removeDevice_cases s objectPath order
  rw [h.firstWithPath_mDevices hnamed] at hcases
  have hrest : (∀ key device, (s.removeDevice objectPath order).mDevices.lookup key =
        some device ↔ key ≠ address ∧ s.mDevices.lookup key = some device) ∧
      ∀ device d, (s.removeDevice objectPath order).heap.lookup device = some d ↔
        s.mDevices.lookup address ≠ some device ∧ s.heap.lookup device = some d := by
    rcases hcases with ⟨hnone, hdevices, hheap⟩ | ⟨key, p, hkey, hp, hdevices, hheap⟩
    · have hmem : address ∉ s.mDevices := fun hmem => by simp [hmem] at hnone
      have hlookup : s.mDevices.lookup address = none := AList.lookup_eq_none.mpr hmem
      rw [hdevices, hheap]
      refine ⟨fun key device => ⟨fun hkey => ⟨?_, hkey⟩, And.right⟩, fun device d =>
        ⟨fun hd => ⟨?_, hd⟩, And.right⟩⟩
      · rintro rfl
        exact hmem (KeyedMap.mem_of_lookup hkey)
      · rw [hlookup]
        exact (Option.some_ne_none device).symm
    · obtain ⟨-, hkey⟩ := Option.ite_none_right_eq_some.mp hkey
      cases hkey
      rw [hdevices, hheap, hp]
      refine ⟨fun key device => KeyedMap.lookup_erase_eq_some, fun device d => ?_⟩
      rw [KeyedMap.lookup_erase_eq_some]
      simp [eq_comm]
  rw [heq] at htables ⊢
  exact ⟨hadapter, hobserver, hnext, hrest.1, hrest.2, htables⟩

theorem Filed.removeDeviceReporting (h : s.Filed)
    (hscans : scans.Perm s.adapter.mLeScanFilters.keys) :
    (s.removeDeviceReporting objectPath order scans).1.Filed := by
  obtain ⟨address, hnamed, -⟩ := h.exists_namedBy objectPath
  obtain ⟨hadapter, -, hnext, hdevices, hheap, htables⟩ :=
    @Filed.removeDeviceReporting_spec s objectPath address order scans h hnamed hscans
  constructor
  · constructor
    · intro key device hkey
      obtain ⟨hne, hkey⟩ := (hdevices key device).mp hkey
      obtain ⟨d, hd, rfl, -⟩ := h.key_owned hkey
      refine ⟨d, (hheap device d).mpr ⟨fun htaken => hne ?_, hd⟩, rfl⟩
      obtain ⟨e, he, haddress, -⟩ := h.key_owned htaken
      rw [hd, Option.some.injEq] at he
      exact he ▸ haddress
    · intro device hmem
      obtain ⟨d, hd⟩ := KeyedMap.exists_lookup hmem
      rw [hnext]
      exact h.owned.fresh device (KeyedMap.mem_of_lookup ((hheap device d).mp hd).2)
  · exact fun device d hd => h.named device d ((hheap device d).mp hd).2
  · exact fun device d other e hd he =>
      h.distinct device d other e ((hheap device d).mp hd).2 ((hheap other e).mp he).2
  · intro scanId key device hkey
    obtain ⟨hold, haddress⟩ := h.old scanId key device ((htables scanId key device).mp hkey).2
    rw [hnext]
    exact ⟨hold, fun d hd => haddress d ((hheap device d).mp hd).2⟩
  · intro scanId hscan key device hkey
    rw [hadapter] at hscan
    obtain ⟨hleft, hkey⟩ := (htables scanId key device).mp hkey
    have hne : key ≠ address := fun he => hleft ⟨hscan, he⟩
    obtain ⟨d, hd, rfl, -⟩ := h.key_filed hscan hkey
    obtain ⟨owner, howner⟩ := KeyedMap.exists_lookup (h.live scanId hscan _ device hkey).1
    refine ⟨KeyedMap.mem_of_lookup ((hdevices _ owner).mpr ⟨hne, howner⟩), d,
      (hheap device d).mpr ⟨fun htaken => hne ?_, hd⟩⟩
    obtain ⟨e, he, haddress, -⟩ := h.key_owned htaken
    rw [hd, Option.some.injEq] at he
    exact he ▸ haddress

end Removal

theorem isSome_match_iff {filter : BluetoothLeDiscoveryFilter} {scanId k : UInt32} {key : Text} :
    ((s.matchLeDiscoveryFilterDevices matcher filter scanId).mLeDevicesByScanId.lookupIn k
        key).isSome = true ↔
      (s.mLeDevicesByScanId.lookupIn k key).isSome = true ∨
      .leDeviceFoundByScanId k key ∈ s.matchReports matcher filter scanId := by
  unfold matchLeDiscoveryFilterDevices matchReports
  dsimp only
  generalize s.mLeDevicesByScanId = tables
  generalize s.mDevices.values = devices
  induction devices generalizing tables with
  | nil => simp
  | cons device devices ih =>
      rw [List.foldl_cons, ih]
      cases hd : s.heap.lookup device with
      | none => simp [hd]
      | some d =>
          by_cases hmatch : d.isBle ∧ matcher.answers filter d.criteria ∧ ¬ d.connected
          · have hsome : ((tables.emplaceIn scanId d.address device).lookupIn k key).isSome = true ↔
                (tables.lookupIn k key).isSome = true ∨ k = scanId ∧ key = d.address := by
              rw [Option.isSome_iff_ne_none, Ne, KeyedMap.lookupIn_emplaceIn_eq_none,
                Option.isSome_iff_ne_none]
              tauto
            simp only [hd, if_pos hmatch, hsome, List.filterMap_cons, List.mem_cons,
              DeviceReport.leDeviceFoundByScanId.injEq, or_assoc]
          · simp only [hd, if_neg hmatch, List.filterMap_cons]


theorem Filed.matchLeDiscoveryFilterDevices (h : s.Filed) (filter : BluetoothLeDiscoveryFilter)
    (scanId : UInt32) : (s.matchLeDiscoveryFilterDevices matcher filter scanId).Filed := by
  -- what is filed now is a device that `mDevices` has under its address
  have hnew : ∀ k key device, (s.matchLeDiscoveryFilterDevices matcher filter
      scanId).mLeDevicesByScanId.lookupIn k key = some device →
      s.mLeDevicesByScanId.lookupIn k key = some device ∨
        s.mDevices.lookup key = some device := by
    intro k key device hkey
    rcases matchLeDiscoveryFilterDevices_lookupIn hkey with hold | ⟨hmem, d, hd, rfl⟩
    · exact .inl hold
    · obtain ⟨other, hother⟩ := KeyedMap.mem_values_iff.mp hmem
      obtain ⟨e, he, rfl, -⟩ := h.key_owned hother
      rw [hd, Option.some.injEq] at he
      exact .inr (he ▸ hother)
  constructor
  · exact ⟨h.owned.live, h.owned.fresh⟩
  · exact h.named
  · exact h.distinct
  · intro k key device hkey
    rcases hnew k key device hkey with hold | howned
    · exact h.old k key device hold
    · obtain ⟨d, hd, haddress, -⟩ := h.key_owned howned
      refine ⟨h.owned.fresh device (KeyedMap.mem_of_lookup hd), fun e he => ?_⟩
      cases hd.symm.trans he
      exact haddress
  · intro k hk key device hkey
    rcases hnew k key device hkey with hold | howned
    · exact h.live k hk key device hold
    · obtain ⟨d, hd, -⟩ := h.key_owned howned
      exact ⟨KeyedMap.mem_of_lookup howned, d, hd⟩

theorem addDevice_lookupIn {d : DeviceObject} {scanId : UInt32} {key : Text} {device : ℕ} :
    (s.addDevice matcher d).mLeDevicesByScanId.lookupIn scanId key = some device ↔
      s.mLeDevicesByScanId.lookupIn scanId key = some device ∨
      (s.observer = true ∧ d.isBle = true) ∧
        s.mLeDevicesByScanId.lookupIn scanId d.address = none ∧ key = d.address ∧
        device = s.nextDevice ∧ ∃ filter, s.adapter.mLeScanFilters.lookup scanId = some filter ∧
          matcher.answers filter d.criteria = true := by
  unfold addDevice
  dsimp only
  split_ifs with hreported
  · rw [fileLeDevice_lookupIn]
    simp only [hreported, true_and]
  · simp only [hreported, false_and, or_false]

theorem Filed.addDevice (h : s.Filed) {d : DeviceObject}
    (hnamed : d.address ≠ [] ∧ convertAddressToUpperCase d.address = d.address)
    (hdistinct : ∀ device e, s.heap.lookup device = some e →
      (e.objectPath = d.objectPath ↔ e.address = d.address)) :
    (s.addDevice matcher d).Filed := by
  have hheap : ∀ device e, (s.addDevice matcher d).heap.lookup device = some e →
      s.heap.lookup device = some e ∨ device = s.nextDevice ∧ e = d :=
    fun device e he => (KeyedMap.lookup_insert_cases he).symm.imp_left And.right
  have hkept : ∀ device e, s.heap.lookup device = some e →
      (s.addDevice matcher d).heap.lookup device = some e := by
    intro device e he
    have hlt := h.owned.fresh device (KeyedMap.mem_of_lookup he)
    exact (AList.lookup_insert_ne hlt.ne).trans he
  constructor
  · exact h.owned.addDevice d
  · intro device e he
    rcases hheap device e he with hold | ⟨-, rfl⟩
    · exact h.named device e hold
    · exact hnamed
  · intro device e other f he hf
    rcases hheap device e he with he | ⟨-, he⟩
    · rcases hheap other f hf with hf | ⟨-, hf⟩
      · exact h.distinct device e other f he hf
      · rw [hf]
        exact hdistinct device e he
    · rcases hheap other f hf with hf | ⟨-, hf⟩
      · rw [he, eq_comm, hdistinct other f hf, eq_comm]
      · rw [he, hf]
        exact iff_of_true rfl rfl
  · intro scanId key device hkey
    rcases addDevice_lookupIn.mp hkey with hold | ⟨-, -, rfl, rfl, -⟩
    · obtain ⟨hlt, haddress⟩ := h.old scanId key device hold
      refine ⟨hlt.trans (Nat.lt_succ_self _), fun e he => ?_⟩
      rcases hheap device e he with he | ⟨rfl, -⟩
      · exact haddress e he
      · exact absurd hlt (lt_irrefl _)
    · refine ⟨Nat.lt_succ_self _, fun e he => ?_⟩
      rcases hheap _ e he with he | ⟨-, rfl⟩
      · exact absurd (h.owned.fresh _ (KeyedMap.mem_of_lookup he)) (lt_irrefl _)
      · rfl
  · intro scanId hscan key device hkey
    rcases addDevice_lookupIn.mp hkey with hold | ⟨-, -, rfl, rfl, -⟩
    · obtain ⟨hmem, e, he⟩ := h.live scanId hscan key device hold
      exact ⟨KeyedMap.mem_emplace.mpr (.inl hmem), e, hkept device e he⟩
    · exact ⟨KeyedMap.mem_emplace.mpr (.inr rfl), d, AList.lookup_insert _⟩

theorem Filed.devicePropertiesChanged (h : s.Filed) {device : ℕ} {d old : DeviceObject}
    (hold : s.heap.lookup device = some old) (hpath : old.objectPath = d.objectPath)
    (haddress : old.address = d.address) : Filed { s with heap := s.heap.insert device d } := by
  have hheap : ∀ p e, (s.heap.insert device d).lookup p = some e →
      ∃ f, s.heap.lookup p = some f ∧ f.objectPath = e.objectPath ∧ f.address = e.address := by
    intro p e he
    rcases KeyedMap.lookup_insert_cases he with ⟨rfl, rfl⟩ | ⟨-, he⟩
    · exact ⟨old, hold, hpath, haddress⟩
    · exact ⟨e, he, rfl, rfl⟩
  have hkept : ∀ p f, s.heap.lookup p = some f →
      ∃ e, (s.heap.insert device d).lookup p = some e ∧ f.address = e.address := by
    intro p f hf
    by_cases hp : p = device
    · subst hp
      rw [hold, Option.some.injEq] at hf
      exact ⟨d, AList.lookup_insert _, hf ▸ haddress⟩
    · exact ⟨f, (AList.lookup_insert_ne hp).trans hf, rfl⟩
  constructor
  · constructor
    · intro key p hkey
      obtain ⟨f, hf, rfl⟩ := h.owned.live key p hkey
      obtain ⟨e, he, hsame⟩ := hkept p f hf
      exact ⟨e, he, hsame.symm⟩
    · intro p hp
      obtain ⟨e, he⟩ := KeyedMap.exists_lookup hp
      obtain ⟨f, hf, -⟩ := hheap p e he
      exact h.owned.fresh p (KeyedMap.mem_of_lookup hf)
  · intro p e he
    obtain ⟨f, hf, -, hsame⟩ := hheap p e he
    rw [← hsame]
    exact h.named p f hf
  · intro p e q e' he he'
    obtain ⟨f, hf, hfpath, hfaddress⟩ := hheap p e he
    obtain ⟨f', hf', hfpath', hfaddress'⟩ := hheap q e' he'
    rw [← hfpath, ← hfpath', ← hfaddress, ← hfaddress']
    exact h.distinct p f q f' hf hf'
  · intro scanId key p hkey
    obtain ⟨hlt, hfiled⟩ := h.old scanId key p hkey
    refine ⟨hlt, fun e he => ?_⟩
    obtain ⟨f, hf, -, hsame⟩ := hheap p e he
    exact hsame.symm.trans (hfiled f hf)
  · intro scanId hscan key p hkey
    obtain ⟨hmem, f, hf⟩ := h.live scanId hscan key p hkey
    obtain ⟨e, he, -⟩ := hkept p f hf
    exact ⟨hmem, e, he⟩

theorem Filed.of_adapter (h : s.Filed) {adapter : Bluez5Adapter}
    (hscans : ∀ scanId ∈ adapter.mLeScanFilters,
      scanId ∈ s.adapter.mLeScanFilters ∨ scanId ∉ s.mLeDevicesByScanId) :
    Filed { s with adapter := adapter } := by
  constructor
  · exact ⟨h.owned.live, h.owned.fresh⟩
  · exact h.named
  · exact h.distinct
  · exact h.old
  · intro scanId hscan key device hkey
    rcases hscans scanId hscan with hold | hfree
    · exact h.live scanId hold key device hkey
    · obtain ⟨table, htable, -⟩ := KeyedMap.lookupIn_eq_some.mp hkey
      exact absurd (KeyedMap.mem_of_lookup htable) hfree

end DeviceTables

section Sightings

variable {reports log : List DeviceReport} {sighting : Sighting}

theorem mem_sees_of_found (h : ∀ r ∈ reports, ∃ k, r.signal = some (.appeared k)) :
    sighting ∈ sees (reports.reverse ++ log) ↔
      (∃ r ∈ reports, r.signal = some (.appeared sighting)) ∨ sighting ∈ sees log := by
  unfold sees
  rw [List.filterMap_append, mem_followed_of_appeared]
  · simp only [List.mem_filterMap, List.mem_reverse]
  · intro signal hsignal
    obtain ⟨r, hr, hs⟩ := List.mem_filterMap.mp hsignal
    obtain ⟨k, hk⟩ := h r (List.mem_reverse.mp hr)
    exact ⟨k, Option.some.inj (hs.symm.trans hk)⟩

theorem mem_sees_of_removed (h : ∀ r ∈ reports, ∃ k, r.signal = some (.vanished k)) :
    sighting ∈ sees (reports.reverse ++ log) ↔
      ¬ (∃ r ∈ reports, r.signal = some (.vanished sighting)) ∧ sighting ∈ sees log := by
  unfold sees
  rw [List.filterMap_append, mem_followed_of_vanished]
  · simp only [List.mem_filterMap, List.mem_reverse]
  · intro signal hsignal
    obtain ⟨r, hr, hs⟩ := List.mem_filterMap.mp hsignal
    obtain ⟨k, hk⟩ := h r (List.mem_reverse.mp hr)
    exact ⟨k, Option.some.inj (hs.symm.trans hk)⟩

theorem sees_of_changed (h : ∀ r ∈ reports, ∀ signal, r.signal = some signal →
    ∃ k, signal = .touched k) : sees (reports.reverse ++ log) = sees log := by
  unfold sees
  rw [List.filterMap_append, followed_of_touched]
  intro signal hsignal
  obtain ⟨r, hr, hs⟩ := List.mem_filterMap.mp hsignal
  exact h r (List.mem_reverse.mp hr) signal hs

/-- Each change is told of a device that is seen at the time. -/
def Fitting (log : List DeviceReport) : Prop := Proper (log.filterMap DeviceReport.signal)

theorem Fitting.append (hlog : Fitting log) (h : ∀ r ∈ reports, ∀ k, r.signal ≠ some (.touched k)) :
    Fitting (reports.reverse ++ log) := by
  unfold Fitting
  rw [List.filterMap_append]
  refine Proper.append hlog fun k hk => ?_
  obtain ⟨r, hr, hs⟩ := List.mem_filterMap.mp hk
  exact h r (List.mem_reverse.mp hr) k hs

theorem Fitting.append_changed (hlog : Fitting log)
    (h : ∀ r ∈ reports, ∀ signal, r.signal = some signal → ∃ k ∈ sees log, signal = .touched k) :
    Fitting (reports.reverse ++ log) := by
  unfold Fitting
  rw [List.filterMap_append]
  refine Proper.append_touched hlog fun signal hsignal => ?_
  obtain ⟨r, hr, hs⟩ := List.mem_filterMap.mp hsignal
  exact h r (List.mem_reverse.mp hr) signal hs

end Sightings

namespace DeviceTables

variable {matcher : Matcher} {s : DeviceTables} {scans : List UInt32} {d : DeviceObject}
variable {r : DeviceReport} {a : Text} {k : UInt32}

theorem mem_foundReports : r ∈ s.foundReports matcher scans d ↔
    s.observer = true ∧ (r = .deviceFound d.address ∨ d.isBle = true ∧
      ∃ scanId ∈ scans, (∃ filter, s.adapter.mLeScanFilters.lookup scanId = some filter ∧
        matcher.answers filter d.criteria = true) ∧
        r = .leDeviceFoundByScanId scanId d.address) := by
  unfold foundReports
  split_ifs with hobserver hble
  · simp only [hobserver, hble, List.mem_cons, List.mem_map, List.mem_filter, Option.any_eq_true,
      true_and, and_assoc, @eq_comm _ r]
  · simp [hobserver, hble]
  · simp [hobserver]

theorem foundReports_signal (hr : r ∈ s.foundReports matcher scans d) :
    ∃ sighting, r.signal = some (.appeared sighting) := by
  obtain ⟨-, rfl | ⟨-, scanId, -, -, rfl⟩⟩ := mem_foundReports.mp hr
  · exact ⟨_, rfl⟩
  · exact ⟨_, rfl⟩

theorem matchReports_signal {filter : BluetoothLeDiscoveryFilter} {scanId : UInt32}
    (hr : r ∈ s.matchReports matcher filter scanId) :
    ∃ address, r = .leDeviceFoundByScanId scanId address := by
  obtain ⟨device, -, hdevice⟩ := List.mem_filterMap.mp hr
  cases hd : s.heap.lookup device with
  | none => simp [hd] at hdevice
  | some d =>
      simp only [hd, Option.ite_none_right_eq_some, Option.some.injEq] at hdevice
      exact ⟨d.address, hdevice.2.symm⟩

theorem mem_changedReports : r ∈ s.changedReports scans d ↔
    s.observer = true ∧ ((d.isBle = true ∧
      ∃ scanId ∈ scans, (∃ table, s.mLeDevicesByScanId.lookup scanId = some table ∧
        ∃ key ∈ table.keys, s.addressIn table key = d.address) ∧
        r = .leDevicePropertiesChangedByScanId scanId (convertAddressToLowerCase d.address)) ∨
      r = .devicePropertiesChanged d.address) := by
  unfold changedReports
  split_ifs with hobserver hble
  · simp only [hobserver, hble, List.mem_append, List.mem_map, List.mem_filter,
      Option.any_eq_true, List.any_eq_true, decide_eq_true_eq, List.mem_singleton, true_and,
      and_assoc, @eq_comm _ r]
  · simp [hobserver, hble]
  · simp [hobserver]

end DeviceTables

namespace DeviceTables

section Removal

variable {s : DeviceTables} {objectPath address : Text} {order : IterationOrder}
variable {scans : List UInt32}

/-- Scans hear of the removal as the loop tells them, and everyone does if there was a device. -/
theorem Filed.mem_removeDeviceReporting (h : s.Filed) (hnamed : s.NamedBy objectPath address)
    (hscans : scans.Perm s.adapter.mLeScanFilters.keys) (hobserver : s.observer = true)
    (r : RemovalReport) :
    r ∈ (s.removeDeviceReporting objectPath order scans).2 ↔
      (address ≠ [] ∧ ∃ scanId ∈ CarriedFlag.told (s.seen objectPath order) s.filed false scans,
        r = .leDeviceRemovedByScanId scanId (convertAddressToLowerCase address)) ∨
      address ∈ s.mDevices ∧ r = .deviceRemoved (convertAddressToLowerCase address) := by
  have hreports := (@foldl_removeFromScan s objectPath order address
    ⟨[], s.mLeDevicesByScanId, []⟩ false (h.filedUnder hnamed) scans
    (hscans.symm.nodup (AList.keys_nodup _)) (fun _ _ => rfl) rfl).1
  have htold : r ∈ (scans.foldl (s.removeFromScan objectPath order)
        { mLeDevicesByScanId := s.mLeDevicesByScanId }).reports ↔
      address ≠ [] ∧ ∃ scanId ∈ CarriedFlag.told (s.seen objectPath order) s.filed false scans,
        r = .leDeviceRemovedByScanId scanId (convertAddressToLowerCase address) := by
    rw [hreports, List.nil_append]
    by_cases haddress : address = []
    · simp [haddress]
    · simp only [haddress, hobserver, ne_eq, not_false_eq_true, and_self, if_true, List.mem_map,
        true_and, @eq_comm _ r]
  unfold DeviceTables.removeDeviceReporting
  rw [h.firstWithPath_mDevices hnamed]
  dsimp only
  by_cases hmem : address ∈ s.mDevices
  · obtain ⟨device, hdevice⟩ := KeyedMap.exists_lookup hmem
    obtain ⟨d, hd, haddress, hne, -⟩ := h.key_owned hdevice
    have hin : s.addressIn s.mDevices address = address := by
      simp [addressIn, hdevice, hd, haddress]
    have hlength : (convertAddressToLowerCase address).length > 0 := by
      rw [convertAddressToLowerCase, List.length_map]
      exact List.length_pos_iff.mpr hne
    rw [if_pos hmem]
    dsimp only
    rw [hin, if_pos ⟨hlength, hobserver⟩, List.mem_append, htold, List.mem_singleton]
    simp only [hmem, true_and]
  · rw [if_neg hmem]
    dsimp only
    rw [htold]
    simp only [hmem, false_and, or_false]

end Removal

end DeviceTables

/-- What everyone sees is `mDevices`, and what is seen through a scan is the table of the scan. -/
structure ObservedTables.Mirrored (s : ObservedTables) : Prop where
  observer : s.tables.observer = true
  filed : s.tables.Filed
  devices : ∀ a, (none, a) ∈ sees s.log ↔
    ∃ key ∈ s.tables.mDevices, convertAddressToLowerCase key = a
  scans : ∀ scanId a, (some scanId, a) ∈ sees s.log ↔
    ∃ key, (s.tables.mLeDevicesByScanId.lookupIn scanId key).isSome = true ∧
      convertAddressToLowerCase key = a
  fitting : Fitting s.log

namespace ObservedTables

variable {matcher : Matcher} {s : ObservedTables} {scans : List UInt32}

theorem Mirrored.addDevice (h : s.Mirrored)
    (hscans : scans.Perm s.tables.adapter.mLeScanFilters.keys) {d : DeviceObject}
    (hnamed : d.address ≠ [] ∧ convertAddressToUpperCase d.address = d.address)
    (hdistinct : ∀ device e, s.tables.heap.lookup device = some e →
      (e.objectPath = d.objectPath ↔ e.address = d.address)) :
    Mirrored ⟨s.tables.addDevice matcher d,
      ((s.tables.addDevice matcher d).foundReports matcher scans d).reverse ++ s.log⟩ := by
  have hsignal : ∀ r ∈ (s.tables.addDevice matcher d).foundReports matcher scans d,
      ∃ k, r.signal = some (.appeared k) := fun r hr => DeviceTables.foundReports_signal hr
  constructor
  · exact h.observer
  · exact h.filed.addDevice hnamed hdistinct
  · intro a
    have hfound : (∃ r ∈ (s.tables.addDevice matcher d).foundReports matcher scans d,
        r.signal = some (.appeared (none, a))) ↔ convertAddressToLowerCase d.address = a := by
      constructor
      · rintro ⟨r, hr, hsigns⟩
        obtain ⟨-, rfl | ⟨-, scanId, -, -, rfl⟩⟩ := DeviceTables.mem_foundReports.mp hr
        · simpa [DeviceReport.signal] using hsigns
        · simp [DeviceReport.signal] at hsigns
      · rintro rfl
        exact ⟨_, DeviceTables.mem_foundReports.mpr ⟨h.observer, .inl rfl⟩, rfl⟩
    rw [mem_sees_of_found hsignal, hfound, h.devices]
    constructor
    · rintro (rfl | ⟨key, hkey, rfl⟩)
      · exact ⟨d.address, KeyedMap.mem_emplace.mpr (.inr rfl), rfl⟩
      · exact ⟨key, KeyedMap.mem_emplace.mpr (.inl hkey), rfl⟩
    · rintro ⟨key, hkey, rfl⟩
      rcases KeyedMap.mem_emplace.mp hkey with hkey | rfl
      · exact .inr ⟨key, hkey, rfl⟩
      · exact .inl rfl
  · intro scanId a
    have hfound : (∃ r ∈ (s.tables.addDevice matcher d).foundReports matcher scans d,
        r.signal = some (.appeared (some scanId, a))) ↔
        (s.tables.observer = true ∧ d.isBle = true) ∧
          (∃ filter, s.tables.adapter.mLeScanFilters.lookup scanId = some filter ∧
            matcher.answers filter d.criteria = true) ∧
          convertAddressToLowerCase d.address = a := by
      constructor
      · rintro ⟨r, hr, hsigns⟩
        obtain ⟨-, rfl | ⟨hble, k, -, hfilter, rfl⟩⟩ := DeviceTables.mem_foundReports.mp hr
        · simp [DeviceReport.signal] at hsigns
        · simp only [DeviceReport.signal, Option.some.injEq, Signal.appeared.injEq,
            Prod.mk.injEq] at hsigns
          obtain ⟨rfl, rfl⟩ := hsigns
          exact ⟨⟨h.observer, hble⟩, hfilter, rfl⟩
      · rintro ⟨⟨-, hble⟩, ⟨filter, hfilter, hanswer⟩, rfl⟩
        have hmem : scanId ∈ scans :=
          (DeviceTables.mem_scans_iff hscans scanId).mp (KeyedMap.mem_of_lookup hfilter)
        exact ⟨_, DeviceTables.mem_foundReports.mpr
          ⟨h.observer, .inr ⟨hble, scanId, hmem, ⟨filter, hfilter, hanswer⟩, rfl⟩⟩, rfl⟩
    rw [mem_sees_of_found hsignal, hfound, h.scans]
    constructor
    · rintro (⟨hble, hfilter, rfl⟩ | ⟨key, hkey, rfl⟩)
      · refine ⟨d.address, ?_, rfl⟩
        cases hold : s.tables.mLeDevicesByScanId.lookupIn scanId d.address with
        | none =>
            have hnew := DeviceTables.addDevice_lookupIn.mpr (.inr ⟨hble, hold, rfl, rfl, hfilter⟩)
            exact Option.isSome_of_mem hnew
        | some device =>
            exact Option.isSome_of_mem (DeviceTables.addDevice_lookupIn.mpr (.inl hold))
      · obtain ⟨device, hdevice⟩ := Option.isSome_iff_exists.mp hkey
        exact ⟨key, Option.isSome_of_mem (DeviceTables.addDevice_lookupIn.mpr (.inl hdevice)), rfl⟩
    · rintro ⟨key, hkey, rfl⟩
      obtain ⟨device, hdevice⟩ := Option.isSome_iff_exists.mp hkey
      rcases DeviceTables.addDevice_lookupIn.mp hdevice with hold | ⟨hble, -, rfl, -, hfilter⟩
      · exact .inr ⟨key, Option.isSome_of_mem hold, rfl⟩
      · exact .inl ⟨hble, hfilter, rfl⟩
  · refine h.fitting.append fun r hr k hk => ?_
    obtain ⟨j, hj⟩ := hsignal r hr
    rw [hj] at hk
    cases hk

theorem Mirrored.matchLeDiscoveryFilterDevices (h : s.Mirrored)
    (filter : BluetoothLeDiscoveryFilter) (scanId : UInt32) :
    Mirrored ⟨s.tables.matchLeDiscoveryFilterDevices matcher filter scanId,
      (s.tables.matchReports matcher filter scanId).reverse ++ s.log⟩ := by
  have hsignal : ∀ r ∈ s.tables.matchReports matcher filter scanId,
      ∃ k, r.signal = some (.appeared k) := by
    intro r hr
    obtain ⟨address, rfl⟩ := DeviceTables.matchReports_signal hr
    exact ⟨_, rfl⟩
  constructor
  · exact h.observer
  · exact h.filed.matchLeDiscoveryFilterDevices filter scanId
  · intro a
    rw [mem_sees_of_found hsignal, h.devices]
    apply or_iff_right
    rintro ⟨r, hr, hsigns⟩
    obtain ⟨address, rfl⟩ := DeviceTables.matchReports_signal hr
    simp [DeviceReport.signal] at hsigns
  · intro k a
    rw [mem_sees_of_found hsignal, h.scans]
    simp only [DeviceTables.isSome_match_iff, or_and_right, exists_or]
    rw [or_comm]
    apply or_congr_right
    constructor
    · rintro ⟨r, hr, hsigns⟩
      obtain ⟨address, rfl⟩ := DeviceTables.matchReports_signal hr
      simp only [DeviceReport.signal, Option.some.injEq, Signal.appeared.injEq,
        Prod.mk.injEq] at hsigns
      obtain ⟨rfl, rfl⟩ := hsigns
      exact ⟨address, hr, rfl⟩
    · rintro ⟨key, hkey, rfl⟩
      exact ⟨_, hkey, rfl⟩
  · refine h.fitting.append fun r hr k hk => ?_
    obtain ⟨j, hj⟩ := hsignal r hr
    rw [hj] at hk
    cases hk

/-- Only scans that do not have the address are told of it beyond those that had the device. -/
theorem Mirrored.removeDevice (h : s.Mirrored)
    (hscans : scans.Perm s.tables.adapter.mLeScanFilters.keys) (objectPath : Text)
    (order : IterationOrder) :
    Mirrored ⟨(s.tables.removeDeviceReporting objectPath order scans).1,
      ((s.tables.removeDeviceReporting objectPath order scans).2.map .removal).reverse ++
        s.log⟩ := by
  obtain ⟨address, hnamed, hupper⟩ := h.filed.exists_namedBy objectPath
  obtain ⟨-, hobserver, -, hdevices, -, htables⟩ :=
    @DeviceTables.Filed.removeDeviceReporting_spec s.tables objectPath address order scans
      h.filed hnamed hscans
  have hmem := @DeviceTables.Filed.mem_removeDeviceReporting s.tables objectPath address order
    scans h.filed hnamed hscans h.observer
  have hsignal : ∀ r ∈ (s.tables.removeDeviceReporting objectPath order scans).2.map
      DeviceReport.removal, ∃ k, r.signal = some (.vanished k) := by
    intro r hr
    obtain ⟨report, -, rfl⟩ := List.mem_map.mp hr
    cases report with
    | leDeviceRemovedByScanId scanId a => exact ⟨_, rfl⟩
    | deviceRemoved a => exact ⟨_, rfl⟩
  -- addresses in upper case differ if they do in lower case
  have hsame : ∀ key, convertAddressToUpperCase key = key →
      convertAddressToLowerCase key = convertAddressToLowerCase address → key = address := by
    intro key hkey hlower
    rw [← hkey, upperCase_eq_of_lowerCase_eq hlower, hupper]
  constructor
  · exact hobserver.trans h.observer
  · exact h.filed.removeDeviceReporting hscans
  · intro a
    have hgone : (∃ r ∈ (s.tables.removeDeviceReporting objectPath order scans).2.map
        DeviceReport.removal, r.signal = some (.vanished (none, a))) ↔
        address ∈ s.tables.mDevices ∧ convertAddressToLowerCase address = a := by
      constructor
      · rintro ⟨r, hr, hsigns⟩
        obtain ⟨report, hreport, rfl⟩ := List.mem_map.mp hr
        rcases (hmem report).mp hreport with ⟨-, scanId, -, rfl⟩ | ⟨haddress, rfl⟩
        · simp [DeviceReport.signal] at hsigns
        · exact ⟨haddress, by simpa [DeviceReport.signal] using hsigns⟩
      · rintro ⟨haddress, rfl⟩
        refine ⟨_, List.mem_map_of_mem ((hmem _).mpr (.inr ⟨haddress, rfl⟩)), ?_⟩
        simp [DeviceReport.signal]
    have hkeys : ∀ key, key ∈ (s.tables.removeDeviceReporting objectPath order scans).1.mDevices ↔
        key ≠ address ∧ key ∈ s.tables.mDevices := by
      intro key
      simp only [← AList.lookup_isSome, Option.isSome_iff_exists, hdevices, exists_and_left]
    rw [mem_sees_of_removed hsignal, hgone, h.devices]
    constructor
    · rintro ⟨hleft, key, hkey, rfl⟩
      refine ⟨key, (hkeys key).mpr ⟨?_, hkey⟩, rfl⟩
      rintro rfl
      exact hleft ⟨hkey, rfl⟩
    · rintro ⟨key, hkey, rfl⟩
      obtain ⟨hne, hkey⟩ := (hkeys key).mp hkey
      refine ⟨fun hleft => hne ?_, key, hkey, rfl⟩
      obtain ⟨device, hdevice⟩ := KeyedMap.exists_lookup hkey
      obtain ⟨d, -, -, -, hcase⟩ := h.filed.key_owned hdevice
      exact hsame key hcase hleft.2.symm
  · intro scanId a
    have hgone : (∃ r ∈ (s.tables.removeDeviceReporting objectPath order scans).2.map
        DeviceReport.removal, r.signal = some (.vanished (some scanId, a))) ↔
        address ≠ [] ∧ scanId ∈ CarriedFlag.told (s.tables.seen objectPath order) s.tables.filed
          false scans ∧ convertAddressToLowerCase address = a := by
      constructor
      · rintro ⟨r, hr, hsigns⟩
        obtain ⟨report, hreport, rfl⟩ := List.mem_map.mp hr
        rcases (hmem report).mp hreport with ⟨hne, k, hk, rfl⟩ | ⟨-, rfl⟩
        · simp only [DeviceReport.signal, Option.some.injEq, Signal.vanished.injEq,
            Prod.mk.injEq, lowerCase_lowerCase] at hsigns
          obtain ⟨rfl, rfl⟩ := hsigns
          exact ⟨hne, hk, rfl⟩
        · simp [DeviceReport.signal] at hsigns
      · rintro ⟨hne, hk, rfl⟩
        refine ⟨_, List.mem_map_of_mem ((hmem _).mpr (.inl ⟨hne, scanId, hk, rfl⟩)), ?_⟩
        simp [DeviceReport.signal]
    rw [mem_sees_of_removed hsignal, hgone, h.scans]
    constructor
    · rintro ⟨hleft, key, hkey, rfl⟩
      obtain ⟨device, hdevice⟩ := Option.isSome_iff_exists.mp hkey
      refine ⟨key, Option.isSome_of_mem ((htables scanId key device).mpr ⟨?_, hdevice⟩), rfl⟩
      rintro ⟨hscan, rfl⟩
      obtain ⟨-, -, -, hne, -⟩ := h.filed.key_filed hscan hdevice
      have hseen := (@DeviceTables.seen_iff s.tables objectPath order scanId).mpr
        ((h.filed.seenBy_iff hnamed hscan).mpr ⟨device, hdevice⟩)
      exact hleft ⟨hne, CarriedFlag.mem_told_of_marked (fun _ => DeviceTables.filed_of_seen)
        ((DeviceTables.mem_scans_iff hscans scanId).mp hscan) hseen, rfl⟩
    · rintro ⟨key, hkey, rfl⟩
      obtain ⟨device, hdevice⟩ := Option.isSome_iff_exists.mp hkey
      obtain ⟨hleft, hdevice⟩ := (htables scanId key device).mp hdevice
      refine ⟨?_, key, Option.isSome_of_mem hdevice, rfl⟩
      rintro ⟨-, htold, hlower⟩
      have hscan := (DeviceTables.mem_scans_iff hscans scanId).mpr
        ((CarriedFlag.told_sublist false).subset htold)
      obtain ⟨-, -, -, -, hcase⟩ := h.filed.key_filed hscan hdevice
      exact hleft ⟨hscan, hsame key hcase hlower.symm⟩
  · refine h.fitting.append fun r hr k hk => ?_
    obtain ⟨j, hj⟩ := hsignal r hr
    rw [hj] at hk
    cases hk

/-- A change is told where the device is in the table, through any of its pointers. -/
theorem Mirrored.devicePropertiesChanged (h : s.Mirrored)
    (hscans : scans.Perm s.tables.adapter.mLeScanFilters.keys) {device : ℕ}
    {d old : DeviceObject} (hold : s.tables.heap.lookup device = some old)
    (hpath : old.objectPath = d.objectPath) (haddress : old.address = d.address) :
    Mirrored ⟨{ s.tables with heap := s.tables.heap.insert device d },
      (DeviceTables.changedReports { s.tables with heap := s.tables.heap.insert device d } scans
        d).reverse ++ s.log⟩ := by
  have hfiled := h.filed.devicePropertiesChanged hold hpath haddress
  have hsignal : ∀ r ∈ DeviceTables.changedReports
      { s.tables with heap := s.tables.heap.insert device d } scans d,
      ∀ signal, r.signal = some signal → ∃ k ∈ sees s.log, signal = .touched k := by
    intro r hr signal hsigns
    rcases (DeviceTables.mem_changedReports.mp hr).2 with
      ⟨-, scanId, hscan, ⟨table, htable, key, hkey, hin⟩, rfl⟩ | rfl
    · have hactive := (DeviceTables.mem_scans_iff hscans scanId).mpr hscan
      obtain ⟨p, hp⟩ := KeyedMap.exists_lookup (AList.mem_keys.mpr hkey)
      have hlookup : s.tables.mLeDevicesByScanId.lookupIn scanId key = some p :=
        KeyedMap.lookupIn_eq_some.mpr ⟨table, htable, hp⟩
      obtain ⟨e, he, rfl, -⟩ := hfiled.key_filed hactive hlookup
      have hsame : e.address = d.address := by
        simpa [DeviceTables.addressIn, hp, he] using hin
      refine ⟨(some scanId, convertAddressToLowerCase d.address), ?_, ?_⟩
      · exact (h.scans _ _).mpr ⟨e.address, Option.isSome_of_mem hlookup, by rw [hsame]⟩
      · simpa [DeviceReport.signal] using hsigns.symm
    · simp [DeviceReport.signal] at hsigns
  have hsees := @sees_of_changed _ s.log fun r hr signal hsigns =>
    (hsignal r hr signal hsigns).imp fun _ => And.right
  constructor
  · exact h.observer
  · exact hfiled
  · rw [hsees]
    exact h.devices
  · rw [hsees]
    exact h.scans
  · exact h.fitting.append_changed hsignal

theorem Mirrored.of_adapter (h : s.Mirrored) {adapter : Bluez5Adapter}
    (hscans : ∀ scanId ∈ adapter.mLeScanFilters,
      scanId ∈ s.tables.adapter.mLeScanFilters ∨ scanId ∉ s.tables.mLeDevicesByScanId) :
    Mirrored ⟨{ s.tables with adapter := adapter }, s.log⟩ :=
  ⟨h.observer, h.filed.of_adapter hscans, h.devices, h.scans, h.fitting⟩

theorem mirrored_init : Mirrored ⟨{ observer := true }, []⟩ := by
  constructor
  · rfl
  · constructor
    · exact ⟨DeviceTables.owned_init.live, DeviceTables.owned_init.fresh⟩
    · exact fun device d hd => by cases hd
    · exact fun device d other e hd => by cases hd
    · exact fun scanId key device hkey => by cases hkey
    · exact fun scanId hscan => absurd hscan (AList.notMem_empty scanId)
  · exact fun a => iff_of_false id fun ⟨key, hkey, _⟩ => AList.notMem_empty key hkey
  · exact fun scanId a => iff_of_false id fun ⟨key, hkey, _⟩ => by cases hkey
  · trivial

theorem step_mirrored {api : FilterApi} {e : DeviceTableEvent × List UInt32} {t : ObservedTables}
    (h : s.Mirrored) (hannounced : Announced s e)
    (hstep : s.step api matcher e = some t) : t.Mirrored := by
  obtain ⟨e, scans⟩ := e
  obtain ⟨hscans, hstep⟩ := Option.ite_none_right_eq_some.mp hstep
  cases e with
  | registerObserver present =>
      cases hstep
      exact ⟨hannounced, ⟨⟨h.filed.owned.live, h.filed.owned.fresh⟩, h.filed.named,
        h.filed.distinct, h.filed.old, h.filed.live⟩, h.devices, h.scans, h.fitting⟩
  | addLeDiscoveryFilter filter calls =>
      cases hstep
      refine h.of_adapter fun scanId hscan => ?_
      refine (Bluez5Adapter.widened_addLeDiscoveryFilter _ filter calls scanId hscan).imp_right ?_
      rintro rfl
      exact hannounced
  | removeLeDiscoveryFilter scanId =>
      cases hstep
      refine h.of_adapter fun k hk => .inl ?_
      unfold Bluez5Adapter.removeLeDiscoveryFilter at hk
      split_ifs at hk
      · exact (AList.mem_erase.mp hk).2
      · exact hk
  | matchLeDiscoveryFilterDevices filter scanId =>
      cases hstep
      exact h.matchLeDiscoveryFilterDevices filter scanId
  | addDevice d =>
      cases hstep
      exact h.addDevice hscans ⟨hannounced.1, hannounced.2.1⟩ hannounced.2.2
  | removeDevice objectPath order =>
      cases hstep
      exact h.removeDevice hscans objectPath order
  | devicePropertiesChanged device d =>
      obtain ⟨tables, htables, hstep⟩ := Option.map_eq_some_iff.mp hstep
      obtain ⟨hknown, htables⟩ := Option.ite_none_right_eq_some.mp htables
      cases htables
      cases hstep
      obtain ⟨old, hold, hsame⟩ := Option.map_eq_some_iff.mp hknown
      exact h.devicePropertiesChanged hscans hold (congrArg Prod.fst hsame)
        (congrArg Prod.snd hsame)

end ObservedTables

/-- In every run with announced steps what the reports add up to is `mDevices` for everyone and
the table of each scan for the scan, what is seen through an active scan everyone sees, and a
scan is told of changes to devices only while it sees them. -/
theorem clients_see_tables {api : FilterApi} {matcher : Matcher} {s : ObservedTables}
    (h : (observedMachine api matcher).ReachWith Announced s) :
    (∀ a, (none, a) ∈ sees s.log ↔
      ∃ key ∈ s.tables.mDevices, convertAddressToLowerCase key = a) ∧
    (∀ scanId a, (some scanId, a) ∈ sees s.log ↔
      ∃ key, (s.tables.mLeDevicesByScanId.lookupIn scanId key).isSome = true ∧
        convertAddressToLowerCase key = a) ∧
    (∀ scanId ∈ s.tables.adapter.mLeScanFilters, ∀ a, (some scanId, a) ∈ sees s.log →
      (none, a) ∈ sees s.log) ∧
    ∀ later scanId address earlier,
      s.log = later ++ .leDevicePropertiesChangedByScanId scanId address :: earlier →
        (some scanId, convertAddressToLowerCase address) ∈ sees earlier := by
  have hs : s.Mirrored := h.invariant ObservedTables.mirrored_init
    fun _ _ _ hs hannounced hstep => ObservedTables.step_mirrored hs hannounced hstep
  refine ⟨hs.devices, hs.scans, fun scanId hscan a hseen => ?_, fun later scanId address earlier
    hlog => ?_⟩
  · obtain ⟨key, hkey, rfl⟩ := (hs.scans scanId a).mp hseen
    obtain ⟨device, hdevice⟩ := Option.isSome_iff_exists.mp hkey
    exact (hs.devices _).mpr ⟨key, (hs.filed.live scanId hscan key device hdevice).1, rfl⟩
  · have hfitting := hs.fitting
    rw [hlog, Fitting, List.filterMap_append] at hfitting
    exact hfitting.touched_mem

def otherBeacon : DeviceObject :=
  { objectPath := ['e'], isBle := true, connected := false, criteria := { address := ['B'] } }

/-- The second scan is told of the removal of a device it has never seen, and sees the other one
as before. -/
theorem clients_see_tables_beacons :
    ∃ s : ObservedTables, .removal (.leDeviceRemovedByScanId 2 ['a']) ∈ s.log ∧
      (some 2, ['b']) ∈ sees s.log ∧ (none, ['b']) ∈ sees s.log ∧ (none, ['a']) ∉ sees s.log := by
  have hfirst : ∀ {s : ObservedTables} {scans : List UInt32}, s.tables.heap = ∅ →
      Announced s (.addDevice beacon, scans) := by
    intro s scans hheap
    refine ⟨by decide, by decide, fun device e he => ?_⟩
    rw [hheap] at he
    cases he
  have hsecond : ∀ {s : ObservedTables} {scans : List UInt32},
      s.tables.heap = (∅ : KeyedMap ℕ DeviceObject).insert 0 beacon →
        Announced s (.addDevice otherBeacon, scans) := by
    intro s scans hheap
    refine ⟨by decide, by decide, fun device e he => ?_⟩
    rw [hheap] at he
    rcases KeyedMap.lookup_insert_cases he with ⟨-, rfl⟩ | ⟨-, hnone⟩
    · decide
    · cases hnone
  obtain ⟨hdevices, hscans, hknown, -⟩ := @clients_see_tables formApi strictMatcher _
    (.step (e := (.removeDevice ['d'] {}, [1, 2]))
      (.step (e := (.addDevice otherBeacon, [1, 2]))
        (.step (e := (.addLeDiscoveryFilter {} {}, [1]))
          (.step (e := (.addDevice beacon, [1]))
            (.step (e := (.addLeDiscoveryFilter {} {}, [])) .init (AList.notMem_empty _) rfl)
            (hfirst rfl) rfl)
          (AList.lookup_eq_none.mp rfl) rfl)
        (hsecond rfl) rfl)
      trivial rfl)
  have hseen := (hscans 2 ['b']).mpr ⟨['B'], by decide, by decide⟩
  refine ⟨_, ?_, hseen, hknown 2 (by decide) ['b'] hseen, fun hgone => ?_⟩
  · decide
  · obtain ⟨key, hkey, hlower⟩ := (hdevices ['a']).mp hgone
    have hkey : key ∈ [['B']] := AList.mem_keys.mp hkey
    rw [List.mem_singleton.mp hkey] at hlower
    revert hlower
    decide

end BluezSil.Adapter
