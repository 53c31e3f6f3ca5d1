import BluezSil.AdapterDiscoveryRuns

/-!
# The device tables of the adapter

`mDevices` owns the devices of an adapter, by address. `mLeDevicesByScanId` files
pointers to some of them under the scan ids of the filters they match. A device is
created and filed before anyone looks whether its address is taken, and on removal
only the tables of the scan ids that still have a filter are searched.
-/

namespace BluezSil.Adapter

open TransitionRun

/-- What the adapter asks a device object about. -/
structure DeviceObject where
  objectPath : Text
  isBle : Bool
  connected : Bool
  criteria : Bluez5Device

def DeviceObject.address (d : DeviceObject) : Text := d.criteria.address

/-- The answers of `filterMatchCriteria`, which may be any where a comparison leaves its
vectors. -/
structure Matcher where
  answers : BluetoothLeDiscoveryFilter → Bluez5Device → Bool
  agrees : ∀ filter device answer,
    filterMatchCriteria filter device = .ok answer → answers filter device = answer

/-- The order in which the tables are iterated: each goes through the addresses listed for
it first. -/
structure IterationOrder where
  devices : List Text := []
  leDevices : UInt32 → List Text := fun _ => []

/-- The adapter with its devices. Objects in `heap` have not been deleted. -/
structure DeviceTables where
  adapter : Bluez5Adapter := {}
  observer : Bool := false
  mDevices : KeyedMap Text ℕ := ∅
  mLeDevicesByScanId : KeyedMap UInt32 (KeyedMap Text ℕ) := ∅
  heap : KeyedMap ℕ DeviceObject := ∅
  nextDevice : ℕ := 0

namespace DeviceTables

variable (matcher : Matcher) (s : DeviceTables)

/-- The address under which a table has a device with the path, the first that is met. What
is read through a dangling pointer is no path. -/
def firstWithPath (table : KeyedMap Text ℕ) (objectPath : Text) (order : List Text) :
    Option Text :=
  (order ++ table.keys).find? fun address =>
    decide (((table.lookup address).bind s.heap.lookup).map DeviceObject.objectPath =
      some objectPath)

def matchLeDiscoveryFilterDevices (filter : BluetoothLeDiscoveryFilter) (scanId : UInt32) :
    DeviceTables :=
  { s with
    mLeDevicesByScanId := s.mDevices.values.foldl (fun tables device =>
      match s.heap.lookup device with
      | some d =>
        if d.isBle ∧ matcher.answers filter d.criteria ∧ ¬ d.connected then
          tables.emplaceIn scanId d.address device
        else tables
      | none => tables) s.mLeDevicesByScanId }

/-- The tables of the scan ids whose filter a new device matches. -/
def fileLeDevice (d : DeviceObject) (device : ℕ) : KeyedMap UInt32 (KeyedMap Text ℕ) :=
  s.adapter.mLeScanFilters.entries.foldl (fun tables entry =>
    if matcher.answers entry.2 d.criteria then tables.emplaceIn entry.1 d.address device
    else tables) s.mLeDevicesByScanId

def addDevice (d : DeviceObject) : DeviceTables :=
  let device := s.nextDevice
  { s with
    heap := s.heap.insert device d
    nextDevice := s.nextDevice + 1
    mDevices := s.mDevices.emplace d.address device
    mLeDevicesByScanId :=
      if s.observer ∧ d.isBle then s.fileLeDevice matcher d device else s.mLeDevicesByScanId }

def eraseFirst (table : KeyedMap Text ℕ) (objectPath : Text) (order : List Text) :
    KeyedMap Text ℕ :=
  match s.firstWithPath table objectPath order with
  | some address => table.erase address
  | none => table

def removeDevice (objectPath : Text) (order : IterationOrder) : DeviceTables :=
  let s := { s with
    mLeDevicesByScanId := s.adapter.mLeScanFilters.keys.foldl (fun tables scanId =>
      tables.modify scanId fun table => s.eraseFirst table objectPath (order.leDevices scanId))
      s.mLeDevicesByScanId }
  match s.firstWithPath s.mDevices objectPath order.devices with
  | some address =>
    { s with
      mDevices := s.mDevices.erase address
      heap := match s.mDevices.lookup address with
        | some device => s.heap.erase device
        | none => s.heap }
  | none => s

end DeviceTables

inductive DeviceTableEvent
  | registerObserver (present : Bool)
  | addLeDiscoveryFilter (filter : BluetoothLeDiscoveryFilter) (calls : Calls)
  | removeLeDiscoveryFilter (scanId : UInt32)
  | matchLeDiscoveryFilterDevices (filter : BluetoothLeDiscoveryFilter) (scanId : UInt32)
  | addDevice (d : DeviceObject)
  | removeDevice (objectPath : Text) (order : IterationOrder)
  | devicePropertiesChanged (device : ℕ) (d : DeviceObject)

/-- One event. The path and the address of a device do not change. -/
def DeviceTables.step (api : FilterApi) (matcher : Matcher) (s : DeviceTables) :
    DeviceTableEvent → Option DeviceTables
  | .registerObserver present => some { s with observer := present }
  | .addLeDiscoveryFilter filter calls =>
    some { s with adapter := (s.adapter.addLeDiscoveryFilter api filter calls).1 }
  | .removeLeDiscoveryFilter scanId =>
    some { s with adapter := (s.adapter.removeLeDiscoveryFilter scanId).1 }
  | .matchLeDiscoveryFilterDevices filter scanId =>
    some (s.matchLeDiscoveryFilterDevices matcher filter scanId)
  | .addDevice d => some (s.addDevice matcher d)
  | .removeDevice objectPath order => some (s.removeDevice objectPath order)
  | .devicePropertiesChanged device d =>
    if (s.heap.lookup device).map (fun d => (d.objectPath, d.address)) =
        some (d.objectPath, d.address) then
      some { s with heap := s.heap.insert device d }
    else none

def deviceTableMachine (api : FilterApi) (matcher : Matcher) :
    Machine DeviceTables DeviceTableEvent :=
  ⟨{}, DeviceTables.step api matcher⟩

/-- Every filed pointer is the one that `mDevices` has for its address. -/
def DeviceTables.Current (s : DeviceTables) : Prop :=
  ∀ scanId address device, s.mLeDevicesByScanId.lookupIn scanId address = some device →
    s.mDevices.lookup address = some device

/-- The filters and their types have the same keys, and the tables hold live devices only. -/
structure DeviceTables.Consistent (s : DeviceTables) : Prop where
  sameKeys : ∀ scanId, scanId ∈ s.adapter.mLeScanFilters ↔ scanId ∈ s.adapter.mLeScanFilterTypes
  current : s.Current

/-- The steps that leave no pointer behind. A device with a taken address is filed nowhere
anew, and a removed one is found in every table it is filed in. -/
def LeavesNothing (matcher : Matcher) (s : DeviceTables) : DeviceTableEvent → Prop
  | .addDevice d => d.address ∈ s.mDevices → s.observer = true → d.isBle = true →
    ∀ scanId filter, s.adapter.mLeScanFilters.lookup scanId = some filter →
      matcher.answers filter d.criteria = true →
        s.mLeDevicesByScanId.lookupIn scanId d.address ≠ none
  | .removeDevice objectPath order => ∀ address,
    s.firstWithPath s.mDevices objectPath order.devices = some address →
      ∀ scanId table, s.mLeDevicesByScanId.lookup scanId = some table → address ∈ table →
        scanId ∈ s.adapter.mLeScanFilters ∧
        s.firstWithPath table objectPath (order.leDevices scanId) = some address
  | _ => True

namespace Bluez5Adapter

def SameKeys (s : Bluez5Adapter) : Prop :=
  ∀ scanId, scanId ∈ s.mLeScanFilters ↔ scanId ∈ s.mLeScanFilterTypes

variable {api : FilterApi} {s t : Bluez5Adapter}

theorem SameKeys.of_keeps (h : s.SameKeys) (hkeeps : Keeps s t) : t.SameKeys := by
  unfold SameKeys
  rw [hkeeps.filters, hkeeps.types]
  exact h

theorem SameKeys.insertFilter (h : s.SameKeys) (filter : BluetoothLeDiscoveryFilter)
    (type : UInt8) : SameKeys (s.insertFilter filter type).1 := by
  intro scanId
  unfold Bluez5Adapter.insertFilter
  dsimp only
  rw [KeyedMap.mem_emplace, KeyedMap.mem_emplace, h scanId]

theorem SameKeys.addPrepared (h : s.SameKeys) (err : BluetoothError)
    (filter : BluetoothLeDiscoveryFilter) (type : UInt8) (calls : Calls) :
    SameKeys (s.addPrepared err filter type calls).1 := by
  have hset : SameKeys (s.setBluezFilter filter calls.set).1 := by
    unfold setBluezFilter
    split_ifs
    · exact h
    · exact h
  have hresume := hset.of_keeps
    (resumeLeDiscovery_spec (s.setBluezFilter filter calls.set).1 calls.resume).1
  unfold Bluez5Adapter.addPrepared
  dsimp only
  split_ifs
  · exact SameKeys.insertFilter (s := { ((s.setBluezFilter filter calls.set).1.resumeLeDiscovery
      calls.resume).1 with mSILDiscovery := true }) hresume filter type
  · exact hresume
  · exact SameKeys.insertFilter (s := { (s.setBluezFilter filter calls.set).1 with
      mSILDiscovery := true }) hset filter type
  · exact hset
  · exact h.insertFilter filter type
  · exact h

theorem SameKeys.addLeDiscoveryFilter (h : s.SameKeys) (filter : BluetoothLeDiscoveryFilter)
    (calls : Calls) : SameKeys (s.addLeDiscoveryFilter api filter calls).1 := by
  unfold Bluez5Adapter.addLeDiscoveryFilter
  cases api.isFilterValid filter with
  | none => exact h
  | some result =>
      obtain ⟨accepted, type⟩ := result
      dsimp only
      have hdecided : SameKeys { s with mUseBluezFilter := s.bluezFilterUsageCriteria type } := h
      split_ifs
      · exact h.insertFilter accepted type
      · exact (hdecided.of_keeps (prepareFilterForDiscovery_spec _ calls).1).addPrepared _ _ _ _
      · exact hdecided.addPrepared _ _ _ _

theorem SameKeys.removeLeDiscoveryFilter (h : s.SameKeys) (scanId : UInt32) :
    SameKeys (s.removeLeDiscoveryFilter scanId).1 := by
  unfold Bluez5Adapter.removeLeDiscoveryFilter
  split_ifs
  · intro k
    dsimp only
    rw [AList.mem_erase, AList.mem_erase, h k]
  · exact h

end Bluez5Adapter

namespace DeviceTables

variable {matcher : Matcher} {s t : DeviceTables}

/-- `mDevices` has live devices under their addresses, and new ones get new pointers. -/
structure Owned (s : DeviceTables) : Prop where
  live : ∀ address device, s.mDevices.lookup address = some device →
    ∃ d, s.heap.lookup device = some d ∧ d.address = address
  fresh : ∀ device ∈ s.heap, device < s.nextDevice

theorem matchLeDiscoveryFilterDevices_lookupIn {filter : BluetoothLeDiscoveryFilter}
    {scanId k : UInt32} {address : Text} {device : ℕ}
    (h : (s.matchLeDiscoveryFilterDevices matcher filter scanId).mLeDevicesByScanId.lookupIn k
      address = some device) :
    s.mLeDevicesByScanId.lookupIn k address = some device ∨
      device ∈ s.mDevices.values ∧
        ∃ d, s.heap.lookup device = some d ∧ d.address = address := by
  unfold matchLeDiscoveryFilterDevices at h
  dsimp only at h
  generalize s.mLeDevicesByScanId = tables at h
  generalize s.mDevices.values = devices at h ⊢
  induction devices generalizing tables with
  | nil => exact .inl h
  | cons p devices ih =>
      rw [List.foldl_cons] at h
      rcases ih _ h with hold | ⟨hmem, hlive⟩
      · cases hp : s.heap.lookup p with
        | none =>
            simp only [hp] at hold
            exact .inl hold
        | some d =>
            simp only [hp] at hold
            split_ifs at hold
            · rcases KeyedMap.lookupIn_emplaceIn_cases hold with hold | ⟨_, rfl, rfl⟩
              · exact .inl hold
              · exact .inr ⟨List.mem_cons_self, d, hp, rfl⟩
            · exact .inl hold
      · exact .inr ⟨List.mem_cons_of_mem _ hmem, hlive⟩

theorem fileLeDevice_lookupIn {d : DeviceObject} {device p : ℕ} {k : UInt32} {address : Text} :
    (s.fileLeDevice matcher d device).lookupIn k address = some p ↔
      s.mLeDevicesByScanId.lookupIn k address = some p ∨
      s.mLeDevicesByScanId.lookupIn k d.address = none ∧ address = d.address ∧ p = device ∧
        ∃ filter, s.adapter.mLeScanFilters.lookup k = some filter ∧
          matcher.answers filter d.criteria = true := by
  have hentries : ∀ filter, s.adapter.mLeScanFilters.lookup k = some filter ↔
      (⟨k, filter⟩ : Sigma fun _ : UInt32 => BluetoothLeDiscoveryFilter) ∈
        s.adapter.mLeScanFilters.entries := fun filter => AList.mem_lookup_iff
  simp only [hentries]
  unfold fileLeDevice
  generalize s.mLeDevicesByScanId = tables
  generalize s.adapter.mLeScanFilters.entries = entries
  induction entries generalizing tables with
  | nil => simp
  | cons entry entries ih =>
      rw [List.foldl_cons]
      refine (ih _).trans ?_
      by_cases hmatch : matcher.answers entry.2 d.criteria = true
      · rw [if_pos hmatch, KeyedMap.lookupIn_emplaceIn_eq_none]
        constructor
        · rintro (hnow | ⟨⟨_, hfree⟩, ha, hp, filter, hmem, hanswer⟩)
          · by_cases hold : tables.lookupIn k address = some p
            · exact .inl hold
            · obtain ⟨rfl, rfl, rfl⟩ :=
                (KeyedMap.lookupIn_emplaceIn_cases hnow).resolve_left hold
              refine .inr ⟨?_, rfl, rfl, entry.2, List.mem_cons_self, hmatch⟩
              rw [KeyedMap.lookupIn_emplaceIn_self, Option.some.injEq] at hnow
              cases hlookup : tables.lookupIn entry.1 d.address with
              | none => rfl
              | some w =>
                  rw [hlookup, Option.getD_some] at hnow
                  exact absurd (hlookup.trans (congrArg some hnow)) hold
          · exact .inr ⟨hfree, ha, hp, filter, List.mem_cons_of_mem _ hmem, hanswer⟩
        · rintro (hold | ⟨hfree, rfl, rfl, filter, hmem, hanswer⟩)
          · left
            by_cases hnew : k = entry.1 ∧ address = d.address
            · obtain ⟨rfl, rfl⟩ := hnew
              rw [KeyedMap.lookupIn_emplaceIn_self, hold, Option.getD_some]
            · rw [KeyedMap.lookupIn_emplaceIn_ne hnew]
              exact hold
          · by_cases hk : k = entry.1
            · subst hk
              left
              rw [KeyedMap.lookupIn_emplaceIn_self, hfree, Option.getD_none]
            · right
              have hrest := (List.mem_cons.mp hmem).resolve_left
                fun he => hk (congrArg Sigma.fst he)
              exact ⟨⟨fun h => hk h.1, hfree⟩, rfl, rfl, filter, hrest, hanswer⟩
      · rw [if_neg hmatch]
        apply or_congr_right
        apply and_congr_right
        intro _
        apply and_congr_right
        intro _
        apply and_congr_right
        intro _
        constructor
        · rintro ⟨filter, hmem, hanswer⟩
          exact ⟨filter, List.mem_cons_of_mem _ hmem, hanswer⟩
        · rintro ⟨filter, hmem, hanswer⟩
          refine ⟨filter, (List.mem_cons.mp hmem).resolve_left ?_, hanswer⟩
          rintro rfl
          exact hmatch hanswer

theorem firstWithPath_mem {table : KeyedMap Text ℕ} {objectPath address : Text}
    {order : List Text} (h : s.firstWithPath table objectPath order = some address) :
    ∃ device, table.lookup address = some device := by
  have hpath := List.find?_some
    (p := fun address => decide (((table.lookup address).bind s.heap.lookup).map
      DeviceObject.objectPath = some objectPath)) h
  cases hlookup : table.lookup address with
  | none => simp [hlookup] at hpath
  | some device => exact ⟨device, rfl⟩

theorem eraseFirst_lookup {table : KeyedMap Text ℕ} {objectPath address : Text}
    {order : List Text} {device : ℕ} :
    (s.eraseFirst table objectPath order).lookup address = some device ↔
      table.lookup address = some device ∧
        s.firstWithPath table objectPath order ≠ some address := by
  unfold eraseFirst
  cases hfirst : s.firstWithPath table objectPath order with
  | none => simp
  | some first =>
      dsimp only
      by_cases ha : address = first
      · subst ha
        simp [AList.lookup_erase]
      · rw [AList.lookup_erase_ne ha]
        simp [Ne.symm ha]

theorem removeDevice_lookupIn {objectPath address : Text} {order : IterationOrder}
    {scanId : UInt32} {device : ℕ} :
    (s.removeDevice objectPath order).mLeDevicesByScanId.lookupIn scanId address = some device ↔
      ∃ table, s.mLeDevicesByScanId.lookup scanId = some table ∧
        table.lookup address = some device ∧
        ¬ (scanId ∈ s.adapter.mLeScanFilters ∧
          s.firstWithPath table objectPath (order.leDevices scanId) = some address) := by
  have htables : (s.removeDevice objectPath order).mLeDevicesByScanId =
      s.adapter.mLeScanFilters.keys.foldl (fun tables scanId =>
        tables.modify scanId fun table => s.eraseFirst table objectPath (order.leDevices scanId))
        s.mLeDevicesByScanId := by
    unfold removeDevice
    dsimp only
    split <;> rfl
  rw [htables, KeyedMap.lookupIn_eq_some,
    KeyedMap.lookup_foldl_modify _ (AList.keys_nodup _) s.mLeDevicesByScanId scanId]
  by_cases hfilter : scanId ∈ s.adapter.mLeScanFilters
  · rw [if_pos (AList.mem_keys.mp hfilter)]
    constructor
    · rintro ⟨inner, hinner, hlookup⟩
      obtain ⟨table, htable, rfl⟩ := Option.map_eq_some_iff.mp hinner
      obtain ⟨hold, hkept⟩ := eraseFirst_lookup.mp hlookup
      exact ⟨table, htable, hold, fun h => hkept h.2⟩
    · rintro ⟨table, htable, hold, hkept⟩
      refine ⟨_, by rw [htable, Option.map_some], ?_⟩
      exact eraseFirst_lookup.mpr ⟨hold, fun h => hkept ⟨hfilter, h⟩⟩
  · rw [if_neg (mt AList.mem_keys.mpr hfilter)]
    constructor
    · rintro ⟨table, htable, hold⟩
      exact ⟨table, htable, hold, fun h => hfilter h.1⟩
    · rintro ⟨table, htable, hold, _⟩
      exact ⟨table, htable, hold⟩

theorem removeDevice_cases (s : DeviceTables) (objectPath : Text) (order : IterationOrder) :
    (s.removeDevice objectPath order).adapter = s.adapter ∧
    (s.removeDevice objectPath order).nextDevice = s.nextDevice ∧
    (s.firstWithPath s.mDevices objectPath order.devices = none ∧
      (s.removeDevice objectPath order).mDevices = s.mDevices ∧
      (s.removeDevice objectPath order).heap = s.heap ∨
     ∃ address device, s.firstWithPath s.mDevices objectPath order.devices = some address ∧
      s.mDevices.lookup address = some device ∧
      (s.removeDevice objectPath order).mDevices = s.mDevices.erase address ∧
      (s.removeDevice objectPath order).heap = s.heap.erase device) := by
  unfold removeDevice
  cases hfirst : s.firstWithPath s.mDevices objectPath order.devices with
  | none =>
      unfold firstWithPath at hfirst ⊢
      simp only [hfirst]
      exact ⟨trivial, trivial, .inl ⟨trivial, trivial, trivial⟩⟩
  | some address =>
      obtain ⟨device, hdevice⟩ := firstWithPath_mem hfirst
      unfold firstWithPath at hfirst ⊢
      simp only [hfirst, hdevice]
      exact ⟨trivial, trivial, .inr ⟨address, device, rfl, hdevice, rfl, rfl⟩⟩

theorem Owned.addDevice (h : s.Owned) (d : DeviceObject) : (s.addDevice matcher d).Owned := by
  have hnew : ∀ device ∈ s.heap, device ≠ s.nextDevice :=
    fun device hmem he => absurd (h.fresh device hmem) (by omega)
  constructor
  · intro address device hlookup
    rcases KeyedMap.lookup_emplace_cases hlookup with hold | ⟨rfl, rfl⟩
    · obtain ⟨e, he, haddress⟩ := h.live address device hold
      refine ⟨e, ?_, haddress⟩
      exact (AList.lookup_insert_ne (hnew device (KeyedMap.mem_of_lookup he))).trans he
    · exact ⟨d, AList.lookup_insert _, rfl⟩
  · intro device hmem
    show device < s.nextDevice + 1
    rcases AList.mem_insert _ |>.mp hmem with rfl | hold
    · omega
    · have hlt := h.fresh device hold
      omega

theorem Owned.removeDevice (h : s.Owned) (objectPath : Text) (order : IterationOrder) :
    (s.removeDevice objectPath order).Owned := by
  obtain ⟨_, hnext, ⟨_, hdevices, hheap⟩ | ⟨address, device, _, hdevice, hdevices, hheap⟩⟩ :=
    removeDevice_cases s objectPath order
  · constructor
    · rw [hdevices, hheap]
      exact h.live
    · rw [hheap, hnext]
      exact h.fresh
  · constructor
    · rw [hdevices, hheap]
      intro other p hp
      obtain ⟨hne, hold⟩ := KeyedMap.lookup_erase_some hp
      obtain ⟨e, he, haddress⟩ := h.live other p hold
      refine ⟨e, ?_, haddress⟩
      -- a pointer stands under the address of its device only
      have hother : p ≠ device := by
        rintro rfl
        obtain ⟨f, hf, hfirst⟩ := h.live address p hdevice
        rw [he, Option.some.injEq] at hf
        exact hne (haddress.symm.trans (hf ▸ hfirst))
      rw [AList.lookup_erase_ne hother, he]
    · rw [hheap, hnext]
      intro p hp
      exact h.fresh p (AList.mem_erase.mp hp).2

/-- A new device breaks the tables if and only if its address is taken and it is filed. -/
theorem current_addDevice_iff (h : s.Owned) (hcurrent : s.Current) (d : DeviceObject) :
    (s.addDevice matcher d).Current ↔ LeavesNothing matcher s (.addDevice d) := by
  constructor
  · intro hafter htaken hobserver hble scanId filter hfilter hanswer hfree
    obtain ⟨p, hp⟩ := KeyedMap.exists_lookup htaken
    have hfiled : (s.addDevice matcher d).mLeDevicesByScanId.lookupIn scanId d.address =
        some s.nextDevice := by
      unfold DeviceTables.addDevice
      dsimp only
      rw [if_pos ⟨hobserver, hble⟩]
      exact fileLeDevice_lookupIn.mpr (.inr ⟨hfree, rfl, rfl, filter, hfilter, hanswer⟩)
    have hkept := hafter scanId d.address s.nextDevice hfiled
    have hold : (s.addDevice matcher d).mDevices.lookup d.address = some p :=
      KeyedMap.lookup_emplace_of_some hp
    rw [hold, Option.some.injEq] at hkept
    obtain ⟨e, he, _⟩ := h.live d.address p hp
    have hlt := h.fresh p (KeyedMap.mem_of_lookup he)
    omega
  · intro hleaves scanId address device hfiled
    have hcases : s.mLeDevicesByScanId.lookupIn scanId address = some device ∨
        (s.observer = true ∧ d.isBle = true) ∧
        s.mLeDevicesByScanId.lookupIn scanId d.address = none ∧ address = d.address ∧
        device = s.nextDevice ∧ ∃ filter, s.adapter.mLeScanFilters.lookup scanId = some filter ∧
          matcher.answers filter d.criteria = true := by
      unfold DeviceTables.addDevice at hfiled
      dsimp only at hfiled
      split_ifs at hfiled with hreported
      · exact (fileLeDevice_lookupIn.mp hfiled).imp_right fun hnew => ⟨hreported, hnew⟩
      · exact .inl hfiled
    rcases hcases with hold | ⟨⟨hobserver, hble⟩, hfree, rfl, rfl, filter, hfilter, hanswer⟩
    · exact KeyedMap.lookup_emplace_of_some (hcurrent scanId address device hold)
    · apply KeyedMap.lookup_emplace_self
      intro htaken
      exact hleaves htaken hobserver hble scanId filter hfilter hanswer hfree

/-- A removed device leaves pointers behind if and only if a table it is filed in is not
searched, or has another device with its path first. -/
theorem current_removeDevice_iff (hcurrent : s.Current) (objectPath : Text)
    (order : IterationOrder) :
    (s.removeDevice objectPath order).Current ↔
      LeavesNothing matcher s (.removeDevice objectPath order) := by
  obtain ⟨_, _, ⟨hnone, hdevices, _⟩ | ⟨first, p, hfirst, hp, hdevices, _⟩⟩ :=
    removeDevice_cases s objectPath order
  · refine iff_of_true ?_ ?_
    · intro scanId address device hfiled
      obtain ⟨table, htable, hlookup, _⟩ := removeDevice_lookupIn.mp hfiled
      rw [hdevices]
      exact hcurrent scanId address device (KeyedMap.lookupIn_eq_some.mpr ⟨table, htable, hlookup⟩)
    · intro address hsome
      rw [hnone] at hsome
      cases hsome
  · constructor
    · intro hafter address hsome scanId table htable hmem
      rw [hfirst, Option.some.injEq] at hsome
      subst hsome
      obtain ⟨device, hdevice⟩ := KeyedMap.exists_lookup hmem
      by_contra hkept
      have hfiled := hafter scanId first device
        (removeDevice_lookupIn.mpr ⟨table, htable, hdevice, hkept⟩)
      rw [hdevices, AList.lookup_erase] at hfiled
      cases hfiled
    · intro hleaves scanId address device hfiled
      obtain ⟨table, htable, hlookup, hkept⟩ := removeDevice_lookupIn.mp hfiled
      have hold := hcurrent scanId address device
        (KeyedMap.lookupIn_eq_some.mpr ⟨table, htable, hlookup⟩)
      have hne : address ≠ first := by
        rintro rfl
        exact hkept (hleaves address hfirst scanId table htable (KeyedMap.mem_of_lookup hlookup))
      rw [hdevices, AList.lookup_erase_ne hne]
      exact hold

theorem current_match (h : s.Owned) (hcurrent : s.Current) (filter : BluetoothLeDiscoveryFilter)
    (scanId : UInt32) : (s.matchLeDiscoveryFilterDevices matcher filter scanId).Current := by
  intro k address device hfiled
  rcases matchLeDiscoveryFilterDevices_lookupIn hfiled with hold | ⟨hmem, d, hd, rfl⟩
  · exact hcurrent k address device hold
  · obtain ⟨other, hother⟩ := KeyedMap.mem_values_iff.mp hmem
    obtain ⟨e, he, rfl⟩ := h.live other device hother
    rw [hd, Option.some.injEq] at he
    rw [he]
    exact hother

theorem owned_init : Owned {} := by
  constructor
  · intro address device h
    rw [AList.lookup_empty] at h
    cases h
  · intro device h
    exact absurd h (AList.notMem_empty device)

theorem consistent_init : Consistent {} := by
  constructor
  · intro scanId
    exact iff_of_false (AList.notMem_empty scanId) (AList.notMem_empty scanId)
  · intro scanId address device h
    rw [KeyedMap.lookupIn, AList.lookup_empty] at h
    cases h

theorem Consistent.of_adapter (h : s.Consistent) {adapter : Bluez5Adapter}
    (hkeys : adapter.SameKeys) : Consistent { s with adapter := adapter } :=
  ⟨hkeys, h.current⟩

theorem step_consistent_iff {api : FilterApi} {e : DeviceTableEvent} (hcons : s.Consistent)
    (howned : s.Owned) (hstep : s.step api matcher e = some t) :
    t.Owned ∧ (t.Consistent ↔ LeavesNothing matcher s e) := by
  cases e with
  | registerObserver present =>
      cases hstep
      exact ⟨⟨howned.live, howned.fresh⟩, iff_of_true ⟨hcons.sameKeys, hcons.current⟩ trivial⟩
  | addLeDiscoveryFilter filter calls =>
      cases hstep
      refine ⟨⟨howned.live, howned.fresh⟩, iff_of_true (hcons.of_adapter ?_) trivial⟩
      exact Bluez5Adapter.SameKeys.addLeDiscoveryFilter hcons.sameKeys filter calls
  | removeLeDiscoveryFilter scanId =>
      cases hstep
      refine ⟨⟨howned.live, howned.fresh⟩, iff_of_true (hcons.of_adapter ?_) trivial⟩
      exact Bluez5Adapter.SameKeys.removeLeDiscoveryFilter hcons.sameKeys scanId
  | matchLeDiscoveryFilterDevices filter scanId =>
      cases hstep
      refine ⟨⟨howned.live, howned.fresh⟩, iff_of_true ⟨hcons.sameKeys, ?_⟩ trivial⟩
      exact current_match howned hcons.current filter scanId
  | addDevice d =>
      cases hstep
      refine ⟨howned.addDevice d, ?_⟩
      rw [← current_addDevice_iff howned hcons.current]
      exact ⟨fun h => h.current, fun h => ⟨hcons.sameKeys, h⟩⟩
  | removeDevice objectPath order =>
      cases hstep
      refine ⟨howned.removeDevice objectPath order, ?_⟩
      rw [← current_removeDevice_iff hcons.current]
      refine ⟨fun h => h.current, fun h => ⟨?_, h⟩⟩
      rw [(removeDevice_cases s objectPath order).1]
      exact hcons.sameKeys
  | devicePropertiesChanged device d =>
      obtain ⟨hknown, hstep⟩ := Option.ite_none_right_eq_some.mp hstep
      cases hstep
      obtain ⟨old, hold, hsame⟩ := Option.map_eq_some_iff.mp hknown
      refine ⟨⟨fun address p hp => ?_, fun p hp => ?_⟩,
        iff_of_true ⟨hcons.sameKeys, hcons.current⟩ trivial⟩
      · obtain ⟨e, he, haddress⟩ := howned.live address p hp
        by_cases hpd : p = device
        · subst hpd
          rw [hold, Option.some.injEq] at he
          subst he
          exact ⟨d, AList.lookup_insert _, (congrArg Prod.snd hsame).symm.trans haddress⟩
        · exact ⟨e, (AList.lookup_insert_ne hpd).trans he, haddress⟩
      · rcases (AList.mem_insert _).mp hp with rfl | hmem
        · exact howned.fresh p (KeyedMap.mem_of_lookup hold)
        · exact howned.fresh p hmem

end DeviceTables

/-- In a run whose steps leave no pointer behind the tables hold live devices only, and a step
from there breaks this if and only if it leaves one behind. -/
theorem deviceTables_consistent_iff {api : FilterApi} {matcher : Matcher} {s : DeviceTables}
    (hs : (deviceTableMachine api matcher).ReachWith (LeavesNothing matcher) s) :
    s.Consistent ∧
    ∀ e t, s.step api matcher e = some t → (t.Consistent ↔ LeavesNothing matcher s e) := by
  refine hs.invariant_iff_of (Q := DeviceTables.Owned) DeviceTables.consistent_init
    DeviceTables.owned_init ?_
  intro s e t hcons howned hstep
  obtain ⟨howned', hiff⟩ := DeviceTables.step_consistent_iff hcons howned hstep
  exact ⟨hiff, fun _ => howned'⟩

def strictMatcher : Matcher where
  answers filter device := decide (filterMatchCriteria filter device = .ok true)
  agrees filter device answer h := by
    rw [h]
    cases answer <;> rfl

def beacon : DeviceObject :=
  { objectPath := ['d'], isBle := true, connected := false, criteria := { address := ['A'] } }

/-- A device is found while a filter it matches is stored. -/
theorem deviceTables_consistent_beacon :
    ∃ s : DeviceTables, s.mLeDevicesByScanId.lookupIn 1 ['A'] = some 0 ∧
      s.mDevices.lookup ['A'] = some 0 ∧ s.Consistent := by
  have hadd : LeavesNothing strictMatcher
      { adapter := (Bluez5Adapter.addLeDiscoveryFilter {} formApi {} {}).1, observer := true }
      (.addDevice beacon) :=
    fun htaken => absurd htaken (AList.notMem_empty _)
  exact ⟨_, by decide, by decide, (@deviceTables_consistent_iff formApi _ _
    (.step (e := .addDevice beacon) (.step (e := .addLeDiscoveryFilter {} {})
      (.step (e := .registerObserver true) .init trivial rfl) trivial rfl) hadd rfl)).1⟩

/-- The filter goes first and the device after it. -/
theorem deviceTables_dangling :
    ¬ ∀ s, (deviceTableMachine formApi strictMatcher).Reach s → s.Consistent := by
  intro h
  have hrun : ∃ t, (deviceTableMachine formApi strictMatcher).run
      (deviceTableMachine formApi strictMatcher).init
      [.registerObserver true, .addLeDiscoveryFilter {} {}, .addDevice beacon,
        .removeLeDiscoveryFilter 1, .removeDevice ['d'] {}] = some t ∧
      t.mLeDevicesByScanId.lookupIn 1 ['A'] = some 0 ∧ t.mDevices.lookup ['A'] = none :=
    ⟨_, rfl, by decide, by decide⟩
  obtain ⟨t, hrun, hfiled, hgone⟩ := hrun
  have hcurrent := (h t (Machine.reach_of_run _ hrun)).current 1 ['A'] 0 hfiled
  rw [hgone] at hcurrent
  cases hcurrent

end BluezSil.Adapter
