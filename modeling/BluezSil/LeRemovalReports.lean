import Mathlib.Data.List.Count
import BluezSil.CarriedFlag
import BluezSil.LeDeviceTables

/-!
# Reports of a removed device

The removal of a device goes through the active scans in the order of a hash table. The
address of the device is kept from the first scan that has it, so that every later scan with
a table is told of the removal, whether it has the device or not.
-/

namespace BluezSil.Adapter

open CarriedFlag

inductive RemovalReport
  | leDeviceRemovedByScanId (scanId : UInt32) (address : Text)
  | deviceRemoved (address : Text)
  deriving DecidableEq

structure LeRemoval where
  leaddress : Text := []
  mLeDevicesByScanId : KeyedMap UInt32 (KeyedMap Text ℕ)
  reports : List RemovalReport := []

def LeRemoval.tell (observer : Bool) (scanId : UInt32) (r : LeRemoval) : LeRemoval :=
  let lelowerCaseAddress := convertAddressToLowerCase r.leaddress
  if lelowerCaseAddress.length > 0 ∧ observer = true then
    { r with reports := r.reports ++ [.leDeviceRemovedByScanId scanId lelowerCaseAddress] }
  else r

namespace DeviceTables

variable (s : DeviceTables) (objectPath : Text) (order : IterationOrder)

/-- The address of a device that a table has, which is read through its pointer. -/
def addressIn (table : KeyedMap Text ℕ) (key : Text) : Text :=
  (((table.lookup key).bind s.heap.lookup).map DeviceObject.address).getD []

def removeFromScan (r : LeRemoval) (scanId : UInt32) : LeRemoval :=
  match r.mLeDevicesByScanId.lookup scanId with
  | none => r
  | some table =>
    match s.firstWithPath table objectPath (order.leDevices scanId) with
    | some key =>
      LeRemoval.tell s.observer scanId
        { r with
          leaddress := s.addressIn table key
          mLeDevicesByScanId := r.mLeDevicesByScanId.insert scanId (table.erase key) }
    | none => r.tell s.observer scanId

/-- The removal with its reports, where `scans` are the active scans in the order of the hash
table. -/
def removeDeviceReporting (scans : List UInt32) : DeviceTables × List RemovalReport :=
  let r := scans.foldl (s.removeFromScan objectPath order)
    { mLeDevicesByScanId := s.mLeDevicesByScanId }
  let removed := { s with mLeDevicesByScanId := r.mLeDevicesByScanId }
  match s.firstWithPath s.mDevices objectPath order.devices with
  | some key =>
    let lowerCaseAddress := convertAddressToLowerCase (s.addressIn s.mDevices key)
    ({ removed with
        mDevices := s.mDevices.erase key
        heap := match s.mDevices.lookup key with
          | some device => s.heap.erase device
          | none => s.heap },
      if lowerCaseAddress.length > 0 ∧ s.observer = true then
        r.reports ++ [.deviceRemoved lowerCaseAddress]
      else r.reports)
  | none => (removed, r.reports)

def HasPath (table : KeyedMap Text ℕ) : Prop :=
  ∃ key device d, table.lookup key = some device ∧ s.heap.lookup device = some d ∧
    d.objectPath = objectPath

def SeenBy (scanId : UInt32) : Prop :=
  ∃ table, s.mLeDevicesByScanId.lookup scanId = some table ∧ s.HasPath objectPath table

/-- A device with the path is in a table under its address only. -/
def FiledUnder (address : Text) : Prop :=
  ∀ scanId table key device d, s.mLeDevicesByScanId.lookup scanId = some table →
    table.lookup key = some device → s.heap.lookup device = some d →
    d.objectPath = objectPath → key = address ∧ d.address = address

/-- Each active scan that has the device is told of its removal once, no other is told, and
the device is removed from these sets only. -/
structure ReportsRemoval (address : Text) (o : DeviceTables × List RemovalReport) : Prop where
  once : ∀ scanId ∈ s.adapter.mLeScanFilters, s.SeenBy objectPath scanId →
    o.2.count (.leDeviceRemovedByScanId scanId (convertAddressToLowerCase address)) = 1
  only : ∀ scanId a, .leDeviceRemovedByScanId scanId a ∈ o.2 →
    scanId ∈ s.adapter.mLeScanFilters ∧ s.SeenBy objectPath scanId ∧
      a = convertAddressToLowerCase address
  removed : ∀ scanId key device,
    o.1.mLeDevicesByScanId.lookupIn scanId key = some device ↔
      s.mLeDevicesByScanId.lookupIn scanId key = some device ∧
        ¬ (scanId ∈ s.adapter.mLeScanFilters ∧ s.SeenBy objectPath scanId ∧ key = address)

end DeviceTables

namespace LeRemoval

variable (observer : Bool) (scanId : UInt32) (r : LeRemoval)

@[simp] theorem tell_leaddress : (r.tell observer scanId).leaddress = r.leaddress := by
  unfold tell
  dsimp only
  split <;> rfl

@[simp] theorem tell_tables :
    (r.tell observer scanId).mLeDevicesByScanId = r.mLeDevicesByScanId := by
  unfold tell
  dsimp only
  split <;> rfl

theorem tell_reports :
    (r.tell observer scanId).reports = r.reports ++
      if r.leaddress ≠ [] ∧ observer = true then
        [.leDeviceRemovedByScanId scanId (convertAddressToLowerCase r.leaddress)]
      else [] := by
  have hpos : (convertAddressToLowerCase r.leaddress).length > 0 ↔ r.leaddress ≠ [] := by
    rw [convertAddressToLowerCase, List.length_map, gt_iff_lt, List.length_pos_iff]
  unfold tell
  simp only [hpos]
  split_ifs <;> simp

end LeRemoval

namespace DeviceTables

variable {s : DeviceTables} {objectPath : Text} {order : IterationOrder}

theorem firstWithPath_spec {table : KeyedMap Text ℕ} {order : List Text} {key : Text}
    (h : s.firstWithPath table objectPath order = some key) :
    ∃ device d, table.lookup key = some device ∧ s.heap.lookup device = some d ∧
      d.objectPath = objectPath := by
  have hpath := of_decide_eq_true (List.find?_some (p := fun address => decide
    (((table.lookup address).bind s.heap.lookup).map DeviceObject.objectPath =
      some objectPath)) h)
  obtain ⟨d, hd, hobject⟩ := Option.map_eq_some_iff.mp hpath
  obtain ⟨device, hdevice, hheap⟩ := Option.bind_eq_some_iff.mp hd
  exact ⟨device, d, hdevice, hheap, hobject⟩

theorem firstWithPath_isSome_iff {table : KeyedMap Text ℕ} {order : List Text} :
    (s.firstWithPath table objectPath order).isSome = true ↔ s.HasPath objectPath table := by
  constructor
  · intro h
    obtain ⟨key, hkey⟩ := Option.isSome_iff_exists.mp h
    exact ⟨key, firstWithPath_spec hkey⟩
  · rintro ⟨key, device, d, hdevice, hd, rfl⟩
    refine List.find?_isSome.mpr ⟨key, List.mem_append_right _ ?_, ?_⟩
    · exact AList.lookup_isSome.mp (hdevice ▸ rfl)
    · simp [hdevice, hd]

def filed (s : DeviceTables) (scanId : UInt32) : Bool :=
  (s.mLeDevicesByScanId.lookup scanId).isSome

def seen (s : DeviceTables) (objectPath : Text) (order : IterationOrder) (scanId : UInt32) :
    Bool :=
  (s.mLeDevicesByScanId.lookup scanId).any fun table =>
    (s.firstWithPath table objectPath (order.leDevices scanId)).isSome

theorem seen_iff {scanId : UInt32} :
    s.seen objectPath order scanId = true ↔ s.SeenBy objectPath scanId := by
  unfold seen SeenBy
  rw [Option.any_eq_true]
  simp only [firstWithPath_isSome_iff]

theorem filed_of_seen {scanId : UInt32} (h : s.seen objectPath order scanId = true) :
    s.filed scanId = true := by
  obtain ⟨table, htable, -⟩ := seen_iff.mp h
  rw [filed, htable]
  rfl

section Loop

variable {address : Text} {r : LeRemoval} {scanId : UInt32} {found : Bool}

theorem removeFromScan_spec (hfiled : s.FiledUnder objectPath address)
    (hr : r.mLeDevicesByScanId.lookup scanId = s.mLeDevicesByScanId.lookup scanId)
    (hle : r.leaddress = if found then address else []) :
    (s.removeFromScan objectPath order r scanId).leaddress =
        (if found || s.seen objectPath order scanId then address else []) ∧
    (s.removeFromScan objectPath order r scanId).reports = r.reports ++
        (if (s.filed scanId && (found || s.seen objectPath order scanId)) = true ∧
            address ≠ [] ∧ s.observer = true then
          [.leDeviceRemovedByScanId scanId (convertAddressToLowerCase address)] else []) ∧
    ∀ k, (s.removeFromScan objectPath order r scanId).mLeDevicesByScanId.lookup k =
      (r.mLeDevicesByScanId.modify scanId
        fun table => s.eraseFirst table objectPath (order.leDevices scanId)).lookup k := by
  unfold removeFromScan seen filed
  rw [hr]
  cases htable : s.mLeDevicesByScanId.lookup scanId with
  | none =>
      refine ⟨?_, ?_, fun k => ?_⟩
      · simpa using hle
      · simp
      · rw [KeyedMap.modify, hr, htable]
  | some table =>
      have hmodify : r.mLeDevicesByScanId.modify scanId
          (fun table => s.eraseFirst table objectPath (order.leDevices scanId)) =
          r.mLeDevicesByScanId.insert scanId
            (s.eraseFirst table objectPath (order.leDevices scanId)) := by
        rw [KeyedMap.modify, hr, htable]
      rw [hmodify]
      cases hfirst : s.firstWithPath table objectPath (order.leDevices scanId) with
      | none =>
          have hkeep : s.eraseFirst table objectPath (order.leDevices scanId) = table := by
            rw [eraseFirst, hfirst]
          have hsame : ∀ k, (r.mLeDevicesByScanId.insert scanId table).lookup k =
              r.mLeDevicesByScanId.lookup k := by
            intro k
            by_cases hk : k = scanId
            · rw [hk, AList.lookup_insert, hr, htable]
            · exact AList.lookup_insert_ne hk
          simp only [hkeep, hsame, LeRemoval.tell_leaddress, LeRemoval.tell_tables,
            LeRemoval.tell_reports, hle, Option.any_some, hfirst]
          cases found <;> simp
      | some key =>
          obtain ⟨device, d, hdevice, hd, hpath⟩ := firstWithPath_spec hfirst
          obtain ⟨rfl, haddress⟩ := hfiled scanId table key device d htable hdevice hd hpath
          have hfound : s.addressIn table key = key := by
            simp [addressIn, hdevice, hd, haddress]
          have herase : s.eraseFirst table objectPath (order.leDevices scanId) =
              table.erase key := by
            rw [eraseFirst, hfirst]
          simp only [herase, LeRemoval.tell_leaddress, LeRemoval.tell_tables,
            LeRemoval.tell_reports, hfound, Option.any_some, hfirst]
          simp

theorem foldl_removeFromScan (hfiled : s.FiledUnder objectPath address) {scans : List UInt32}
    (hscans : scans.Nodup)
    (hr : ∀ scanId ∈ scans,
      r.mLeDevicesByScanId.lookup scanId = s.mLeDevicesByScanId.lookup scanId)
    (hle : r.leaddress = if found then address else []) :
    (scans.foldl (s.removeFromScan objectPath order) r).reports = r.reports ++
        (if address ≠ [] ∧ s.observer = true then
          (told (s.seen objectPath order) s.filed found scans).map fun scanId =>
            .leDeviceRemovedByScanId scanId (convertAddressToLowerCase address) else []) ∧
    ∀ k, (scans.foldl (s.removeFromScan objectPath order) r).mLeDevicesByScanId.lookup k =
      if k ∈ scans then (r.mLeDevicesByScanId.lookup k).map fun table =>
        s.eraseFirst table objectPath (order.leDevices k)
      else r.mLeDevicesByScanId.lookup k := by
  induction scans generalizing r found with
  | nil => simp [told]
  | cons scanId scans ih =>
      obtain ⟨hnew, hscans⟩ := List.nodup_cons.mp hscans
      obtain ⟨hle', hreports, htables⟩ := @removeFromScan_spec s objectPath order address r
        scanId found hfiled (hr scanId List.mem_cons_self) hle
      have hr' : ∀ k ∈ scans, (s.removeFromScan objectPath order r
          scanId).mLeDevicesByScanId.lookup k = s.mLeDevicesByScanId.lookup k := by
        intro k hk
        rw [htables, KeyedMap.lookup_modify_ne fun h : k = scanId => hnew (h ▸ hk)]
        exact hr k (List.mem_cons_of_mem scanId hk)
      obtain ⟨hreportsRest, htablesRest⟩ := ih hscans hr' hle'
      rw [List.foldl_cons]
      constructor
      · rw [hreportsRest, hreports, told]
        by_cases htells : address ≠ [] ∧ s.observer = true
        · rw [if_pos htells, if_pos htells, List.append_assoc]
          by_cases hmark : (s.filed scanId && (found || s.seen objectPath order scanId)) = true
          · rw [if_pos ⟨hmark, htells⟩, if_pos hmark]
            rfl
          · rw [if_neg fun h => hmark h.1, if_neg hmark]
            rfl
        · rw [if_neg fun h => htells h.2, if_neg htells, if_neg htells, List.append_nil]
      · intro k
        rw [htablesRest, htables]
        by_cases hk : k = scanId
        · subst hk
          rw [if_neg hnew, if_pos List.mem_cons_self, KeyedMap.lookup_modify_self]
        · rw [KeyedMap.lookup_modify_ne hk]
          simp [hk]

end Loop

section Removal

variable {address : Text} {scans : List UInt32}

theorem removeDeviceReporting_tables (scans : List UInt32) :
    (s.removeDeviceReporting objectPath order scans).1.mLeDevicesByScanId =
      (scans.foldl (s.removeFromScan objectPath order)
        { mLeDevicesByScanId := s.mLeDevicesByScanId }).mLeDevicesByScanId := by
  unfold removeDeviceReporting
  dsimp only
  split <;> rfl

theorem removeDeviceReporting_count (scans : List UInt32) (scanId : UInt32) (a : Text) :
    (s.removeDeviceReporting objectPath order scans).2.count
        (.leDeviceRemovedByScanId scanId a) =
      (scans.foldl (s.removeFromScan objectPath order)
        { mLeDevicesByScanId := s.mLeDevicesByScanId }).reports.count
          (.leDeviceRemovedByScanId scanId a) := by
  unfold removeDeviceReporting
  dsimp only
  split
  · dsimp only
    split_ifs
    · rw [List.count_append]
      simp
    · rfl
  · rfl

theorem firstWithPath_eq_some_iff (hfiled : s.FiledUnder objectPath address)
    {scanId : UInt32} {table : KeyedMap Text ℕ} {order : List Text} {key : Text}
    (htable : s.mLeDevicesByScanId.lookup scanId = some table) :
    s.firstWithPath table objectPath order = some key ↔
      s.SeenBy objectPath scanId ∧ key = address := by
  constructor
  · intro h
    obtain ⟨device, d, hdevice, hd, hpath⟩ := firstWithPath_spec h
    exact ⟨⟨table, htable, key, device, d, hdevice, hd, hpath⟩,
      (hfiled scanId table key device d htable hdevice hd hpath).1⟩
  · rintro ⟨⟨table', htable', hpath⟩, rfl⟩
    cases htable.symm.trans htable'
    have hsome : (s.firstWithPath table objectPath order).isSome = true :=
      firstWithPath_isSome_iff.mpr hpath
    obtain ⟨first, hfirst⟩ := Option.isSome_iff_exists.mp hsome
    obtain ⟨device, d, hdevice, hd, hobject⟩ := firstWithPath_spec hfirst
    rw [hfirst, (hfiled scanId table first device d htable hdevice hd hobject).1]

theorem removeDeviceReporting_removed (hfiled : s.FiledUnder objectPath address)
    (hscans : scans.Nodup) {scanId : UInt32} {key : Text} {device : ℕ} :
    (s.removeDeviceReporting objectPath order scans).1.mLeDevicesByScanId.lookupIn scanId key =
        some device ↔
      s.mLeDevicesByScanId.lookupIn scanId key = some device ∧
        ¬ (scanId ∈ scans ∧ s.SeenBy objectPath scanId ∧ key = address) := by
  have hlookup := (@foldl_removeFromScan s objectPath order address
    ⟨[], s.mLeDevicesByScanId, []⟩ false hfiled scans hscans (fun _ _ => rfl) rfl).2 scanId
  rw [removeDeviceReporting_tables, KeyedMap.lookupIn_eq_some, KeyedMap.lookupIn_eq_some, hlookup]
  by_cases hmem : scanId ∈ scans
  · simp only [hmem, if_true, true_and, Option.map_eq_some_iff]
    constructor
    · rintro ⟨inner, ⟨table, htable, rfl⟩, hkey⟩
      obtain ⟨hold, hkept⟩ := eraseFirst_lookup.mp hkey
      rw [Ne, firstWithPath_eq_some_iff hfiled htable] at hkept
      exact ⟨⟨table, htable, hold⟩, hkept⟩
    · rintro ⟨⟨table, htable, hold⟩, hkept⟩
      refine ⟨_, ⟨table, htable, rfl⟩, eraseFirst_lookup.mpr ⟨hold, fun hfirst => hkept ?_⟩⟩
      exact (firstWithPath_eq_some_iff hfiled htable).mp hfirst
  · simp [hmem]

theorem removeDeviceReporting_count_eq (hfiled : s.FiledUnder objectPath address)
    (hscans : scans.Nodup) (scanId : UInt32) (a : Text) :
    (s.removeDeviceReporting objectPath order scans).2.count
        (.leDeviceRemovedByScanId scanId a) =
      if (address ≠ [] ∧ s.observer = true) ∧ a = convertAddressToLowerCase address ∧
          scanId ∈ told (s.seen objectPath order) s.filed false scans then 1 else 0 := by
  have hreports := (@foldl_removeFromScan s objectPath order address
    ⟨[], s.mLeDevicesByScanId, []⟩ false hfiled scans hscans (fun _ _ => rfl) rfl).1
  rw [removeDeviceReporting_count, hreports, List.nil_append]
  by_cases htells : address ≠ [] ∧ s.observer = true
  · rw [if_pos htells]
    by_cases ha : a = convertAddressToLowerCase address
    · subst ha
      have hinjective : Function.Injective fun scanId =>
          RemovalReport.leDeviceRemovedByScanId scanId (convertAddressToLowerCase address) := by
        intro b c h
        exact (RemovalReport.leDeviceRemovedByScanId.inj h).1
      have hnodup : (told (s.seen objectPath order) s.filed false scans).Nodup :=
        hscans.sublist (told_sublist false)
      rw [List.count_map_of_injective _ _ hinjective, hnodup.count]
      simp [htells]
    · rw [if_neg fun h => ha h.2.1, List.count_eq_zero]
      rintro hmem
      obtain ⟨b, -, hb⟩ := List.mem_map.mp hmem
      exact ha (RemovalReport.leDeviceRemovedByScanId.inj hb).2.symm
  · rw [if_neg htells, if_neg fun h => htells h.1, List.count_nil]

/-- The scans told are those that have the device if none without it comes after one with it. -/
theorem pairwise_seenBy_iff_told :
    scans.Pairwise (fun a b => s.SeenBy objectPath a →
        s.mLeDevicesByScanId.lookup b ≠ none → s.SeenBy objectPath b) ↔
      ∀ b, b ∈ told (s.seen objectPath order) s.filed false scans ↔
        b ∈ scans ∧ s.SeenBy objectPath b := by
  have hpairwise := @mem_told_iff_pairwise _ (s.seen objectPath order) s.filed scans
    fun _ => filed_of_seen
  simp only [seen_iff, filed, Option.isSome_iff_ne_none] at hpairwise
  exact hpairwise.symm

theorem mem_scans_iff (hscans : scans.Perm s.adapter.mLeScanFilters.keys) (scanId : UInt32) :
    scanId ∈ s.adapter.mLeScanFilters ↔ scanId ∈ scans :=
  AList.mem_keys.trans hscans.mem_iff.symm

theorem ReportsRemoval.told (hscans : scans.Perm s.adapter.mLeScanFilters.keys)
    (hfiled : s.FiledUnder objectPath address)
    (h : s.ReportsRemoval objectPath address (s.removeDeviceReporting objectPath order scans))
    (hsome : ∃ scanId ∈ s.adapter.mLeScanFilters, s.SeenBy objectPath scanId) :
    s.observer = true ∧ address ≠ [] ∧
      ∀ b, b ∈ told (s.seen objectPath order) s.filed false scans ↔
        b ∈ scans ∧ s.SeenBy objectPath b := by
  have hnodup : scans.Nodup := hscans.symm.nodup (AList.keys_nodup _)
  have hcount := @removeDeviceReporting_count_eq s objectPath order address scans hfiled hnodup
  obtain ⟨honce, honly, -⟩ := h
  obtain ⟨scanId, hscan, hseen⟩ := hsome
  have htells : address ≠ [] ∧ s.observer = true := by
    by_contra h
    have hnone := hcount scanId (convertAddressToLowerCase address)
    rw [if_neg fun hall => h hall.1, honce scanId hscan hseen] at hnone
    cases hnone
  refine ⟨htells.2, htells.1, fun b => ⟨fun hb => ?_, fun hb => ?_⟩⟩
  · have hone := hcount b (convertAddressToLowerCase address)
    rw [if_pos ⟨htells, rfl, hb⟩] at hone
    obtain ⟨hscan, hseen, -⟩ := honly b _ (List.count_pos_iff.mp (hone ▸ Nat.one_pos))
    exact ⟨(mem_scans_iff hscans b).mp hscan, hseen⟩
  · have hone := hcount b (convertAddressToLowerCase address)
    rw [honce b ((mem_scans_iff hscans b).mpr hb.1) hb.2] at hone
    by_contra hmem
    rw [if_neg fun hall => hmem hall.2.2] at hone
    cases hone

theorem reportsRemoval_of_told (hscans : scans.Perm s.adapter.mLeScanFilters.keys)
    (hfiled : s.FiledUnder objectPath address)
    (h : (∃ scanId ∈ s.adapter.mLeScanFilters, s.SeenBy objectPath scanId) →
      s.observer = true ∧ address ≠ [] ∧
        ∀ b, b ∈ told (s.seen objectPath order) s.filed false scans ↔
          b ∈ scans ∧ s.SeenBy objectPath b) :
    s.ReportsRemoval objectPath address (s.removeDeviceReporting objectPath order scans) := by
  have hnodup : scans.Nodup := hscans.symm.nodup (AList.keys_nodup _)
  have hcount := @removeDeviceReporting_count_eq s objectPath order address scans hfiled hnodup
  refine ⟨fun scanId hscan hseen => ?_, fun scanId a hreport => ?_, fun scanId key device => ?_⟩
  · obtain ⟨hobserver, haddress, hmem⟩ := h ⟨scanId, hscan, hseen⟩
    rw [hcount, if_pos ⟨⟨haddress, hobserver⟩, rfl,
      (hmem scanId).mpr ⟨(mem_scans_iff hscans scanId).mp hscan, hseen⟩⟩]
  · have hpos := List.count_pos_iff.mpr hreport
    rw [hcount] at hpos
    split_ifs at hpos with hall
    · obtain ⟨-, rfl, hmem⟩ := hall
      have hsome : ∃ scanId ∈ s.adapter.mLeScanFilters, s.SeenBy objectPath scanId := by
        by_contra hnone
        rw [told_of_unmarked fun b hb => ?_] at hmem
        · cases hmem
        · rw [← Bool.not_eq_true, seen_iff]
          exact fun hseen => hnone ⟨b, (mem_scans_iff hscans b).mpr hb, hseen⟩
      obtain ⟨hscan, hseen⟩ := ((h hsome).2.2 scanId).mp hmem
      exact ⟨(mem_scans_iff hscans scanId).mpr hscan, hseen, rfl⟩
    · cases hpos
  · rw [removeDeviceReporting_removed hfiled hnodup, mem_scans_iff hscans]

end Removal

/-- The removal is reported as it should be if and only if no active scan has the device, or
there is an observer and the device has an address, and in the order of the hash table no
scan whose table lacks the device comes after one that has it. -/
theorem removeDevice_reports_iff {address : Text} {scans : List UInt32}
    (hscans : scans.Perm s.adapter.mLeScanFilters.keys)
    (hfiled : s.FiledUnder objectPath address) :
    s.ReportsRemoval objectPath address (s.removeDeviceReporting objectPath order scans) ↔
      ((∃ scanId ∈ s.adapter.mLeScanFilters, s.SeenBy objectPath scanId) →
        s.observer = true ∧ address ≠ [] ∧
          scans.Pairwise fun a b => s.SeenBy objectPath a →
            s.mLeDevicesByScanId.lookup b ≠ none → s.SeenBy objectPath b) := by
  rw [@pairwise_seenBy_iff_told s objectPath order scans]
  constructor
  · exact fun h => h.told hscans hfiled
  · exact reportsRemoval_of_told hscans hfiled

/-- A device that is in the set of the scan 1, and the other scans with an empty set each. -/
def scanning (others : List UInt32) : DeviceTables where
  adapter :=
    { mLeScanFilters := others.foldl (fun filters scanId => filters.insert scanId {})
        ((∅ : KeyedMap UInt32 BluetoothLeDiscoveryFilter).insert 1 {}) }
  observer := true
  mDevices := (∅ : KeyedMap Text ℕ).insert "AA".toList 0
  mLeDevicesByScanId := others.foldl (fun tables scanId => tables.insert scanId ∅)
    ((∅ : KeyedMap UInt32 (KeyedMap Text ℕ)).insert 1 ((∅ : KeyedMap Text ℕ).insert "AA".toList 0))
  heap := (∅ : KeyedMap ℕ DeviceObject).insert 0
    ⟨"/dev_AA".toList, true, false, { address := "AA".toList }⟩

theorem scanning_filedUnder (others : List UInt32) :
    (scanning others).FiledUnder "/dev_AA".toList "AA".toList := by
  have hkeys : ∀ (others : List UInt32) (tables : KeyedMap UInt32 (KeyedMap Text ℕ)),
      (∀ scanId table, tables.lookup scanId = some table → ∀ key device,
        table.lookup key = some device → key = "AA".toList) →
      ∀ scanId table, (others.foldl (fun tables scanId => tables.insert scanId ∅)
        tables).lookup scanId = some table → ∀ key device,
          table.lookup key = some device → key = "AA".toList := by
    intro others
    induction others with
    | nil => exact fun _ h => h
    | cons other others ih =>
        refine fun tables h => ih _ fun scanId table htable key device hdevice => ?_
        by_cases hother : scanId = other
        · rw [hother, AList.lookup_insert] at htable
          cases htable
          cases hdevice
        · rw [AList.lookup_insert_ne hother] at htable
          exact h scanId table htable key device hdevice
  have hsingle : ∀ {K V : Type} [DecidableEq K] {a k : K} {b v : V},
      ((∅ : KeyedMap K V).insert a b).lookup k = some v → k = a ∧ v = b := by
    intro K V _ a k b v h
    by_cases hk : k = a
    · rw [hk, AList.lookup_insert] at h
      exact ⟨hk, (Option.some.inj h).symm⟩
    · rw [AList.lookup_insert_ne hk] at h
      cases h
  intro scanId table key device d htable hdevice hd _
  refine ⟨hkeys others _ ?_ scanId table htable key device hdevice, ?_⟩
  · intro scanId table htable key device hdevice
    obtain ⟨-, rfl⟩ := hsingle htable
    exact (hsingle hdevice).1
  · obtain ⟨-, rfl⟩ := hsingle hd
    rfl

/-- The scan 2, which has not seen the device, comes first. -/
theorem removeDevice_reports_iff_two :
    (scanning [2]).ReportsRemoval "/dev_AA".toList "AA".toList
      ((scanning [2]).removeDeviceReporting "/dev_AA".toList {} [2, 1]) := by
  have hseen : (scanning [2]).SeenBy "/dev_AA".toList 1 :=
    ⟨_, rfl, "AA".toList, 0, _, rfl, rfl, rfl⟩
  refine (removeDevice_reports_iff (List.Perm.refl [2, 1]) (scanning_filedUnder [2])).mpr
    fun _ => ⟨rfl, by decide, ?_⟩
  exact List.pairwise_pair.mpr fun _ _ => hseen

/-- The scan 2 is told of a device that it has not seen. -/
theorem removeDevice_tells_other_scan :
    ¬ ∀ (s : DeviceTables) objectPath address order scans,
      scans.Perm s.adapter.mLeScanFilters.keys → s.FiledUnder objectPath address →
      s.ReportsRemoval objectPath address (s.removeDeviceReporting objectPath order scans) := by
  intro h
  have hreports := h (scanning [2]) "/dev_AA".toList "AA".toList {} [1, 2]
    (List.Perm.swap 2 1 []) (scanning_filedUnder [2])
  have htold : .leDeviceRemovedByScanId 2 "aa".toList ∈
      ((scanning [2]).removeDeviceReporting "/dev_AA".toList {} [1, 2]).2 := by
    decide
  obtain ⟨-, ⟨table, htable, key, device, d, hdevice, -⟩, -⟩ := hreports.only 2 _ htold
  cases htable
  cases hdevice

end DeviceTables

end BluezSil.Adapter
