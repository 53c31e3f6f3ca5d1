import BluezSil.AdvertisedProperties
import BluezSil.DeviceAdvertData
import BluezSil.LeFilterFullMask

/-!
# Advertisements as a scan finds them

What one machine advertises, another hears as the properties of a new device, and a scan
filter asks about. BlueZ carries it between the two and writes the UUIDs in their long form.
The company id crosses two conversions between bytes and words, each in the byte order of its
machine, and the filter reads the result in one fixed order.
-/

namespace BluezSil.Adapter

open ByteAccess Advertise Device UpdateHistory

def uuidsEntry : DeviceProperty → Option (List Text)
  | .uuids values => some values
  | _ => none

/-- A property with this value is told once, or not at all where there is nothing to tell. -/
def ToldOnce {α : Type} (told : List (List α)) (value : List α) : Prop :=
  told = [value] ∨ told = [] ∧ value = []

/-- What BlueZ makes of an advertisement on another machine: the form of 128 bits of a UUID, and
the properties a new device may come with. -/
structure Channel where
  uuid128 : Text → Text
  Hears : AdvertisementProperties → List DeviceProperty → Prop

/-- The properties of `org.bluez.Device1` have all UUIDs that are advertised, in whatever order,
and those of the service data, in their form of 128 bits, and the rest as it was advertised. -/
structure Channel.Documented (c : Channel) : Prop where
  uuids : ∀ {p dictionary}, c.Hears p dictionary → ∃ values,
    ToldOnce (dictionary.filterMap uuidsEntry) values ∧
      ∀ uuid, uuid ∈ values ↔ uuid ∈ p.serviceUuids.map c.uuid128
  serviceData : ∀ {p dictionary}, c.Hears p dictionary →
    ToldOnce (serviceUpdates [dictionary]) (p.serviceData.map fun e => (c.uuid128 e.1, e.2))
  manufacturerData : ∀ {p dictionary}, c.Hears p dictionary →
    ToldOnce (manufacturerUpdates [dictionary]) p.manufacturerData

/-- What a filter asks a device for: `getAddress`, `getName`, `getUuids` and the three getters
of the advertised data. -/
def ofFields (device : DeviceFields) : Bluez5Device where
  address := device.mAddress
  name := device.mName
  uuids := device.mUuids
  serviceDataUuid := device.getServiceDataUuid
  scanRecord := device.getScanRecord
  manufactureData := device.getManufactureData

def heardDevice (receiver : Platform) (dictionary : List DeviceProperty) : Bluez5Device :=
  ofFields (DeviceFields.construct receiver dictionary)

def BluetoothLeDiscoveryFilter.Unmasked (filter : BluetoothLeDiscoveryFilter) : Prop :=
  filter.serviceUuid.mask = [] ∧ filter.serviceData.mask = [] ∧ filter.manufacturerData.mask = []

def manufacturerBytesSet (call : StartCall) : Option (List UInt8) :=
  if call.Refused then none
  else if call.advertiseData.manufacturerData.length > 1 then
    some call.advertiseData.manufacturerData
  else none

/-- The id that a filter has to name, of the first two bytes handed to the advertiser. -/
def companyId (sender receiver : Bool) (first second : UInt8) : UInt16 :=
  if sender = receiver then word16 first second else word16 second first

def MeetsManufacturer (sender receiver : Bool) (wanted : ManufacturerData) :
    List UInt8 → Prop
  | first :: second :: rest =>
    UInt16.ofInt wanted.id = companyId sender receiver first second ∧ wanted.data <+: rest
  | _ => False

/-- The criteria of a filter, asked of what the starts of a history have advertised last. The
UUIDs are those in the form `uuid128`. -/
def Advertised (uuid128 : Text → Text) (sender receiver : Bool) (history : List StartCall)
    (filter : BluetoothLeDiscoveryFilter) : Prop :=
  (filter.serviceUuid.uuid ≠ [] → ∃ uuid ∈ lastSet StartCall.serviceUuidsSet [] history,
    convertToLowerCase (uuid128 uuid) = convertToLowerCase filter.serviceUuid.uuid) ∧
  (filter.serviceData.uuid ≠ [] → filter.serviceData.data ≠ [] →
    ∃ uuid, lastSet StartCall.serviceDataSet [] history = [(uuid, filter.serviceData.data)] ∧
      convertToLowerCase (uuid128 uuid) = convertToLowerCase filter.serviceData.uuid) ∧
  (filter.manufacturerData.id > 0 → filter.manufacturerData.data ≠ [] →
    MeetsManufacturer sender receiver filter.manufacturerData
      (lastSet manufacturerBytesSet [] history))

section Bytes

theorem companyIdBytes_word16 (platform : Platform) (low high : UInt8) :
    platform.companyIdBytes (word16 low high) =
      if platform.isLittleEndian then [high, low] else [low, high] := by
  have hhigh : ((word16 low high &&& 0xFF00) >>> 8).toUInt8 = high := by
    have hbyte : ((0xFF00 : UInt16) >>> 8).toUInt8 = -1 := by decide
    rw [UInt16.shiftRight_and, UInt16.toUInt8_and, highByte_word16, hbyte, UInt8.and_neg_one]
  have hlow : (word16 low high &&& 0x00FF).toUInt8 = low := by
    have hbyte : (0x00FF : UInt16).toUInt8 = -1 := by decide
    rw [UInt16.toUInt8_and, lowByte_word16, hbyte, UInt8.and_neg_one]
  unfold Platform.companyIdBytes
  rw [hhigh, hlow]

theorem manufacturerBytes_dictionary (sender : Bool) (receiver : Platform) (data : List UInt8) :
    receiver.manufacturerBytes ((manufacturerDictionary sender data).getD []) =
      match data with
      | first :: second :: rest =>
        (if sender = receiver.isLittleEndian then [second, first] else [first, second]) ++ rest
      | _ => [] := by
  match data with
  | [] => rfl
  | [_] => rfl
  | first :: second :: rest =>
      have hword : (if sender then second.toUInt16 <<< 8 ||| first.toUInt16
            else first.toUInt16 <<< 8 ||| second.toUInt16) =
          if sender then word16 first second else word16 second first := rfl
      show receiver.companyIdBytes _ ++ rest = _
      rw [hword]
      cases sender <;> cases hreceiver : receiver.isLittleEndian <;>
        simp [companyIdBytes_word16, hreceiver]

end Bytes

section Heard

variable {receiver : Platform} {c : Channel} {p : AdvertisementProperties}
variable {dictionary : List DeviceProperty}

theorem construct_eq :
    DeviceFields.construct receiver dictionary =
      DeviceFields.afterDictionaries receiver [dictionary] :=
  handlePropertiesChanged_fst.symm

theorem mUuids_afterProperty (device : DeviceFields) (property : DeviceProperty) :
    (device.afterProperty receiver property).mUuids =
      (uuidsEntry property).getD device.mUuids := by
  cases property with
  | name value => rw [afterProperty_name]; rfl
  | _ => rfl

theorem mem_heardDevice_uuids (hc : c.Documented) (h : c.Hears p dictionary) (uuid : Text) :
    uuid ∈ (heardDevice receiver dictionary).uuids ↔ uuid ∈ p.serviceUuids.map c.uuid128 := by
  obtain ⟨values, htold, hvalues⟩ := hc.uuids h
  have huuids : (heardDevice receiver dictionary).uuids =
      (dictionary.filterMap uuidsEntry).getLast?.getD [] :=
    foldl_replaced _ mUuids_afterProperty _ dictionary
  rw [huuids, ← hvalues]
  rcases htold with hone | ⟨hnone, rfl⟩
  · rw [hone]
    rfl
  · rw [hnone]
    rfl

theorem heardDevice_manufactureData (hc : c.Documented) (h : c.Hears p dictionary) :
    (heardDevice receiver dictionary).manufactureData =
      receiver.manufacturerBytes p.manufacturerData := by
  show (DeviceFields.construct receiver dictionary).getManufactureData = _
  rw [construct_eq, getManufactureData_history]
  rcases hc.manufacturerData h with hone | ⟨hnone, hempty⟩
  · rw [hone, List.flatMap_singleton]
  · rw [hnone, hempty]
    rfl

theorem heardDevice_scanRecord (hc : c.Documented) (h : c.Hears p dictionary) :
    (heardDevice receiver dictionary).scanRecord = serviceBytes p.serviceData := by
  have hbytes : serviceBytes (p.serviceData.map fun e => (c.uuid128 e.1, e.2)) =
      serviceBytes p.serviceData := by
    cases p.serviceData with
    | nil => rfl
    | cons entry rest => rfl
  show (DeviceFields.construct receiver dictionary).getScanRecord = _
  rw [construct_eq, getScanRecord_history, ← hbytes]
  rcases hc.serviceData h with hone | ⟨hnone, hempty⟩
  · rw [hone, List.flatMap_singleton]
  · rw [hnone, hempty]
    rfl

theorem heardDevice_serviceDataUuid (hc : c.Documented) (h : c.Hears p dictionary) :
    (heardDevice receiver dictionary).serviceDataUuid =
      p.serviceData.head?.elim [] fun entry => c.uuid128 entry.1 := by
  show (DeviceFields.construct receiver dictionary).getServiceDataUuid = _
  rw [construct_eq, getServiceDataUuid_history, serviceUuids_eq]
  rcases hc.serviceData h with hone | ⟨hnone, hempty⟩
  · rw [hone]
    cases p.serviceData with
    | nil => rfl
    | cons entry rest => rfl
  · rw [hnone, List.map_eq_nil_iff.mp hempty]
    rfl

end Heard

section Criteria

variable {filter : BluetoothLeDiscoveryFilter} {device : Bluez5Device}

theorem readAt_drop (data : List UInt8) (offset j : ℕ) :
    readAt (data.drop offset) j = readAt data (j + offset) := by
  unfold readAt
  rw [List.getElem?_drop, Nat.add_comm]

/-- The offset only says where the device's data starts. -/
theorem checkBytes_drop (isMarked : ℕ → Access Bool) (data deviceData : List UInt8)
    (offset left : ℕ) :
    checkBytes isMarked data deviceData offset left =
      checkBytes isMarked data (deviceData.drop offset) 0 left := by
  induction left with
  | zero => rfl
  | succ left ih => simp only [checkBytes, readAt_drop, ih, Nat.add_zero]

theorem comparePrefix_eq_true_iff (data deviceData : List UInt8) :
    comparePrefix data deviceData = .ok true ↔ data <+: deviceData := by
  rcases comparePrefix_cases data deviceData with
    ⟨hbegins, h⟩ | ⟨hpart, hne, h⟩ | ⟨hbegins, -, h⟩
  · exact iff_of_true h hbegins
  · refine iff_of_false (fun heq => ?_) fun hbegins => ?_
    · rw [h] at heq
      cases heq
    · exact hne (hpart.eq_of_length_le hbegins.length_le)
  · refine iff_of_false (fun heq => ?_) hbegins
    rw [h] at heq
    cases heq

theorem matchManufacturerData_noMask (hmask : filter.manufacturerData.mask = []) :
    matchManufacturerData filter device = .ok true ↔
      (filter.manufacturerData.id > 0 → filter.manufacturerData.data ≠ [] →
        ∃ high low rest, device.manufactureData = high :: low :: rest ∧
          UInt16.ofInt filter.manufacturerData.id = word16 low high ∧
          filter.manufacturerData.data <+: rest) := by
  unfold matchManufacturerData
  by_cases hset : filter.manufacturerData.id > 0 ∧ ¬ filter.manufacturerData.data.isEmpty = true
  · have hdata : filter.manufacturerData.data ≠ [] := fun h => hset.2 (List.isEmpty_iff.mpr h)
    have hopen : (filter.manufacturerData.id > 0 → filter.manufacturerData.data ≠ [] →
        ∃ high low rest, device.manufactureData = high :: low :: rest ∧
          UInt16.ofInt filter.manufacturerData.id = word16 low high ∧
          filter.manufacturerData.data <+: rest) ↔
        ∃ high low rest, device.manufactureData = high :: low :: rest ∧
          UInt16.ofInt filter.manufacturerData.id = word16 low high ∧
          filter.manufacturerData.data <+: rest :=
      ⟨fun h => h hset.1 hdata, fun h _ _ => h⟩
    rw [if_pos hset, hopen]
    unfold checkManufacturerData
    dsimp only
    rw [hmask]
    match hdevice : device.manufactureData with
    | [] => simp
    | [_] => simp
    | [high, low] =>
        refine iff_of_false (fun h => by cases h) ?_
        rintro ⟨_, _, rest, heq, -, hprefix⟩
        cases heq
        exact hdata (List.prefix_nil.mp hprefix)
    | high :: low :: next :: rest =>
        have hlong : (high :: low :: next :: rest).length > 2 := by simp
        rw [if_pos hlong, readAt_of_getElem? (a := high) rfl, bind_ok,
          readAt_of_getElem? (a := low) rfl, bind_ok]
        by_cases hid : UInt16.ofInt filter.manufacturerData.id = word16 low high
        · have hall := checkBytes_all filter.manufacturerData.data (next :: rest) _ (le_refl _)
          rw [Nat.sub_self, List.drop_zero, List.drop_zero] at hall
          rw [if_pos hid, checkBytes_drop]
          refine (iff_of_eq (congrArg (· = Except.ok true) hall)).trans ?_
          rw [comparePrefix_eq_true_iff]
          constructor
          · exact fun h => ⟨high, low, _, rfl, hid, h⟩
          · rintro ⟨_, _, _, heq, -, h⟩
            cases heq
            exact h
        · rw [if_neg hid]
          refine iff_of_false (fun h => by cases h) ?_
          rintro ⟨_, _, _, heq, h, -⟩
          cases heq
          exact hid h
  · rw [if_neg hset]
    refine iff_of_true rfl fun hid hdata => ?_
    exact absurd ⟨hid, mt List.isEmpty_iff.mp hdata⟩ hset

theorem matchServiceData_noMask (hmask : filter.serviceData.mask = []) :
    matchServiceData filter device = .ok true ↔
      (filter.serviceData.uuid ≠ [] → filter.serviceData.data ≠ [] →
        convertToLowerCase device.serviceDataUuid = convertToLowerCase filter.serviceData.uuid ∧
          device.scanRecord = filter.serviceData.data) := by
  unfold matchServiceData
  by_cases hset : ¬ filter.serviceData.uuid.isEmpty = true ∧
      ¬ filter.serviceData.data.isEmpty = true
  · rw [if_pos hset]
    unfold checkServiceData
    dsimp only
    rw [hmask]
    simp only [List.isEmpty_iff] at hset
    by_cases huuid : convertToLowerCase device.serviceDataUuid =
        convertToLowerCase filter.serviceData.uuid
    · have hno : ¬ ¬ ([] : List UInt8).isEmpty = true := fun h => h rfl
      rw [if_pos huuid, if_neg hno, Except.ok.injEq, beq_iff_eq]
      exact ⟨fun h _ _ => ⟨huuid, h.symm⟩, fun h => (h hset.1 hset.2).2.symm⟩
    · rw [if_neg huuid]
      refine iff_of_false (fun h => by cases h) fun h => ?_
      exact huuid (h hset.1 hset.2).1
  · rw [if_neg hset]
    refine iff_of_true rfl fun huuid hdata => ?_
    exact absurd ⟨mt List.isEmpty_iff.mp huuid, mt List.isEmpty_iff.mp hdata⟩ hset

theorem matchServiceUuid_noMask (hmask : filter.serviceUuid.mask = []) :
    matchServiceUuid filter device = .ok true ↔
      (filter.serviceUuid.uuid ≠ [] → ∃ uuid ∈ device.uuids,
        convertToLowerCase uuid = convertToLowerCase filter.serviceUuid.uuid) := by
  unfold matchServiceUuid checkServiceUuid
  dsimp only
  rw [hmask]
  by_cases huuid : filter.serviceUuid.uuid = []
  · simp [huuid]
  · simp [huuid]

theorem filterMatchCriteria_eq_true_iff :
    filterMatchCriteria filter device = .ok true ↔
      addressAndName filter device = true ∧ matchServiceUuid filter device = .ok true ∧
      matchServiceData filter device = .ok true ∧
      matchManufacturerData filter device = .ok true := by
  have hopen : filterMatchCriteria filter device = (do
      let serviceUuid ← matchServiceUuid filter device
      let serviceData ← matchServiceData filter device
      let manuData ← matchManufacturerData filter device
      .ok (addressAndName filter device && serviceUuid && serviceData && manuData)) := rfl
  rw [hopen]
  cases matchServiceUuid filter device with
  | error e => exact iff_of_false (fun h => by cases h) fun h => by cases h.2.1
  | ok serviceUuid =>
      cases matchServiceData filter device with
      | error e => exact iff_of_false (fun h => by cases h) fun h => by cases h.2.2.1
      | ok serviceData =>
          cases matchManufacturerData filter device with
          | error e => exact iff_of_false (fun h => by cases h) fun h => by cases h.2.2.2
          | ok manuData =>
              simp only [bind_ok, Except.ok.injEq, Bool.and_eq_true, and_assoc]

end Criteria

section Histories

variable {sender : Bool} {history : List StartCall}

theorem lastSet_map {α β : Type} {pick : StartCall → Option α} {pick' : StartCall → Option β}
    (g : α → β) (initial : α) (h : ∀ call, pick' call = (pick call).map g) :
    lastSet pick' (g initial) history = g (lastSet pick initial history) := by
  unfold lastSet
  rw [funext h, ← List.map_filterMap, List.getLast?_map, Option.getD_map]

theorem lastSet_manufacturerData :
    lastSet (StartCall.manufacturerDataSet sender) [] history =
      (manufacturerDictionary sender (lastSet manufacturerBytesSet [] history)).getD [] := by
  refine lastSet_map (fun data => (manufacturerDictionary sender data).getD []) [] fun call => ?_
  unfold StartCall.manufacturerDataSet manufacturerBytesSet
  by_cases hrefused : call.Refused
  · rw [if_pos hrefused, if_pos hrefused]
    rfl
  · rw [if_neg hrefused, if_neg hrefused]
    match call.advertiseData.manufacturerData with
    | [] => rfl
    | [_] => rfl
    | _ :: _ :: _ => rfl

theorem lastSet_serviceData (history : List StartCall) :
    lastSet StartCall.serviceDataSet [] history = [] ∨
      ∃ entry, lastSet StartCall.serviceDataSet [] history = [entry] := by
  unfold lastSet
  cases hlast : (history.filterMap StartCall.serviceDataSet).getLast? with
  | none => exact .inl rfl
  | some entries =>
      obtain ⟨call, -, hset⟩ := List.mem_filterMap.mp (List.mem_of_getLast? hlast)
      unfold StartCall.serviceDataSet at hset
      split_ifs at hset
      obtain ⟨service, -, rfl⟩ := Option.map_eq_some_iff.mp hset
      exact .inr ⟨_, rfl⟩

end Histories

/-- A filter without masks finds a new device if and only if it names what the starts of the
other machine have advertised last: a service UUID among them, the data of the last service
that has data, and manufacturer data that goes on after its two bytes of company id. -/
theorem advertised_filter_iff {s : ExportedAdvertisers} (advId : UInt8) (sender : Bool)
    {receiver : Platform} (history : List StartCall) {p : AdvertisementProperties} {c : Channel}
    {dictionary : List DeviceProperty} {filter : BluetoothLeDiscoveryFilter}
    (hnew : s.exported advId = some {})
    (hexported : (s.afterCalls advId sender history).exported advId = some p)
    (hc : c.Documented) (hhears : c.Hears p dictionary) (hmask : filter.Unmasked) :
    filterMatchCriteria filter (heardDevice receiver dictionary) = .ok true ↔
      addressAndName filter (heardDevice receiver dictionary) = true ∧
        Advertised c.uuid128 sender receiver.isLittleEndian history filter := by
  obtain ⟨hmaskUuid, hmaskData, hmaskManufacturer⟩ := hmask
  rw [ExportedAdvertisers.afterCalls_exported, hnew, Option.map_some, foldl_exports,
    Option.some_inj] at hexported
  rw [filterMatchCriteria_eq_true_iff, matchServiceUuid_noMask hmaskUuid,
    matchServiceData_noMask hmaskData, matchManufacturerData_noMask hmaskManufacturer,
    heardDevice_serviceDataUuid hc hhears, heardDevice_scanRecord hc hhears,
    heardDevice_manufactureData hc hhears]
  simp only [mem_heardDevice_uuids hc hhears, List.mem_map, exists_exists_and_eq_and]
  rw [← hexported]
  unfold Advertised
  refine and_congr_right fun _ => and_congr Iff.rfl (and_congr ?_ ?_)
  · refine imp_congr_right fun _ => imp_congr_right fun hdata => ?_
    rcases lastSet_serviceData history with hnone | ⟨entry, hentry⟩
    · rw [hnone]
      refine iff_of_false (fun h => hdata h.2.symm) ?_
      rintro ⟨_, h, -⟩
      cases h
    · rw [hentry]
      constructor
      · rintro ⟨huuid, hbytes⟩
        exact ⟨entry.1, congrArg (fun data => [(entry.1, data)]) hbytes, huuid⟩
      · rintro ⟨uuid, h, huuid⟩
        cases h
        exact ⟨huuid, rfl⟩
  · refine imp_congr_right fun _ => imp_congr_right fun hdata => ?_
    rw [lastSet_manufacturerData, manufacturerBytes_dictionary]
    match lastSet manufacturerBytesSet [] history with
    | [] => exact iff_of_false (fun ⟨_, _, _, h, _⟩ => by cases h) id
    | [_] => exact iff_of_false (fun ⟨_, _, _, h, _⟩ => by cases h) id
    | first :: second :: rest =>
        unfold MeetsManufacturer companyId
        by_cases hsame : sender = receiver.isLittleEndian
        · simp [hsame]
        · simp [hsame]

section Bluez

/-- The form of 128 bits of a UUID of 16, 32 or 128 bits. -/
def bluetoothUuid (uuid : Text) : Text :=
  if uuid.length = 4 then
    "0000".toList ++ convertToLowerCase uuid ++ "-0000-1000-8000-00805f9b34fb".toList
  else if uuid.length = 8 then
    convertToLowerCase uuid ++ "-0000-1000-8000-00805f9b34fb".toList
  else convertToLowerCase uuid

def present {α : Type} (entry : List α → DeviceProperty) (value : List α) : List DeviceProperty :=
  if value = [] then [] else [entry value]

def bluezChannel : Channel where
  uuid128 := bluetoothUuid
  Hears p dictionary := ∃ address rssi, dictionary =
    [.address address, .rssi rssi, .uuids (p.serviceUuids.map bluetoothUuid)] ++
      present .manufacturerData p.manufacturerData ++
      present .serviceData (p.serviceData.map fun e => (bluetoothUuid e.1, e.2))

theorem toldOnce_present {α β : Type} (pick : DeviceProperty → Option (List α))
    {entry : List α → DeviceProperty} {other : List β → DeviceProperty} {value : List α}
    (hpick : ∀ l, pick (entry l) = some l) (hother : ∀ l, pick (other l) = none)
    (rest : List β) :
    ToldOnce ((present entry value ++ present other rest).filterMap pick) value ∧
      ToldOnce ((present other rest ++ present entry value).filterMap pick) value := by
  unfold present
  constructor
  · by_cases hvalue : value = []
    · right
      by_cases hrest : rest = [] <;> simp [hvalue, hrest, hother]
    · left
      by_cases hrest : rest = [] <;> simp [hvalue, hrest, hother, hpick]
  · by_cases hvalue : value = []
    · right
      by_cases hrest : rest = [] <;> simp [hvalue, hrest, hother]
    · left
      by_cases hrest : rest = [] <;> simp [hvalue, hrest, hother, hpick]

theorem bluezChannel_documented : bluezChannel.Documented where
  uuids := by
    rintro p dictionary ⟨address, rssi, rfl⟩
    refine ⟨_, .inl ?_, fun _ => Iff.rfl⟩
    unfold present
    split_ifs <;> rfl
  serviceData := by
    rintro p dictionary ⟨address, rssi, rfl⟩
    unfold serviceUpdates
    rw [List.flatten_singleton, List.append_assoc]
    exact (toldOnce_present DeviceProperty.serviceEntries (fun _ => rfl) (fun _ => rfl) _).2
  manufacturerData := by
    rintro p dictionary ⟨address, rssi, rfl⟩
    unfold manufacturerUpdates
    rw [List.flatten_singleton, List.append_assoc]
    exact (toldOnce_present DeviceProperty.manufacturerEntries (fun _ => rfl) (fun _ => rfl) _).1

end Bluez

def batteryStart : StartCall where
  settings := { connectable := true, timeout := 0 }
  advertiseData :=
    { manufacturerData := [0x4C, 0, 2]
      services := AList.insert batteryService [100] ∅ }
  scanResponse := {}
  supportedInstances := 4
  reply := none

def batteryUuid : Text := "0000180f-0000-1000-8000-00805f9b34fb".toList

/-- Both machines are little endian, and the id of the filter is `0x004C`. -/
theorem advertised_filter_battery :
    filterMatchCriteria
        { serviceUuid := { uuid := "0000180F-0000-1000-8000-00805F9B34FB".toList }
          serviceData := { uuid := batteryUuid, data := [100] }
          manufacturerData := { id := 0x004C, data := [2] } }
        (heardDevice littleEndianPlatform
          [.address "00:11:22:33:44:55".toList, .rssi (-50), .uuids [batteryUuid],
            .manufacturerData [(0x004C, [2])], .serviceData [(batteryUuid, [100])]]) =
      .ok true := by
  refine (advertised_filter_iff (s := oneAdvertiser) 1 true [batteryStart]
    (p := { type_ := some "peripheral".toList, discoverable := true,
            manufacturerData := [(0x004C, [2])], serviceUuids := [batteryService],
            serviceData := [(batteryService, [100])] })
    rfl ?_ bluezChannel_documented ⟨_, _, rfl⟩ ⟨rfl, rfl, rfl⟩).mpr ⟨rfl, ?_, ?_, ?_⟩
  · rw [ExportedAdvertisers.afterCalls_exported]
    rfl
  · exact fun _ => ⟨batteryService, by decide, by decide⟩
  · exact fun _ _ => ⟨batteryService, by decide, by decide⟩
  · exact fun _ _ => ⟨by decide, by decide⟩

end BluezSil.Adapter
