import BluezSil.LeFilterBounds

/-!
# A full mask and no mask

Manufacturer data is compared by the same loop with and without a mask. Service data without
a mask is compared as a whole, and with a mask byte by byte over the length of the filter's
data, so that a mask that marks every byte asks for a prefix of what the device sends.
-/

namespace BluezSil.Adapter

open ByteAccess

def BluetoothLeDiscoveryFilter.withServiceMask (filter : BluetoothLeDiscoveryFilter)
    (mask : List UInt8) : BluetoothLeDiscoveryFilter :=
  { filter with serviceData := { filter.serviceData with mask } }

def BluetoothLeDiscoveryFilter.withManufacturerMask (filter : BluetoothLeDiscoveryFilter)
    (mask : List UInt8) : BluetoothLeDiscoveryFilter :=
  { filter with manufacturerData := { filter.manufacturerData with mask } }

def fullMask (data : List UInt8) : List UInt8 := List.replicate data.length 1

def addressAndName (filter : BluetoothLeDiscoveryFilter) (device : Bluez5Device) : Bool :=
  (filter.address.isEmpty ||
    convertToLowerCase device.address == convertToLowerCase filter.address) &&
  (filter.name.isEmpty || convertToLowerCase device.name == convertToLowerCase filter.name)

def otherCriteria (filter : BluetoothLeDiscoveryFilter) (device : Bluez5Device) :
    Access Bool := do
  let serviceUuid ← matchServiceUuid filter device
  let manuData ← matchManufacturerData filter device
  .ok (addressAndName filter device && serviceUuid && manuData)

/-- The device sends data under the UUID of the filter that is a proper part of the filter's,
and no other criterion reads out of bounds. -/
def SendsPart (filter : BluetoothLeDiscoveryFilter) (device : Bluez5Device) : Prop :=
  device.scanRecord <+: filter.serviceData.data ∧
    device.scanRecord ≠ filter.serviceData.data ∧ InBounds (otherCriteria filter device)

/-- The device sends more than the filter's data, and every other criterion is met. -/
def SendsMore (filter : BluetoothLeDiscoveryFilter) (device : Bluez5Device) : Prop :=
  filter.serviceData.data <+: device.scanRecord ∧
    filter.serviceData.data ≠ device.scanRecord ∧ otherCriteria filter device = .ok true

/-- The device sends service data under the UUID of the filter that agrees with the filter's up
to the end of one of the two, where the other goes on, and this decides the answer. -/
def EndsEarly (filter : BluetoothLeDiscoveryFilter) (device : Bluez5Device) : Prop :=
  convertToLowerCase device.serviceDataUuid = convertToLowerCase filter.serviceData.uuid ∧
    (SendsPart filter device ∨ SendsMore filter device)

def comparePrefix : List UInt8 → List UInt8 → Access Bool
  | [], _ => .ok true
  | _ :: _, [] => .error .outOfBounds
  | b :: data, d :: deviceData => if b = d then comparePrefix data deviceData else .ok false

/-- What the comparison says of the two: one is a part of the other, or they differ. -/
theorem comparePrefix_cases (data deviceData : List UInt8) :
    (data <+: deviceData ∧ comparePrefix data deviceData = .ok true) ∨
    (deviceData <+: data ∧ deviceData ≠ data ∧
      comparePrefix data deviceData = .error .outOfBounds) ∨
    (¬ data <+: deviceData ∧ ¬ deviceData <+: data ∧
      comparePrefix data deviceData = .ok false) := by
  induction data generalizing deviceData with
  | nil => exact .inl ⟨List.nil_prefix, rfl⟩
  | cons b data ih =>
      cases deviceData with
      | nil => exact .inr (.inl ⟨List.nil_prefix, (List.cons_ne_nil b data).symm, rfl⟩)
      | cons d deviceData =>
          by_cases hbyte : b = d
          · subst hbyte
            simpa [comparePrefix, List.cons_prefix_cons] using ih deviceData
          · exact .inr (.inr (by simp [comparePrefix, List.cons_prefix_cons, hbyte,
              Ne.symm hbyte]))

theorem checkBytes_congr {isMarked isMarked' : ℕ → Access Bool} {data deviceData : List UInt8}
    {offset : ℕ} (h : ∀ j < data.length, isMarked j = isMarked' j) (left : ℕ)
    (hleft : left ≤ data.length) :
    checkBytes isMarked data deviceData offset left =
      checkBytes isMarked' data deviceData offset left := by
  induction left with
  | zero => rfl
  | succ left ih =>
      rw [checkBytes, checkBytes, h (data.length - (left + 1)) (by omega), ih (by omega)]

theorem isMarkedBy_fullMask {data : List UInt8} {j : ℕ} (h : j < data.length) :
    isMarkedBy (fullMask data) j = .ok true := by
  have hbyte : (fullMask data)[j]? = some 1 := List.getElem?_replicate_of_lt h
  unfold isMarkedBy
  rw [readAt_of_getElem? hbyte]
  rfl

theorem checkBytes_all (data deviceData : List UInt8) (left : ℕ) (hleft : left ≤ data.length) :
    checkBytes (fun _ => .ok true) data deviceData 0 left =
      comparePrefix (data.drop (data.length - left)) (deviceData.drop (data.length - left)) := by
  induction left with
  | zero =>
      rw [Nat.sub_zero, List.drop_length]
      rfl
  | succ left ih =>
      have hlt : data.length - (left + 1) < data.length := by omega
      have hnext : data.length - (left + 1) + 1 = data.length - left := by omega
      rw [checkBytes, List.drop_eq_getElem_cons hlt, hnext]
      simp only [bind_ok, if_true, readAt_of_getElem? (List.getElem?_eq_getElem hlt), Nat.add_zero]
      by_cases hdev : data.length - (left + 1) < deviceData.length
      · rw [readAt_of_getElem? (List.getElem?_eq_getElem hdev), bind_ok,
          List.drop_eq_getElem_cons hdev, hnext, comparePrefix, ih (by omega)]
      · have hnone : readAt deviceData (data.length - (left + 1)) = .error .outOfBounds := by
          unfold readAt
          rw [List.getElem?_eq_none (by omega)]
        rw [hnone, List.drop_of_length_le (Nat.le_of_not_lt hdev)]
        rfl

section Masks

variable {filter : BluetoothLeDiscoveryFilter} {device : Bluez5Device}

theorem checkServiceData_noMask
    (h : convertToLowerCase device.serviceDataUuid =
      convertToLowerCase filter.serviceData.uuid) :
    checkServiceData (filter.withServiceMask []) device =
      .ok (filter.serviceData.data == device.scanRecord) :=
  if_pos h

theorem checkServiceData_fullMask (hdata : filter.serviceData.data ≠ [])
    (h : convertToLowerCase device.serviceDataUuid =
      convertToLowerCase filter.serviceData.uuid) :
    checkServiceData (filter.withServiceMask (fullMask filter.serviceData.data)) device =
      comparePrefix filter.serviceData.data device.scanRecord := by
  have hmask : ¬ (fullMask filter.serviceData.data).isEmpty = true := by
    simpa [fullMask] using hdata
  have hall := checkBytes_all filter.serviceData.data device.scanRecord _ (le_refl _)
  rw [Nat.sub_self, List.drop_zero, List.drop_zero] at hall
  refine (if_pos h).trans ((if_pos hmask).trans ?_)
  exact (checkBytes_congr (fun j hj => isMarkedBy_fullMask hj) _ (le_refl _)).trans hall

theorem filterMatchCriteria_withServiceMask (mask : List UInt8) :
    filterMatchCriteria (filter.withServiceMask mask) device =
      (do
        let serviceUuid ← matchServiceUuid filter device
        let serviceData ← matchServiceData (filter.withServiceMask mask) device
        let manuData ← matchManufacturerData filter device
        .ok (addressAndName filter device && serviceUuid && serviceData && manuData)) :=
  rfl

/-- The comparison of service data without a mask is the one with a full mask unless one of
the two ends early. -/
theorem fullServiceMask_agrees_iff (hdata : filter.serviceData.data ≠ [])
    (huuid : filter.serviceData.uuid ≠ []) :
    filterMatchCriteria (filter.withServiceMask []) device =
        filterMatchCriteria (filter.withServiceMask (fullMask filter.serviceData.data)) device ↔
      ¬ EndsEarly filter device := by
  have hset : ∀ mask, matchServiceData (filter.withServiceMask mask) device =
      checkServiceData (filter.withServiceMask mask) device := by
    intro mask
    refine if_pos ⟨?_, ?_⟩
    · exact mt List.isEmpty_iff.mp huuid
    · exact mt List.isEmpty_iff.mp hdata
  by_cases hagree : convertToLowerCase device.serviceDataUuid =
      convertToLowerCase filter.serviceData.uuid
  · unfold EndsEarly SendsPart SendsMore otherCriteria
    rw [filterMatchCriteria_withServiceMask, filterMatchCriteria_withServiceMask, hset, hset,
      checkServiceData_noMask hagree, checkServiceData_fullMask hdata hagree]
    cases matchServiceUuid filter device with
    | error e =>
        refine iff_of_true rfl ?_
        rintro ⟨-, ⟨-, -, h⟩ | ⟨-, -, h⟩⟩
        · exact not_inBounds_error e h
        · cases h
    | ok serviceUuid =>
        cases matchManufacturerData filter device with
        | error e =>
            refine iff_of_true ?_ ?_
            · rcases comparePrefix_cases filter.serviceData.data device.scanRecord with
                ⟨-, h⟩ | ⟨-, -, h⟩ | ⟨-, -, h⟩ <;> rw [h] <;> rfl
            · rintro ⟨-, ⟨-, -, h⟩ | ⟨-, -, h⟩⟩
              · exact not_inBounds_error e h
              · cases h
        | ok manuData =>
            simp only [bind_ok, inBounds_ok, and_true, hagree, true_and]
            rcases comparePrefix_cases filter.serviceData.data device.scanRecord with
              ⟨hbegins, h⟩ | ⟨hpart, hne, h⟩ | ⟨hbegins, hpart, h⟩
            · rw [h]
              by_cases heq : filter.serviceData.data = device.scanRecord
              · rw [heq]
                simp
              · have hback : ¬ device.scanRecord <+: filter.serviceData.data := fun hback =>
                  heq (hbegins.eq_of_length_le hback.length_le)
                have hbytes : (filter.serviceData.data == device.scanRecord) = false :=
                  beq_eq_false_iff_ne.mpr heq
                rw [hbytes]
                cases addressAndName filter device <;> cases serviceUuid <;> cases manuData <;>
                  simp [heq, hbegins, hback]
            · rw [h]
              refine iff_of_false ?_ fun hnot => hnot (.inl ⟨hpart, hne⟩)
              rintro ⟨⟩
            · have hne : filter.serviceData.data ≠ device.scanRecord := fun heq =>
                hbegins (heq ▸ List.prefix_rfl)
              rw [h]
              simp [hne, hbegins, hpart]
  · refine iff_of_true ?_ fun h => hagree h.1
    have hno : ∀ mask, checkServiceData (filter.withServiceMask mask) device = .ok false :=
      fun _ => if_neg hagree
    rw [filterMatchCriteria_withServiceMask, filterMatchCriteria_withServiceMask, hset, hset,
      hno, hno]

def compareManufacturerData (filter : BluetoothLeDiscoveryFilter) (device : Bluez5Device)
    (mask : List UInt8) : Access Bool :=
  checkBytes (if ¬ mask.isEmpty then isMarkedBy mask else fun _ => .ok true)
    filter.manufacturerData.data device.manufactureData 2 filter.manufacturerData.data.length

theorem matchManufacturerData_congr {mask mask' : List UInt8}
    (h : compareManufacturerData filter device mask =
      compareManufacturerData filter device mask') :
    matchManufacturerData (filter.withManufacturerMask mask) device =
      matchManufacturerData (filter.withManufacturerMask mask') device := by
  have hopen : ∀ mask, matchManufacturerData (filter.withManufacturerMask mask) device =
      if filter.manufacturerData.id > 0 ∧ ¬ filter.manufacturerData.data.isEmpty then
        if device.manufactureData.length > 2 then do
          let high ← readAt device.manufactureData 0
          let low ← readAt device.manufactureData 1
          if UInt16.ofInt filter.manufacturerData.id = word16 low high then
            compareManufacturerData filter device mask
          else .ok false
        else .ok false
      else .ok true := fun _ => rfl
  rw [hopen, hopen, h]

theorem fullManufacturerMask_agrees :
    filterMatchCriteria (filter.withManufacturerMask []) device =
      filterMatchCriteria (filter.withManufacturerMask (fullMask filter.manufacturerData.data))
        device := by
  have hloop : compareManufacturerData filter device [] =
      compareManufacturerData filter device (fullMask filter.manufacturerData.data) := by
    refine checkBytes_congr (fun j hj => ?_) _ (le_refl _)
    have hmask : ¬ (fullMask filter.manufacturerData.data).isEmpty = true := by
      rw [List.isEmpty_iff, ← List.length_eq_zero_iff, fullMask, List.length_replicate]
      exact Nat.ne_zero_of_lt hj
    rw [if_pos hmask]
    exact (isMarkedBy_fullMask hj).symm
  unfold filterMatchCriteria
  rw [matchManufacturerData_congr hloop]
  rfl

end Masks

section Accepted

variable {api : FilterApi} {filter accepted : BluetoothLeDiscoveryFilter} {type : UInt8}

theorem serviceDataType_fullMask {serviceData valid : ServiceData}
    (h : api.serviceDataType { serviceData with mask := [] } = some (valid, type)) :
    api.serviceDataType { serviceData with mask := fullMask serviceData.data } =
      some ({ valid with mask := fullMask valid.data }, type) := by
  by_cases hset : ¬ serviceData.uuid.isEmpty = true ∧ serviceData.data.length > 0
  · unfold FilterApi.serviceDataType FilterApi.isServiceDataValid at h ⊢
    simp only [if_pos hset, List.isEmpty_nil, true_or, if_true] at h
    simp only [if_pos hset, fullMask, List.length_replicate, or_true, if_true]
    cases htype : api.getType serviceData.uuid with
    | unknown => simp [htype] at h
    | uuid16 | uuid32 | uuid128 =>
        simp only [htype, Option.map_some, Option.some.injEq, Prod.mk.injEq] at h ⊢
        obtain ⟨rfl, rfl⟩ := h
        exact ⟨rfl, rfl⟩
  · unfold FilterApi.serviceDataType at h ⊢
    simp only [if_neg hset] at h ⊢
    split_ifs at h with hbad
    cases h
    have hdata : serviceData.data = [] := by
      simp only [not_or, not_and, not_not, List.isEmpty_iff] at hset hbad
      by_contra hne
      have hpos := List.length_pos_of_ne_nil hne
      by_cases huuid : serviceData.uuid = []
      · exact hbad.2.1 huuid hpos
      · exact hset huuid hpos
    simpa [hdata, fullMask] using hbad

/-- A full mask is accepted where none is, and the accepted filters are alike but for it. -/
theorem isFilterValid_fullServiceMask (hapi : api.Documented)
    (h : api.isFilterValid (filter.withServiceMask []) = some (accepted, type)) :
    api.isFilterValid (filter.withServiceMask (fullMask filter.serviceData.data)) =
      some (accepted.withServiceMask (fullMask accepted.serviceData.data), type) := by
  have hempty : api.isFilterEmpty (filter.withServiceMask (fullMask filter.serviceData.data)) =
      api.isFilterEmpty (filter.withServiceMask []) := by
    rw [Bool.eq_iff_iff, hapi.empty, hapi.empty]
    unfold BluetoothLeDiscoveryFilter.SetsNothing BluetoothLeDiscoveryFilter.withServiceMask
    simp only [ServiceData.mk.injEq, fullMask, List.replicate_eq_nil_iff, List.length_eq_zero_iff]
    tauto
  rcases isFilterValid_cases h with
    ⟨hnothing, rfl, rfl⟩ | ⟨hset, uuid, uuidType, data, dataType, manufacturerType, huuid, hdata,
      hmanufacturer, rfl, rfl⟩
  · have hdata : filter.serviceData.data = [] := by
      have hdefault := ((hapi.empty _).mp hnothing).2.2.2.1
      exact congrArg ServiceData.data hdefault
    rw [hdata]
    exact h.trans (by rw [BluetoothLeDiscoveryFilter.withServiceMask, hdata]; rfl)
  · unfold FilterApi.isFilterValid
    rw [if_neg (hempty ▸ hset)]
    have hdata := @serviceDataType_fullMask api _ filter.serviceData _ hdata
    simp only [BluetoothLeDiscoveryFilter.withServiceMask] at huuid hmanufacturer ⊢
    rw [huuid, hdata, hmanufacturer]
    rfl

end Accepted

theorem fullMask_agrees_iff {api : FilterApi} {filter accepted : BluetoothLeDiscoveryFilter}
    {type : UInt8} (hapi : api.Documented)
    (hvalid : api.isFilterValid filter = some (accepted, type)) (device : Bluez5Device) :
    (accepted.serviceData.data ≠ [] →
      (filterMatchCriteria (accepted.withServiceMask []) device =
        filterMatchCriteria (accepted.withServiceMask (fullMask accepted.serviceData.data))
          device ↔ ¬ EndsEarly accepted device)) ∧
    filterMatchCriteria (accepted.withManufacturerMask []) device =
      filterMatchCriteria
        (accepted.withManufacturerMask (fullMask accepted.manufacturerData.data)) device ∧
    (filter.serviceData.mask = [] →
      api.isFilterValid (filter.withServiceMask (fullMask filter.serviceData.data)) =
        some (accepted.withServiceMask (fullMask accepted.serviceData.data), type)) := by
  refine ⟨fun hdata => ?_, fullManufacturerMask_agrees, fun hmask => ?_⟩
  · exact fullServiceMask_agrees_iff hdata
      ((measured_of_isFilterValid hapi hvalid).serviceData hdata)
  · refine isFilterValid_fullServiceMask hapi ?_
    rw [← hmask]
    exact hvalid

def heartRateData : BluetoothLeDiscoveryFilter :=
  { serviceData := ⟨"0000180d-0000-1000-8000-00805f9b34fb".toList, [0, 72], []⟩ }

theorem heartRateData_valid :
    formApi.isFilterValid heartRateData = some (heartRateData, filterServiceData) := by
  decide

def heartRateDevice (scanRecord : List UInt8) : Bluez5Device :=
  { serviceDataUuid := heartRateData.serviceData.uuid, scanRecord }

theorem fullMask_agrees_iff_differs :
    filterMatchCriteria (heartRateData.withServiceMask []) (heartRateDevice [0, 73]) =
      filterMatchCriteria (heartRateData.withServiceMask (fullMask [0, 72]))
        (heartRateDevice [0, 73]) := by
  refine ((fullMask_agrees_iff formApi_documented heartRateData_valid _).1 (by decide)).mpr ?_
  rintro ⟨-, ⟨hbegins, -⟩ | ⟨hbegins, -⟩⟩
  · exact absurd hbegins (by decide)
  · exact absurd hbegins (by decide)

/-- A device that sends one byte more than the filter names. -/
theorem fullMask_admits_more :
    ¬ ∀ filter accepted type device,
      formApi.isFilterValid filter = some (accepted, type) → accepted.serviceData.data ≠ [] →
      filterMatchCriteria (accepted.withServiceMask []) device =
        filterMatchCriteria (accepted.withServiceMask (fullMask accepted.serviceData.data))
          device := by
  intro h
  have heq := h _ _ _ (heartRateDevice [0, 72, 1]) heartRateData_valid (by decide)
  exact absurd heq (by decide)

end BluezSil.Adapter
