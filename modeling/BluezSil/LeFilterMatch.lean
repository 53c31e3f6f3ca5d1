import BluezSil.ByteAccess
import BluezSil.LeFilter
import BluezSil.PositionAgreement

/-!
# Devices that match a discovery filter

`filterMatchCriteria` asks for every criterion the filter sets. A service UUID with
a mask is compared position by position. The comparison runs over the length of
the UUID as the application wrote it, which validation leaves short when there is
a mask, and it answers yes on reaching the last of these positions without looking
at what it holds.
-/

namespace BluezSil.Adapter

open ByteAccess PositionAgreement

/-- The properties of a `Bluez5Device` that filters ask about. -/
structure Bluez5Device where
  address : Text := []
  name : Text := []
  uuids : List Text := []
  serviceDataUuid : Text := []
  scanRecord : List UInt8 := []
  manufactureData : List UInt8 := []
  deriving DecidableEq

def convertToLowerCase (input : Text) : Text := convertAddressToLowerCase input

/-- A string may be indexed up to its terminator. -/
def charAt (text : Text) (j : ℕ) : Access Char := readAt (text ++ ['\x00']) j

def sameCharAt (srvcUuidStr deviceUuid : Text) (j : ℕ) : Access Bool := do
  let c ← charAt srvcUuidStr j
  let d ← charAt deviceUuid j
  .ok (c == d)

def isMatchingAt (srvcUuidMasksStr srvcUuidStr deviceUuid : Text) (j : ℕ) : Access Bool := do
  let mark ← charAt srvcUuidMasksStr j
  if mark = '1' then sameCharAt srvcUuidStr deviceUuid j else .ok true

/-- The loop over the positions of the UUID, of which `left` are left. -/
def checkMasked (srvcUuidMasksStr srvcUuidStr deviceUuid : Text) : ℕ → Access Bool
  | 0 => .ok false
  | left + 1 => do
    let j := srvcUuidStr.length - (left + 1)
    let isMatching ← isMatchingAt srvcUuidMasksStr srvcUuidStr deviceUuid j
    if j = srvcUuidStr.length - 1 then .ok true
    else if isMatching then checkMasked srvcUuidMasksStr srvcUuidStr deviceUuid left
    else .ok false

def checkServiceUuid (filter : BluetoothLeDiscoveryFilter) (device : Bluez5Device) :
    Access Bool :=
  let srvcUuidStr := convertToLowerCase filter.serviceUuid.uuid
  if ¬ filter.serviceUuid.mask.isEmpty then
    device.uuids.anyM fun uuid =>
      checkMasked filter.serviceUuid.mask srvcUuidStr (convertToLowerCase uuid)
        srvcUuidStr.length
  else
    .ok (device.uuids.any fun uuid => convertToLowerCase uuid == srvcUuidStr)

/-- The loops over the bytes of a filter from position `j` on; byte `j` of the filter
is compared to byte `j + offset` of the device. -/
def checkBytes (isMarked : ℕ → Access Bool) (data deviceData : List UInt8) (offset : ℕ) :
    ℕ → Access Bool
  | 0 => .ok true
  | left + 1 => do
    let j := data.length - (left + 1)
    let marked ← isMarked j
    if marked then do
      let b ← readAt data j
      let d ← readAt deviceData (j + offset)
      if b = d then checkBytes isMarked data deviceData offset left else .ok false
    else checkBytes isMarked data deviceData offset left

def isMarkedBy (mask : List UInt8) (j : ℕ) : Access Bool := do
  let m ← readAt mask j
  .ok (m == 1)

def checkServiceData (filter : BluetoothLeDiscoveryFilter) (device : Bluez5Device) :
    Access Bool :=
  let data := filter.serviceData.data
  let mask := filter.serviceData.mask
  if convertToLowerCase device.serviceDataUuid = convertToLowerCase filter.serviceData.uuid then
    if ¬ mask.isEmpty then checkBytes (isMarkedBy mask) data device.scanRecord 0 data.length
    else .ok (data == device.scanRecord)
  else .ok false

def checkManufacturerData (filter : BluetoothLeDiscoveryFilter) (device : Bluez5Device) :
    Access Bool :=
  let manufData := device.manufactureData
  let data := filter.manufacturerData.data
  let mask := filter.manufacturerData.mask
  if manufData.length > 2 then do
    let high ← readAt manufData 0
    let low ← readAt manufData 1
    if UInt16.ofInt filter.manufacturerData.id = word16 low high then
      let isMarked := if ¬ mask.isEmpty then isMarkedBy mask else fun _ => .ok true
      checkBytes isMarked data manufData 2 data.length
    else .ok false
  else .ok false

def matchServiceUuid (filter : BluetoothLeDiscoveryFilter) (device : Bluez5Device) :
    Access Bool :=
  if ¬ filter.serviceUuid.uuid.isEmpty then checkServiceUuid filter device else .ok true

def matchServiceData (filter : BluetoothLeDiscoveryFilter) (device : Bluez5Device) :
    Access Bool :=
  if ¬ filter.serviceData.uuid.isEmpty ∧ ¬ filter.serviceData.data.isEmpty then
    checkServiceData filter device
  else .ok true

def matchManufacturerData (filter : BluetoothLeDiscoveryFilter) (device : Bluez5Device) :
    Access Bool :=
  if filter.manufacturerData.id > 0 ∧ ¬ filter.manufacturerData.data.isEmpty then
    checkManufacturerData filter device
  else .ok true

def filterMatchCriteria (filter : BluetoothLeDiscoveryFilter) (device : Bluez5Device) :
    Access Bool := do
  let addressFilter := filter.address.isEmpty ||
    convertToLowerCase device.address == convertToLowerCase filter.address
  let nameFilter := filter.name.isEmpty ||
    convertToLowerCase device.name == convertToLowerCase filter.name
  let serviceUuid ← matchServiceUuid filter device
  let serviceData ← matchServiceData filter device
  let manuData ← matchManufacturerData filter device
  .ok (addressFilter && nameFilter && serviceUuid && serviceData && manuData)

theorem not_isEmpty_of_length_pos {text : Text} (h : 0 < text.length) :
    ¬ text.isEmpty = true := by
  rw [List.isEmpty_iff]
  exact List.ne_nil_of_length_pos h

theorem charAt_of_getElem? {text : Text} {j : ℕ} {c : Char} (h : text[j]? = some c) :
    charAt text j = .ok c := by
  apply readAt_of_getElem?
  rw [List.getElem?_append_left (List.getElem?_eq_some_iff.mp h).1]
  exact h

theorem sameCharAt_decides {text deviceText : Text} {j : ℕ} (h : j < text.length)
    (hd : j < deviceText.length) :
    Decides (sameCharAt text deviceText j) (text[j]? = deviceText[j]?) := by
  unfold sameCharAt
  rw [charAt_of_getElem? (List.getElem?_eq_getElem h), bind_ok,
    charAt_of_getElem? (List.getElem?_eq_getElem hd), bind_ok]
  apply decides_ok
  rw [List.getElem?_eq_getElem h, List.getElem?_eq_getElem hd, beq_iff_eq, Option.some_inj]

theorem isMatchingAt_decides {mask uuid deviceUuid : Text} {j : ℕ} (hmask : j < mask.length)
    (h : j < uuid.length) (hd : j < deviceUuid.length) :
    Decides (isMatchingAt mask uuid deviceUuid j)
      (mask[j]? = some '1' → uuid[j]? = deviceUuid[j]?) := by
  unfold isMatchingAt
  rw [charAt_of_getElem? (List.getElem?_eq_getElem hmask), bind_ok,
    List.getElem?_eq_getElem hmask]
  by_cases hmark : mask[j] = '1'
  · rw [if_pos hmark, hmark]
    apply (sameCharAt_decides h hd).congr_iff.mpr
    exact ⟨fun h _ => h, fun h => h rfl⟩
  · rw [if_neg hmark]
    apply decides_ok
    exact iff_of_true rfl fun heq => absurd (Option.some.inj heq) hmark

theorem checkMasked_decides (mask uuid deviceUuid : Text) (hmask : uuid.length ≤ mask.length)
    (hdev : uuid.length ≤ deviceUuid.length) (left : ℕ) (hleft : left ≤ uuid.length) :
    Decides (checkMasked mask uuid deviceUuid left)
      (0 < left ∧ ∀ j, uuid.length - left ≤ j → j + 1 < uuid.length →
        mask[j]? = some '1' → uuid[j]? = deviceUuid[j]?) := by
  induction left with
  | zero =>
      apply decides_ok
      simp
  | succ left ih =>
      set here := uuid.length - (left + 1) with hhere
      have hlt : here < uuid.length := by omega
      obtain ⟨isMatching, hb, hiff⟩ := isMatchingAt_decides (lt_of_lt_of_le hlt hmask) hlt
        (lt_of_lt_of_le hlt hdev)
      rw [checkMasked, ← hhere, hb, bind_ok]
      by_cases hlast : left = 0
      · rw [if_pos (by omega)]
        apply decides_ok
        refine iff_of_true rfl ⟨by omega, fun j hge hj => ?_⟩
        omega
      · rw [if_neg (by omega)]
        cases isMatching with
        | true =>
            rw [if_pos rfl]
            apply (ih (by omega)).congr_iff.mpr
            constructor
            · rintro ⟨_, h⟩
              refine ⟨by omega, fun j hge hj => ?_⟩
              by_cases hjh : j = here
              · subst hjh
                exact hiff.mp rfl
              · exact h j (by omega) hj
            · rintro ⟨_, h⟩
              exact ⟨by omega, fun j hge hj => h j (by omega) hj⟩
        | false =>
            rw [if_neg Bool.false_ne_true]
            apply decides_ok
            refine iff_of_false Bool.false_ne_true ?_
            rintro ⟨_, h⟩
            exact absurd (hiff.mpr (h here (le_refl _) (by omega))) Bool.false_ne_true

def expandUuid : UuidType → Text → Text
  | .uuid16, uuid => zeros ++ uuid ++ baseUuid
  | .uuid32, uuid => uuid ++ baseUuid
  | _, uuid => uuid

def expandMask (mask : Text) : Text :=
  if mask.length = bluetoothUuid16Length then zeros ++ mask ++ maskTail
  else if mask.length = bluetoothUuid32Length then mask ++ maskTail
  else mask

/-- The positions a mask asks about, all of them if there is none. -/
def markedPositions (mask : Text) : Set ℕ :=
  {j | mask = [] ∨ (expandMask mask)[j]? = some '1'}

/-- The device UUID agrees with the expanded filter UUID wherever the expanded mask
asks, in any letter case. -/
def FilterApi.Admits (api : FilterApi) (serviceUuid : ServiceUuid) (uuid : Text) : Prop :=
  AgreeOn Char.toLower (markedPositions serviceUuid.mask)
    (expandUuid (api.getType serviceUuid.uuid) serviceUuid.uuid) uuid

/-- Each digit a mask asks about stands before the last position of the UUID as written,
and its expansion has it at the same position. -/
def FilterApi.MarksWrittenDigits (api : FilterApi) (serviceUuid : ServiceUuid) : Prop :=
  serviceUuid.mask = [] ∨
  ∀ j, (expandMask serviceUuid.mask)[j]? = some '1' → uuidForm[j]? = some .hexDigit →
    j + 1 < serviceUuid.uuid.length ∧
    (convertToLowerCase serviceUuid.uuid)[j]? =
      (convertToLowerCase (expandUuid (api.getType serviceUuid.uuid) serviceUuid.uuid))[j]?

theorem rigid_uuidForm_iff (j : ℕ) :
    Rigid Char.toLower UuidSlot.Fits uuidForm j ↔ ¬ uuidForm[j]? = some .hexDigit := by
  constructor
  · intro h hslot
    have heq := h .hexDigit hslot '0' '1' rfl rfl
    exact absurd heq (by decide)
  · intro h slot hslot a b ha hb
    cases slot with
    | hexDigit => exact absurd hslot h
    | dash => rw [show a = '-' from ha, show b = '-' from hb]

theorem baseUuid_form :
    List.Forall₂ UuidSlot.Fits (uuidForm.drop 8) baseUuid := by decide

theorem zeros_form : List.Forall₂ UuidSlot.Fits (List.replicate 4 .hexDigit) zeros := by decide

theorem uuid32_form {uuid : Text}
    (h : List.Forall₂ UuidSlot.Fits (List.replicate 8 .hexDigit) uuid) :
    IsUuid128 (uuid ++ baseUuid) :=
  List.rel_append h baseUuid_form

theorem uuid16_form {uuid : Text}
    (h : List.Forall₂ UuidSlot.Fits (List.replicate 4 .hexDigit) uuid) :
    IsUuid128 (zeros ++ uuid ++ baseUuid) :=
  uuid32_form (List.rel_append zeros_form h)

section Validation

variable {api : FilterApi} {serviceUuid valid : ServiceUuid}

theorem expandUuid_form (hapi : api.Documented) (h : api.getType serviceUuid.uuid ≠ .unknown) :
    IsUuid128 (expandUuid (api.getType serviceUuid.uuid) serviceUuid.uuid) := by
  cases htype : api.getType serviceUuid.uuid with
  | unknown => exact absurd htype h
  | uuid16 => exact uuid16_form (hapi.uuid16 _ htype)
  | uuid32 => exact uuid32_form (hapi.uuid32 _ htype)
  | uuid128 => exact hapi.uuid128 _ htype

structure Validated (api : FilterApi) (serviceUuid valid : ServiceUuid) : Prop where
  known : api.getType serviceUuid.uuid ≠ .unknown
  unmasked : serviceUuid.mask = [] →
    valid = ⟨expandUuid (api.getType serviceUuid.uuid) serviceUuid.uuid, []⟩
  masked : serviceUuid.mask ≠ [] →
    valid = ⟨serviceUuid.uuid, expandMask serviceUuid.mask⟩ ∧
    (expandMask serviceUuid.mask).length = bluetoothUuid128Length

theorem expandMask_of_length16 {mask : Text} (h : mask.length = bluetoothUuid16Length) :
    zeros ++ mask.take 4 ++ maskTail = expandMask mask := by
  rw [expandMask, if_pos h, List.take_of_length_le (show mask.length ≤ 4 from le_of_eq h)]

theorem expandMask_of_length32 {mask : Text} (h : mask.length = bluetoothUuid32Length) :
    mask.take 8 ++ maskTail = expandMask mask := by
  have h16 : mask.length ≠ bluetoothUuid16Length := by
    rw [h]
    decide
  rw [expandMask, if_neg h16, if_pos h,
    List.take_of_length_le (show mask.length ≤ 8 from le_of_eq h)]

theorem expandMask_of_length128 {mask : Text} (h : mask.length = bluetoothUuid128Length) :
    mask = expandMask mask := by
  have h16 : mask.length ≠ bluetoothUuid16Length := by
    rw [h]
    decide
  have h32 : mask.length ≠ bluetoothUuid32Length := by
    rw [h]
    decide
  rw [expandMask, if_neg h16, if_neg h32]

theorem expandMask_length {mask : Text} (h : mask.length = bluetoothUuid16Length ∨
    mask.length = bluetoothUuid32Length ∨ mask.length = bluetoothUuid128Length) :
    (expandMask mask).length = bluetoothUuid128Length := by
  rcases h with h | h | h
  · rw [← expandMask_of_length16 h, List.length_append, List.length_append, List.length_take, h]
    rfl
  · rw [← expandMask_of_length32 h, List.length_append, List.length_take, h]
    rfl
  · rw [← expandMask_of_length128 h, h]

theorem Validated.no_mask (known : api.getType serviceUuid.uuid ≠ .unknown)
    (hmask : serviceUuid.mask = []) :
    Validated api serviceUuid { serviceUuid with
      uuid := expandUuid (api.getType serviceUuid.uuid) serviceUuid.uuid } := by
  refine ⟨known, fun _ => ?_, fun h => absurd hmask h⟩
  rw [hmask]

theorem Validated.mask16 (known : api.getType serviceUuid.uuid ≠ .unknown)
    (hlen : serviceUuid.mask.length = bluetoothUuid16Length) :
    Validated api serviceUuid { serviceUuid with
      mask := zeros ++ serviceUuid.mask.take 4 ++ maskTail } := by
  refine ⟨known, fun h => ?_, fun _ => ⟨?_, expandMask_length (.inl hlen)⟩⟩
  · rw [h] at hlen
    cases hlen
  · rw [expandMask_of_length16 hlen]

theorem Validated.mask32 (known : api.getType serviceUuid.uuid ≠ .unknown)
    (hlen : serviceUuid.mask.length = bluetoothUuid32Length) :
    Validated api serviceUuid { serviceUuid with
      mask := serviceUuid.mask.take 8 ++ maskTail } := by
  refine ⟨known, fun h => ?_, fun _ => ⟨?_, expandMask_length (.inr (.inl hlen))⟩⟩
  · rw [h] at hlen
    cases hlen
  · rw [expandMask_of_length32 hlen]

theorem Validated.mask128 (known : api.getType serviceUuid.uuid ≠ .unknown)
    (hlen : serviceUuid.mask.length = bluetoothUuid128Length) :
    Validated api serviceUuid serviceUuid := by
  refine ⟨known, fun h => ?_, fun _ => ⟨?_, expandMask_length (.inr (.inr hlen))⟩⟩
  · rw [h] at hlen
    cases hlen
  · rw [← expandMask_of_length128 hlen]

theorem validated_of_isServiceUuidValid (hapi : api.Documented)
    (h : api.isServiceUuidValid serviceUuid = some valid) :
    Validated api serviceUuid valid := by
  have known : api.getType serviceUuid.uuid ≠ .unknown := by
    intro htype
    simp only [FilterApi.isServiceUuidValid, htype] at h
    cases h
  have hexpand : serviceUuid.mask.isEmpty = true → Validated api serviceUuid { serviceUuid with
      uuid := expandUuid (api.getType serviceUuid.uuid) serviceUuid.uuid } :=
    fun hempty => Validated.no_mask known (List.isEmpty_iff.mp hempty)
  unfold FilterApi.isServiceUuidValid at h
  cases htype : api.getType serviceUuid.uuid with
  | unknown => exact absurd htype known
  | uuid16 =>
      have hlen : serviceUuid.uuid.length = 4 := (hapi.uuid16 _ htype).length_eq.symm
      simp only [htype] at h
      split_ifs at h with hempty hsame h32 h128 <;> cases h
      · rw [List.take_of_length_le (le_of_eq hlen)]
        simpa only [htype, expandUuid] using hexpand hempty
      · exact Validated.mask16 known (hsame.symm.trans hlen)
      · exact Validated.mask32 known h32
      · exact Validated.mask128 known (not_not.mp h128)
  | uuid32 =>
      have hlen : serviceUuid.uuid.length = 8 := (hapi.uuid32 _ htype).length_eq.symm
      simp only [htype] at h
      split_ifs at h with hempty hsame h16 h128 <;> cases h
      · rw [List.take_of_length_le (le_of_eq hlen)]
        simpa only [htype, expandUuid] using hexpand hempty
      · exact Validated.mask32 known (hsame.symm.trans hlen)
      · exact Validated.mask16 known h16
      · exact Validated.mask128 known (not_not.mp h128)
  | uuid128 =>
      simp only [htype] at h
      split_ifs at h with h16 h32 h128 <;> cases h
      · exact Validated.mask16 known h16
      · exact Validated.mask32 known h32
      · by_cases hempty : serviceUuid.mask.isEmpty = true
        · simpa only [htype, expandUuid] using hexpand hempty
        · refine Validated.mask128 known ?_
          by_contra hne
          exact h128 ⟨hempty, hne⟩

theorem Validated.written_length (hapi : api.Documented) (h : Validated api serviceUuid valid) :
    serviceUuid.uuid.length ≤ bluetoothUuid128Length ∧ 0 < serviceUuid.uuid.length := by
  cases htype : api.getType serviceUuid.uuid with
  | unknown => exact absurd htype h.known
  | uuid16 =>
      have hlen : serviceUuid.uuid.length = 4 := (hapi.uuid16 _ htype).length_eq.symm
      rw [hlen]
      decide
  | uuid32 =>
      have hlen : serviceUuid.uuid.length = 8 := (hapi.uuid32 _ htype).length_eq.symm
      rw [hlen]
      decide
  | uuid128 =>
      have hlen : serviceUuid.uuid.length = 36 := (hapi.uuid128 _ htype).length_eq.symm
      rw [hlen]
      decide

theorem Validated.written_dash (hapi : api.Documented) (h : Validated api serviceUuid valid)
    {j : ℕ} (hj : j < serviceUuid.uuid.length) (hslot : ¬ uuidForm[j]? = some .hexDigit) :
    serviceUuid.uuid = expandUuid (api.getType serviceUuid.uuid) serviceUuid.uuid := by
  have hdigits : ∀ i < 8, uuidForm[i]? = some UuidSlot.hexDigit := by decide
  cases htype : api.getType serviceUuid.uuid with
  | unknown => exact absurd htype h.known
  | uuid16 =>
      have hlen : serviceUuid.uuid.length = 4 := (hapi.uuid16 _ htype).length_eq.symm
      exact absurd (hdigits j (by omega)) hslot
  | uuid32 =>
      have hlen : serviceUuid.uuid.length = 8 := (hapi.uuid32 _ htype).length_eq.symm
      exact absurd (hdigits j (by omega)) hslot
  | uuid128 => rfl

theorem Validated.uuid_ne_nil (hapi : api.Documented) (h : Validated api serviceUuid valid) :
    valid.uuid ≠ [] := by
  apply List.ne_nil_of_length_pos
  by_cases hmask : serviceUuid.mask = []
  · rw [h.unmasked hmask, ← (expandUuid_form hapi h.known).length_eq]
    decide
  · rw [(h.masked hmask).1]
    exact (h.written_length hapi).2

end Validation

/-- The positions the loop of a masked comparison asks about. -/
def readPositions (serviceUuid : ServiceUuid) : Set ℕ :=
  {j | j + 1 < serviceUuid.uuid.length ∧ (expandMask serviceUuid.mask)[j]? = some '1'}

section Matching

variable {api : FilterApi} {filter accepted : BluetoothLeDiscoveryFilter} {type : UInt8}
variable {device : Bluez5Device}

theorem validated_of_isFilterValid (hapi : api.Documented)
    (hvalid : api.isFilterValid filter = some (accepted, type))
    (hset : filter.serviceUuid.uuid ≠ []) :
    Validated api filter.serviceUuid accepted.serviceUuid := by
  rcases isFilterValid_cases hvalid with
    ⟨hempty, _, _⟩ | ⟨_, valid, _, _, _, _, huuid, _, _, rfl, _⟩
  · obtain ⟨_, _, hnone, _⟩ := (hapi.empty filter).mp hempty
    rw [hnone] at hset
    exact absurd rfl hset
  · have hne : ¬ filter.serviceUuid.uuid.isEmpty = true :=
      fun he => hset (List.isEmpty_iff.mp he)
    rw [FilterApi.serviceUuidType, if_pos hne, Option.map_eq_some_iff] at huuid
    obtain ⟨_, hv, heq⟩ := huuid
    cases heq
    exact validated_of_isServiceUuidValid hapi hv

theorem unmasked_of_within (hapi : api.Documented)
    (hvalid : api.isFilterValid filter = some (accepted, type)) (ht : WithinServiceUuid type) :
    accepted.serviceUuid.uuid ≠ [] ∧ accepted.serviceUuid.mask = [] := by
  rcases isFilterValid_cases hvalid with
    ⟨_, _, rfl⟩ | ⟨hempty, valid, uuidType, _, _, _, huuid, hdata, hmanufacturer, rfl, rfl⟩
  · exact absurd ht (by decide)
  have hname : filter.name = [] := by
    by_contra hne
    have h := ht.left.right
    rw [if_pos (mt List.isEmpty_iff.mp hne)] at h
    exact absurd h (by decide)
  have haddress : filter.address = [] := by
    by_contra hne
    have h := ht.right
    rw [if_pos (mt List.isEmpty_iff.mp hne)] at h
    exact absurd h (by decide)
  have hdata := serviceDataType_within hdata ht.left.left.left.right
  have hmanufacturer := manufacturerDataType_within hmanufacturer ht.left.left.right
  have htype := ht.left.left.left.left
  unfold FilterApi.serviceUuidType at huuid
  split_ifs at huuid with hset hmask
  · have hnone : filter.serviceUuid = {} := by
      rw [List.isEmpty_iff] at hset hmask
      rw [← show (⟨filter.serviceUuid.uuid, filter.serviceUuid.mask⟩ : ServiceUuid) =
        filter.serviceUuid from rfl, hset, hmask]
    exact absurd ((hapi.empty filter).mpr ⟨haddress, hname, hnone, hdata, hmanufacturer⟩) hempty
  · rw [Option.map_eq_some_iff] at huuid
    obtain ⟨_, hv, heq⟩ := huuid
    cases heq
    refine ⟨(validated_of_isServiceUuidValid hapi hv).uuid_ne_nil hapi, ?_⟩
    by_contra hne
    rw [if_neg (mt List.isEmpty_iff.mp hne)] at htype
    exact absurd htype (by decide)

theorem matchServiceUuid_of_match (h : filterMatchCriteria filter device = .ok true) :
    matchServiceUuid filter device = .ok true := by
  simp only [filterMatchCriteria, bind_eq_ok, Except.ok.injEq, Bool.and_eq_true] at h
  obtain ⟨serviceUuid, heq, _, _, _, _, ⟨⟨⟨_, _⟩, rfl⟩, _⟩, _⟩ := h
  exact heq

theorem matchServiceUuid_unmasked (hapi : api.Documented)
    (h : Validated api filter.serviceUuid accepted.serviceUuid)
    (hmask : filter.serviceUuid.mask = []) :
    Decides (matchServiceUuid accepted device)
      (∃ uuid ∈ device.uuids, api.Admits filter.serviceUuid uuid) := by
  have heq := h.unmasked hmask
  have hform := expandUuid_form hapi h.known
  have hne : ¬ accepted.serviceUuid.uuid.isEmpty = true := by
    apply not_isEmpty_of_length_pos
    rw [heq, ← hform.length_eq]
    decide
  have hnomask : ¬ ¬ accepted.serviceUuid.mask.isEmpty = true := by
    rw [heq]
    simp
  rw [matchServiceUuid, if_pos hne, checkServiceUuid, if_neg hnomask]
  apply decides_ok
  rw [List.any_eq_true]
  apply exists_congr
  intro uuid
  apply and_congr_right
  intro _
  have hall : markedPositions filter.serviceUuid.mask = Set.univ := by
    ext j
    simp [markedPositions, hmask]
  rw [beq_iff_eq, FilterApi.Admits, hall, agreeOn_univ_iff, heq]
  exact eq_comm

theorem matchServiceUuid_masked (hapi : api.Documented)
    (h : Validated api filter.serviceUuid accepted.serviceUuid)
    (hmask : filter.serviceUuid.mask ≠ []) (hdev : ∀ uuid ∈ device.uuids, IsUuid128 uuid) :
    Decides (matchServiceUuid accepted device)
      (∃ uuid ∈ device.uuids,
        AgreeOn Char.toLower (readPositions filter.serviceUuid) filter.serviceUuid.uuid uuid) := by
  obtain ⟨heq, hlen⟩ := h.masked hmask
  obtain ⟨hle, hpos⟩ := h.written_length hapi
  have hne : ¬ accepted.serviceUuid.uuid.isEmpty = true := by
    apply not_isEmpty_of_length_pos
    rw [heq]
    exact hpos
  have hnonempty : ¬ accepted.serviceUuid.mask.isEmpty = true := by
    apply not_isEmpty_of_length_pos
    rw [heq, hlen]
    decide
  rw [matchServiceUuid, if_pos hne, checkServiceUuid, if_pos hnonempty]
  apply decides_anyM
  intro uuid huuid
  have huuidLen : uuid.length = bluetoothUuid128Length := (hdev uuid huuid).length_eq.symm
  have hlower : ∀ text, (convertToLowerCase text).length = text.length :=
    fun text => List.length_map _
  rw [heq]
  have hloop := checkMasked_decides (expandMask filter.serviceUuid.mask)
    (convertToLowerCase filter.serviceUuid.uuid) (convertToLowerCase uuid)
    (by rw [hlower, hlen]; exact hle) (by rw [hlower, hlower, huuidLen]; exact hle) _ (le_refl _)
  apply hloop.congr_iff.mpr
  rw [hlower, Nat.sub_self]
  constructor
  · rintro ⟨_, h⟩ j ⟨hj, hmark⟩
    exact h j (Nat.zero_le j) hj hmark
  · intro h
    exact ⟨hpos, fun j _ hj hmark => h j ⟨hj, hmark⟩⟩

theorem markedPositions_of_mask (hmask : filter.serviceUuid.mask ≠ []) :
    markedPositions filter.serviceUuid.mask =
      {j | (expandMask filter.serviceUuid.mask)[j]? = some '1'} := by
  ext j
  simp [markedPositions, hmask]

/-- What the loop looks at and what the expanded mask asks about are two patterns. -/
theorem readPositions_accept_iff (hapi : api.Documented)
    (h : Validated api filter.serviceUuid accepted.serviceUuid)
    (hmask : filter.serviceUuid.mask ≠ []) :
    (∀ uuid, IsUuid128 uuid →
      (AgreeOn Char.toLower (readPositions filter.serviceUuid) filter.serviceUuid.uuid uuid ↔
        api.Admits filter.serviceUuid uuid)) ↔
      api.MarksWrittenDigits filter.serviceUuid := by
  have hmarked := markedPositions_of_mask hmask
  have hsubset : readPositions filter.serviceUuid ⊆ markedPositions filter.serviceUuid.mask := by
    rw [hmarked]
    exact fun j hj => hj.2
  have hform := expandUuid_form hapi h.known
  refine (accepts_iff Char.toLower filter.serviceUuid.uuid hsubset hform).trans ?_
  constructor
  · rintro ⟨_, hfree⟩
    right
    intro j hmark hslot
    have hchoice := mt (rigid_uuidForm_iff j).mp (not_not.mpr hslot)
    obtain ⟨hread, heq⟩ := hfree j (by rw [hmarked]; exact hmark) hchoice
    exact ⟨hread.1, heq⟩
  · intro hdigits
    have hdigits := hdigits.resolve_left hmask
    constructor
    · rintro j ⟨⟨hj, _⟩, hr⟩
      rw [← h.written_dash hapi (Nat.lt_of_succ_lt hj) ((rigid_uuidForm_iff j).mp hr)]
    · intro j hj hchoice
      rw [hmarked] at hj
      obtain ⟨hlt, heq⟩ := hdigits j hj (not_not.mp (mt (rigid_uuidForm_iff j).mpr hchoice))
      exact ⟨⟨hlt, hj⟩, heq⟩

/-- The service UUID part of the match is right on every list of device UUIDs if and only
if each digit the mask asks about is one the comparison gets to see. -/
theorem matchServiceUuid_correct_iff (hapi : api.Documented)
    (hvalid : api.isFilterValid filter = some (accepted, type))
    (hset : filter.serviceUuid.uuid ≠ []) :
    (∀ device : Bluez5Device, (∀ uuid ∈ device.uuids, IsUuid128 uuid) →
      Decides (matchServiceUuid accepted device)
        (∃ uuid ∈ device.uuids, api.Admits filter.serviceUuid uuid)) ↔
      api.MarksWrittenDigits filter.serviceUuid := by
  have h := validated_of_isFilterValid hapi hvalid hset
  by_cases hmask : filter.serviceUuid.mask = []
  · exact iff_of_true (fun device _ => matchServiceUuid_unmasked hapi h hmask) (.inl hmask)
  rw [← readPositions_accept_iff hapi h hmask]
  constructor
  · intro hright uuid huuid
    have hsingle : ∀ d ∈ ({ uuids := [uuid] } : Bluez5Device).uuids, IsUuid128 d := by
      intro d hd
      rw [List.mem_singleton.mp hd]
      exact huuid
    have hcode := matchServiceUuid_masked hapi h hmask hsingle
    simpa only [List.mem_singleton, exists_eq_left] using hcode.congr_iff.mp (hright _ hsingle)
  · intro hsame device hdev
    apply (matchServiceUuid_masked hapi h hmask hdev).congr_iff.mpr
    apply exists_congr
    intro uuid
    apply and_congr_right
    intro huuid
    exact hsame uuid (hdev uuid huuid)

end Matching

/-- The classification of UUID text by its form, and the empty filter. -/
def formApi : FilterApi where
  getType text :=
    if List.Forall₂ UuidSlot.Fits (List.replicate 4 .hexDigit) text then .uuid16
    else if List.Forall₂ UuidSlot.Fits (List.replicate 8 .hexDigit) text then .uuid32
    else if IsUuid128 text then .uuid128
    else .unknown
  isFilterEmpty filter := decide filter.SetsNothing

theorem formApi_documented : formApi.Documented := by
  constructor
  · intro text h
    simp only [formApi] at h
    split_ifs at h with h16
    exact h16
  · intro text h
    simp only [formApi] at h
    split_ifs at h with _ h32
    exact h32
  · intro text h
    simp only [formApi] at h
    split_ifs at h with _ _ h128
    exact h128
  · intro filter
    exact decide_eq_true_iff

def heartRateFilter (mask : String) : BluetoothLeDiscoveryFilter :=
  { serviceUuid := ⟨"0000180d-0000-1000-8000-00805f9b34fb".toList, mask.toList⟩ }

/-- A mask for the first group, and a device whose UUID differs after it. -/
theorem matchServiceUuid_correct_firstGroup :
    Decides
      (matchServiceUuid (heartRateFilter "11111111-0000-0000-0000-000000000000")
        { uuids := ["0000180d-0000-1000-8000-00805f9b34fa".toList] })
      (∃ uuid ∈ ["0000180d-0000-1000-8000-00805f9b34fa".toList], formApi.Admits
        (heartRateFilter "11111111-0000-0000-0000-000000000000").serviceUuid uuid) := by
  have hvalid : formApi.isFilterValid
      (heartRateFilter "11111111-0000-0000-0000-000000000000") =
      some (heartRateFilter "11111111-0000-0000-0000-000000000000", filterServiceUuidMask) := by
    decide
  have hmarks : formApi.MarksWrittenDigits
      (heartRateFilter "11111111-0000-0000-0000-000000000000").serviceUuid := by
    right
    have hfirst : ∀ j < 36,
        (expandMask "11111111-0000-0000-0000-000000000000".toList)[j]? = some '1' → j < 8 := by
      decide
    intro j hmark _
    have hj : j < 36 := (List.getElem?_eq_some_iff.mp hmark).1
    have h8 := hfirst j hj hmark
    exact ⟨lt_of_lt_of_le (Nat.succ_lt_succ h8) (by decide), rfl⟩
  exact (matchServiceUuid_correct_iff formApi_documented hvalid (by decide)).mpr hmarks
    { uuids := ["0000180d-0000-1000-8000-00805f9b34fa".toList] } (by decide)

/-- A full mask accepts a device whose UUID differs in the last digit. -/
theorem matchServiceUuid_ignores_last :
    ∃ accepted type device,
      formApi.isFilterValid (heartRateFilter "11111111-1111-1111-1111-111111111111") =
        some (accepted, type) ∧
      (∀ uuid ∈ device.uuids, IsUuid128 uuid) ∧
      matchServiceUuid accepted device = .ok true ∧
      ¬ ∃ uuid ∈ device.uuids, formApi.Admits
        (heartRateFilter "11111111-1111-1111-1111-111111111111").serviceUuid uuid := by
  refine ⟨heartRateFilter "11111111-1111-1111-1111-111111111111", filterServiceUuidMask,
    { uuids := ["0000180d-0000-1000-8000-00805f9b34fa".toList] }, by decide, by decide,
    by decide, ?_⟩
  rintro ⟨uuid, huuid, hadmits⟩
  rw [List.mem_singleton.mp huuid] at hadmits
  have hlast := hadmits 35 (.inr rfl)
  exact absurd hlast (by decide)

end BluezSil.Adapter
