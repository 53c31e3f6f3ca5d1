import Mathlib.Data.Int.Notation
import Mathlib.Data.List.Forall2
import BluezSil.SilApi

/-!
# Discovery filters and their validation

A filter of an LE scan carries criteria on the address, the name, the service
UUID, the service data and the manufacturer data of a device. `isFilterValid`
refuses malformed criteria, brings UUIDs and masks to their 128-bit form and
collects the kinds of criteria in a type byte. How a text is classified as a UUID
and when a filter counts as empty is decided by the service interface.
-/

namespace BluezSil.Adapter

def filterName : UInt8 := 0x01
def filterAddress : UInt8 := 0x02
def filterServiceUuid : UInt8 := 0x04
def filterServiceData : UInt8 := 0x08
def filterManufacturerData : UInt8 := 0x10
def filterServiceUuidMask : UInt8 := 0x20
def filterNone : UInt8 := 0x40

def bluetoothUuid16Length : ℕ := 4
def bluetoothUuid32Length : ℕ := 8
def bluetoothUuid128Length : ℕ := 36

def baseUuid : Text := "-0000-1000-8000-00805f9b34fb".toList

def maskTail : Text := "-0000-0000-0000-000000000000".toList

def zeros : Text := "0000".toList

inductive UuidType
  | unknown
  | uuid16
  | uuid32
  | uuid128
  deriving DecidableEq, Repr

structure ServiceUuid where
  uuid : Text := []
  mask : Text := []
  deriving DecidableEq

structure ServiceData where
  uuid : Text := []
  data : List UInt8 := []
  mask : List UInt8 := []
  deriving DecidableEq

structure ManufacturerData where
  id : ℤ := 0
  data : List UInt8 := []
  mask : List UInt8 := []
  deriving DecidableEq

structure BluetoothLeDiscoveryFilter where
  address : Text := []
  name : Text := []
  serviceUuid : ServiceUuid := {}
  serviceData : ServiceData := {}
  manufacturerData : ManufacturerData := {}
  deriving DecidableEq

/-- The filter has no criterion that a device could fail. -/
def BluetoothLeDiscoveryFilter.SetsNothing (filter : BluetoothLeDiscoveryFilter) : Prop :=
  filter.address = [] ∧ filter.name = [] ∧ filter.serviceUuid = {} ∧
  filter.serviceData = {} ∧ filter.manufacturerData.id ≤ 0 ∧
  filter.manufacturerData.data = [] ∧ filter.manufacturerData.mask = []

instance (filter : BluetoothLeDiscoveryFilter) : Decidable filter.SetsNothing := by
  unfold BluetoothLeDiscoveryFilter.SetsNothing
  infer_instance

/-- The part of the service interface that validation relies on. -/
structure FilterApi where
  getType : Text → UuidType
  isFilterEmpty : BluetoothLeDiscoveryFilter → Bool

def isHexDigit (c : Char) : Bool :=
  c.isDigit || ('a' ≤ c && c ≤ 'f') || ('A' ≤ c && c ≤ 'F')

inductive UuidSlot
  | hexDigit
  | dash
  deriving DecidableEq

def UuidSlot.Fits : UuidSlot → Char → Prop
  | .hexDigit, c => isHexDigit c = true
  | .dash, c => c = '-'

instance (slot : UuidSlot) (c : Char) : Decidable (slot.Fits c) := by
  cases slot <;> unfold UuidSlot.Fits <;> infer_instance

/-- Groups of 8, 4, 4, 4 and 12 digits. -/
def uuidForm : List UuidSlot :=
  List.replicate 8 .hexDigit ++ .dash :: List.replicate 4 .hexDigit ++
  .dash :: List.replicate 4 .hexDigit ++ .dash :: List.replicate 4 .hexDigit ++
  .dash :: List.replicate 12 .hexDigit

def IsUuid128 (text : Text) : Prop := List.Forall₂ UuidSlot.Fits uuidForm text

instance (text : Text) : Decidable (IsUuid128 text) :=
  inferInstanceAs (Decidable (List.Forall₂ UuidSlot.Fits uuidForm text))

/-- The forms of UUID text the service interface knows, and the filters that are empty. -/
structure FilterApi.Documented (api : FilterApi) : Prop where
  uuid16 : ∀ text, api.getType text = .uuid16 →
    List.Forall₂ UuidSlot.Fits (List.replicate 4 .hexDigit) text
  uuid32 : ∀ text, api.getType text = .uuid32 →
    List.Forall₂ UuidSlot.Fits (List.replicate 8 .hexDigit) text
  uuid128 : ∀ text, api.getType text = .uuid128 → IsUuid128 text
  empty : ∀ filter, api.isFilterEmpty filter = true ↔ filter.SetsNothing

namespace FilterApi

variable (api : FilterApi)

def isServiceUuidValid (serviceUuid : ServiceUuid) : Option ServiceUuid :=
  let uuid := serviceUuid.uuid
  let mask := serviceUuid.mask
  match api.getType uuid with
  | .unknown => none
  | .uuid16 =>
    if mask.isEmpty then some { serviceUuid with uuid := zeros ++ uuid.take 4 ++ baseUuid }
    else if uuid.length = mask.length then
      some { serviceUuid with mask := zeros ++ mask.take 4 ++ maskTail }
    else if mask.length = bluetoothUuid32Length then
      some { serviceUuid with mask := mask.take 8 ++ maskTail }
    else if mask.length ≠ bluetoothUuid128Length then none
    else some serviceUuid
  | .uuid32 =>
    if mask.isEmpty then some { serviceUuid with uuid := uuid.take 8 ++ baseUuid }
    else if uuid.length = mask.length then
      some { serviceUuid with mask := mask.take 8 ++ maskTail }
    else if mask.length = bluetoothUuid16Length then
      some { serviceUuid with mask := zeros ++ mask.take 4 ++ maskTail }
    else if mask.length ≠ bluetoothUuid128Length then none
    else some serviceUuid
  | .uuid128 =>
    if mask.length = bluetoothUuid16Length then
      some { serviceUuid with mask := zeros ++ mask.take 4 ++ maskTail }
    else if mask.length = bluetoothUuid32Length then
      some { serviceUuid with mask := mask.take 8 ++ maskTail }
    else if ¬ mask.isEmpty ∧ mask.length ≠ bluetoothUuid128Length then none
    else some serviceUuid

def isServiceDataValid (serviceData : ServiceData) : Option ServiceData :=
  if serviceData.mask.isEmpty ∨ serviceData.data.length = serviceData.mask.length then
    match api.getType serviceData.uuid with
    | .unknown => none
    | .uuid16 =>
      some { serviceData with uuid := zeros ++ serviceData.uuid.take 4 ++ baseUuid }
    | .uuid32 => some { serviceData with uuid := serviceData.uuid.take 8 ++ baseUuid }
    | .uuid128 => some serviceData
  else none

def serviceUuidType (serviceUuid : ServiceUuid) : Option (ServiceUuid × UInt8) :=
  if ¬ serviceUuid.uuid.isEmpty then
    (api.isServiceUuidValid serviceUuid).map fun valid =>
      (valid, if valid.mask.isEmpty then filterServiceUuid else filterServiceUuidMask)
  else if ¬ serviceUuid.mask.isEmpty then none
  else some (serviceUuid, 0)

def serviceDataType (serviceData : ServiceData) : Option (ServiceData × UInt8) :=
  let uuid := serviceData.uuid
  let data := serviceData.data
  if ¬ uuid.isEmpty ∧ data.length > 0 then
    (api.isServiceDataValid serviceData).map fun valid => (valid, filterServiceData)
  else if (¬ uuid.isEmpty ∧ data.length < 1) ∨ (uuid.isEmpty ∧ data.length > 0) ∨
      ¬ serviceData.mask.isEmpty then none
  else some (serviceData, 0)

end FilterApi

def manufacturerDataType (manufacturerData : ManufacturerData) : Option UInt8 :=
  let id := manufacturerData.id
  let data := manufacturerData.data
  let mask := manufacturerData.mask
  if id > 0 ∧ data.length > 0 then
    if ¬ mask.isEmpty ∧ data.length ≠ mask.length then none
    else some filterManufacturerData
  else if (id > 0 ∧ data.length < 1) ∨ (id < 1 ∧ data.length > 0) ∨ ¬ mask.isEmpty then none
  else some 0

/-- The filter with its UUIDs and masks expanded, and its type byte. -/
def FilterApi.isFilterValid (api : FilterApi) (filter : BluetoothLeDiscoveryFilter) :
    Option (BluetoothLeDiscoveryFilter × UInt8) :=
  if api.isFilterEmpty filter then some (filter, filterNone)
  else do
    let (serviceUuid, uuidType) ← api.serviceUuidType filter.serviceUuid
    let (serviceData, dataType) ← api.serviceDataType filter.serviceData
    let manufacturerType ← manufacturerDataType filter.manufacturerData
    let nameType := if ¬ filter.name.isEmpty then filterName else 0
    let addressType := if ¬ filter.address.isEmpty then filterAddress else 0
    some ({ filter with serviceUuid, serviceData },
      uuidType ||| dataType ||| manufacturerType ||| nameType ||| addressType)

section Kinds

variable {api : FilterApi} {filter accepted : BluetoothLeDiscoveryFilter} {type : UInt8}

theorem isFilterValid_cases (h : api.isFilterValid filter = some (accepted, type)) :
    api.isFilterEmpty filter = true ∧ accepted = filter ∧ type = filterNone ∨
    api.isFilterEmpty filter ≠ true ∧
    ∃ serviceUuid uuidType serviceData dataType manufacturerType,
      api.serviceUuidType filter.serviceUuid = some (serviceUuid, uuidType) ∧
      api.serviceDataType filter.serviceData = some (serviceData, dataType) ∧
      manufacturerDataType filter.manufacturerData = some manufacturerType ∧
      accepted = { filter with serviceUuid, serviceData } ∧
      type = uuidType ||| dataType ||| manufacturerType |||
        (if ¬ filter.name.isEmpty then filterName else 0) |||
        (if ¬ filter.address.isEmpty then filterAddress else 0) := by
  unfold FilterApi.isFilterValid at h
  by_cases hempty : api.isFilterEmpty filter = true
  · rw [if_pos hempty] at h
    cases h
    exact .inl ⟨hempty, rfl, rfl⟩
  · rw [if_neg hempty] at h
    simp only [Option.bind_eq_bind, Option.bind_eq_some_iff] at h
    obtain ⟨⟨serviceUuid, uuidType⟩, huuid, ⟨serviceData, dataType⟩, hdata, manufacturerType,
      hmanufacturer, heq⟩ := h
    cases heq
    exact .inr ⟨hempty, serviceUuid, uuidType, serviceData, dataType, manufacturerType, huuid,
      hdata, hmanufacturer, rfl, rfl⟩

def WithinServiceUuid (type : UInt8) : Prop := type ||| filterServiceUuid = filterServiceUuid

instance (type : UInt8) : Decidable (WithinServiceUuid type) := by
  unfold WithinServiceUuid
  infer_instance

theorem WithinServiceUuid.left {s t : UInt8} (h : WithinServiceUuid (s ||| t)) :
    WithinServiceUuid s := by
  unfold WithinServiceUuid at h ⊢
  calc s ||| filterServiceUuid = s ||| (s ||| t ||| filterServiceUuid) := by rw [h]
    _ = s ||| t ||| filterServiceUuid := by
      rw [← UInt8.or_assoc, ← UInt8.or_assoc, UInt8.or_self]
    _ = filterServiceUuid := h

theorem WithinServiceUuid.right {s t : UInt8} (h : WithinServiceUuid (s ||| t)) :
    WithinServiceUuid t := by
  rw [UInt8.or_comm] at h
  exact h.left

theorem serviceDataType_within {serviceData valid : ServiceData}
    (h : api.serviceDataType serviceData = some (valid, type)) (ht : WithinServiceUuid type) :
    serviceData = {} := by
  unfold FilterApi.serviceDataType at h
  obtain ⟨uuid, data, mask⟩ := serviceData
  by_cases hset : ¬ uuid.isEmpty = true ∧ data.length > 0
  · simp only [if_pos hset, Option.map_eq_some_iff] at h
    obtain ⟨_, _, heq⟩ := h
    cases heq
    exact absurd ht (by decide)
  · simp only [if_neg hset] at h
    split_ifs at h with hbad
    simp only [not_or, not_and, not_not, List.isEmpty_iff] at hset hbad
    obtain ⟨hshort, hlong, hmask⟩ := hbad
    have huuid : uuid = [] := by
      by_contra hne
      have hpos := hshort hne
      have hnot := hset hne
      omega
    have hdata : data = [] := List.length_eq_zero_iff.mp (Nat.eq_zero_of_not_pos (hlong huuid))
    rw [huuid, hdata, hmask]

theorem manufacturerDataType_within {manufacturerData : ManufacturerData}
    (h : manufacturerDataType manufacturerData = some type) (ht : WithinServiceUuid type) :
    manufacturerData.id ≤ 0 ∧ manufacturerData.data = [] ∧ manufacturerData.mask = [] := by
  unfold manufacturerDataType at h
  obtain ⟨id, data, mask⟩ := manufacturerData
  simp only at h ⊢
  split_ifs at h with hset hmask hbad
  · cases h
    exact absurd ht (by decide)
  · simp only [not_or, not_and, not_not, List.isEmpty_iff] at hset hbad
    obtain ⟨hshort, hlong, hmask⟩ := hbad
    have hlen : data.length = 0 := by omega
    exact ⟨by omega, List.length_eq_zero_iff.mp hlen, hmask⟩

end Kinds

end BluezSil.Adapter
