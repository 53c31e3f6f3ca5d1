import BluezSil.GattConnections
import BluezSil.GattRemoteServices

/-!
# Operations on an address in another letter case

The services of a device are kept under its lower-case address. Some operations convert
the address they are given, and the others look it up as it is, so they find the device
under one spelling only.
-/

namespace BluezSil.Gatt

open FirstMatch

/-- What the operations ask of the adapter, of the objects on the bus (by object path), and
of the values they return. -/
structure GattEnv where
  findDevice : Text → Bool
  getAddress : Text
  flags : Text → List Text
  readCharacteristic : Text → List UInt8
  writeCharacteristic : Text → List UInt8 → Bool
  startNotify : Text → Bool
  stopNotify : Text → Bool
  readDescriptor : Text → List UInt8
  writeDescriptor : Text → List UInt8 → Bool
  updateCharacteristicValue : BluetoothGattService → BluetoothUuid → List UInt8 →
    BluetoothGattService
  updateServiceDescriptorValue : BluetoothGattService → BluetoothUuid → BluetoothUuid →
    List UInt8 → BluetoothGattService
  updateDescriptorValue : BluetoothGattCharacteristic → BluetoothUuid → List UInt8 →
    BluetoothGattCharacteristic
  isValidCharacteristic : BluetoothGattCharacteristic → Bool
  isValidDescriptor : BluetoothGattDescriptor → Bool

structure GattProfile where
  remote : RemoteServices := {}
  connections : GattConnections := {}

inductive GattCall
  | discoverServices
  | getProperty
  | getService (uuid : BluetoothUuid)
  | getServices
  | readCharacteristic (service characteristic : BluetoothUuid)
  | readCharacteristics (service : BluetoothUuid) (characteristics : List BluetoothUuid)
  | readDescriptor (service characteristic descriptor : BluetoothUuid)
  | readDescriptors (service characteristic : BluetoothUuid) (descriptors : List BluetoothUuid)
  | writeCharacteristic (service : BluetoothUuid) (characteristic : BluetoothGattCharacteristic)
  | writeDescriptor (service characteristic : BluetoothUuid) (descriptor : BluetoothGattDescriptor)
  | changeCharacteristicWatchStatus (service characteristic : BluetoothUuid) (enabled : Bool)
  | connectGatt (appId : UInt16) (autoConnection : Bool) (order : List UInt16)

inductive GattAnswer
  | status (error : BluetoothError)
  | property (error : BluetoothError) (connected : Bool)
  | service (service : BluetoothGattService)
  | services (services : List BluetoothGattService)
  | characteristic (error : BluetoothError) (characteristic : BluetoothGattCharacteristic)
  | characteristics (error : BluetoothError) (characteristics : List BluetoothGattCharacteristic)
  | descriptor (error : BluetoothError) (descriptor : BluetoothGattDescriptor)
  | descriptors (error : BluetoothError) (descriptors : List BluetoothGattDescriptor)
  | connect (report : Option ConnectReport)

structure ValueChanged where
  address : Text
  service : BluetoothUuid
  characteristic : BluetoothGattCharacteristic
  adapterAddress : Text

structure GattOutcome where
  profile : GattProfile
  answer : GattAnswer
  valueChanged : List ValueChanged := []

namespace GattRemoteService

def findCharacteristic (service : GattRemoteService) (characteristic : BluetoothUuid) :
    Option GattRemoteCharacteristic :=
  service.gattRemoteCharacteristics.find? (·.characteristic.uuid == characteristic)

end GattRemoteService

def GattRemoteCharacteristic.findDescriptor (c : GattRemoteCharacteristic)
    (descriptor : BluetoothUuid) : Option GattRemoteDescriptor :=
  c.gattRemoteDescriptors.find? (·.descriptor.uuid == descriptor)

namespace RemoteServices

variable (env : GattEnv) (s : RemoteServices) (address : Text)

def findService (service : BluetoothUuid) : Option GattRemoteService :=
  (s.mDeviceServicesMap.find address).bind fun servicesList =>
    servicesList.find? (·.service.uuid == service)

def changeService (service : BluetoothUuid) (f : GattRemoteService → GattRemoteService) :
    RemoteServices :=
  { s with
    mDeviceServicesMap :=
      s.mDeviceServicesMap.modify address (modifyFirst (·.service.uuid == service) f) }

/-- `updateDescriptorValue` of the live characteristic and of the value of its service. -/
def updateDescriptorValue (service characteristic descriptor : BluetoothUuid)
    (descValue : List UInt8) : RemoteServices :=
  (s.changeService address service fun remoteService =>
    { remoteService with
      gattRemoteCharacteristics :=
        modifyFirst (·.characteristic.uuid == characteristic)
          (fun c =>
            { c with
              characteristic := env.updateDescriptorValue c.characteristic descriptor descValue })
          remoteService.gattRemoteCharacteristics
      service :=
        env.updateServiceDescriptorValue remoteService.service characteristic descriptor
          descValue }).updateRemoteDeviceServices

def updateCharacteristicValue (service characteristic : BluetoothUuid)
    (charValue : List UInt8) : RemoteServices :=
  (s.changeService address service fun remoteService =>
    { remoteService with
      service :=
        env.updateCharacteristicValue remoteService.service characteristic charValue
      }).updateRemoteDeviceServices

def readCharValue (service : BluetoothUuid) (remoteCharacteristic : GattRemoteCharacteristic)
    (characteristic : BluetoothUuid) : RemoteServices × BluetoothGattCharacteristic :=
  let charValue := env.readCharacteristic remoteCharacteristic.objectPath
  (s.updateCharacteristicValue env address service characteristic charValue,
    { uuid := characteristic
      properties := readProperties (env.flags remoteCharacteristic.objectPath)
      value := charValue })

def readDescValue (service characteristic : BluetoothUuid)
    (remoteDescriptor : GattRemoteDescriptor) (descriptor : BluetoothUuid) :
    RemoteServices × BluetoothGattDescriptor :=
  let descValue := env.readDescriptor remoteDescriptor.objectPath
  (s.updateDescriptorValue env address service characteristic descriptor descValue,
    { uuid := descriptor, value := descValue })

def readCharacteristic (service characteristic : BluetoothUuid) :
    RemoteServices × BluetoothGattCharacteristic :=
  match s.findService address service with
  | none => (s, {})
  | some remoteService =>
    match remoteService.findCharacteristic characteristic with
    | none => (s, {})
    | some remoteChar =>
      if remoteChar.characteristic.isPropertySet .read then
        s.readCharValue env address service remoteChar characteristic
      else (s, {})

/-- The characteristics read so far, and whether the last one was found. -/
structure ReadCharacteristics where
  state : RemoteServices
  result : List BluetoothGattCharacteristic := []
  found : Bool := false

/-- The value of the service may list one UUID more than once, and then the characteristic
is read as often. -/
def readCharacteristicsLoop (service : BluetoothUuid) (remoteService : GattRemoteService) :
    List BluetoothUuid → ReadCharacteristics → ReadCharacteristics
  | [], r => r
  | currentCharacteristic :: characteristics, r =>
    let listed := remoteService.service.characteristics.filter (·.uuid == currentCharacteristic)
    let r := listed.foldl
      (fun r _ =>
        match remoteService.findCharacteristic currentCharacteristic with
        | none => r
        | some remoteChar =>
          if remoteChar.characteristic.isPropertySet .read then
            let o := r.state.readCharValue env address service remoteChar currentCharacteristic
            ⟨o.1, r.result ++ [o.2], true⟩
          else r)
      { r with found := false }
    if r.found then readCharacteristicsLoop service remoteService characteristics r else r

def readCharacteristics (service : BluetoothUuid) (characteristics : List BluetoothUuid) :
    ReadCharacteristics :=
  match s.findService address service with
  | none => { state := s }
  | some remoteService =>
    readCharacteristicsLoop env address service remoteService characteristics { state := s }

def readDescriptor (service characteristic descriptor : BluetoothUuid) :
    RemoteServices × BluetoothGattDescriptor :=
  match s.findService address service with
  | none => (s, {})
  | some remoteService =>
    match remoteService.findCharacteristic characteristic with
    | none => (s, {})
    | some remoteChar =>
      if remoteChar.characteristic.isPropertySet .read then
        match remoteChar.findDescriptor descriptor with
        | none => (s, {})
        | some remoteDesc =>
          s.readDescValue env address service characteristic remoteDesc descriptor
      else (s, {})

structure ReadDescriptors where
  state : RemoteServices
  result : List BluetoothGattDescriptor := []
  found : Bool := false

def readDescriptorsLoop (service characteristic : BluetoothUuid)
    (remoteChar : GattRemoteCharacteristic) : List BluetoothUuid → ReadDescriptors →
    ReadDescriptors
  | [], r => r
  | currentDescriptor :: descriptors, r =>
    let listed := remoteChar.characteristic.descriptors.filter (·.uuid == currentDescriptor)
    let r := listed.foldl
      (fun r _ =>
        match remoteChar.findDescriptor currentDescriptor with
        | none => r
        | some remoteDesc =>
          let o := r.state.readDescValue env address service characteristic remoteDesc
            currentDescriptor
          ⟨o.1, r.result ++ [o.2], true⟩)
      { r with found := false }
    if r.found then readDescriptorsLoop service characteristic remoteChar descriptors r else r

def readDescriptors (service characteristic : BluetoothUuid) (descriptors : List BluetoothUuid) :
    ReadDescriptors :=
  match s.findService address service with
  | none => { state := s }
  | some remoteService =>
    match remoteService.findCharacteristic characteristic with
    | none => { state := s }
    | some remoteChar =>
      if remoteChar.characteristic.isPropertySet .read then
        readDescriptorsLoop env address service characteristic remoteChar descriptors
          { state := s }
      else { state := s }

def writeCharacteristic (service : BluetoothUuid)
    (characteristic : BluetoothGattCharacteristic) : Option RemoteServices :=
  match s.findService address service with
  | none => none
  | some remoteService =>
    match remoteService.findCharacteristic characteristic.uuid with
    | none => none
    | some remoteChar =>
      if remoteChar.characteristic.isPropertySet .write &&
          env.writeCharacteristic remoteChar.objectPath characteristic.value then
        some (s.updateCharacteristicValue env address service characteristic.uuid
          characteristic.value)
      else none

def writeDescriptor (service characteristic : BluetoothUuid)
    (descriptor : BluetoothGattDescriptor) : Option RemoteServices :=
  match s.findService address service with
  | none => none
  | some remoteService =>
    match remoteService.findCharacteristic characteristic with
    | none => none
    | some remoteChar =>
      if remoteChar.characteristic.isPropertySet .write then
        match remoteChar.findDescriptor descriptor.uuid with
        | none => none
        | some remoteDesc =>
          if env.writeDescriptor remoteDesc.objectPath descriptor.value then
            some (s.updateDescriptorValue env address service characteristic descriptor.uuid
              descriptor.value)
          else none
      else none

/-- The last characteristic that is told to notify or to stop decides the result. -/
def changeCharacteristicWatchStatus (service characteristic : BluetoothUuid) (enabled : Bool) :
    BluetoothError :=
  match s.mDeviceServicesMap.find address with
  | none => .fail
  | some servicesList =>
    let result := (servicesList.filter (·.service.uuid == service)).foldl
      (fun result serviceIt =>
        match serviceIt.findCharacteristic characteristic with
        | none => result
        | some c => if enabled then env.startNotify c.objectPath else env.stopNotify c.objectPath)
      false
    if result then .none else .fail

end RemoteServices

namespace GattProfile

variable (env : GattEnv) (p : GattProfile) (address : Text)

def perform : GattCall → GattOutcome
  | .discoverServices =>
    let o := p.remote.discoverServices address
    ⟨{ p with remote := o.1 }, .status o.2, []⟩
  | .getProperty => ⟨p, .property .none (p.remote.mDeviceServicesMap.find address).isSome, []⟩
  | .getService uuid => ⟨p, .service (p.remote.getService address uuid), []⟩
  | .getServices => ⟨p, .services (p.remote.getServices address), []⟩
  | .readCharacteristic service characteristic =>
    let o := p.remote.readCharacteristic env address service characteristic
    ⟨{ p with remote := o.1 },
      .characteristic (if env.isValidCharacteristic o.2 then .none else .fail) o.2, []⟩
  | .readCharacteristics service characteristics =>
    let r := p.remote.readCharacteristics env address service characteristics
    ⟨{ p with remote := r.state },
      .characteristics (if r.found then .none else .fail) r.result, []⟩
  | .readDescriptor service characteristic descriptor =>
    let o := p.remote.readDescriptor env address service characteristic descriptor
    ⟨{ p with remote := o.1 },
      .descriptor (if env.isValidDescriptor o.2 then .none else .fail) o.2, []⟩
  | .readDescriptors service characteristic descriptors =>
    let r := p.remote.readDescriptors env address service characteristic descriptors
    ⟨{ p with remote := r.state },
      .descriptors (if r.found then .none else .fail) r.result, []⟩
  | .writeCharacteristic service characteristic =>
    match p.remote.writeCharacteristic env address service characteristic with
    | none => ⟨p, .status .fail, []⟩
    | some remote =>
      ⟨{ p with remote }, .status .none,
        [⟨address, service, characteristic, convertAddressToLowerCase env.getAddress⟩]⟩
  | .writeDescriptor service characteristic descriptor =>
    match p.remote.writeDescriptor env address service characteristic descriptor with
    | none => ⟨p, .status .fail, []⟩
    | some remote => ⟨{ p with remote }, .status .none, []⟩
  | .changeCharacteristicWatchStatus service characteristic enabled =>
    ⟨p, .status (p.remote.changeCharacteristicWatchStatus env address service characteristic
      enabled), []⟩
  | .connectGatt appId autoConnection order =>
    let found := env.findDevice (convertAddressToUpperCase address)
    let o := p.connections.connectGatt appId autoConnection address found order
    ⟨{ p with connections := o.1 }, .connect o.2, []⟩

end GattProfile

def GattCall.Converts : GattCall → Prop
  | .getService _ => True
  | .getServices => True
  | .connectGatt _ _ _ => True
  | _ => False

section

variable {env : GattEnv} {p : GattProfile} {a b : Text}

theorem findService_of_find_none {s : RemoteServices} (h : s.mDeviceServicesMap.find a = none)
    (service : BluetoothUuid) : s.findService a service = none := by
  unfold RemoteServices.findService
  rw [h, Option.bind_none]

theorem perform_of_converts {call : GattCall} (hcall : call.Converts)
    (h : convertAddressToLowerCase a = convertAddressToLowerCase b) :
    p.perform env a call = p.perform env b call := by
  cases call with
  | getService uuid =>
      simp only [GattProfile.perform, RemoteServices.getService, RemoteServices.getServices, h]
  | getServices => simp only [GattProfile.perform, RemoteServices.getServices, h]
  | connectGatt appId autoConnection order =>
      simp only [GattProfile.perform, GattConnections.connectGatt,
        upperCase_eq_of_lowerCase_eq h, h]
  | discoverServices | getProperty | readCharacteristic | readCharacteristics | readDescriptor
  | readDescriptors | writeCharacteristic | writeDescriptor
  | changeCharacteristicWatchStatus => exact absurd hcall not_false

theorem perform_of_find_none (ha : p.remote.mDeviceServicesMap.find a = none)
    (hb : p.remote.mDeviceServicesMap.find b = none) {call : GattCall} (hcall : ¬ call.Converts) :
    p.perform env a call = p.perform env b call := by
  have hservice := findService_of_find_none ha
  have hservice' := findService_of_find_none hb
  cases call with
  | discoverServices =>
      simp only [GattProfile.perform, RemoteServices.discoverServices, ha, hb]
  | getProperty => simp only [GattProfile.perform, ha, hb]
  | readCharacteristic service characteristic =>
      simp only [GattProfile.perform, RemoteServices.readCharacteristic, hservice, hservice']
  | readCharacteristics service characteristics =>
      simp only [GattProfile.perform, RemoteServices.readCharacteristics, hservice, hservice']
  | readDescriptor service characteristic descriptor =>
      simp only [GattProfile.perform, RemoteServices.readDescriptor, hservice, hservice']
  | readDescriptors service characteristic descriptors =>
      simp only [GattProfile.perform, RemoteServices.readDescriptors, hservice, hservice']
  | writeCharacteristic service characteristic =>
      simp only [GattProfile.perform, RemoteServices.writeCharacteristic, hservice, hservice']
  | writeDescriptor service characteristic descriptor =>
      simp only [GattProfile.perform, RemoteServices.writeDescriptor, hservice, hservice']
  | changeCharacteristicWatchStatus service characteristic enabled =>
      simp only [GattProfile.perform, RemoteServices.changeCharacteristicWatchStatus, ha, hb]
  | getService | getServices | connectGatt => exact absurd trivial hcall

/-- One of the two spellings at most is a key. -/
theorem find_none_of_ne (h : convertAddressToLowerCase a = convertAddressToLowerCase b)
    (hne : a ≠ b) :
    p.remote.mDeviceServicesMap.find a = none ∨ p.remote.mDeviceServicesMap.find b = none := by
  cases ha : p.remote.mDeviceServicesMap.find a with
  | none => exact .inl rfl
  | some la =>
      right
      rw [Option.eq_none_iff_forall_ne_some]
      intro lb hb
      apply hne
      rw [← AddressMap.lower_of_find ha, h, AddressMap.lower_of_find hb]

end

/-- Calls on two spellings of an address agree if and only if the spellings are the same or
neither of them is a key. The calls that convert the address always agree. -/
theorem perform_letterCase (env : GattEnv) (p : GattProfile) (a b : Text)
    (h : convertAddressToLowerCase a = convertAddressToLowerCase b) :
    ((∀ call, p.perform env a call = p.perform env b call) ↔
      a = b ∨ (p.remote.mDeviceServicesMap.find a = none ∧
        p.remote.mDeviceServicesMap.find b = none)) ∧
    ∀ call : GattCall, call.Converts → p.perform env a call = p.perform env b call := by
  refine ⟨?_, fun call hcall => perform_of_converts hcall h⟩
  constructor
  · intro hall
    by_cases hab : a = b
    · exact .inl hab
    · right
      have hproperty := congrArg GattOutcome.answer (hall .getProperty)
      simp only [GattProfile.perform, GattAnswer.property.injEq, true_and] at hproperty
      rcases find_none_of_ne (p := p) h hab with hnone | hnone
      · rw [hnone, Option.isSome_none, eq_comm, Option.isSome_eq_false_iff,
          Option.isNone_iff_eq_none] at hproperty
        exact ⟨hnone, hproperty⟩
      · rw [hnone, Option.isSome_none, Option.isSome_eq_false_iff,
          Option.isNone_iff_eq_none] at hproperty
        exact ⟨hproperty, hnone⟩
  · rintro (rfl | ⟨ha, hb⟩) call
    · rfl
    · by_cases hcall : call.Converts
      · exact perform_of_converts hcall h
      · exact perform_of_find_none ha hb hcall

def emptyBus : GattEnv where
  findDevice _ := false
  getAddress := "00:AA".toList
  flags _ := []
  readCharacteristic _ := []
  writeCharacteristic _ _ := false
  startNotify _ := false
  stopNotify _ := false
  readDescriptor _ := []
  writeDescriptor _ _ := false
  updateCharacteristicValue s uuid value :=
    { s with
      characteristics := s.characteristics.map fun c =>
        if c.uuid = uuid then { c with value } else c }
  updateServiceDescriptorValue s characteristic descriptor value :=
    { s with
      characteristics := s.characteristics.map fun c =>
        if c.uuid = characteristic then
          { c with
            descriptors := c.descriptors.map fun d =>
              if d.uuid = descriptor then { d with value } else d }
        else c }
  updateDescriptorValue c descriptor value :=
    { c with
      descriptors := c.descriptors.map fun d =>
        if d.uuid = descriptor then { d with value } else d }
  isValidCharacteristic c := c.uuid ≠ []
  isValidDescriptor d := d.uuid ≠ []

def connectedProfile : GattProfile where
  remote :=
    { mDeviceServicesMap :=
        AddressMap.empty.insert "aa".toList
          [⟨"/d".toList, "/d/s".toList, { uuid := "180f".toList }, []⟩]
      mRemoteDeviceServicesMap :=
        AddressMap.empty.insert "aa".toList [{ uuid := "180f".toList }] }

/-- Both spellings of a connected address find its services where the address is converted, and
neither does elsewhere. -/
theorem perform_letterCase_capitals :
    (∀ call, connectedProfile.perform emptyBus "AA".toList call =
      connectedProfile.perform emptyBus "Aa".toList call) ∧
    (connectedProfile.perform emptyBus "AA".toList .getServices).answer =
      .services [{ uuid := "180f".toList }] ∧
    (connectedProfile.perform emptyBus "AA".toList .getProperty).answer = .property .none false :=
  ⟨(perform_letterCase emptyBus connectedProfile "AA".toList "Aa".toList (by decide)).1.mpr
    (.inr ⟨rfl, rfl⟩), rfl, rfl⟩

/-- A connected device is not connected under its upper-case address. -/
theorem getProperty_letterCase :
    ¬ ∀ (env : GattEnv) (p : GattProfile) (a b : Text),
      convertAddressToLowerCase a = convertAddressToLowerCase b →
      ∀ call, p.perform env a call = p.perform env b call := by
  intro h
  have hcall := h emptyBus connectedProfile "AA".toList "aa".toList (by decide) .getProperty
  have hanswer := congrArg GattOutcome.answer hcall
  cases hanswer

end BluezSil.Gatt
