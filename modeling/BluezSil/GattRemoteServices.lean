import BluezSil.DecimalText
import BluezSil.FirstMatch
import BluezSil.KeyedMap
import BluezSil.SilApi

/-!
# Remote GATT services

The services of a device are kept twice. The live objects hold the proxies of services,
characteristics and descriptors, and each service has a value that lists its
characteristics and their descriptors for clients. The values given to clients come from a
second map, which is filled from the first one by some of the operations.
-/

namespace BluezSil.Gatt

open DecimalText FirstMatch

abbrev BluetoothUuid := Text

inductive Property
  | read
  | broadcast
  | writeWithoutResponse
  | write
  | notify
  | indicate
  | authenticatedSignedWrites
  deriving DecidableEq, Repr

structure BluetoothGattDescriptor where
  uuid : BluetoothUuid := []
  value : List UInt8 := []
  deriving DecidableEq, Repr

structure BluetoothGattCharacteristic where
  uuid : BluetoothUuid := []
  properties : List Property := []
  value : List UInt8 := []
  descriptors : List BluetoothGattDescriptor := []
  deriving DecidableEq, Repr

inductive ServiceType
  | primary
  | secondary
  deriving DecidableEq, Repr

structure BluetoothGattService where
  uuid : BluetoothUuid := []
  type : ServiceType := .primary
  characteristics : List BluetoothGattCharacteristic := []
  deriving DecidableEq, Repr

def BluetoothGattCharacteristic.isPropertySet (c : BluetoothGattCharacteristic)
    (property : Property) : Bool := c.properties.contains property

def BluetoothGattCharacteristic.addDescriptor (c : BluetoothGattCharacteristic)
    (descriptor : BluetoothGattDescriptor) : BluetoothGattCharacteristic :=
  { c with descriptors := c.descriptors ++ [descriptor] }

def BluetoothGattService.addCharacteristic (s : BluetoothGattService)
    (characteristic : BluetoothGattCharacteristic) : BluetoothGattService :=
  { s with characteristics := s.characteristics ++ [characteristic] }

structure GattRemoteDescriptor where
  parentObjectPath : Text := []
  objectPath : Text
  descriptor : BluetoothGattDescriptor
  deriving DecidableEq, Repr

structure GattRemoteCharacteristic where
  parentObjectPath : Text := []
  objectPath : Text
  characteristic : BluetoothGattCharacteristic
  gattRemoteDescriptors : List GattRemoteDescriptor := []
  deriving DecidableEq, Repr

structure GattRemoteService where
  parentObjectPath : Text := []
  objectPath : Text
  service : BluetoothGattService
  gattRemoteCharacteristics : List GattRemoteCharacteristic := []
  deriving DecidableEq, Repr

/-! ### Maps from addresses -/

/-- Every entry is made under a lower-case address. -/
structure AddressMap (V : Type) where
  entries : KeyedMap Text V
  lower : ∀ a ∈ entries, convertAddressToLowerCase a = a

namespace AddressMap

variable {V W : Type} {m : AddressMap V} {a address : Text} {v : V} {f : V → V}

def empty : AddressMap V := ⟨∅, nofun⟩

def find (m : AddressMap V) (address : Text) : Option V := m.entries.lookup address

def insert (m : AddressMap V) (address : Text) (v : V) : AddressMap V where
  entries := m.entries.insert (convertAddressToLowerCase address) v
  lower := by
    intro a ha
    rcases (AList.mem_insert _).mp ha with rfl | ha
    · exact lowerCase_lowerCase address
    · exact m.lower a ha

def erase (m : AddressMap V) (address : Text) : AddressMap V where
  entries := m.entries.erase (convertAddressToLowerCase address)
  lower := by
    intro a ha
    exact m.lower a (AList.mem_erase.mp ha).2

def modify (m : AddressMap V) (address : Text) (f : V → V) : AddressMap V where
  entries := m.entries.modify (convertAddressToLowerCase address) f
  lower := by
    intro a ha
    exact m.lower a (KeyedMap.mem_modify.mp ha)

def mapValues (f : V → W) (m : AddressMap V) : AddressMap W where
  entries := m.entries.mapValues f
  lower := by
    intro a ha
    exact m.lower a (KeyedMap.mem_mapValues.mp ha)

theorem lower_of_find (h : m.find a = some v) : convertAddressToLowerCase a = a :=
  m.lower a (AList.lookup_isSome.mp (Option.isSome_of_eq_some h))

theorem find_insert_self (m : AddressMap V) (address : Text) (v : V) :
    (m.insert address v).find (convertAddressToLowerCase address) = some v :=
  AList.lookup_insert _

theorem find_insert_ne (h : a ≠ convertAddressToLowerCase address) :
    (m.insert address v).find a = m.find a := AList.lookup_insert_ne h

theorem find_erase_self (m : AddressMap V) (address : Text) :
    (m.erase address).find (convertAddressToLowerCase address) = none := AList.lookup_erase _ _

theorem find_erase_ne (h : a ≠ convertAddressToLowerCase address) :
    (m.erase address).find a = m.find a := AList.lookup_erase_ne h

theorem find_modify_self (m : AddressMap V) (address : Text) (f : V → V) :
    (m.modify address f).find (convertAddressToLowerCase address) =
      (m.find (convertAddressToLowerCase address)).map f := KeyedMap.lookup_modify_self _ _ _

theorem find_modify_ne (h : a ≠ convertAddressToLowerCase address) :
    (m.modify address f).find a = m.find a := KeyedMap.lookup_modify_ne h

theorem find_mapValues (f : V → W) (m : AddressMap V) (a : Text) :
    (m.mapValues f).find a = (m.find a).map f := KeyedMap.lookup_mapValues _ _ _

end AddressMap

/-! ### The two maps of the profile -/

structure RemoteServices where
  mDeviceServicesMap : AddressMap (List GattRemoteService) := .empty
  mRemoteDeviceServicesMap : AddressMap (List BluetoothGattService) := .empty

abbrev Devices := Text → Option Text

/-- The path and the name, which stay empty if there is no separator. -/
def splitInPathAndName (objectPath : Text) : Text × Text :=
  (splitLast (· == '/') objectPath).getD ([], [])

structure ServiceProxy where
  uuid : Option BluetoothUuid
  primary : Bool
  device : Option Text
  deriving DecidableEq, Repr

structure CharacteristicProxy where
  uuid : Option BluetoothUuid
  service : Option Text
  flags : List Text
  value : List UInt8
  deriving DecidableEq, Repr

structure DescriptorProxy where
  uuid : Option BluetoothUuid
  characteristic : Option Text
  value : List UInt8
  deriving DecidableEq, Repr

def characteristicPropertyMap : List (Text × Property) :=
  [("read".toList, .read),
   ("broadcast".toList, .broadcast),
   ("write-without-response".toList, .writeWithoutResponse),
   ("write".toList, .write),
   ("notify".toList, .notify),
   ("indicate".toList, .indicate),
   ("authenticated-signed-writes".toList, .authenticatedSignedWrites)]

def readProperties (flags : List Text) : List Property :=
  flags.filterMap fun flag => characteristicPropertyMap.lookup flag

def createRemoteGattService (serviceObjectPath : Text) (interface : ServiceProxy) :
    GattRemoteService where
  parentObjectPath := interface.device.getD []
  objectPath := serviceObjectPath
  service :=
    { uuid := interface.uuid.getD []
      type := if interface.primary then .primary else .secondary }

def createRemoteGattCharacteristic (characteristicObjectPath : Text)
    (interface : CharacteristicProxy) : GattRemoteCharacteristic :=
  let gattCharacteristic : BluetoothGattCharacteristic :=
    { uuid := interface.uuid.getD []
      properties := readProperties interface.flags }
  { parentObjectPath := interface.service.getD []
    objectPath := characteristicObjectPath
    characteristic :=
      if gattCharacteristic.isPropertySet .read then
        { gattCharacteristic with value := interface.value }
      else gattCharacteristic }

def createRemoteGattDescriptor (descriptorObjectPath : Text) (interface : DescriptorProxy) :
    GattRemoteDescriptor where
  parentObjectPath := interface.characteristic.getD []
  objectPath := descriptorObjectPath
  descriptor := { uuid := interface.uuid.getD [] }

namespace GattRemoteService

def addRemoteCharacteristic (service : GattRemoteService)
    (gattCharacteristic : GattRemoteCharacteristic) : GattRemoteService :=
  { service with
    gattRemoteCharacteristics := service.gattRemoteCharacteristics ++ [gattCharacteristic]
    service := service.service.addCharacteristic gattCharacteristic.characteristic }

def removeCharacteristic (service : GattRemoteService) (characteristicObjectPath : Text) :
    GattRemoteService :=
  { service with
    gattRemoteCharacteristics :=
      service.gattRemoteCharacteristics.eraseP (·.objectPath == characteristicObjectPath) }

/-- The descriptor goes to the live characteristic at its parent path, and in the value of
the service to the first characteristic of the same UUID. -/
def addRemoteDescriptor (remoteService : GattRemoteService)
    (gattDescriptor : GattRemoteDescriptor) (descValue : List UInt8) : GattRemoteService :=
  match remoteService.gattRemoteCharacteristics.find?
      (·.objectPath == gattDescriptor.parentObjectPath) with
  | none => remoteService
  | some remoteChar =>
    let descriptor :=
      if remoteChar.characteristic.isPropertySet .read then
        { gattDescriptor.descriptor with value := descValue }
      else gattDescriptor.descriptor
    { remoteService with
      gattRemoteCharacteristics :=
        modifyFirst (·.objectPath == gattDescriptor.parentObjectPath)
          (fun c =>
            { c with
              gattRemoteDescriptors :=
                c.gattRemoteDescriptors ++ [{ gattDescriptor with descriptor }]
              characteristic := c.characteristic.addDescriptor descriptor })
          remoteService.gattRemoteCharacteristics
      service :=
        { remoteService.service with
          characteristics :=
            modifyFirst (·.uuid == remoteChar.characteristic.uuid) (·.addDescriptor descriptor)
              remoteService.service.characteristics } }

def removeDescriptor (service : GattRemoteService)
    (characteristicObjectPath descriptorObjectPath : Text) : GattRemoteService :=
  { service with
    gattRemoteCharacteristics :=
      modifyFirst (·.objectPath == characteristicObjectPath)
        (fun c =>
          { c with
            gattRemoteDescriptors :=
              c.gattRemoteDescriptors.eraseP (·.objectPath == descriptorObjectPath) })
        service.gattRemoteCharacteristics }

end GattRemoteService

namespace RemoteServices

variable (s : RemoteServices) (devices : Devices)

def updateRemoteDeviceServices : RemoteServices :=
  { s with
    mRemoteDeviceServicesMap :=
      s.mDeviceServicesMap.mapValues fun servicesList => servicesList.map (·.service) }

def addRemoteServiceToDevice (gattService : GattRemoteService) : RemoteServices :=
  match devices gattService.parentObjectPath with
  | none => s
  | some deviceAddress =>
    match s.mDeviceServicesMap.find (convertAddressToLowerCase deviceAddress) with
    | none =>
      { s with mDeviceServicesMap := s.mDeviceServicesMap.insert deviceAddress [gattService] }
    | some servicesList =>
      if servicesList.any (·.service.uuid == gattService.service.uuid) then s
      else
        { s with
          mDeviceServicesMap :=
            s.mDeviceServicesMap.insert deviceAddress (servicesList ++ [gattService])
          }.updateRemoteDeviceServices

def getRemoteGattService (serviceObjectPath : Text) : Option GattRemoteService :=
  (devices (splitInPathAndName serviceObjectPath).1).bind fun deviceAddress =>
    (s.mDeviceServicesMap.find (convertAddressToLowerCase deviceAddress)).bind
      fun servicesList => servicesList.find? (·.objectPath == serviceObjectPath)

def updateService (serviceObjectPath : Text) (f : GattRemoteService → GattRemoteService) :
    RemoteServices :=
  match devices (splitInPathAndName serviceObjectPath).1 with
  | none => s
  | some deviceAddress =>
    { s with
      mDeviceServicesMap :=
        s.mDeviceServicesMap.modify deviceAddress
          (modifyFirst (·.objectPath == serviceObjectPath) f) }

def addRemoteCharacteristicToService (gattCharacteristic : GattRemoteCharacteristic) :
    RemoteServices :=
  s.updateService devices gattCharacteristic.parentObjectPath
    (·.addRemoteCharacteristic gattCharacteristic)

def removeRemoteGattCharacteristic (characteristicObjectPath : Text) : RemoteServices :=
  s.updateService devices (splitInPathAndName characteristicObjectPath).1
    (·.removeCharacteristic characteristicObjectPath)

/-- `descValue` is what the proxy of the descriptor reads. -/
def addRemoteDescriptorToCharacteristic (gattDescriptor : GattRemoteDescriptor)
    (descValue : List UInt8) : RemoteServices :=
  s.updateService devices (splitInPathAndName gattDescriptor.parentObjectPath).1
    (·.addRemoteDescriptor gattDescriptor descValue)

def removeRemoteGattDescriptor (descriptorObjectPath : Text) : RemoteServices :=
  let characteristicObjectPath := (splitInPathAndName descriptorObjectPath).1
  s.updateService devices (splitInPathAndName characteristicObjectPath).1
    (·.removeDescriptor characteristicObjectPath descriptorObjectPath)

def removeRemoteGattService (serviceObjectPath : Text) : RemoteServices :=
  match devices (splitInPathAndName serviceObjectPath).1 with
  | none => s
  | some deviceAddress =>
    match s.mDeviceServicesMap.find (convertAddressToLowerCase deviceAddress) with
    | none => s
    | some servicesList =>
      let servicesList := servicesList.eraseP (·.objectPath == serviceObjectPath)
      { s with
        mDeviceServicesMap :=
          if servicesList.length = 0 then s.mDeviceServicesMap.erase deviceAddress
          else s.mDeviceServicesMap.insert deviceAddress servicesList }

/-- The address is looked up as it is given. A key that is found is its own lower case. -/
def discoverServices (address : Text) : RemoteServices × BluetoothError :=
  match s.mDeviceServicesMap.find address with
  | none => ({ s with mRemoteDeviceServicesMap := .empty }, .fail)
  | some servicesList =>
    ({ s with
      mRemoteDeviceServicesMap :=
        AddressMap.empty.insert address (servicesList.map (·.service)) }, .none)

def getServices (address : Text) : List BluetoothGattService :=
  (s.mRemoteDeviceServicesMap.find (convertAddressToLowerCase address)).getD []

def getService (address : Text) (uuid : BluetoothUuid) : BluetoothGattService :=
  ((s.getServices address).find? (·.uuid == uuid)).getD {}

end RemoteServices

end BluezSil.Gatt
