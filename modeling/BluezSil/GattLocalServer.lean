import BluezSil.GattObjectPaths
import BluezSil.GattRemoteServices
import BluezSil.TransitionRun

/-!
# The local GATT server

Applications register services, characteristics and descriptors. Each of the three add
functions exports a D-Bus object at once and hands the daemon a registration. The reply
comes later and completes what the call has left open: only then is the attribute stored.
What the completion captured by reference may be gone by then, and a completion that
would use it has no successor here.
-/

namespace BluezSil.Gatt

open DecimalText

/-- The place of an exported object below the path of the object manager. -/
inductive LocalPath
  | service (appId serviceId : UInt16)
  | characteristic (appId serviceId charId : UInt16)
  | descriptor (appId serviceId charId descId : UInt16)
  deriving DecidableEq, Repr

namespace LocalPath

def text (objPath : Text) : LocalPath → Text
  | service appId serviceId => serviceObjPath objPath appId serviceId
  | characteristic appId serviceId charId => charObjPath objPath appId serviceId charId
  | descriptor appId serviceId charId descId =>
    descObjPath objPath appId serviceId charId descId

def appId : LocalPath → UInt16
  | service appId _ => appId
  | characteristic appId _ _ => appId
  | descriptor appId _ _ _ => appId

/-- The letter the last part of a path begins with. -/
def kind : LocalPath → Char
  | service _ _ => 'S'
  | characteristic _ _ _ => 'C'
  | descriptor _ _ _ _ => 'D'

end LocalPath

/-- A `BluezObjectSkeleton` with what its interface says. The number tells one object from
another. -/
structure ObjectSkeleton where
  number : ℕ
  path : LocalPath
  uuid : BluetoothUuid
  properties : List Property := []
  deriving DecidableEq, Repr

abbrev ExportedObjects := KeyedMap LocalPath ObjectSkeleton

structure LocalDescriptor where
  mDescObject : ObjectSkeleton

structure LocalCharacteristic where
  mCharObject : ObjectSkeleton
  mDescriptors : KeyedMap UInt16 LocalDescriptor := ∅

/-- The number stands for the address of the service, which outlives its object. The
objects of characteristics and descriptors are cleared only as these are destroyed. -/
structure LocalService where
  number : ℕ
  mServiceObject : Option ObjectSkeleton
  mServiceInterface : Option BluetoothUuid
  mCharacteristics : KeyedMap UInt16 LocalCharacteristic := ∅

structure LocalApplication where
  mGattLocalServices : KeyedMap UInt16 LocalService := ∅

inductive ApplicationType
  | client
  | server
  deriving DecidableEq, Repr

/-- What a callback is given: `BluetoothGattAddCallback` has an id as well. -/
inductive Answer
  | added (error : BluetoothError) (id : UInt16)
  | result (error : BluetoothError)
  deriving DecidableEq, Repr

def Answer.error : Answer → BluetoothError
  | added error _ => error
  | result error => error

def notAdded (error : BluetoothError) : Answer := .added error (-1)

structure CharsRef where
  appId : UInt16
  serviceId : UInt16
  number : ℕ
  deriving DecidableEq, Repr

structure DescsRef where
  appId : UInt16
  serviceId : UInt16
  charId : UInt16
  number : ℕ
  deriving DecidableEq, Repr

/-- What the completion of a registration has captured. -/
inductive Registration
  | addService (object : ObjectSkeleton) (appId serviceId : UInt16)
  | addCharacteristic (object : ObjectSkeleton) (chars : CharsRef) (charId : UInt16)
  | addDescriptor (object : ObjectSkeleton) (descs : Option DescsRef) (descId : UInt16)
  | removeService
  | removeApplication
  deriving DecidableEq, Repr

/-- Which of the allocations that an add function checks succeed. -/
structure Allocation where
  interface : Bool := true
  object : Bool := true
  dataBuilder : Bool := true
  flagsBuilder : Bool := true
  deriving DecidableEq, Repr

structure LocalServer where
  nextAppId : UInt16 := 1
  nextServiceId : UInt16 := 1
  nextCharId : UInt16 := 1
  nextDescId : UInt16 := 1
  nextNumber : ℕ := 0
  mLastCharId : UInt16 := 0
  mObjectManagerGattServer : Option Text := none
  exported : ExportedObjects := ∅
  mGattLocalApplications : KeyedMap UInt16 LocalApplication := ∅

/-- The state as a call returns, the answers it has given, and the registration it has
handed over. -/
structure Issued where
  server : LocalServer
  answers : List Answer
  registration : Option Registration

inductive Delivery
  | characteristicValueChanged (service : BluetoothUuid)
      (characteristic : BluetoothGattCharacteristic)
  | descriptorValueChanged (service characteristic : BluetoothUuid)
      (descriptor : BluetoothGattDescriptor)
  deriving DecidableEq, Repr

section Removal

def removeLocalDescriptors (exported : ExportedObjects) (characteristic : LocalCharacteristic) :
    ExportedObjects :=
  characteristic.mDescriptors.values.foldl (fun e d => e.erase d.mDescObject.path) exported

def removeLocalCharacteristics (exported : ExportedObjects) (service : LocalService) :
    ExportedObjects :=
  service.mCharacteristics.values.foldl
    (fun e c => (removeLocalDescriptors e c).erase c.mCharObject.path) exported

def removeLocalServices (exported : ExportedObjects) (service : LocalService) :
    ExportedObjects :=
  match service.mServiceObject with
  | some object => (removeLocalCharacteristics exported service).erase object.path
  | none => exported

def LocalService.cleared (service : LocalService) : LocalService :=
  match service.mServiceObject with
  | some _ => { service with
      mServiceObject := none, mServiceInterface := none, mCharacteristics := ∅ }
  | none => service

end Removal

namespace LocalServer

variable (s : LocalServer)

def findService (appId serviceId : UInt16) : Option LocalService :=
  (s.mGattLocalApplications.lookup appId).bind fun app =>
    app.mGattLocalServices.lookup serviceId

def findCharacteristic (appId serviceId charId : UInt16) : Option LocalCharacteristic :=
  (s.findService appId serviceId).bind fun service => service.mCharacteristics.lookup charId

def modifyService (appId serviceId : UInt16) (f : LocalService → LocalService) : LocalServer :=
  { s with mGattLocalApplications := s.mGattLocalApplications.modify appId fun app =>
      { app with mGattLocalServices := app.mGattLocalServices.modify serviceId f } }

def modifyCharacteristic (appId serviceId charId : UInt16)
    (f : LocalCharacteristic → LocalCharacteristic) : LocalServer :=
  s.modifyService appId serviceId fun service =>
    { service with mCharacteristics := service.mCharacteristics.modify charId f }

/-- `g_dbus_object_manager_server_export` replaces an object at the same path. -/
def exportObject (object : ObjectSkeleton) : LocalServer :=
  { s with
    exported := s.exported.insert object.path object
    nextNumber := s.nextNumber + 1 }

/-- `handleBusAcquired`. -/
def createObjectManagers (objPath : Text) : LocalServer :=
  { s with mObjectManagerGattServer := some objPath }

def addApplication (type : ApplicationType) : LocalServer × UInt16 :=
  let appId := s.nextAppId
  let s := { s with nextAppId := appId + 1 }
  match type with
  | .client => (s, appId)
  | .server =>
    ({ s with mGattLocalApplications := s.mGattLocalApplications.emplace appId {} }, appId)

/-- The services are cleared one by one, but neither they nor the application are erased.
Without an object manager there is no path to copy. -/
def removeApplication (type : ApplicationType) (appId : UInt16) : Option Issued :=
  match type with
  | .client => some ⟨s, [], none⟩
  | .server =>
    match s.mObjectManagerGattServer with
    | none => none
    | some _ =>
      match s.mGattLocalApplications.lookup appId with
      | none => some ⟨s, [], none⟩
      | some app =>
        let exported := app.mGattLocalServices.values.foldl removeLocalServices s.exported
        let app := { app with
          mGattLocalServices := app.mGattLocalServices.mapValues LocalService.cleared }
        some ⟨{ s with
          exported := exported
          mGattLocalApplications := s.mGattLocalApplications.insert appId app },
          [], some .removeApplication⟩

def addService (appId : UInt16) (service : BluetoothGattService) : Issued :=
  match s.mObjectManagerGattServer with
  | none => ⟨s, [notAdded .fail], none⟩
  | some _ =>
    let serviceId := s.nextServiceId
    let s := { s with nextServiceId := serviceId + 1 }
    let object := ⟨s.nextNumber, .service appId serviceId, service.uuid, []⟩
    ⟨s.exportObject object, [], some (.addService object appId serviceId)⟩

def removeService (appId serviceId : UInt16) : Issued :=
  match s.mObjectManagerGattServer with
  | none => ⟨s, [.result .fail], none⟩
  | some _ =>
    match s.mGattLocalApplications.lookup appId with
    | none => ⟨s, [.result .fail], none⟩
    | some app =>
      match app.mGattLocalServices.lookup serviceId with
      | none => ⟨s, [.result .fail], none⟩
      | some service =>
        let app := { app with mGattLocalServices := app.mGattLocalServices.erase serviceId }
        ⟨{ s with
          exported := removeLocalServices s.exported service
          mGattLocalApplications := s.mGattLocalApplications.insert appId app },
          [], some .removeService⟩

def addCharacteristic (alloc : Allocation) (appId serviceId : UInt16)
    (characteristic : BluetoothGattCharacteristic) : Option Issued :=
  match s.findService appId serviceId with
  | none => some ⟨s, [notAdded .paramInvalid], none⟩
  | some service =>
    if alloc.interface then
      let charId := s.nextCharId
      let s := { s with nextCharId := charId + 1 }
      match s.mObjectManagerGattServer with
      | none => none
      | some _ =>
        if alloc.object && alloc.dataBuilder && alloc.flagsBuilder then
          let object := ⟨s.nextNumber, .characteristic appId serviceId charId,
            characteristic.uuid, characteristic.properties⟩
          some ⟨s.exportObject object, [],
            some (.addCharacteristic object ⟨appId, serviceId, service.number⟩ charId)⟩
        else some ⟨s, [notAdded .noMem], none⟩
    else some ⟨s, [notAdded .noMem], none⟩

def getLocalDescriptorList (appId serviceId charId : UInt16) : Option DescsRef :=
  (s.findCharacteristic appId serviceId charId).map fun characteristic =>
    ⟨appId, serviceId, charId, characteristic.mCharObject.number⟩

def listAnswers : Option DescsRef → List Answer
  | none => [notAdded .paramInvalid]
  | some _ => []

/-- Without a list the call answers and goes on. -/
def addDescriptor (alloc : Allocation) (appId serviceId : UInt16)
    (descriptor : BluetoothGattDescriptor) : Option Issued :=
  let descs := s.getLocalDescriptorList appId serviceId s.mLastCharId
  let answers := listAnswers descs
  if alloc.interface then
    let descId := s.nextDescId
    let s := { s with nextDescId := descId + 1 }
    match s.mObjectManagerGattServer with
    | none => none
    | some _ =>
      if alloc.object then
        if alloc.flagsBuilder then
          let object := ⟨s.nextNumber, .descriptor appId serviceId s.mLastCharId descId,
            descriptor.uuid, []⟩
          some ⟨s.exportObject object, answers, some (.addDescriptor object descs descId)⟩
        else some ⟨s, answers ++ [notAdded .noMem], none⟩
      else some ⟨s, answers ++ [notAdded .fail], none⟩
  else some ⟨s, answers ++ [notAdded .noMem], none⟩

def HasChars (chars : CharsRef) : Prop :=
  ∃ service, s.findService chars.appId chars.serviceId = some service ∧
    service.number = chars.number

def HasDescs (descs : DescsRef) : Prop :=
  ∃ characteristic, s.findCharacteristic descs.appId descs.serviceId descs.charId =
    some characteristic ∧ characteristic.mCharObject.number = descs.number

instance (chars : CharsRef) : Decidable (s.HasChars chars) :=
  decidable_of_iff (((s.findService chars.appId chars.serviceId).any
    fun service => service.number = chars.number) = true) (by
      unfold HasChars
      rw [Option.any_eq_true]
      simp only [decide_eq_true_eq])

instance (descs : DescsRef) : Decidable (s.HasDescs descs) :=
  decidable_of_iff (((s.findCharacteristic descs.appId descs.serviceId descs.charId).any
    fun characteristic => characteristic.mCharObject.number = descs.number) = true) (by
      unfold HasDescs
      rw [Option.any_eq_true]
      simp only [decide_eq_true_eq])

/-- The completion of a registration, with the error of the daemon if it has one. -/
def complete : Registration → Reply → Option (LocalServer × List Answer)
  | .addService object appId serviceId, none =>
    match s.mGattLocalApplications.lookup appId with
    | none => some (s, [])
    | some app =>
      let service : LocalService := ⟨object.number, some object, some object.uuid, ∅⟩
      let app := { app with
        mGattLocalServices := app.mGattLocalServices.emplace serviceId service }
      some ({ s with mGattLocalApplications := s.mGattLocalApplications.insert appId app },
        [.added .none serviceId])
  | .addService _ _ _, some _ => some (s, [notAdded .fail])
  | .addCharacteristic object chars charId, none =>
    if s.HasChars chars then
      some ({ s.modifyService chars.appId chars.serviceId (fun service =>
          { service with
            mCharacteristics := service.mCharacteristics.emplace charId ⟨object, ∅⟩ }) with
        mLastCharId := charId }, [.added .none charId])
    else none
  | .addCharacteristic _ _ _, some _ => some (s, [notAdded .fail])
  | .addDescriptor object (some descs) descId, none =>
    if s.HasDescs descs then
      some (s.modifyCharacteristic descs.appId descs.serviceId descs.charId fun characteristic =>
          { characteristic with
            mDescriptors := characteristic.mDescriptors.emplace descId ⟨object⟩ },
        [.added .none descId])
    else none
  | .addDescriptor _ none _, none => none
  | .addDescriptor _ _ _, some _ => some (s, [notAdded .fail])
  | .removeService, reply =>
    some (s, [.result (match reply with | none => .none | some _ => .fail)])
  | .removeApplication, _ => some (s, [])

/-- The service the ids of a path lead to, and its interface. A service without an interface
must not be asked for its UUID. -/
def writtenServiceUuid (ids : ℤ × ℤ) : Option (Option BluetoothUuid) :=
  match s.findService (UInt16.ofInt ids.1) (UInt16.ofInt ids.2) with
  | none => some none
  | some service => service.mServiceInterface.map some

def onHandleCharacteriscticWriteValue (objPath : Text) (object : ObjectSkeleton)
    (appId serviceId : UInt16) (value : List UInt8) : Option (List Delivery) :=
  (writtenService (serviceObjPath objPath appId serviceId)).bind fun ids =>
    (s.writtenServiceUuid ids).map fun service =>
      match service with
      | none => []
      | some uuid => [.characteristicValueChanged uuid
          { uuid := object.uuid, properties := object.properties, value := value }]

def onHandleDescrptorWriteValue (objPath : Text) (object : ObjectSkeleton)
    (appId serviceId charId : UInt16) (value : List UInt8) : Option (List Delivery) :=
  (writtenCharacteristic (charObjPath objPath appId serviceId charId)).bind fun ids =>
    (s.writtenServiceUuid (ids.1, ids.2.1)).map fun service =>
      match service with
      | none => []
      | some uuid =>
        match s.findCharacteristic (UInt16.ofInt ids.1) (UInt16.ofInt ids.2.1)
            (UInt16.ofInt ids.2.2) with
        | none => []
        | some characteristic => [.descriptorValueChanged uuid characteristic.mCharObject.uuid
            { uuid := object.uuid, value := value }]

def write (path : LocalPath) (value : List UInt8) : Option (List Delivery) :=
  match s.mObjectManagerGattServer, s.exported.lookup path with
  | some objPath, some object =>
    match path with
    | .service _ _ => some []
    | .characteristic appId serviceId _ =>
      s.onHandleCharacteriscticWriteValue objPath object appId serviceId value
    | .descriptor appId serviceId charId _ =>
      s.onHandleDescrptorWriteValue objPath object appId serviceId charId value
  | _, _ => some []

end LocalServer

end BluezSil.Gatt
