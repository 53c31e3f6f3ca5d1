import BluezSil.KeyedMap
import BluezSil.SilApi
import BluezSil.TransitionRun

/-!
# Channels of the serial port profile

A channel is opened with an id of a fixed list, a record and an interface exported for it.
BlueZ reports connections and disconnections on the interface, whose handlers hold a pointer
to the record. The ids and the records are kept in two tables, which are changed one after
the other.

The tables are unordered: where the source looks for the first entry that fits, an event
says in which order the keys are come upon, and keys it leaves out come last.
-/

namespace BluezSil.Spp

open TransitionRun

inductive DeviceRole
  | client
  | server
  deriving DecidableEq, Repr

/-- `record` stands for the address of the record in memory. -/
structure SppDeviceInfo where
  record : ℕ
  mChannelId : UInt8
  mDeviceRole : DeviceRole
  mName : String
  mUuid : String
  mAdapterAddress : Text := []
  mDeviceAddress : Text := []
  deriving DecidableEq, Repr

inductive ExportOutcome
  | noMemory
  | notRegistered
  | notExported
  | exported
  deriving DecidableEq, Repr

/-- `channelStateChanged`, and the record it is sent for. -/
structure StateChange where
  record : ℕ
  adapterAddress : Text
  deviceAddress : Text
  uuid : String
  channelId : UInt8
  connected : Bool
  deriving DecidableEq, Repr

/-- An id that is given to a record, and the record that has it at the time. -/
structure Handed where
  channelId : UInt8
  record : ℕ
  holder : Option ℕ
  deriving DecidableEq, Repr

/-- `exported` lists the records whose interface can be called. `freed` lists the ids freed,
each with the id of the channel that is removed, and `staleReads` the records read after
they have been erased. -/
structure ProfileSpp where
  mChannelIdList : KeyedMap UInt8 Bool :=
    ((∅ : KeyedMap UInt8 Bool).insert 6 false).insert 22 false
  mConnectedDevices : KeyedMap UInt8 SppDeviceInfo := ∅
  nextRecord : ℕ := 0
  exported : List ℕ := []
  connecting : List (ℕ × UInt8) := []
  replies : List (BluetoothError × UInt8) := []
  notified : List StateChange := []
  handed : List Handed := []
  freed : List (UInt8 × UInt8) := []
  staleReads : List ℕ := []

namespace ProfileSpp

variable (s : ProfileSpp)

def reply (error : BluetoothError) (channelId : UInt8) : ProfileSpp :=
  { s with replies := (error, channelId) :: s.replies }

def notify (d : SppDeviceInfo) (adapterAddress deviceAddress : Text) (connected : Bool) :
    ProfileSpp :=
  { s with
    notified :=
      ⟨d.record, adapterAddress, deviceAddress, d.mUuid, d.mChannelId, connected⟩ :: s.notified }

def mark (channelId : UInt8) : ProfileSpp :=
  { s with mChannelIdList := s.mChannelIdList.insert channelId true }

/-- Marks the first id that is free. Without one the id is zero. -/
def allocateChannelId (order : List UInt8) : UInt8 × ProfileSpp :=
  match (order ++ s.mChannelIdList.keys).find? (s.mChannelIdList.lookup · == some false) with
  | some channelId => (channelId, s.mark channelId)
  | none => (0, s)

/-- An id that is not in the list is entered as free. -/
def deallocateChannelId (channelId removed : UInt8) : ProfileSpp :=
  { s with
    mChannelIdList := s.mChannelIdList.insert channelId false
    freed := (channelId, removed) :: s.freed }

def hand (channelId : UInt8) (record : ℕ) : ProfileSpp :=
  { s with
    handed := ⟨channelId, record, (s.mConnectedDevices.lookup channelId).map (·.record)⟩ ::
      s.handed }

/-- A record that has the id is destroyed. -/
def store (d : SppDeviceInfo) : ProfileSpp :=
  let s := s.hand d.mChannelId d.record
  { s with
    mConnectedDevices := s.mConnectedDevices.insert d.mChannelId d
    nextRecord := s.nextRecord + 1
    exported := d.record :: s.exported }

/-- The part `connectUuid` and `createChannel` share, with `createSkeletonAndExport`. -/
def openChannel (order : List UInt8) (role : DeviceRole) (name uuid : String)
    (outcome : ExportOutcome) : ProfileSpp × Except BluetoothError (ℕ × UInt8) :=
  let (channelId, s) := s.allocateChannelId order
  if channelId = 0 then (s, .error .fail)
  else
    match outcome with
    | .noMemory => (s.deallocateChannelId channelId channelId, .error .noMem)
    | .notRegistered => (s.deallocateChannelId channelId channelId, .error .notReady)
    | .notExported => (s.deallocateChannelId channelId channelId, .error .notReady)
    | .exported =>
      (s.store
        { record := s.nextRecord
          mChannelId := channelId
          mDeviceRole := role
          mName := name
          mUuid := uuid },
        .ok (s.nextRecord, channelId))

def connectUuid (found : Bool) (order : List UInt8) (uuid : String) (outcome : ExportOutcome) :
    ProfileSpp :=
  if found then
    match s.openChannel order .client "SerialPort" uuid outcome with
    | (s, .error error) => s.reply error 0
    | (s, .ok channel) => { s with connecting := s.connecting ++ [channel] }
  else s.reply .notReady 0

/-- The connection of a client channel is answered. A failure frees the id and leaves the
record. -/
def connectedCallback (record : ℕ) (channelId : UInt8) (ok : Bool) : ProfileSpp :=
  if ok then (s.hand channelId record).reply .none channelId
  else
    let s := { s with exported := s.exported.filter (· ≠ record) }
    (s.deallocateChannelId channelId channelId).reply .notReady 0

def createChannel (order : List UInt8) (name uuid : String) (outcome : ExportOutcome) :
    ProfileSpp :=
  match s.openChannel order .server name uuid outcome with
  | (s, .error error) => s.reply error 0
  | (s, .ok _) => s.reply .none 0

def removeConnectedDevice (channelId : UInt8) : ProfileSpp :=
  { s with mConnectedDevices := s.mConnectedDevices.erase channelId }

/-- The interface and the record of a channel go, and the id is freed that is then read from
the record, which is whatever is left in its memory. -/
def removeRecord (d : SppDeviceInfo) (left : UInt8) : ProfileSpp :=
  let s := { s with exported := s.exported.filter (· ≠ d.record) }
  let s := s.removeConnectedDevice d.mChannelId
  deallocateChannelId { s with staleReads := d.record :: s.staleReads } left d.mChannelId

def getSppDevice (order : List UInt8) (uuid : String) : Option SppDeviceInfo :=
  (order ++ s.mConnectedDevices.keys).findSome? fun channelId =>
    (s.mConnectedDevices.lookup channelId).filter (·.mUuid == uuid)

def removeChannel (order : List UInt8) (uuid : String) (left : UInt8) : ProfileSpp :=
  match s.getSppDevice order uuid with
  | none => s.reply .fail 0
  | some d =>
    ((s.notify d d.mAdapterAddress d.mDeviceAddress false).removeRecord d left).reply .none 0

/-- The record an interface points to, if it has not been destroyed. -/
def find (record : ℕ) : Option SppDeviceInfo :=
  s.mConnectedDevices.values.find? (·.record == record)

/-- A device that is not known is reported with an empty address, and the record keeps the
address it has. -/
def handleNewConnection (d : SppDeviceInfo) (adapterAddress : Text) (device : Option Text) :
    ProfileSpp :=
  let s := { s with
    mConnectedDevices := s.mConnectedDevices.modify d.mChannelId fun d =>
      { d with
        mDeviceAddress := device.getD d.mDeviceAddress
        mAdapterAddress := adapterAddress } }
  s.notify d adapterAddress (device.getD []) true

/-- The record of a server stays as it is. -/
def handleRequestDisconnection (d : SppDeviceInfo) (left : UInt8) : ProfileSpp :=
  let s := s.notify d d.mAdapterAddress d.mDeviceAddress false
  match d.mDeviceRole with
  | .client => s.removeRecord d left
  | .server => s

/-- All records are erased, and no id is freed. -/
def handleRelease : ProfileSpp :=
  { s with
    mConnectedDevices := ∅
    exported :=
      s.exported.filter fun record => record ∉ s.mConnectedDevices.values.map (·.record) }

def getChannelState (address : Text) (uuid : String) : Bool :=
  s.mConnectedDevices.values.any fun d =>
    d.mDeviceAddress == convertAddressToLowerCase address && d.mUuid == uuid

end ProfileSpp

/-- `left` is what is left of the id in the memory of an erased record. A new connection may
come without a file descriptor and its device may be unknown. -/
inductive SppEvent
  | connectUuid (found : Bool) (order : List UInt8) (uuid : String) (outcome : ExportOutcome)
  | connected (call : ℕ) (ok : Bool)
  | createChannel (order : List UInt8) (name uuid : String) (outcome : ExportOutcome)
  | removeChannel (order : List UInt8) (uuid : String) (left : UInt8)
  | newConnection (record : ℕ) (descriptor : Bool) (adapterAddress : Text)
      (device : Option Text)
  | requestDisconnection (record : ℕ) (left : UInt8)
  | release (record : ℕ)
  deriving DecidableEq, Repr

namespace ProfileSpp

variable (s : ProfileSpp)

/-- A call on the interface of a record, whose handler reads the record. -/
def handle (record : ℕ) (handler : SppDeviceInfo → ProfileSpp) : Option ProfileSpp :=
  if record ∈ s.exported then
    match s.find record with
    | some d => some (handler d)
    | none => some { s with staleReads := record :: s.staleReads }
  else none

def step : SppEvent → Option ProfileSpp
  | .connectUuid found order uuid outcome => some (s.connectUuid found order uuid outcome)
  | .connected call ok =>
    s.connecting[call]?.map fun channel =>
      connectedCallback { s with connecting := s.connecting.eraseIdx call } channel.1 channel.2 ok
  | .createChannel order name uuid outcome => some (s.createChannel order name uuid outcome)
  | .removeChannel order uuid left => some (s.removeChannel order uuid left)
  | .newConnection record descriptor adapterAddress device =>
    s.handle record fun d =>
      if descriptor then s.handleNewConnection d adapterAddress device else s
  | .requestDisconnection record left =>
    s.handle record fun d => s.handleRequestDisconnection d left
  | .release record => s.handle record fun _ => s.handleRelease

end ProfileSpp

def sppMachine : Machine ProfileSpp SppEvent := ⟨{}, ProfileSpp.step⟩

end BluezSil.Spp
