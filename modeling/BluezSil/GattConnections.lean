import BluezSil.KeyedMap
import BluezSil.SilApi

/-!
# The GATT connection table

`mConnectedDevices` maps a connect id, in fact the id of an application, to the
address of the device it is connected to, and `mAutoConnDevMap` an address to the
timer and the application of an automatic reconnection. Connects and disconnects
complete later: a completion finds the closure that was made for it, and a
disconnect holds an iterator, that is the entry itself, which may be gone by then.
An iteration meets the entries in an order of its own, given by the list of keys.
-/

namespace BluezSil.Gatt

/-- An entry of the table, told apart from every other that is ever made. -/
structure Connection where
  node : ℕ
  address : Text
  deriving DecidableEq

structure ConnectCall where
  lowerCaseAddress : Text
  pAppId : UInt16
  autoConnection : Bool
  deriving DecidableEq

structure Reconnect where
  devAddress : Text
  appId : UInt16
  deriving DecidableEq

/-- What the callback of `disconnectGatt` keeps, and the connection it was asked for. -/
structure DisconnectCall where
  deviceInfo : ℕ
  deviceAddress : Text
  appId : UInt16
  connectId : UInt16
  address : Text
  deriving DecidableEq

structure GattConnections where
  mConnectedDevices : KeyedMap UInt16 Connection := ∅
  nextNode : ℕ := 0
  mAutoConnDevMap : KeyedMap Text (ℕ × UInt16) := ∅
  nextSource : ℕ := 1
  sources : List ℕ := []
  connects : List ConnectCall := []
  reconnects : List Reconnect := []
  disconnects : List DisconnectCall := []

abbrev ConnectReport := BluetoothError × UInt16

namespace GattConnections

variable (s : GattConnections)

/-- `mConnectedDevices.insert`, which keeps an entry that is there. -/
def insertConnected (connId : UInt16) (address : Text) : GattConnections :=
  { s with
    mConnectedDevices := s.mConnectedDevices.emplace connId ⟨s.nextNode, address⟩
    nextNode := s.nextNode + 1 }

/-- `mConnectedDevices[connId] = address`. -/
def assignConnected (connId : UInt16) (address : Text) : GattConnections :=
  match s.mConnectedDevices.lookup connId with
  | some c =>
    { s with mConnectedDevices := s.mConnectedDevices.insert connId ⟨c.node, address⟩ }
  | none => s.insertConnected connId address

def removeSource (source : ℕ) : GattConnections :=
  { s with sources := if source ≠ 0 then s.sources.erase source else s.sources }

def isConnectedTo (address : Text) (connId : UInt16) : Bool :=
  match s.mConnectedDevices.lookup connId with
  | some c => c.address == address
  | none => false

def getConnectId (order : List UInt16) (address : Text) : UInt16 :=
  let lowerCaseAddress := convertAddressToLowerCase address
  (order.find? (s.isConnectedTo lowerCaseAddress)).getD 0

def getAddress (connId : UInt16) : Text :=
  match s.mConnectedDevices.lookup connId with
  | some c => c.address
  | none => []

def updateDeviceProperties (order : List UInt16) (deviceAddress : Text) : GattConnections :=
  let lowerCaseAddress := convertAddressToLowerCase deviceAddress
  let connectId := s.getConnectId order lowerCaseAddress
  if lowerCaseAddress ∉ s.mAutoConnDevMap then
    { s with mConnectedDevices := s.mConnectedDevices.erase connectId }
  else s

/-- `found` says whether the adapter knows the device by its address in the end. -/
def handleAutoConnectDevAdd (address : Text) (found : Bool) : GattConnections :=
  let devAddress := convertAddressToLowerCase address
  match s.mAutoConnDevMap.lookup devAddress with
  | none => s
  | some (source, appId) =>
    let s := s.removeSource source
    let s := { s with mAutoConnDevMap := s.mAutoConnDevMap.insert devAddress (0, appId) }
    if found then { s with reconnects := s.reconnects ++ [⟨devAddress, appId⟩] } else s

/-- The test is the source's: the table is written when the reconnection has failed. -/
def gattConnCallBack (r : Reconnect) (error : BluetoothError) : GattConnections :=
  if error ≠ .none then s.assignConnected r.appId r.devAddress else s

def handleAutoConnectDevRem (address : Text) : GattConnections :=
  let devAddress := convertAddressToLowerCase address
  match s.mAutoConnDevMap.lookup devAddress with
  | none => s
  | some (source, appId) =>
    let s := s.removeSource source
    { s with
      nextSource := s.nextSource + 1
      sources := s.nextSource :: s.sources
      mAutoConnDevMap := s.mAutoConnDevMap.insert devAddress (s.nextSource, appId) }

/-- The entry of the reconnection is read after it is erased, which yields `appId`. -/
def handleAutoConnTimeout (address : Text) (appId : UInt16) : GattConnections :=
  let devAddress := convertAddressToLowerCase address
  match s.mAutoConnDevMap.lookup devAddress with
  | none => s
  | some (source, _) =>
    if source ≠ 0 then
      { s with
        mAutoConnDevMap := s.mAutoConnDevMap.erase devAddress
        mConnectedDevices := s.mConnectedDevices.erase appId }
    else s

def handleAutoConnectReq (autoConnection : Bool) (address : Text) (appId : UInt16) :
    GattConnections :=
  let devAddress := convertAddressToLowerCase address
  let s := s.removeSource ((s.mAutoConnDevMap.lookup devAddress).elim 0 Prod.fst)
  { s with
    mAutoConnDevMap :=
      if autoConnection then s.mAutoConnDevMap.insert devAddress (0, appId)
      else s.mAutoConnDevMap.erase devAddress }

/-- The loop of `connectGatt` over the table: the connect id it ends with, or the one it
reports at once because the connection is kept automatically. -/
def findConnected (lowerCaseAddress : Text) : List UInt16 → UInt16 → UInt16 ⊕ UInt16
  | [], pAppId => .inl pAppId
  | connId :: order, pAppId =>
    if s.isConnectedTo lowerCaseAddress connId then
      match s.mAutoConnDevMap.lookup lowerCaseAddress with
      | some (0, _) => .inr connId
      | _ => findConnected lowerCaseAddress order connId
    else findConnected lowerCaseAddress order pAppId

/-- The second component is what the callback is told before the function returns. -/
def connectGatt (appId : UInt16) (autoConnection : Bool) (address : Text) (found : Bool)
    (order : List UInt16) : GattConnections × Option ConnectReport :=
  if ¬ found then (s, some (.paramInvalid, -1))
  else
    let lowerCaseAddress := convertAddressToLowerCase address
    match s.findConnected lowerCaseAddress order appId with
    | .inr pAppId => (s, some (.none, pAppId))
    | .inl pAppId =>
      ({ s with connects := s.connects ++ [⟨lowerCaseAddress, pAppId, autoConnection⟩] }, none)

def isConnectCallback (c : ConnectCall) (error : BluetoothError) :
    GattConnections × ConnectReport :=
  if error ≠ .none then (s, error, -1)
  else
    let s := s.handleAutoConnectReq c.autoConnection c.lowerCaseAddress c.pAppId
    (s.insertConnected c.pAppId c.lowerCaseAddress, .none, c.pAppId)

def disconnectGatt (appId connectId : UInt16) (address : Text) (found : Bool) :
    GattConnections × Option BluetoothError :=
  match s.mConnectedDevices.lookup appId with
  | none => (s, some .fail)
  | some deviceInfo =>
    let deviceAddress := convertAddressToUpperCase deviceInfo.address
    if ¬ found then (s, some .paramInvalid)
    else
      ({ s with
        disconnects := s.disconnects ++
          [⟨deviceInfo.node, deviceAddress, appId, connectId, address⟩] }, none)

/-- The iterator is good only while its entry is in the table: erasing another has no
defined result. -/
def isDisconnectCallback (d : DisconnectCall) (error : BluetoothError) :
    Option (GattConnections × BluetoothError) :=
  if error ≠ .none then some (s, error)
  else if (s.mConnectedDevices.lookup d.appId).map Connection.node = some d.deviceInfo then
    let s := { s with mConnectedDevices := s.mConnectedDevices.erase d.appId }
    some (s.handleAutoConnectReq false d.deviceAddress d.appId, .none)
  else none

end GattConnections

end BluezSil.Gatt
