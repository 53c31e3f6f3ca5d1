import BluezSil.CallProgram
import BluezSil.MeshConfigClient

/-!
# The key refresh procedure

`keyRefresh` runs in a thread of its own: it updates the subnet on the
provisioner, expels the blacklisted nodes, distributes the new keys and moves the
network through phases 2 and 3. It is a program whose calls are the D-Bus calls it
makes, its calls of the configuration client, and what it tells its caller and the
mesh observer.
-/

namespace BluezSil.Mesh

open CallProgram

structure BleMeshNode where
  primaryElementAddress : UInt16
  numberOfElements : UInt8
  appKeyIndexes : List UInt16
  deriving DecidableEq, Repr

def localNodeAddress : UInt16 := 0x0001

inductive RefreshCall
  | updateSubnet (netKeyIndex : UInt16)
  | callback (error : BluetoothError)
  | keyRefreshResult (report : KeyRefreshReport)
  | addNetKey (destAddress subnetIndex netKeyIndex : UInt16) (update : Bool)
  | deleteRemoteNode (primaryAddress : UInt16) (count : UInt8)
  | configSet (destAddress : UInt16) (config : ConfigName) (args : ConfigSetArgs)
  | updateAppKey (appKeyIndex : UInt16)
  | setKeyPhase (netKeyIndex phase : UInt16)
  | sleep (seconds : ℤ)
  deriving DecidableEq, Repr

/-- A D-Bus call is answered by its error, the configuration client by its error
code, and the other calls by nothing. -/
abbrev RefreshAnswer : RefreshCall → Type
  | .updateSubnet _ => Reply
  | .callback _ => Unit
  | .keyRefreshResult _ => Unit
  | .addNetKey _ _ _ _ => Reply
  | .deleteRemoteNode _ _ => Reply
  | .configSet _ _ _ => BluetoothError
  | .updateAppKey _ => Reply
  | .setKeyPhase _ _ => Reply
  | .sleep _ => Unit

abbrev Refresh := Program RefreshCall RefreshAnswer

abbrev RefreshTrace := List (Answered RefreshAnswer)

def perform (c : RefreshCall) : Refresh (RefreshAnswer c) := Program.perform c

def report (error : BluetoothError) (netKeyIndex : UInt16) (status : String) (phase : ℕ)
    (nodeAddress appKeyIndex : Option UInt16 := none) : Refresh Unit :=
  perform (.keyRefreshResult ⟨error, netKeyIndex, status, phase, nodeAddress, appKeyIndex⟩)

def deleteRemoteNodeFromLocalKeyDatabase (primaryAddress : UInt16) (count : UInt8) :
    Refresh BluetoothError := do
  let error ← perform (.deleteRemoteNode primaryAddress count)
  match error with
  | some _ => return .fail
  | none => return .none

/-- The inner loop over the nodes for one blacklisted address, with `nodes.erase`. -/
def removeBlackListedNode (address : UInt16) : List BleMeshNode → Refresh (List BleMeshNode)
  | [] => pure []
  | node :: nodes => do
    if address = node.primaryElementAddress then
      let _ ← deleteRemoteNodeFromLocalKeyDatabase node.primaryElementAddress node.numberOfElements
      removeBlackListedNode address nodes
    else
      let rest ← removeBlackListedNode address nodes
      return node :: rest

def removeBlackListedNodes : List UInt16 → List BleMeshNode → Refresh (List BleMeshNode)
  | [], nodes => pure nodes
  | address :: addresses, nodes => do
    let rest ← removeBlackListedNode address nodes
    removeBlackListedNodes addresses rest

/-- The first loop of `distributeKeys`: the nodes whose update could not be sent
are deleted and erased from the list. -/
def distributeNetKey (netKeyIndex : UInt16) (waitTime : ℤ) :
    List BleMeshNode → Refresh (List BleMeshNode)
  | [] => pure []
  | node :: nodes => do
    let btError ← perform (.configSet node.primaryElementAddress .netKeyUpdate
      { netKeyIndex := netKeyIndex, waitTime := waitTime,
        numberOfElements := node.numberOfElements.toNat })
    if btError ≠ .none then
      let _ ← deleteRemoteNodeFromLocalKeyDatabase node.primaryElementAddress node.numberOfElements
      report .meshNetkeyUpdateFailed netKeyIndex "active" 1 (some node.primaryElementAddress)
      distributeNetKey netKeyIndex waitTime nodes
    else
      let rest ← distributeNetKey netKeyIndex waitTime nodes
      return node :: rest

def sendAppKeyUpdate (netKeyIndex : UInt16) (waitTime : ℤ) (appKeyIndex destAddress : UInt16) :
    Refresh Unit := do
  let btError ← perform (.configSet destAddress .appKeyUpdate
    { netKeyIndex := netKeyIndex, appKeyIndex := appKeyIndex, waitTime := waitTime })
  if btError ≠ .none then
    report .meshCannotUpdateAppkey netKeyIndex "active" 1 (some destAddress) (some appKeyIndex)

def distributeAppKey (nodes : List BleMeshNode) (netKeyIndex : UInt16) (waitTime : ℤ)
    (appKeyIndex : UInt16) : Refresh Unit := do
  let error ← perform (.updateAppKey appKeyIndex)
  match error with
  | some _ => return ()
  | none =>
    sendAppKeyUpdate netKeyIndex waitTime appKeyIndex localNodeAddress
    Program.forEach nodes fun node => do
      if appKeyIndex ∈ node.appKeyIndexes then
        sendAppKeyUpdate netKeyIndex waitTime appKeyIndex node.primaryElementAddress

/-- Returns the nodes left in the list that is passed by reference. -/
def distributeKeys (refreshAppKeys : Bool) (appKeyIndexesToRefresh : List UInt16)
    (nodes : List BleMeshNode) (netKeyIndex : UInt16) (waitTime : ℤ) :
    Refresh (List BleMeshNode) := do
  let nodes ← distributeNetKey netKeyIndex waitTime nodes
  if refreshAppKeys then
    Program.forEach appKeyIndexesToRefresh (distributeAppKey nodes netKeyIndex waitTime)
  return nodes

def sendKrPhaseSet (netKeyIndex phase destAddress : UInt16) : Refresh Unit := do
  let _ ← perform (.configSet destAddress .krPhaseSet
    { netKeyIndex := netKeyIndex, numberOfElements := 0, phase := phase.toUInt8 })

/-- The error of `set_key_phase` is reported and nothing else depends on it. -/
def setKeyRefreshPhase (netKeyIndex phase : UInt16) (nodes : List BleMeshNode) :
    Refresh Unit := do
  let error ← perform (.setKeyPhase netKeyIndex phase)
  match error with
  | some _ => report .fail netKeyIndex "active" (phase.toNat - 1)
  | none => report .none netKeyIndex "active" phase.toNat
  sendKrPhaseSet netKeyIndex phase localNodeAddress
  Program.forEach nodes fun node => sendKrPhaseSet netKeyIndex phase node.primaryElementAddress

structure RefreshArgs where
  refreshAppKeys : Bool
  appKeyIndexesToRefresh : List UInt16
  blackListedNodes : List UInt16
  nodes : List BleMeshNode
  netKeyIndex : UInt16
  waitTime : ℤ
  deriving DecidableEq, Repr

def updateSubnetError (message : String) : BluetoothError :=
  if strstr message "Does not exist" then .meshNetKeyIndexDoesNotExist else .fail

def startRefresh (a : RefreshArgs) : Refresh Unit := do
  perform (.callback .none)
  report .none a.netKeyIndex "idle" 0
  report .none a.netKeyIndex "active" 1
  let error ← perform (.addNetKey localNodeAddress 0 0 true)
  match error with
  | some _ =>
    report .meshNetkeyUpdateFailed a.netKeyIndex "active" 1 (some localNodeAddress)
  | none => return ()

/-- The part of `keyRefresh` after the subnet has been updated. -/
def refreshNodes (a : RefreshArgs) : Refresh Unit := do
  startRefresh a
  let nodes ← removeBlackListedNodes a.blackListedNodes a.nodes
  let nodes ← distributeKeys a.refreshAppKeys a.appKeyIndexesToRefresh nodes a.netKeyIndex
    a.waitTime
  perform (.sleep (a.waitTime + ConfigClient.respondWaitDuration))
  setKeyRefreshPhase a.netKeyIndex 2 nodes
  perform (.sleep a.waitTime)
  setKeyRefreshPhase a.netKeyIndex 3 nodes
  perform (.sleep a.waitTime)
  report .none a.netKeyIndex "completed" 0

def keyRefresh (a : RefreshArgs) : Refresh Unit := do
  let error ← perform (.updateSubnet a.netKeyIndex)
  match error with
  | some message => perform (.callback (updateSubnetError message))
  | none => refreshNodes a

end BluezSil.Mesh
