import BluezSil.SilApi
import BluezSil.MeshComposition
import BluezSil.MeshConfigCommands

/-!
# The mesh configuration client

Requests to the configuration server of a node, the handler of the messages that
answer them, and the handler of the timers that give up on them. The replies of
the D-Bus calls made on the way are arguments; what the functions send and report
is their list of outputs.
-/

namespace BluezSil.Mesh

open ByteAccess

structure BleMeshRelayStatus where
  relay : UInt8 := 0
  relayRetransmitCount : UInt8 := 0
  relayRetransmitIntervalSteps : UInt8 := 0
  deriving DecidableEq, Repr

/-- A field is `none` until its setter has been called. -/
structure BleMeshConfiguration where
  config : String
  nodeAddress : UInt16
  netKeyIndex : Option UInt16 := none
  appKeyIndex : Option UInt16 := none
  appKeyIndexes : Option (List UInt16) := none
  ttl : Option UInt8 := none
  gattProxyState : Option UInt8 := none
  relayStatus : Option BleMeshRelayStatus := none
  compositionData : Option BleMeshCompositionData := none
  deriving DecidableEq, Repr

/-- The arguments of the observer's `keyRefreshResult`; the last two are optional
there. -/
structure KeyRefreshReport where
  error : BluetoothError
  netKeyIndex : UInt16
  status : String
  phase : ℕ
  nodeAddress : Option UInt16 := none
  appKeyIndex : Option UInt16 := none
  deriving DecidableEq, Repr

/-- D-Bus calls with their replies, and calls of the mesh observer. -/
inductive Output
  | devKeySend (destAddress netKeyIndex : UInt16) (msg : List UInt8) (reply : Reply)
  | addNetKey (destAddress subnetIndex netKeyIndex : UInt16) (update : Bool) (reply : Reply)
  | addAppKey (destAddress appKeyIndex netKeyIndex : UInt16) (update : Bool) (reply : Reply)
  | deleteRemoteNode (primaryAddress : UInt16) (count : UInt8) (reply : Reply)
  | stopReqTimer
  | modelConfigResult (configuration : BleMeshConfiguration) (error : BluetoothError)
  | keyRefreshResult (report : KeyRefreshReport)
  deriving DecidableEq, Repr

structure Outcome where
  client : ConfigClient
  error : BluetoothError
  outputs : List Output
  deriving DecidableEq, Repr

def defaultNetKeyIndex : UInt16 := 0x0000
def ttlMask : UInt8 := 0x7f
def opUnreliable : UInt32 := 0x0100
def meshStatusSuccess : UInt8 := 0x00

def devKeySend (destAddress netKeyIndex : UInt16) (msg : List UInt8) (reply : Reply) :
    BluetoothError × List Output :=
  match reply with
  | some _ => (.fail, [.devKeySend destAddress netKeyIndex msg reply, .stopReqTimer])
  | none => (.none, [.devKeySend destAddress netKeyIndex msg reply])

namespace ConfigClient

/-! ### Requests -/

/-- The shape shared by the requests sent with the device key: send the message,
and queue the request if the send succeeded. -/
def sendAndAwait (c : ConfigClient) (opcode : UInt32) (destAddress netKeyIndex : UInt16)
    (arguments : List UInt8) (reply : Reply) (count : UInt8 := 0) : Outcome :=
  let (btError, outputs) :=
    devKeySend destAddress netKeyIndex (meshOpcodeSet opcode ++ arguments) reply
  if btError = .none then ⟨c.addPendingRequest opcode destAddress count, btError, outputs⟩
  else ⟨c, btError, outputs⟩

def getDefaultTTL (c : ConfigClient) (destAddress netKeyIndex : UInt16) (reply : Reply) :
    Outcome :=
  c.sendAndAwait opConfigDefaultTtlGet destAddress netKeyIndex [] reply

def getGATTProxy (c : ConfigClient) (destAddress netKeyIndex : UInt16) (reply : Reply) :
    Outcome :=
  c.sendAndAwait opConfigProxyGet destAddress netKeyIndex [] reply

def getRelay (c : ConfigClient) (destAddress netKeyIndex : UInt16) (reply : Reply) : Outcome :=
  c.sendAndAwait opConfigRelayGet destAddress netKeyIndex [] reply

def getAppKeyIndex (c : ConfigClient) (destAddress netKeyIndex : UInt16) (reply : Reply) :
    Outcome :=
  c.sendAndAwait opAppkeyGet destAddress netKeyIndex (putLe16 netKeyIndex) reply

def getCompositionData (c : ConfigClient) (destAddress : UInt16) (reply : Reply) : Outcome :=
  -- page 0
  c.sendAndAwait opDevCompGet destAddress defaultNetKeyIndex [0] reply

def deleteNode (c : ConfigClient) (destAddress : UInt16) (count : UInt8) (reply : Reply) :
    Outcome :=
  c.sendAndAwait opNodeReset destAddress defaultNetKeyIndex [] reply count

def putModelId (modelId : UInt32) : List UInt8 := putLe16 modelId.toUInt16

def configBindAppKey (c : ConfigClient) (destAddress netKeyIndex appKeyIndex : UInt16)
    (modelId : UInt32) (reply : Reply) : Outcome :=
  c.sendAndAwait opModelAppBind destAddress netKeyIndex
    (putLe16 destAddress ++ putLe16 appKeyIndex ++ putModelId modelId) reply

def configUnBindAppKey (c : ConfigClient) (destAddress netKeyIndex appKeyIndex : UInt16)
    (modelId : UInt32) (reply : Reply) : Outcome :=
  c.sendAndAwait opModelAppUnbind destAddress netKeyIndex
    (putLe16 destAddress ++ putLe16 appKeyIndex ++ putModelId modelId) reply

def setDefaultTTL (c : ConfigClient) (destAddress netKeyIndex : UInt16) (ttl : UInt8)
    (reply : Reply) : Outcome :=
  if ttlMask < ttl then ⟨c, .paramInvalid, []⟩
  else c.sendAndAwait opConfigDefaultTtlSet destAddress netKeyIndex [ttl] reply

def setGATTProxy (c : ConfigClient) (destAddress netKeyIndex : UInt16) (gattProxyState : UInt8)
    (reply : Reply) : Outcome :=
  c.sendAndAwait opConfigProxySet destAddress netKeyIndex [gattProxyState] reply

def setRelay (c : ConfigClient) (destAddress netKeyIndex : UInt16)
    (relayStatus : BleMeshRelayStatus) (reply : Reply) : Outcome :=
  c.sendAndAwait opConfigRelaySet destAddress netKeyIndex
    [relayStatus.relay,
     relayStatus.relayRetransmitCount ||| relayStatus.relayRetransmitIntervalSteps <<< 3] reply

def configAppKeyDelete (c : ConfigClient) (destAddress netKeyIndex appKeyIndex : UInt16)
    (reply : Reply) : Outcome :=
  c.sendAndAwait opAppkeyDelete destAddress netKeyIndex
    [netKeyIndex.toUInt8,
     (((netKeyIndex >>> 8) &&& (0xf : UInt16)) |||
       ((appKeyIndex <<< 4) &&& (0xf0 : UInt16))).toUInt8,
     (appKeyIndex >>> 4).toUInt8] reply

def addAppKeyError (message : String) : BluetoothError :=
  if strstr message "AppKey not found" then .meshAppKeyIndexDoesNotExist
  else if strstr message "Cannot update" then .meshCannotUpdateAppkey
  else .fail

/-- Unlike the requests above, this one is queued before it is sent. -/
def addAppKey (c : ConfigClient) (destAddress netKeyIndex appKeyIndex : UInt16) (update : Bool)
    (waitTime : ℤ) (reply : Reply) : Outcome :=
  let c :=
    if update then
      c.addPendingRefresh opAppkeyUpdate destAddress
        { netKeyIndex := netKeyIndex, appKeyIndex := appKeyIndex, waitTime := waitTime }
    else c.addPendingRequest opAppkeyAdd destAddress
  let outputs := [Output.addAppKey destAddress appKeyIndex netKeyIndex update reply]
  match reply with
  | some message => ⟨c.deletePendingRequest opAppkeyStatus destAddress, addAppKeyError message,
      outputs⟩
  | none => ⟨c, .none, outputs⟩

def configAppKeyAdd (c : ConfigClient) (destAddress netKeyIndex appKeyIndex : UInt16)
    (reply : Reply) : Outcome :=
  c.addAppKey destAddress netKeyIndex appKeyIndex false 0 reply

def configAppKeyUpdate (c : ConfigClient) (destAddress netKeyIndex appKeyIndex : UInt16)
    (waitTime : ℤ) (reply : Reply) : Outcome :=
  c.addAppKey destAddress netKeyIndex appKeyIndex true waitTime reply

def configNetKeyUpdate (c : ConfigClient) (destAddress netKeyIndex : UInt16)
    (waitTime numberOfElements : ℤ) (reply : Reply) : Outcome :=
  let c := c.addPendingRefresh opNetkeyUpdate destAddress
    { netKeyIndex := netKeyIndex, waitTime := waitTime, numberOfElements := numberOfElements }
  let outputs := [Output.addNetKey destAddress netKeyIndex netKeyIndex true reply]
  match reply with
  | some _ => ⟨c.deletePendingRequest opNetkeyStatus destAddress, .fail, outputs⟩
  | none => ⟨c, .none, outputs⟩

def configKrPhaseSet (c : ConfigClient) (destAddress netKeyIndex : UInt16) (phase : UInt8)
    (reply : Reply) : Outcome :=
  let (btError, outputs) := devKeySend destAddress defaultNetKeyIndex
    (meshOpcodeSet opConfigKeyRefreshPhaseSet ++ putLe16 netKeyIndex ++ [phase]) reply
  ⟨c, btError, outputs⟩

end ConfigClient

/-- The texts that `configGet` and `configSet` compare their argument with. -/
inductive ConfigName
  | appKeyIndex
  | defaultTTL
  | gattProxy
  | relay
  | appKeyAdd
  | appKeyUpdate
  | appKeyDelete
  | appKeyBind
  | appKeyUnbind
  | netKeyUpdate
  | krPhaseSet
  | other
  deriving DecidableEq, Repr

/-- The arguments of `configSet` after the address and the name. The relay status
is passed by pointer and read for `RELAY` only. -/
structure ConfigSetArgs where
  gattProxyState : UInt8 := 0
  netKeyIndex : UInt16
  appKeyIndex : UInt16 := 0
  modelId : UInt32 := 0
  ttl : UInt8 := 0
  relayStatus : BleMeshRelayStatus := {}
  waitTime : ℤ := 0
  numberOfElements : ℤ := 1
  phase : UInt8 := 3
  deriving DecidableEq, Repr

namespace ConfigClient

def configGet (c : ConfigClient) (destAddress : UInt16) (config : ConfigName)
    (netKeyIndex : UInt16) (reply : Reply) : Outcome :=
  match config with
  | .appKeyIndex => c.getAppKeyIndex destAddress netKeyIndex reply
  | .defaultTTL => c.getDefaultTTL destAddress netKeyIndex reply
  | .gattProxy => c.getGATTProxy destAddress netKeyIndex reply
  | .relay => c.getRelay destAddress netKeyIndex reply
  | _ => ⟨c, .paramInvalid, []⟩

def configSet (c : ConfigClient) (destAddress : UInt16) (config : ConfigName)
    (a : ConfigSetArgs) (reply : Reply) : Outcome :=
  match config with
  | .appKeyAdd => c.configAppKeyAdd destAddress a.netKeyIndex a.appKeyIndex reply
  | .appKeyUpdate => c.configAppKeyUpdate destAddress a.netKeyIndex a.appKeyIndex a.waitTime reply
  | .appKeyBind => c.configBindAppKey destAddress a.netKeyIndex a.appKeyIndex a.modelId reply
  | .defaultTTL => c.setDefaultTTL destAddress a.netKeyIndex a.ttl reply
  | .gattProxy => c.setGATTProxy destAddress a.netKeyIndex a.gattProxyState reply
  | .relay => c.setRelay destAddress a.netKeyIndex a.relayStatus reply
  | .appKeyDelete => c.configAppKeyDelete destAddress a.netKeyIndex a.appKeyIndex reply
  | .appKeyUnbind => c.configUnBindAppKey destAddress a.netKeyIndex a.appKeyIndex a.modelId reply
  | .netKeyUpdate => c.configNetKeyUpdate destAddress a.netKeyIndex a.waitTime a.numberOfElements
      reply
  | .krPhaseSet => c.configKrPhaseSet destAddress a.netKeyIndex a.phase reply
  | _ => ⟨c, .paramInvalid, []⟩

end ConfigClient

/-! ### Answers -/

/-- The indexes of an application key list: two in every three bytes, and one in
two bytes left at the end. -/
def appKeyList : List UInt8 → List UInt16
  | b₀ :: b₁ :: b₂ :: data =>
    (word16 b₀ b₁ &&& 0xfff) :: (word16 b₁ b₂ >>> 4) :: appKeyList data
  | [b₀, b₁] => [word16 b₀ b₁]
  | _ => []

/-- The switch of `recvData`: the configuration to report, if the message is
handled. -/
def decodeStatus (opcode : UInt32) (configuration : BleMeshConfiguration) (data : List UInt8) :
    Access (Option BleMeshConfiguration) :=
  if opcode = opAppkeyStatus then
    if data.length ≠ 4 then .ok none
    else do
      let netIdx ← getLe16 (data.drop 1)
      let appIdx ← getLe16 (data.drop 2)
      return some { configuration with
        netKeyIndex := some (netIdx &&& 0xfff), appKeyIndex := some (appIdx >>> 4) }
  else if opcode = opAppkeyList then
    if data.length < 3 then .ok none
    else do
      let status ← readByte data
      if status ≠ meshStatusSuccess then return none
      return some { configuration with appKeyIndexes := some (appKeyList (data.drop 3)) }
  else if opcode = opModelAppStatus then
    if data.length ≠ 7 ∧ data.length ≠ 9 then .ok none
    else do
      -- element address, key index and model id are read but only logged
      let _ ← getLe16 (data.drop 1)
      let _ ← getLe16 (data.drop 3)
      let _ ← getLe16 (data.drop 5)
      return some configuration
  else if opcode = opConfigDefaultTtlStatus then
    if data.length ≠ 1 then .ok none
    else do
      let ttl ← readByte data
      return some { configuration with ttl := some ttl }
  else if opcode = opConfigProxyStatus then
    if data.length ≠ 1 then .ok none
    else do
      let state ← readByte data
      return some { configuration with gattProxyState := some state }
  else if opcode = opConfigRelayStatus then
    if data.length ≠ 2 then .ok none
    else do
      let relay ← readByte data
      let retransmit ← readByte (data.drop 1)
      return some { configuration with
        relayStatus := some ⟨relay, retransmit &&& 0x7, retransmit >>> 3⟩ }
  else if opcode = opDevCompStatus then do
    let compositionData ← compositionReceived data (UInt16.ofNat data.length)
    return some { configuration with compositionData := some compositionData }
  else .ok none

theorem decodeStatus_appKeyStatus {data : List UInt8} (h : data.length = 4)
    (configuration : BleMeshConfiguration) :
    ∃ netIdx appIdx, decodeStatus opAppkeyStatus configuration data =
      .ok (some { configuration with
        netKeyIndex := some netIdx, appKeyIndex := some appIdx }) := by
  match data, h with
  | [_, _, _, _], _ => exact ⟨_, _, rfl⟩

theorem decodeStatus_appKeyList (status net₀ net₁ : UInt8) (data : List UInt8)
    (configuration : BleMeshConfiguration) :
    decodeStatus opAppkeyList configuration (status :: net₀ :: net₁ :: data) =
      .ok (if status ≠ meshStatusSuccess then none
        else some { configuration with appKeyIndexes := some (appKeyList data) }) := by
  have hlen : ¬ (status :: net₀ :: net₁ :: data).length < 3 := by simp
  rw [decodeStatus, if_neg (by decide), if_pos rfl, if_neg hlen, readByte_cons, bind_ok]
  split_ifs <;> rfl

theorem decodeStatus_modelApp {data : List UInt8} (h : data.length = 7 ∨ data.length = 9)
    (configuration : BleMeshConfiguration) :
    decodeStatus opModelAppStatus configuration data = .ok (some configuration) := by
  rcases h with h | h
  · match data, h with
    | [_, _, _, _, _, _, _], _ => rfl
  · match data, h with
    | [_, _, _, _, _, _, _, _, _], _ => rfl

structure Received where
  client : ConfigClient
  handled : Bool
  outputs : List Output
  deriving DecidableEq, Repr

namespace ConfigClient

/-- The pending request a received message answers, the opcode and the payload. -/
def matchMessage (c : ConfigClient) (srcAddress : UInt16) (data : List UInt8) :
    Access (Option (BleMeshPendingRequest × UInt32 × List UInt8)) := do
  match ← meshOpcodeGet data (UInt16.ofNat data.length) with
  | none => return none
  | some (opcode, n) =>
    match c.getRequestFromResponse opcode srcAddress with
    | none => return none
    | some req => return some (req, opcode, data.drop n)

def recvData (c : ConfigClient) (srcAddress : UInt16) (data : List UInt8) (deleted : Reply) :
    Access Received := do
  match ← c.matchMessage srcAddress data with
  | none => return ⟨c, false, []⟩
  | some (req, opcode, data) =>
    let configuration : BleMeshConfiguration := { config := req.desc, nodeAddress := srcAddress }
    let handled ← decodeStatus (opcode &&& ~~~opUnreliable) configuration data
    let outputs : List Output :=
      if opcode &&& ~~~opUnreliable = opNodeResetStatus then
        [.deleteRemoteNode req.addr req.count deleted]
      else []
    let c := c.deletePendingRequest opcode srcAddress
    match handled with
    | some configuration => return ⟨c, true, outputs ++ [.modelConfigResult configuration .none]⟩
    | none => return ⟨c, false, outputs⟩

theorem recvData_eq_of_match {c : ConfigClient} {srcAddress : UInt16} {data payload : List UInt8}
    {req : BleMeshPendingRequest} {opcode : UInt32}
    (h : c.matchMessage srcAddress data = .ok (some (req, opcode, payload))) (deleted : Reply) :
    c.recvData srcAddress data deleted =
      (decodeStatus (opcode &&& ~~~opUnreliable)
        { config := req.desc, nodeAddress := srcAddress } payload).map fun handled =>
          ⟨c.deletePendingRequest opcode srcAddress, handled.isSome,
            (if opcode &&& ~~~opUnreliable = opNodeResetStatus then
              [.deleteRemoteNode req.addr req.count deleted]
            else []) ++ handled.toList.map fun configuration =>
              .modelConfigResult configuration .none⟩ := by
  rw [recvData, h, bind_ok]
  dsimp only
  cases decodeStatus (opcode &&& ~~~opUnreliable)
      { config := req.desc, nodeAddress := srcAddress } payload with
  | error f => rfl
  | ok handled =>
      cases handled with
      | none =>
          simp only [Except.map, Option.toList_none, List.map_nil, List.append_nil]
          rfl
      | some configuration => rfl

/-! ### Time-outs -/

/-- What `pendingRequestTimerExpired` reports and deletes before it unlinks the
request. -/
def expiryOutputs (pendingReq : BleMeshPendingRequest) (deleted : Reply) : List Output :=
  [.modelConfigResult { config := pendingReq.desc, nodeAddress := pendingReq.addr }
    .meshNoResponseFromNode] ++
  (if pendingReq.resp = opNetkeyStatus then
    [.keyRefreshResult { error := .meshNetkeyUpdateFailed,
                         netKeyIndex := pendingReq.keyRefreshData.netKeyIndex,
                         status := "active", phase := 1, nodeAddress := some pendingReq.addr },
     .deleteRemoteNode pendingReq.addr
      (UInt8.ofInt pendingReq.keyRefreshData.numberOfElements) deleted]
  else []) ++
  (if pendingReq.resp = opAppkeyStatus then
    [.keyRefreshResult { error := .meshCannotUpdateAppkey,
                         netKeyIndex := pendingReq.keyRefreshData.netKeyIndex,
                         status := "active", phase := 1, nodeAddress := some pendingReq.addr,
                         appKeyIndex := some pendingReq.keyRefreshData.appKeyIndex }]
  else []) ++
  (if pendingReq.req = opNodeReset then
    [.deleteRemoteNode pendingReq.addr pendingReq.count deleted]
  else [])

/-- The callback of a live timer source; `none` for an id that is not live. The
callback returns false, so GLib removes the source. -/
def pendingRequestTimerExpired (c : ConfigClient) (timer : ℕ) (deleted : Reply) :
    Option (ConfigClient × List Output) :=
  match c.sources.find? (fun r => r.timer == timer) with
  | none => none
  | some pendingReq =>
    some ({ c.removeSource timer with
              pendingRequests :=
                c.pendingRequests.eraseP fun r => r.timer == pendingReq.timer },
          expiryOutputs pendingReq deleted)

end ConfigClient

end BluezSil.Mesh
