import BluezSil.MeshOpcode
import BluezSil.RequestLedger

/-!
# Commands of the mesh configuration client

The opcodes of the configuration model, the table that names the response each
request waits for, and the queue of requests that wait for one. A queued request
owns a timer source that lives as long as the request is queued.
-/

namespace BluezSil.Mesh

open RequestLedger

/-! ### Opcodes -/

def opAppkeyAdd : UInt32 := 0x00
def opAppkeyDelete : UInt32 := 0x8000
def opAppkeyGet : UInt32 := 0x8001
def opAppkeyList : UInt32 := 0x8002
def opAppkeyStatus : UInt32 := 0x8003
def opAppkeyUpdate : UInt32 := 0x01
def opDevCompGet : UInt32 := 0x8008
def opDevCompStatus : UInt32 := 0x02
def opConfigBeaconGet : UInt32 := 0x8009
def opConfigBeaconSet : UInt32 := 0x800A
def opConfigBeaconStatus : UInt32 := 0x800B
def opConfigDefaultTtlGet : UInt32 := 0x800C
def opConfigDefaultTtlSet : UInt32 := 0x800D
def opConfigDefaultTtlStatus : UInt32 := 0x800E
def opConfigFriendGet : UInt32 := 0x800F
def opConfigFriendSet : UInt32 := 0x8010
def opConfigFriendStatus : UInt32 := 0x8011
def opConfigProxyGet : UInt32 := 0x8012
def opConfigProxySet : UInt32 := 0x8013
def opConfigProxyStatus : UInt32 := 0x8014
def opConfigKeyRefreshPhaseGet : UInt32 := 0x8015
def opConfigKeyRefreshPhaseSet : UInt32 := 0x8016
def opConfigKeyRefreshPhaseStatus : UInt32 := 0x8017
def opConfigModelPubGet : UInt32 := 0x8018
def opConfigModelPubSet : UInt32 := 0x03
def opConfigModelPubStatus : UInt32 := 0x8019
def opConfigModelPubVirtSet : UInt32 := 0x801A
def opConfigModelSubAdd : UInt32 := 0x801B
def opConfigModelSubDelete : UInt32 := 0x801C
def opConfigModelSubDeleteAll : UInt32 := 0x801D
def opConfigModelSubOverwrite : UInt32 := 0x801E
def opConfigModelSubStatus : UInt32 := 0x801F
def opConfigModelSubVirtAdd : UInt32 := 0x8020
def opConfigModelSubVirtDelete : UInt32 := 0x8021
def opConfigModelSubVirtOverwrite : UInt32 := 0x8022
def opConfigNetworkTransmitGet : UInt32 := 0x8023
def opConfigNetworkTransmitSet : UInt32 := 0x8024
def opConfigNetworkTransmitStatus : UInt32 := 0x8025
def opConfigRelayGet : UInt32 := 0x8026
def opConfigRelaySet : UInt32 := 0x8027
def opConfigRelayStatus : UInt32 := 0x8028
def opConfigModelSubGet : UInt32 := 0x8029
def opConfigModelSubList : UInt32 := 0x802A
def opConfigVendModelSubGet : UInt32 := 0x802B
def opConfigVendModelSubList : UInt32 := 0x802C
def opConfigPollTimeoutList : UInt32 := 0x802D
def opConfigPollTimeoutStatus : UInt32 := 0x802E
def opConfigHeartbeatPubGet : UInt32 := 0x8038
def opConfigHeartbeatPubSet : UInt32 := 0x8039
def opConfigHeartbeatPubStatus : UInt32 := 0x06
def opConfigHeartbeatSubGet : UInt32 := 0x803A
def opConfigHeartbeatSubSet : UInt32 := 0x803B
def opConfigHeartbeatSubStatus : UInt32 := 0x803C
def opModelAppBind : UInt32 := 0x803D
def opModelAppStatus : UInt32 := 0x803E
def opModelAppUnbind : UInt32 := 0x803F
def opNetkeyAdd : UInt32 := 0x8040
def opNetkeyDelete : UInt32 := 0x8041
def opNetkeyGet : UInt32 := 0x8042
def opNetkeyList : UInt32 := 0x8043
def opNetkeyStatus : UInt32 := 0x8044
def opNetkeyUpdate : UInt32 := 0x8045
def opNodeIdentityGet : UInt32 := 0x8046
def opNodeIdentitySet : UInt32 := 0x8047
def opNodeIdentityStatus : UInt32 := 0x8048
def opNodeReset : UInt32 := 0x8049
def opNodeResetStatus : UInt32 := 0x804A
def opModelAppGet : UInt32 := 0x804B
def opModelAppList : UInt32 := 0x804C
def opVendModelAppGet : UInt32 := 0x804D
def opVendModelAppList : UInt32 := 0x804E

/-- Marks the commands that are themselves responses. -/
def noResponse : UInt32 := 0xFFFFFFFF

structure BleMeshConfigCmd where
  opcode : UInt32
  rsp : UInt32
  desc : String
  deriving DecidableEq, Repr

def cmds : List BleMeshConfigCmd :=
  [⟨opAppkeyAdd, opAppkeyStatus, "APPKEY_ADD"⟩,
   ⟨opAppkeyDelete, opAppkeyStatus, "APPKEY_DELETE"⟩,
   ⟨opAppkeyGet, opAppkeyList, "APPKEYINDEX"⟩,
   ⟨opAppkeyList, noResponse, ""⟩,
   ⟨opAppkeyStatus, noResponse, ""⟩,
   ⟨opAppkeyUpdate, opAppkeyStatus, "APPKEY_UPDATE"⟩,
   ⟨opDevCompGet, opDevCompStatus, "COMPOSITION_DATA"⟩,
   ⟨opDevCompStatus, noResponse, ""⟩,
   ⟨opConfigBeaconGet, opConfigBeaconStatus, ""⟩,
   ⟨opConfigBeaconSet, opConfigBeaconStatus, ""⟩,
   ⟨opConfigBeaconStatus, noResponse, ""⟩,
   ⟨opConfigDefaultTtlGet, opConfigDefaultTtlStatus, "DEFAULT_TTL_GET"⟩,
   ⟨opConfigDefaultTtlSet, opConfigDefaultTtlStatus, "DEFAULT_TTL_SET"⟩,
   ⟨opConfigDefaultTtlStatus, noResponse, ""⟩,
   ⟨opConfigFriendGet, opConfigFriendStatus, ""⟩,
   ⟨opConfigFriendSet, opConfigFriendStatus, ""⟩,
   ⟨opConfigFriendStatus, noResponse, ""⟩,
   ⟨opConfigProxyGet, opConfigProxyStatus, "GATT_PROXY_GET"⟩,
   ⟨opConfigProxySet, opConfigProxyStatus, "GATT_PROXY_SET"⟩,
   ⟨opConfigProxyStatus, noResponse, ""⟩,
   ⟨opConfigKeyRefreshPhaseGet, opConfigKeyRefreshPhaseStatus, ""⟩,
   ⟨opConfigKeyRefreshPhaseSet, opConfigKeyRefreshPhaseStatus, ""⟩,
   ⟨opConfigKeyRefreshPhaseStatus, noResponse, ""⟩,
   ⟨opConfigModelPubGet, opConfigModelPubStatus, ""⟩,
   ⟨opConfigModelPubSet, opConfigModelPubStatus, ""⟩,
   ⟨opConfigModelPubStatus, noResponse, ""⟩,
   ⟨opConfigModelPubVirtSet, opConfigModelPubStatus, ""⟩,
   ⟨opConfigModelSubAdd, opConfigModelSubStatus, ""⟩,
   ⟨opConfigModelSubDelete, opConfigModelSubStatus, ""⟩,
   ⟨opConfigModelSubDeleteAll, opConfigModelSubStatus, ""⟩,
   ⟨opConfigModelSubOverwrite, opConfigModelSubStatus, ""⟩,
   ⟨opConfigModelSubStatus, noResponse, ""⟩,
   ⟨opConfigModelSubVirtAdd, opConfigModelSubStatus, ""⟩,
   ⟨opConfigModelSubVirtDelete, opConfigModelSubStatus, ""⟩,
   ⟨opConfigModelSubVirtOverwrite, opConfigModelSubStatus, ""⟩,
   ⟨opConfigNetworkTransmitGet, opConfigNetworkTransmitStatus, ""⟩,
   ⟨opConfigNetworkTransmitSet, opConfigNetworkTransmitStatus, ""⟩,
   ⟨opConfigNetworkTransmitStatus, noResponse, ""⟩,
   ⟨opConfigRelayGet, opConfigRelayStatus, "RELAY_GET"⟩,
   ⟨opConfigRelaySet, opConfigRelayStatus, "RELAY_SET"⟩,
   ⟨opConfigRelayStatus, noResponse, ""⟩,
   ⟨opConfigModelSubGet, opConfigModelSubList, ""⟩,
   ⟨opConfigModelSubList, noResponse, ""⟩,
   ⟨opConfigVendModelSubGet, opConfigVendModelSubList, ""⟩,
   ⟨opConfigVendModelSubList, noResponse, ""⟩,
   ⟨opConfigPollTimeoutList, opConfigPollTimeoutStatus, ""⟩,
   ⟨opConfigPollTimeoutStatus, noResponse, ""⟩,
   ⟨opConfigHeartbeatPubGet, opConfigHeartbeatPubStatus, ""⟩,
   ⟨opConfigHeartbeatPubSet, opConfigHeartbeatPubStatus, ""⟩,
   ⟨opConfigHeartbeatPubStatus, noResponse, ""⟩,
   ⟨opConfigHeartbeatSubGet, opConfigHeartbeatSubStatus, ""⟩,
   ⟨opConfigHeartbeatSubSet, opConfigHeartbeatSubStatus, ""⟩,
   ⟨opConfigHeartbeatSubStatus, noResponse, ""⟩,
   ⟨opModelAppBind, opModelAppStatus, "APPKEY_BIND"⟩,
   ⟨opModelAppStatus, noResponse, ""⟩,
   ⟨opModelAppUnbind, opModelAppStatus, "APPKEY_UNBIND"⟩,
   ⟨opNetkeyAdd, opNetkeyStatus, ""⟩,
   ⟨opNetkeyDelete, opNetkeyStatus, ""⟩,
   ⟨opNetkeyGet, opNetkeyList, ""⟩,
   ⟨opNetkeyList, noResponse, ""⟩,
   ⟨opNetkeyStatus, noResponse, ""⟩,
   ⟨opNetkeyUpdate, opNetkeyStatus, "NETKEY_UPDATE"⟩,
   ⟨opNodeIdentityGet, opNodeIdentityStatus, ""⟩,
   ⟨opNodeIdentitySet, opNodeIdentityStatus, ""⟩,
   ⟨opNodeIdentityStatus, noResponse, ""⟩,
   ⟨opNodeReset, opNodeResetStatus, "NODE_RESET"⟩,
   ⟨opNodeResetStatus, noResponse, ""⟩,
   ⟨opModelAppGet, opModelAppList, ""⟩,
   ⟨opModelAppList, noResponse, ""⟩,
   ⟨opVendModelAppGet, opVendModelAppList, ""⟩,
   ⟨opVendModelAppList, noResponse, ""⟩]

/-- The entry `addPendingRequest` stops at: the first one for the opcode that has
a response. -/
def responseEntry (opcode : UInt32) : Option BleMeshConfigCmd :=
  cmds.find? fun cmd => opcode == cmd.opcode && noResponse != cmd.rsp

/-! ### Pending requests -/

structure BleMeshKeyRefreshData where
  netKeyIndex : UInt16 := 0
  appKeyIndex : UInt16 := 0
  waitTime : ℤ := 0
  numberOfElements : ℤ := 0
  deriving DecidableEq, Repr

/-- `timer` is the id of the GLib source whose expiry stands for a lost response. -/
structure BleMeshPendingRequest where
  timer : ℕ
  req : UInt32
  resp : UInt32
  addr : UInt16
  count : UInt8 := 0
  desc : String
  keyRefreshData : BleMeshKeyRefreshData := {}
  deriving DecidableEq, Repr

/-- The match that the response handler, the failed send and the queue share. -/
def BleMeshPendingRequest.awaits (opcode : UInt32) (destAddr : UInt16)
    (r : BleMeshPendingRequest) : Bool :=
  r.resp == opcode && r.addr == destAddr

theorem BleMeshPendingRequest.awaits_iff {opcode : UInt32} {destAddr : UInt16}
    {r : BleMeshPendingRequest} :
    r.awaits opcode destAddr = true ↔ r.resp = opcode ∧ r.addr = destAddr := by
  simp only [awaits, Bool.and_eq_true, beq_iff_eq]

/-- The queue, and the live timer sources, each given by its user data. -/
structure ConfigClient where
  pendingRequests : List BleMeshPendingRequest := []
  sources : List BleMeshPendingRequest := []
  nextSource : ℕ := 1
  deriving DecidableEq, Repr

namespace ConfigClient

def push (c : ConfigClient) (r : BleMeshPendingRequest) : ConfigClient where
  pendingRequests := c.pendingRequests ++ [r]
  sources := c.sources ++ [r]
  nextSource := c.nextSource + 1

def addPendingRequest (c : ConfigClient) (opcode : UInt32) (destAddr : UInt16)
    (count : UInt8 := 0) : ConfigClient :=
  match responseEntry opcode with
  | none => c
  | some cmd =>
    c.push { timer := c.nextSource, req := opcode, resp := cmd.rsp, addr := destAddr,
             count := count, desc := cmd.desc }

def respondWaitDuration : ℤ := 2
def oneSecond : ℤ := 1000

/-- The overload for the messages of a key refresh, which keeps the keys and the
time to wait with the request. -/
def addPendingRefresh (c : ConfigClient) (opcode : UInt32) (destAddr : UInt16)
    (keyRefreshData : BleMeshKeyRefreshData) : ConfigClient :=
  match responseEntry opcode with
  | none => c
  | some cmd =>
    let waitTime :=
      if keyRefreshData.waitTime = 0 then respondWaitDuration * oneSecond
      else keyRefreshData.waitTime * oneSecond
    c.push { timer := c.nextSource, req := opcode, resp := cmd.rsp, addr := destAddr,
             desc := cmd.desc, keyRefreshData := { keyRefreshData with waitTime := waitTime } }

def getRequestFromResponse (c : ConfigClient) (opcode : UInt32) (destAddr : UInt16) :
    Option BleMeshPendingRequest :=
  c.pendingRequests.find? (BleMeshPendingRequest.awaits opcode destAddr)

def removeSource (c : ConfigClient) (timer : ℕ) : ConfigClient :=
  { c with sources := c.sources.eraseP fun r => r.timer == timer }

def deletePendingRequest (c : ConfigClient) (opcode : UInt32) (destAddr : UInt16) :
    ConfigClient :=
  match c.getRequestFromResponse opcode destAddr with
  | none => c
  | some r =>
    { c.removeSource r.timer with
      pendingRequests :=
        c.pendingRequests.eraseP (BleMeshPendingRequest.awaits opcode destAddr) }

/-! ### Every queued request owns one live timer -/

/-- The queued requests are those whose timers run, in the order of the timers. -/
structure Timed (c : ConfigClient) : Prop where
  sources_eq : c.sources = c.pendingRequests
  sorted : (c.pendingRequests.map (·.timer)).Pairwise (· < ·)
  old : ∀ r ∈ c.pendingRequests, r.timer < c.nextSource

theorem timed_init : Timed {} :=
  ⟨rfl, List.Pairwise.nil, by intro r hr; cases hr⟩

def drop (c : ConfigClient) (r : BleMeshPendingRequest) : ConfigClient :=
  { c with pendingRequests := c.pendingRequests.erase r, sources := c.sources.erase r }

variable {c : ConfigClient} {r : BleMeshPendingRequest}

theorem Timed.nodup (h : c.Timed) : (c.pendingRequests.map (·.timer)).Nodup :=
  h.sorted.imp Nat.ne_of_lt

theorem Timed.push (h : c.Timed) (hr : r.timer = c.nextSource) : (c.push r).Timed where
  sources_eq := by rw [ConfigClient.push, h.sources_eq]
  sorted := by
    rw [ConfigClient.push, List.map_append, List.pairwise_append]
    refine ⟨h.sorted, List.pairwise_singleton _ _, ?_⟩
    intro a ha b hb
    obtain ⟨q, hq, rfl⟩ := List.mem_map.mp ha
    obtain rfl : b = r.timer := by simpa using hb
    rw [hr]
    exact h.old q hq
  old := by
    intro q hq
    change q.timer < c.nextSource + 1
    rcases List.mem_append.mp hq with hq | hq
    · have := h.old q hq
      omega
    · rw [List.mem_singleton.mp hq]
      omega

theorem Timed.drop (h : c.Timed) : (c.drop r).Timed where
  sources_eq := by rw [ConfigClient.drop, h.sources_eq]
  sorted := h.sorted.sublist (List.erase_sublist.map _)
  old := fun q hq => h.old q (List.mem_of_mem_erase hq)

theorem Timed.find_timer (h : c.Timed) (hr : r ∈ c.pendingRequests) :
    c.pendingRequests.find? (fun q => q.timer == r.timer) = some r :=
  find_key (fun q : BleMeshPendingRequest => q.timer) h.nodup hr

theorem getRequestFromResponse_spec {opcode : UInt32} {destAddr : UInt16}
    (hr : c.getRequestFromResponse opcode destAddr = some r) :
    r ∈ c.pendingRequests ∧ r.resp = opcode ∧ r.addr = destAddr :=
  ⟨List.mem_of_find?_eq_some hr, BleMeshPendingRequest.awaits_iff.mp (List.find?_some hr)⟩

theorem Timed.deletePendingRequest_eq (h : c.Timed) {opcode : UInt32} {destAddr : UInt16}
    (hr : c.getRequestFromResponse opcode destAddr = some r) :
    c.deletePendingRequest opcode destAddr = c.drop r := by
  have hmem := (getRequestFromResponse_spec hr).1
  rw [deletePendingRequest, hr]
  simp only [removeSource, ConfigClient.drop]
  rw [h.sources_eq, eraseP_of_find (h.find_timer hmem), eraseP_of_find hr]

theorem deletePendingRequest_of_none {opcode : UInt32} {destAddr : UInt16}
    (hr : c.getRequestFromResponse opcode destAddr = none) :
    c.deletePendingRequest opcode destAddr = c := by
  rw [deletePendingRequest, hr]

theorem mem_of_mem_deletePendingRequest {opcode : UInt32} {destAddr : UInt16}
    {q : BleMeshPendingRequest}
    (hq : q ∈ (c.deletePendingRequest opcode destAddr).pendingRequests) :
    q ∈ c.pendingRequests := by
  cases hr : c.getRequestFromResponse opcode destAddr with
  | none => rwa [deletePendingRequest_of_none hr] at hq
  | some r =>
      rw [ConfigClient.deletePendingRequest, hr] at hq
      exact List.mem_of_mem_eraseP hq

/-- The id of the next timer is in use neither by a queued request nor by a live
source. -/
def FreshTimer (c : ConfigClient) : Prop :=
  (∀ r ∈ c.pendingRequests, r.timer ≠ c.nextSource) ∧ ∀ r ∈ c.sources, r.timer ≠ c.nextSource

def Awaited (c : ConfigClient) (opcode : UInt32) (destAddr : UInt16) : Prop :=
  ∃ r ∈ c.pendingRequests, r.resp = opcode ∧ r.addr = destAddr

theorem Timed.freshTimer (h : c.Timed) : c.FreshTimer := by
  have hold : ∀ r ∈ c.pendingRequests, r.timer ≠ c.nextSource :=
    fun r hr => Nat.ne_of_lt (h.old r hr)
  exact ⟨hold, h.sources_eq ▸ hold⟩

theorem getRequestFromResponse_eq_none_iff {opcode : UInt32} {destAddr : UInt16} :
    c.getRequestFromResponse opcode destAddr = none ↔ ¬ c.Awaited opcode destAddr := by
  rw [getRequestFromResponse, List.find?_eq_none, Awaited]
  simp only [BleMeshPendingRequest.awaits_iff, not_exists, not_and]

/-- Withdrawing the request that was queued last, with no older match: both the
queue and the timers are as before. -/
theorem FreshTimer.withdraw_new (h : c.FreshTimer) (hr : r.timer = c.nextSource)
    (hnone : ¬ c.Awaited r.resp r.addr) :
    ((c.push r).deletePendingRequest r.resp r.addr).pendingRequests = c.pendingRequests ∧
      ((c.push r).deletePendingRequest r.resp r.addr).sources = c.sources := by
  have hself : r.awaits r.resp r.addr = true := BleMeshPendingRequest.awaits_iff.mpr ⟨rfl, rfl⟩
  have hold := getRequestFromResponse_eq_none_iff.mpr hnone
  rw [getRequestFromResponse] at hold
  have hfind : (c.push r).getRequestFromResponse r.resp r.addr = some r := by
    rw [getRequestFromResponse, push, List.find?_append, hold, Option.none_or,
      List.find?_cons_of_pos hself]
  rw [deletePendingRequest, hfind]
  constructor
  · change (c.pendingRequests ++ [r]).eraseP _ = c.pendingRequests
    rw [List.eraseP_append_right _ (List.find?_eq_none.mp hold), List.eraseP_cons_of_pos hself,
      List.append_nil]
  · change (c.sources ++ [r]).eraseP _ = c.sources
    have hsources : ∀ q ∈ c.sources, ¬ (q.timer == r.timer) = true := by
      intro q hq heq
      exact h.2 q hq ((beq_iff_eq.mp heq).trans hr)
    rw [List.eraseP_append_right _ hsources,
      List.eraseP_cons_of_pos (p := fun q : BleMeshPendingRequest => q.timer == r.timer)
        (beq_self_eq_true _), List.append_nil]

theorem Timed.mem_of_mem_withdraw (h : c.Timed) (hr : r.timer = c.nextSource)
    (hnone : ∀ q ∈ c.pendingRequests, ¬ (q.resp = r.resp ∧ q.addr = r.addr))
    {q : BleMeshPendingRequest}
    (hq : q ∈ ((c.push r).deletePendingRequest r.resp r.addr).pendingRequests) :
    q ∈ c.pendingRequests := by
  have hawaited : ¬ c.Awaited r.resp r.addr := fun ⟨p, hp, hmatch⟩ => hnone p hp hmatch
  rwa [(h.freshTimer.withdraw_new hr hawaited).1] at hq

theorem Timed.deletePendingRequest (h : c.Timed) (opcode : UInt32) (destAddr : UInt16) :
    (c.deletePendingRequest opcode destAddr).Timed := by
  cases hr : c.getRequestFromResponse opcode destAddr with
  | none => rwa [deletePendingRequest_of_none hr]
  | some r =>
      rw [h.deletePendingRequest_eq hr]
      exact h.drop

end ConfigClient

end BluezSil.Mesh
