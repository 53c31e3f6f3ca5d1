import BluezSil.MeshConfigClient
import BluezSil.TransitionRun

/-!
# One answer for each request of the configuration client

The client is run over any order of requests, received messages and expiring
timers. A request is known by the id of its timer, and every `modelConfigResult`
is credited to the request it is made for. An accepted request is answered once
as long as the messages that answer requests are well formed and no failing key
message withdraws an older request of the same node.
-/

namespace BluezSil.Mesh

open ByteAccess RequestLedger TransitionRun

inductive ConfigCall
  | configGet (destAddress : UInt16) (config : ConfigName) (netKeyIndex : UInt16)
  | configSet (destAddress : UInt16) (config : ConfigName) (args : ConfigSetArgs)
  | getCompositionData (destAddress : UInt16)
  | deleteNode (destAddress : UInt16) (count : UInt8)
  deriving DecidableEq, Repr

def ConfigClient.perform (c : ConfigClient) (reply : Reply) : ConfigCall → Outcome
  | .configGet destAddress config netKeyIndex => c.configGet destAddress config netKeyIndex reply
  | .configSet destAddress config args => c.configSet destAddress config args reply
  | .getCompositionData destAddress => c.getCompositionData destAddress reply
  | .deleteNode destAddress count => c.deleteNode destAddress count reply

/-- The calls that a `modelConfigResult` answers. -/
def ConfigCall.expectsResult : ConfigCall → Bool
  | .configGet _ _ _ => true
  | .getCompositionData _ => true
  | .configSet _ config _ => config != .netKeyUpdate && config != .krPhaseSet
  | .deleteNode _ _ => false

/-- The node of a call that queues its request before the message is sent and
waits for an application key status. -/
def ConfigCall.appKeyDest : ConfigCall → Option UInt16
  | .configSet destAddress .appKeyAdd _ => some destAddress
  | .configSet destAddress .appKeyUpdate _ => some destAddress
  | _ => none

/-- The node, the network key index and the application key index of a call that
waits for an application key status. -/
def ConfigCall.keyRequest : ConfigCall → Option (UInt16 × UInt16 × UInt16)
  | .configSet destAddress .appKeyAdd a => some (destAddress, a.netKeyIndex, a.appKeyIndex)
  | .configSet destAddress .appKeyUpdate a => some (destAddress, a.netKeyIndex, a.appKeyIndex)
  | .configSet destAddress .appKeyDelete a => some (destAddress, a.netKeyIndex, a.appKeyIndex)
  | _ => none

/-- The responses that are reported when they are well formed. -/
def reportedResponses : List UInt32 :=
  [opAppkeyStatus, opAppkeyList, opModelAppStatus, opConfigDefaultTtlStatus,
   opConfigProxyStatus, opConfigRelayStatus, opDevCompStatus]

structure WellFormedReply (opcode : UInt32) (payload : List UInt8) : Prop where
  appKeyStatus : opcode = opAppkeyStatus → payload.length = 4
  appKeyList : opcode = opAppkeyList → 3 ≤ payload.length ∧ payload.head? = some meshStatusSuccess
  modelApp : opcode = opModelAppStatus → payload.length = 7 ∨ payload.length = 9
  defaultTtl : opcode = opConfigDefaultTtlStatus → payload.length = 1
  proxy : opcode = opConfigProxyStatus → payload.length = 1
  relay : opcode = opConfigRelayStatus → payload.length = 2
  composition : opcode = opDevCompStatus → payload.length ≤ 65535 ∧ PayloadFramed payload

def isModelConfigResult : Output → Bool
  | .modelConfigResult _ _ => true
  | _ => false

def credit (id : ℕ) (outputs : List Output) : List ℕ :=
  List.replicate (outputs.countP isModelConfigResult) id

inductive ConfigEvent
  | request (call : ConfigCall) (reply : Reply)
  | recvData (srcAddress : UInt16) (data : List UInt8) (deleted : Reply)
  | timerExpired (timer : ℕ) (deleted : Reply)
  deriving DecidableEq, Repr

structure ClientRun where
  client : ConfigClient := {}
  accepted : List ℕ := []
  reported : List ℕ := []
  deriving DecidableEq, Repr

/-- A step is refused for a timer that is not live, and where the handler of a
message leaves the message. -/
def ClientRun.step (s : ClientRun) : ConfigEvent → Option ClientRun
  | .request call reply =>
    let o := s.client.perform reply call
    let id := s.client.nextSource
    some { client := o.client
           accepted :=
             if o.error = .none ∧ call.expectsResult then id :: s.accepted else s.accepted
           reported := credit id o.outputs ++ s.reported }
  | .recvData srcAddress data deleted =>
    match s.client.matchMessage srcAddress data, s.client.recvData srcAddress data deleted with
    | .ok req, .ok o =>
      some { s with
        client := o.client
        -- no request has the id 0
        reported := credit ((req.map fun m => m.1.timer).getD 0) o.outputs ++ s.reported }
    | _, _ => none
  | .timerExpired timer deleted =>
    (s.client.pendingRequestTimerExpired timer deleted).map fun (client, outputs) =>
      { s with client := client, reported := credit timer outputs ++ s.reported }

def configMachine : Machine ClientRun ConfigEvent := ⟨{}, ClientRun.step⟩

/-- The steps on which the client answers as it should. -/
def Answers (s : ClientRun) : ConfigEvent → Prop
  | .request call reply => reply ≠ none → ∀ destAddress, call.appKeyDest = some destAddress →
      s.client.getRequestFromResponse opAppkeyStatus destAddress = none
  | .recvData srcAddress data _ => ∀ req opcode payload,
      s.client.matchMessage srcAddress data = .ok (some (req, opcode, payload)) →
      WellFormedReply opcode payload
  | .timerExpired _ _ => True

/-! ### What a call does to the queue -/

/-- What is known of the request a call queues. The key index is kept with the
request for an update only. -/
structure ConfigCall.Queues (call : ConfigCall) (r : BleMeshPendingRequest) : Prop where
  reported : call.expectsResult → r.resp ∈ reportedResponses
  key : r.resp = opAppkeyStatus → ∃ destAddress netKeyIndex appKeyIndex,
    call.keyRequest = some (destAddress, netKeyIndex, appKeyIndex) ∧ r.addr = destAddress ∧
    r.keyRefreshData.appKeyIndex = if r.req = opAppkeyUpdate then appKeyIndex else 0

/-- The outcomes of a call: refused before anything is queued, sent and queued,
sent without waiting for a response, or queued and withdrawn when sending failed. -/
inductive Performed (c : ConfigClient) (call : ConfigCall) (reply : Reply) : Outcome → Prop
  | refused {e : BluetoothError} {outputs : List Output} : e ≠ .none →
      Performed c call reply ⟨c, e, outputs⟩
  | sent {r : BleMeshPendingRequest} {outputs : List Output} : reply = none →
      r.timer = c.nextSource → call.Queues r → Performed c call reply ⟨c.push r, .none, outputs⟩
  | unawaited {outputs : List Output} : call.expectsResult = false →
      Performed c call reply ⟨c, .none, outputs⟩
  | withdrawn {r : BleMeshPendingRequest} {e : BluetoothError} {outputs : List Output} :
      reply ≠ none → r.timer = c.nextSource → e ≠ .none →
      r.resp = opNetkeyStatus ∨ r.resp = opAppkeyStatus ∧ call.appKeyDest = some r.addr →
      Performed c call reply ⟨(c.push r).deletePendingRequest r.resp r.addr, e, outputs⟩

variable {c : ConfigClient} {call : ConfigCall} {reply : Reply}

theorem addPendingRequest_eq (c : ConfigClient) {opcode : UInt32} {cmd : BleMeshConfigCmd}
    (hcmd : responseEntry opcode = some cmd) (destAddress : UInt16) (count : UInt8) :
    c.addPendingRequest opcode destAddress count =
      c.push { timer := c.nextSource, req := opcode, resp := cmd.rsp, addr := destAddress,
               count := count, desc := cmd.desc } := by
  rw [ConfigClient.addPendingRequest, hcmd]

theorem performed_sendAndAwait {opcode : UInt32} {cmd : BleMeshConfigCmd}
    (hcmd : responseEntry opcode = some cmd)
    (hrsp : call.expectsResult → cmd.rsp ∈ reportedResponses) (destAddress netKeyIndex : UInt16)
    (arguments : List UInt8) (count : UInt8)
    (hkey : cmd.rsp = opAppkeyStatus → opcode ≠ opAppkeyUpdate ∧
      ∃ net app, call.keyRequest = some (destAddress, net, app)) :
    Performed c call reply
      (c.sendAndAwait opcode destAddress netKeyIndex arguments reply count) := by
  cases reply with
  | some message => exact Performed.refused (by decide)
  | none =>
      have hsent := addPendingRequest_eq c hcmd destAddress count
      simp only [ConfigClient.sendAndAwait, devKeySend, if_true, hsent]
      refine Performed.sent rfl rfl ⟨hrsp, fun hresp => ?_⟩
      obtain ⟨hop, net, app, hcall⟩ := hkey hresp
      exact ⟨destAddress, net, app, hcall, rfl, (if_neg hop).symm⟩

theorem addAppKeyError_ne_none (message : String) :
    ConfigClient.addAppKeyError message ≠ .none := by
  rw [ConfigClient.addAppKeyError]
  split_ifs <;> decide

theorem performed_addAppKey {destAddress net app : UInt16}
    (hdest : call.appKeyDest = some destAddress)
    (hkey : call.keyRequest = some (destAddress, net, app)) (update : Bool) (waitTime : ℤ) :
    Performed c call reply
      (c.addAppKey destAddress net app update waitTime reply) := by
  have hreported : opAppkeyStatus ∈ reportedResponses := by decide
  cases update <;> cases reply with
  | some message =>
      exact Performed.withdrawn (Option.some_ne_none _) rfl (addAppKeyError_ne_none message)
        (Or.inr ⟨rfl, hdest⟩)
  | none =>
      exact Performed.sent rfl rfl
        ⟨fun _ => hreported, fun _ => ⟨destAddress, net, app, hkey, rfl, rfl⟩⟩

theorem performed_configNetKeyUpdate (hexp : call.expectsResult = false)
    (destAddress netKeyIndex : UInt16) (waitTime numberOfElements : ℤ) :
    Performed c call reply
      (c.configNetKeyUpdate destAddress netKeyIndex waitTime numberOfElements reply) := by
  cases reply with
  | some message =>
      exact Performed.withdrawn (Option.some_ne_none _) rfl (fun h => nomatch h) (Or.inl rfl)
  | none =>
      refine Performed.sent rfl rfl ⟨fun h => ?_, fun h => ?_⟩
      · rw [hexp] at h
        exact absurd h Bool.false_ne_true
      · have hne : opNetkeyStatus ≠ opAppkeyStatus := by decide
        exact absurd h hne

theorem performed_configKrPhaseSet (hexp : call.expectsResult = false)
    (destAddress netKeyIndex : UInt16) (phase : UInt8) :
    Performed c call reply (c.configKrPhaseSet destAddress netKeyIndex phase reply) := by
  cases reply with
  | some message => exact Performed.refused (fun h => nomatch h)
  | none => exact Performed.unawaited hexp

theorem performed_setDefaultTTL (destAddress netKeyIndex : UInt16) (ttl : UInt8) :
    Performed c call reply (c.setDefaultTTL destAddress netKeyIndex ttl reply) := by
  rw [ConfigClient.setDefaultTTL]
  split_ifs
  · exact Performed.refused (fun h => nomatch h)
  · exact performed_sendAndAwait rfl (fun _ => by decide) _ _ _ _ (fun h => absurd h (by decide))

theorem performed_perform (c : ConfigClient) (call : ConfigCall) (reply : Reply) :
    Performed c call reply (c.perform reply call) := by
  cases call with
  | getCompositionData destAddress =>
      exact performed_sendAndAwait rfl (fun _ => by decide) _ _ _ _ (fun h => absurd h (by decide))
  | deleteNode destAddress count =>
      refine performed_sendAndAwait rfl ?_ _ _ _ _ (fun h => absurd h (by decide))
      exact fun h => absurd (h : false = true) Bool.false_ne_true
  | configGet destAddress config netKeyIndex =>
      cases config with
      | appKeyIndex | defaultTTL | gattProxy | relay =>
          exact performed_sendAndAwait rfl (fun _ => by decide) _ _ _ _
            (fun h => absurd h (by decide))
      | _ => exact Performed.refused (fun h => nomatch h)
  | configSet destAddress config args =>
      cases config with
      | appKeyAdd | appKeyUpdate => exact performed_addAppKey rfl rfl _ _
      | appKeyDelete =>
          exact performed_sendAndAwait rfl (fun _ => by decide) _ _ _ _
            (fun _ => ⟨by decide, _, _, rfl⟩)
      | appKeyBind | appKeyUnbind | gattProxy | relay =>
          exact performed_sendAndAwait rfl (fun _ => by decide) _ _ _ _
            (fun h => absurd h (by decide))
      | defaultTTL => exact performed_setDefaultTTL _ _ _
      | netKeyUpdate => exact performed_configNetKeyUpdate rfl _ _ _ _
      | krPhaseSet => exact performed_configKrPhaseSet rfl _ _ _
      | appKeyIndex | other => exact Performed.refused (fun h => nomatch h)

/-! ### What an answer and a time-out do to the queue -/

theorem resultCount_append (xs ys : List Output) :
    (xs ++ ys).countP isModelConfigResult =
      xs.countP isModelConfigResult + ys.countP isModelConfigResult :=
  List.countP_append

theorem credit_replicate (id : ℕ) (outputs : List Output) (n : ℕ)
    (h : outputs.countP isModelConfigResult = n) : credit id outputs = List.replicate n id := by
  rw [credit, h]

theorem perform_countP (c : ConfigClient) (call : ConfigCall) (reply : Reply) :
    (c.perform reply call).outputs.countP isModelConfigResult = 0 := by
  cases call with
  | getCompositionData | deleteNode => cases reply <;> rfl
  | configGet _ config _ => cases config <;> cases reply <;> rfl
  | configSet _ config args =>
      cases config with
      | defaultTTL =>
          change (c.setDefaultTTL _ _ _ _).outputs.countP _ = 0
          rw [ConfigClient.setDefaultTTL]
          split_ifs
          · rfl
          · cases reply <;> rfl
      | _ => cases reply <;> rfl

theorem expiryOutputs_countP (r : BleMeshPendingRequest) (deleted : Reply) :
    (ConfigClient.expiryOutputs r deleted).countP isModelConfigResult = 1 := by
  rw [ConfigClient.expiryOutputs, resultCount_append, resultCount_append, resultCount_append]
  split_ifs <;> rfl

theorem decodeStatus_handled {opcode : UInt32} {payload : List UInt8}
    (hop : opcode ∈ reportedResponses) (h : WellFormedReply opcode payload)
    (configuration : BleMeshConfiguration) :
    ∃ handled, decodeStatus (opcode &&& ~~~opUnreliable) configuration payload =
      .ok (some handled) := by
  simp only [reportedResponses, List.mem_cons, List.not_mem_nil, or_false] at hop
  rcases hop with rfl | rfl | rfl | rfl | rfl | rfl | rfl
  · obtain ⟨_, _, hstatus⟩ := decodeStatus_appKeyStatus (h.appKeyStatus rfl) configuration
    exact ⟨_, hstatus⟩
  · obtain ⟨hlen, hhead⟩ := h.appKeyList rfl
    match payload, hlen, hhead with
    | status :: net₀ :: net₁ :: data, _, hhead =>
        obtain rfl : status = meshStatusSuccess := by simpa using hhead
        exact ⟨_, decodeStatus_appKeyList meshStatusSuccess net₀ net₁ data configuration⟩
  · exact ⟨_, decodeStatus_modelApp (h.modelApp rfl) configuration⟩
  · match payload, h.defaultTtl rfl with
    | [_], _ => exact ⟨_, rfl⟩
  · match payload, h.proxy rfl with
    | [_], _ => exact ⟨_, rfl⟩
  · match payload, h.relay rfl with
    | [_, _], _ => exact ⟨_, rfl⟩
  · obtain ⟨hlen, hframed⟩ := h.composition rfl
    obtain ⟨compositionData, hread⟩ := (compositionReceived_inBounds_iff payload hlen).mpr hframed
    change ∃ handled, (compositionReceived payload (UInt16.ofNat payload.length) >>= _) = _
    rw [hread]
    exact ⟨_, rfl⟩

theorem matchMessage_request {srcAddress : UInt16} {data payload : List UInt8}
    {req : BleMeshPendingRequest} {opcode : UInt32}
    (h : c.matchMessage srcAddress data = .ok (some (req, opcode, payload))) :
    c.getRequestFromResponse opcode srcAddress = some req := by
  obtain ⟨decoded, _, h⟩ := bind_eq_ok.mp h
  cases decoded with
  | none => cases h
  | some decoded =>
      obtain ⟨opcode', n⟩ := decoded
      cases hreq : c.getRequestFromResponse opcode' srcAddress with
      | none => simp [hreq, pure, Except.pure] at h
      | some req' =>
          simp only [hreq, pure, Except.pure, Except.ok.injEq, Option.some.injEq,
            Prod.mk.injEq] at h
          obtain ⟨rfl, rfl, _⟩ := h
          exact hreq

theorem recvData_of_match (hc : c.Timed) {srcAddress : UInt16} {data payload : List UInt8}
    {deleted : Reply} {req : BleMeshPendingRequest} {opcode : UInt32} {o : Received}
    (hmatch : c.matchMessage srcAddress data = .ok (some (req, opcode, payload)))
    (ho : c.recvData srcAddress data deleted = .ok o) :
    o.client = c.drop req ∧ (opcode ∈ reportedResponses → WellFormedReply opcode payload →
      o.outputs.countP isModelConfigResult = 1) := by
  have hdel := hc.deletePendingRequest_eq (matchMessage_request hmatch)
  rw [ConfigClient.recvData_eq_of_match hmatch, hdel] at ho
  cases hdecode : decodeStatus (opcode &&& ~~~opUnreliable)
      { config := req.desc, nodeAddress := srcAddress } payload with
  | error f =>
      rw [hdecode] at ho
      cases ho
  | ok handled =>
      rw [hdecode] at ho
      cases ho
      refine ⟨rfl, fun hop hwell => ?_⟩
      obtain ⟨configuration, hhandled⟩ := decodeStatus_handled hop hwell
        { config := req.desc, nodeAddress := srcAddress }
      rw [hhandled] at hdecode
      cases hdecode
      rw [resultCount_append]
      split_ifs <;> rfl

theorem recvData_of_no_match {srcAddress : UInt16} {data : List UInt8} {deleted : Reply}
    {o : Received} (hmatch : c.matchMessage srcAddress data = .ok none)
    (ho : c.recvData srcAddress data deleted = .ok o) : o = ⟨c, false, []⟩ := by
  rw [ConfigClient.recvData, hmatch, bind_ok] at ho
  cases ho
  rfl

theorem timerExpired_of_pending (hc : c.Timed) {r : BleMeshPendingRequest}
    (hr : r ∈ c.pendingRequests) (deleted : Reply) :
    c.pendingRequestTimerExpired r.timer deleted =
      some (c.drop r, ConfigClient.expiryOutputs r deleted) := by
  have hfind := hc.find_timer hr
  rw [ConfigClient.pendingRequestTimerExpired, hc.sources_eq, hfind]
  simp only [ConfigClient.removeSource, ConfigClient.drop]
  rw [hc.sources_eq, eraseP_of_find hfind]

theorem timerExpired_request (hc : c.Timed) {timer : ℕ} {deleted : Reply}
    {o : ConfigClient × List Output} (ho : c.pendingRequestTimerExpired timer deleted = some o) :
    ∃ r ∈ c.pendingRequests, r.timer = timer := by
  rw [ConfigClient.pendingRequestTimerExpired, hc.sources_eq] at ho
  cases hfind : c.pendingRequests.find? (fun r => r.timer == timer) with
  | none => simp [hfind] at ho
  | some r => exact ⟨r, List.mem_of_find?_eq_some hfind, by simpa using List.find?_some hfind⟩

/-! ### The ledger of a run -/

namespace ClientRun

def ledger (s : ClientRun) : Ledger ℕ :=
  ⟨s.accepted, s.client.pendingRequests.map (·.timer), s.reported⟩

structure Good (s : ClientRun) : Prop where
  timed : s.client.Timed
  accepted_old : ∀ id ∈ s.accepted, id < s.client.nextSource
  reported_old : ∀ id ∈ s.reported, id < s.client.nextSource
  reportable : ∀ r ∈ s.client.pendingRequests, r.timer ∈ s.accepted → r.resp ∈ reportedResponses

theorem good_init : Good {} where
  timed := ConfigClient.timed_init
  accepted_old := fun _ h => absurd h List.not_mem_nil
  reported_old := fun _ h => absurd h List.not_mem_nil
  reportable := fun _ h => absurd h List.not_mem_nil

variable {s : ClientRun} {r : BleMeshPendingRequest}

theorem Good.fresh (h : s.Good) : s.client.nextSource ∉ s.accepted ∧
    s.client.nextSource ∉ s.ledger.pending ∧ s.client.nextSource ∉ s.reported := by
  refine ⟨fun hmem => ?_, fun hmem => ?_, fun hmem => ?_⟩
  · exact Nat.lt_irrefl _ (h.accepted_old _ hmem)
  · obtain ⟨q, hq, heq⟩ := List.mem_map.mp hmem
    have := h.timed.old q hq
    omega
  · exact Nat.lt_irrefl _ (h.reported_old _ hmem)

theorem ledger_push (s : ClientRun) (hr : r.timer = s.client.nextSource) (accepted : List ℕ) :
    ledger { s with client := s.client.push r, accepted := accepted } =
      { s.ledger with
        opened := accepted, pending := s.ledger.pending ++ [s.client.nextSource] } := by
  simp only [ledger, ConfigClient.push, List.map_append, List.map_cons, List.map_nil, hr]

theorem Good.push_accepted (h : s.Good) (hr : r.timer = s.client.nextSource)
    (hresp : r.resp ∈ reportedResponses) :
    Good { s with client := s.client.push r, accepted := s.client.nextSource :: s.accepted } ∧
      Ledger.Step s.ledger
        (ledger { s with client := s.client.push r,
                         accepted := s.client.nextSource :: s.accepted }) := by
  constructor
  · refine ⟨h.timed.push hr, ?_, fun id hid => Nat.lt_succ_of_lt (h.reported_old id hid), ?_⟩
    · intro id hid
      rcases List.mem_cons.mp hid with rfl | hid
      · exact Nat.lt_succ_self _
      · exact Nat.lt_succ_of_lt (h.accepted_old id hid)
    · intro q hq hacc
      rcases List.mem_append.mp hq with hq | hq
      · have hold := h.timed.old q hq
        rcases List.mem_cons.mp hacc with heq | hacc
        · omega
        · exact h.reportable q hq hacc
      · rwa [List.mem_singleton.mp hq]
  · rw [ledger_push s hr]
    exact Ledger.Step.openRequest _ h.fresh.1 h.fresh.2.1 h.fresh.2.2

theorem Good.push (h : s.Good) (hr : r.timer = s.client.nextSource) :
    Good { s with client := s.client.push r } ∧
      Ledger.Step s.ledger (ledger { s with client := s.client.push r }) := by
  constructor
  · refine ⟨h.timed.push hr, fun id hid => Nat.lt_succ_of_lt (h.accepted_old id hid),
      fun id hid => Nat.lt_succ_of_lt (h.reported_old id hid), ?_⟩
    intro q hq hacc
    rcases List.mem_append.mp hq with hq | hq
    · exact h.reportable q hq hacc
    · rw [List.mem_singleton.mp hq, hr] at hacc
      exact absurd hacc h.fresh.1
  · have hpush := ledger_push s hr s.accepted
    rw [hpush]
    exact Ledger.Step.queue _ h.fresh.1

theorem Good.drop (h : s.Good) (hr : r ∈ s.client.pendingRequests) (n : ℕ)
    (hone : r.timer ∈ s.accepted → n = 1) :
    Good { s with client := s.client.drop r, reported := List.replicate n r.timer ++ s.reported } ∧
      Ledger.Step s.ledger
        (ledger { s with client := s.client.drop r,
                         reported := List.replicate n r.timer ++ s.reported }) := by
  constructor
  · refine ⟨h.timed.drop, h.accepted_old, ?_, ?_⟩
    · intro id hid
      rcases List.mem_append.mp hid with hid | hid
      · rw [List.eq_of_mem_replicate hid]
        exact h.timed.old r hr
      · exact h.reported_old id hid
    · intro q hq hacc
      exact h.reportable q (List.mem_of_mem_erase hq) hacc
  · have hpending : (s.client.drop r).pendingRequests.map (·.timer) =
        s.ledger.pending.erase r.timer :=
      map_erase_of_nodup (fun q : BleMeshPendingRequest => q.timer) h.timed.nodup hr
    change Ledger.Step s.ledger ⟨s.accepted, (s.client.drop r).pendingRequests.map (·.timer), _⟩
    rw [hpending]
    exact Ledger.Step.answer r.timer n (List.mem_map_of_mem hr) hone

/-- A failing key message withdraws nothing that has been accepted. -/
theorem Good.withdraw (h : s.Good) (hr : r.timer = s.client.nextSource)
    (hnone : r.resp ∈ reportedResponses →
      s.client.getRequestFromResponse r.resp r.addr = none) :
    Good { s with client := (s.client.push r).deletePendingRequest r.resp r.addr } ∧
      Ledger.Steps s.ledger
        (ledger { s with client := (s.client.push r).deletePendingRequest r.resp r.addr }) := by
  obtain ⟨hpush, hstep⟩ := h.push hr
  cases hreq : (s.client.push r).getRequestFromResponse r.resp r.addr with
  | none =>
      rw [ConfigClient.deletePendingRequest_of_none hreq]
      exact ⟨hpush, .single hstep⟩
  | some q =>
      rw [hpush.timed.deletePendingRequest_eq hreq]
      obtain ⟨hmem, hresp, haddr⟩ := ConfigClient.getRequestFromResponse_spec hreq
      have hunaccepted : q.timer ∉ s.accepted := by
        intro hacc
        have hreportable := hpush.reportable q hmem hacc
        have hold := hnone (hresp ▸ hreportable)
        rcases List.mem_append.mp hmem with hq | hq
        · exact List.find?_eq_none.mp hold q hq
            (BleMeshPendingRequest.awaits_iff.mpr ⟨hresp, haddr⟩)
        · rw [List.mem_singleton.mp hq, hr] at hacc
          exact h.fresh.1 hacc
      obtain ⟨hdrop, hstep'⟩ := hpush.drop hmem 0 (fun hacc => absurd hacc hunaccepted)
      exact ⟨hdrop, .tail (.single hstep) hstep'⟩

theorem Good.request {t : ClientRun} {call : ConfigCall} {reply : Reply} (h : s.Good)
    (hans : Answers s (.request call reply)) (hstep : s.step (.request call reply) = some t) :
    t.Good ∧ Ledger.Steps s.ledger t.ledger := by
  have hsilent := perform_countP s.client call reply
  cases hstep
  rw [credit_replicate _ _ 0 hsilent]
  change Good ⟨_, _, s.reported⟩ ∧ Ledger.Steps s.ledger (ledger ⟨_, _, s.reported⟩)
  have hperf := performed_perform s.client call reply
  generalize s.client.perform reply call = o at hperf
  cases hperf with
  | refused he =>
      rw [if_neg (fun hacc => he hacc.1)]
      exact ⟨h, .refl⟩
  | sent _ hr hresp =>
      by_cases hexp : call.expectsResult = true
      · rw [if_pos ⟨rfl, hexp⟩]
        exact (h.push_accepted hr (hresp.reported hexp)).imp_right .single
      · rw [if_neg (fun hacc => hexp hacc.2)]
        exact (h.push hr).imp_right .single
  | unawaited hexp =>
      rw [if_neg (fun hacc => by rw [hexp] at hacc; exact nomatch hacc.2)]
      exact ⟨h, .refl⟩
  | withdrawn hreply hr he hwait =>
      rw [if_neg (fun hacc => he hacc.1)]
      apply h.withdraw hr
      intro hreported
      rcases hwait with hnet | ⟨happ, hdest⟩
      · rw [hnet] at hreported
        exact absurd hreported (by decide)
      · rw [happ]
        exact hans hreply _ hdest

theorem Good.recvData {t : ClientRun} {srcAddress : UInt16} {data : List UInt8}
    {deleted : Reply} (h : s.Good) (hans : Answers s (.recvData srcAddress data deleted))
    (hstep : s.step (.recvData srcAddress data deleted) = some t) :
    t.Good ∧ Ledger.Steps s.ledger t.ledger := by
  simp only [ClientRun.step] at hstep
  split at hstep
  case h_2 => cases hstep
  case h_1 req o hmatch ho =>
    cases hstep
    cases req with
    | none =>
        rw [recvData_of_no_match hmatch ho]
        exact ⟨h, .refl⟩
    | some m =>
        obtain ⟨req, opcode, payload⟩ := m
        obtain ⟨hclient, hone⟩ := recvData_of_match h.timed hmatch ho
        obtain ⟨hmem, hresp, _⟩ :=
          ConfigClient.getRequestFromResponse_spec (matchMessage_request hmatch)
        rw [hclient]
        refine (h.drop hmem _ (fun hacc => ?_)).imp_right .single
        exact hone (hresp ▸ h.reportable req hmem hacc) (hans req opcode payload hmatch)

theorem Good.timerExpired {t : ClientRun} {timer : ℕ} {deleted : Reply} (h : s.Good)
    (hstep : s.step (.timerExpired timer deleted) = some t) :
    t.Good ∧ Ledger.Steps s.ledger t.ledger := by
  simp only [ClientRun.step, Option.map_eq_some_iff] at hstep
  obtain ⟨o, ho, rfl⟩ := hstep
  obtain ⟨r, hr, rfl⟩ := timerExpired_request h.timed ho
  rw [timerExpired_of_pending h.timed hr] at ho
  cases ho
  rw [credit_replicate _ _ 1 (expiryOutputs_countP r deleted)]
  exact (h.drop hr 1 (fun _ => rfl)).imp_right .single

/-- A step on which the client answers keeps the invariant, and does to the ledger
what a well-behaved server does. -/
theorem Good.step {t : ClientRun} {e : ConfigEvent} (h : s.Good) (hans : Answers s e)
    (hstep : s.step e = some t) : t.Good ∧ Ledger.Steps s.ledger t.ledger := by
  cases e with
  | request call reply => exact h.request hans hstep
  | recvData srcAddress data deleted => exact h.recvData hans hstep
  | timerExpired timer deleted => exact h.timerExpired hstep

def Pending (s : ClientRun) (id : ℕ) : Prop := ∃ r ∈ s.client.pendingRequests, r.timer = id

instance (s : ClientRun) (id : ℕ) : Decidable (s.Pending id) :=
  inferInstanceAs (Decidable (∃ r ∈ s.client.pendingRequests, r.timer = id))

theorem mem_ledger_pending {s : ClientRun} {id : ℕ} : id ∈ s.ledger.pending ↔ s.Pending id :=
  List.mem_map

theorem good_of_reach {s : ClientRun} (hs : configMachine.ReachWith Answers s) :
    s.Good ∧ s.ledger.Settled := by
  refine hs.invariant (P := fun s => s.Good ∧ s.ledger.Settled) ?_ ?_
  · exact ⟨good_init, fun id hid => absurd hid List.not_mem_nil⟩
  · rintro s e t ⟨hgood, hsettled⟩ hans hstep
    obtain ⟨hgood', hsteps⟩ := hgood.step hans hstep
    exact ⟨hgood', hsettled.steps hsteps⟩

end ClientRun

/-- In a run whose steps are all answered as they should be, an accepted request
waits without a result and its timer is ready to give it one, or it has left the
queue for good with exactly one result. -/
theorem configClient_answers_once {s : ClientRun} (hs : configMachine.ReachWith Answers s)
    {id : ℕ} (hid : id ∈ s.accepted) :
    (s.Pending id → s.reported.count id = 0 ∧ ∀ deleted, ∃ t,
      s.step (.timerExpired id deleted) = some t ∧ ¬ t.Pending id ∧ t.reported.count id = 1) ∧
    (¬ s.Pending id → s.reported.count id = 1 ∧ ∀ e t,
      Answers s e → s.step e = some t → ¬ t.Pending id) := by
  obtain ⟨hgood, hsettled⟩ := ClientRun.good_of_reach hs
  constructor
  · intro hpend
    have hzero : s.reported.count id = 0 :=
      hsettled.unanswered hid (ClientRun.mem_ledger_pending.mpr hpend)
    refine ⟨hzero, fun deleted => ?_⟩
    obtain ⟨r, hr, rfl⟩ := hpend
    have hexpire := timerExpired_of_pending hgood.timed hr deleted
    have hcredit := credit_replicate r.timer _ 1 (expiryOutputs_countP r deleted)
    refine ⟨_, by rw [ClientRun.step, hexpire]; rfl, ?_, ?_⟩
    · rintro ⟨q, hq, htimer⟩
      have hnodup : s.client.pendingRequests.Nodup := hgood.timed.nodup.of_map
      obtain ⟨hne, hmem⟩ := hnodup.mem_erase_iff.mp hq
      exact hne (List.inj_on_of_nodup_map hgood.timed.nodup hmem hr htimer)
    · change (credit r.timer _ ++ s.reported).count r.timer = 1
      rw [hcredit, List.count_append, hzero, List.count_replicate_self]
  · intro hgone
    have hgone' : id ∉ s.ledger.pending := fun hmem => hgone (ClientRun.mem_ledger_pending.mp hmem)
    refine ⟨hsettled.answered_once hid hgone', fun e t hans hstep hpend => ?_⟩
    obtain ⟨_, hsteps⟩ := hgood.step hans hstep
    exact hsteps.not_pending hid hgone' (ClientRun.mem_ledger_pending.mpr hpend)

/-- A key list asked for and waited for. -/
theorem configClient_answers_once_keyList :
    ∃ s : ClientRun, 1 ∈ s.accepted ∧ s.Pending 1 ∧
      (s.Pending 1 → s.reported.count 1 = 0 ∧ ∀ deleted, ∃ t,
        s.step (.timerExpired 1 deleted) = some t ∧ ¬ t.Pending 1 ∧ t.reported.count 1 = 1) ∧
      (¬ s.Pending 1 → s.reported.count 1 = 1 ∧ ∀ e t,
        Answers s e → s.step e = some t → ¬ t.Pending 1) := by
  have hans : Answers configMachine.init (.request (.configGet 5 .appKeyIndex 0) none) :=
    fun h => absurd rfl h
  exact ⟨_, by decide, by decide,
    configClient_answers_once (.step .init hans rfl) (by decide)⟩

/-- A key list that is too short to be read is dropped together with the request
it answers. -/
theorem configClient_drops_request :
    ¬ ∀ s : ClientRun, configMachine.Reach s → ∀ id ∈ s.accepted,
      s.Pending id ∨ s.reported.count id = 1 := by
  intro h
  have hrun : ∃ t, configMachine.run configMachine.init
      [.request (.configGet 5 .appKeyIndex 0) none, .recvData 5 [0x80, 0x02] none] = some t ∧
      1 ∈ t.accepted ∧ ¬ (t.Pending 1 ∨ t.reported.count 1 = 1) :=
    ⟨_, rfl, by decide, by decide⟩
  obtain ⟨t, hrun, hacc, hlost⟩ := hrun
  exact hlost (h t (Machine.reach_of_run _ hrun) 1 hacc)

end BluezSil.Mesh
