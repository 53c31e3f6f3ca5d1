import BluezSil.KeyedMap
import BluezSil.MeshConfigRuns
import BluezSil.MeshConfigStatus

/-!
# The configuration client and its nodes

The client asks nodes for their default TTL, GATT proxy state and relay status, and sets them.
How a node serves the messages is up to its configuration server; all that is known is that a
status it sends is in the state it tells. Messages are on their way for any time, in any order,
and may be lost; a node may change its state by itself, and whoever is not a node may send
anything.
-/

namespace BluezSil.Mesh

open ByteAccess TransitionRun TransitionRun.Machine

/-- A part of a node's state as it is on the wire. -/
inductive NodeValue
  | ttl (value : UInt8)
  | gattProxy (state : UInt8)
  | relay (state retransmit : UInt8)
  deriving DecidableEq

def NodeValue.statusMessage : NodeValue → List UInt8
  | .ttl value => [0x80, 0x0E, value]
  | .gattProxy state => [0x80, 0x14, state]
  | .relay state retransmit => [0x80, 0x28, state, retransmit]

def NodeValue.setMessage : NodeValue → List UInt8
  | .ttl value => [0x80, 0x0D, value]
  | .gattProxy state => [0x80, 0x13, state]
  | .relay state retransmit => [0x80, 0x27, state, retransmit]

def sentMessages (outputs : List Output) : List (UInt16 × List UInt8) :=
  outputs.filterMap fun
    | .devKeySend destAddress _ msg none => some (destAddress, msg)
    | _ => none

def configResults (outputs : List Output) : List (BleMeshConfiguration × BluetoothError) :=
  outputs.filterMap fun
    | .modelConfigResult configuration error => some (configuration, error)
    | _ => none

def valueStatuses : List UInt32 :=
  [opConfigDefaultTtlStatus, opConfigProxyStatus, opConfigRelayStatus]

/-- The client reads the message as one that tells a value. -/
def isValueStatus (data : List UInt8) : Bool :=
  match meshOpcodeGet data (UInt16.ofNat data.length) with
  | .ok (some (opcode, _)) => opcode &&& ~~~opUnreliable ∈ valueStatuses
  | _ => false

/-- The configuration servers of the nodes, whose states are of some type: the values of a
state, and what a message makes of it and is answered. -/
structure ConfigServer (N : Type) where
  values : N → List NodeValue
  serve : N → List UInt8 → N × Option (List UInt8)

namespace ConfigServer

variable {N : Type} (server : ConfigServer N)

/-- A status tells a value that its node is in then. -/
def Documented : Prop :=
  ∀ n message answer, (server.serve n message).2 = some answer → isValueStatus answer = true →
    ∃ value ∈ server.values (server.serve n message).1, answer = value.statusMessage

/-- The values that a message makes a node have though it does not set them. -/
def changed (n : N) (message : List UInt8) : List NodeValue :=
  (server.values (server.serve n message).1).filter fun value =>
    value ∉ server.values n ∧ message ≠ value.setMessage

end ConfigServer

/-- The client, the nodes, the messages on their way, and the results told. `asked` lists the
accepted calls, and `own` what the nodes have changed by themselves. -/
structure ConfigNetwork (N : Type) where
  client : ConfigClient := {}
  nodes : KeyedMap UInt16 N
  toNodes : List (UInt16 × List UInt8) := []
  toClient : List (UInt16 × List UInt8) := []
  told : List (BleMeshConfiguration × BluetoothError) := []
  asked : List ConfigCall := []
  own : List (UInt16 × NodeValue) := []

inductive NetworkEvent (N : Type)
  | call (call : ConfigCall) (reply : Reply)
  | serve (address : UInt16) (message : List UInt8)
  | lost (address : UInt16) (message : List UInt8)
  | receive (address : UInt16) (answer : List UInt8) (deleted : Reply)
  | answerLost (address : UInt16) (answer : List UInt8)
  /-- Any message that is no node's answer to the messages above. -/
  | other (srcAddress : UInt16) (data : List UInt8) (deleted : Reply)
  | timerExpired (timer : ℕ) (deleted : Reply)
  | changes (address : UInt16) (n : N)

namespace ConfigNetwork

variable {N : Type} (s : ConfigNetwork N)

def hear (srcAddress : UInt16) (data : List UInt8) (deleted : Reply) : Option (ConfigNetwork N) :=
  match s.client.recvData srcAddress data deleted with
  | .ok o => some { s with client := o.client, told := s.told ++ configResults o.outputs }
  | .error _ => none

def step (server : ConfigServer N) (s : ConfigNetwork N) :
    NetworkEvent N → Option (ConfigNetwork N)
  | .call call reply =>
    let o := s.client.perform reply call
    some { s with
      client := o.client
      toNodes := s.toNodes ++ sentMessages o.outputs
      told := s.told ++ configResults o.outputs
      asked := if o.error = .none then s.asked ++ [call] else s.asked }
  | .serve address message =>
    if (address, message) ∈ s.toNodes then
      (s.nodes.lookup address).map fun n =>
        { s with
          nodes := s.nodes.insert address (server.serve n message).1
          toNodes := s.toNodes.erase (address, message)
          toClient := s.toClient ++ (server.serve n message).2.toList.map fun a => (address, a)
          own := s.own ++ (server.changed n message).map fun value => (address, value) }
    else none
  | .lost address message => some { s with toNodes := s.toNodes.erase (address, message) }
  | .receive address answer deleted =>
    if (address, answer) ∈ s.toClient then
      { s with toClient := s.toClient.erase (address, answer) }.hear address answer deleted
    else none
  | .answerLost address answer => some { s with toClient := s.toClient.erase (address, answer) }
  | .other srcAddress data deleted =>
    if srcAddress ∈ s.nodes ∧ isValueStatus data then none else s.hear srcAddress data deleted
  | .timerExpired timer deleted =>
    (s.client.pendingRequestTimerExpired timer deleted).map fun (client, outputs) =>
      { s with client, told := s.told ++ configResults outputs }
  | .changes address n =>
    if address ∈ s.nodes then
      some { s with
        nodes := s.nodes.insert address n
        own := s.own ++ (server.values n).map fun value => (address, value) }
    else none

end ConfigNetwork

def configNetwork {N : Type} (server : ConfigServer N) (nodes : KeyedMap UInt16 N) :
    Machine (ConfigNetwork N) (NetworkEvent N) :=
  ⟨{ nodes }, ConfigNetwork.step server⟩

/-! ### Where values come from -/

def BleMeshRelayStatus.retransmit (r : BleMeshRelayStatus) : UInt8 :=
  r.relayRetransmitCount ||| r.relayRetransmitIntervalSteps <<< 3

def ConfigCall.value : ConfigCall → Option (UInt16 × NodeValue)
  | .configSet destAddress .defaultTTL a => some (destAddress, .ttl a.ttl)
  | .configSet destAddress .gattProxy a => some (destAddress, .gattProxy a.gattProxyState)
  | .configSet destAddress .relay a =>
    some (destAddress, .relay a.relayStatus.relay a.relayStatus.retransmit)
  | _ => none

/-- A node has had the value: from the start, from itself or from a call. -/
def ConfigNetwork.Had {N : Type} (s : ConfigNetwork N) (server : ConfigServer N)
    (nodes : KeyedMap UInt16 N) (address : UInt16) (value : NodeValue) : Prop :=
  (∃ n, nodes.lookup address = some n ∧ value ∈ server.values n) ∨ (address, value) ∈ s.own ∨
    ∃ call ∈ s.asked, call.value = some (address, value)

def BleMeshConfiguration.Tells (c : BleMeshConfiguration) : NodeValue → Prop
  | .ttl value => c.ttl = some value
  | .gattProxy state => c.gattProxyState = some state
  | .relay state retransmit =>
    c.relayStatus = some ⟨state, retransmit &&& 0x7, retransmit >>> 3⟩

def NodeValue.tell (c : BleMeshConfiguration) : NodeValue → BleMeshConfiguration
  | .ttl value => { c with ttl := some value }
  | .gattProxy state => { c with gattProxyState := some state }
  | .relay state retransmit =>
    { c with relayStatus := some ⟨state, retransmit &&& 0x7, retransmit >>> 3⟩ }

section Answers

variable {c : ConfigClient} {a : UInt16} {data payload : List UInt8} {deleted : Reply}
variable {opcode : UInt32} {o : Received} {configuration told : BleMeshConfiguration}

theorem matchMessage_opcode {req : BleMeshPendingRequest}
    (h : c.matchMessage a data = .ok (some (req, opcode, payload))) :
    ∃ n, meshOpcodeGet data (UInt16.ofNat data.length) = .ok (some (opcode, n)) ∧
      payload = data.drop n := by
  obtain ⟨decoded, hget, h⟩ := bind_eq_ok.mp h
  cases decoded with
  | none => cases h
  | some decoded =>
      obtain ⟨opcode', n⟩ := decoded
      cases hreq : c.getRequestFromResponse opcode' a with
      | none => simp [hreq, pure, Except.pure] at h
      | some req' =>
          simp only [hreq, pure, Except.pure, Except.ok.injEq, Option.some.injEq,
            Prod.mk.injEq] at h
          obtain ⟨rfl, rfl, rfl⟩ := h
          exact ⟨n, hget, rfl⟩

/-- A message gives one result at most, which is decoded from it. -/
theorem configResults_recvData (h : c.recvData a data deleted = .ok o) :
    configResults o.outputs = [] ∨ ∃ opcode n config told,
      meshOpcodeGet data (UInt16.ofNat data.length) = .ok (some (opcode, n)) ∧
      decodeStatus (opcode &&& ~~~opUnreliable) { config, nodeAddress := a } (data.drop n) =
        .ok (some told) ∧ configResults o.outputs = [(told, .none)] := by
  cases hmatch : c.matchMessage a data with
  | error f =>
      rw [ConfigClient.recvData, hmatch] at h
      cases h
  | ok matched =>
      cases matched with
      | none =>
          rw [recvData_of_no_match hmatch h]
          exact .inl rfl
      | some matched =>
          obtain ⟨req, opcode, payload⟩ := matched
          obtain ⟨n, hget, rfl⟩ := matchMessage_opcode hmatch
          rw [ConfigClient.recvData_eq_of_match hmatch] at h
          cases hdecode : decodeStatus (opcode &&& ~~~opUnreliable)
              { config := req.desc, nodeAddress := a } (data.drop n) with
          | error f =>
              rw [hdecode] at h
              cases h
          | ok handled =>
              rw [hdecode] at h
              cases h
              cases handled with
              | none =>
                  left
                  dsimp only
                  split_ifs <;> rfl
              | some told =>
                  refine .inr ⟨opcode, n, req.desc, told, hget, hdecode, ?_⟩
                  dsimp only
                  split_ifs <;> rfl

theorem decodeStatus_told (h : decodeStatus opcode configuration payload = .ok (some told)) :
    told.nodeAddress = configuration.nodeAddress ∧
    (opcode ∉ valueStatuses → told.ttl = configuration.ttl ∧
      told.gattProxyState = configuration.gattProxyState ∧
      told.relayStatus = configuration.relayStatus) := by
  unfold decodeStatus at h
  split_ifs at h with _ _ _ _ _ _ hop _ hop _ hop _ _
  · cases h
  · obtain ⟨net, -, h⟩ := bind_eq_ok.mp h
    obtain ⟨app, -, h⟩ := bind_eq_ok.mp h
    cases h
    exact ⟨rfl, fun _ => ⟨rfl, rfl, rfl⟩⟩
  · cases h
  · obtain ⟨status, -, h⟩ := bind_eq_ok.mp h
    split_ifs at h
    · cases h
    · cases h
      exact ⟨rfl, fun _ => ⟨rfl, rfl, rfl⟩⟩
  · cases h
  · obtain ⟨element, -, h⟩ := bind_eq_ok.mp h
    obtain ⟨app, -, h⟩ := bind_eq_ok.mp h
    obtain ⟨model, -, h⟩ := bind_eq_ok.mp h
    cases h
    exact ⟨rfl, fun _ => ⟨rfl, rfl, rfl⟩⟩
  · cases h
  · obtain ⟨ttl, -, h⟩ := bind_eq_ok.mp h
    cases h
    exact ⟨rfl, fun hnot => absurd (by rw [hop]; decide) hnot⟩
  · cases h
  · obtain ⟨state, -, h⟩ := bind_eq_ok.mp h
    cases h
    exact ⟨rfl, fun hnot => absurd (by rw [hop]; decide) hnot⟩
  · cases h
  · obtain ⟨relay, -, h⟩ := bind_eq_ok.mp h
    obtain ⟨retransmit, -, h⟩ := bind_eq_ok.mp h
    cases h
    exact ⟨rfl, fun hnot => absurd (by rw [hop]; decide) hnot⟩
  · obtain ⟨compositionData, -, h⟩ := bind_eq_ok.mp h
    cases h
    exact ⟨rfl, fun _ => ⟨rfl, rfl, rfl⟩⟩
  · cases h

def NodeValue.statusOpcode : NodeValue → UInt32
  | .ttl _ => opConfigDefaultTtlStatus
  | .gattProxy _ => opConfigProxyStatus
  | .relay _ _ => opConfigRelayStatus

theorem statusMessage_read (value : NodeValue) :
    value.statusOpcode &&& ~~~opUnreliable = value.statusOpcode ∧
      meshOpcodeGet value.statusMessage (UInt16.ofNat value.statusMessage.length) =
        .ok (some (value.statusOpcode, 2)) ∧
      ∀ c, decodeStatus value.statusOpcode c (value.statusMessage.drop 2) =
        .ok (some (value.tell c)) := by
  have httl : opConfigDefaultTtlStatus &&& ~~~opUnreliable = opConfigDefaultTtlStatus := by decide
  have hproxy : opConfigProxyStatus &&& ~~~opUnreliable = opConfigProxyStatus := by decide
  have hrelay : opConfigRelayStatus &&& ~~~opUnreliable = opConfigRelayStatus := by decide
  cases value with
  | ttl value => exact ⟨httl, rfl, fun _ => rfl⟩
  | gattProxy state => exact ⟨hproxy, rfl, fun _ => rfl⟩
  | relay state retransmit => exact ⟨hrelay, rfl, fun _ => rfl⟩

theorem configResults_statusMessage {value : NodeValue}
    (h : c.recvData a value.statusMessage deleted = .ok o) :
    configResults o.outputs = [] ∨ ∃ config,
      configResults o.outputs = [(value.tell { config, nodeAddress := a }, .none)] := by
  obtain ⟨hmask, hget, hread⟩ := statusMessage_read value
  rcases configResults_recvData h with hnone | ⟨opcode', n, config, told, hget', htold, hresults⟩
  · exact .inl hnone
  · rw [hget] at hget'
    cases hget'
    rw [hmask, hread] at htold
    cases htold
    exact .inr ⟨config, hresults⟩

theorem configResults_other (hother : isValueStatus data = false)
    (h : c.recvData a data deleted = .ok o) :
    ∀ r ∈ configResults o.outputs, r.1.ttl = none ∧ r.1.gattProxyState = none ∧
      r.1.relayStatus = none := by
  rcases configResults_recvData h with hnone | ⟨opcode, n, config, told, hget, htold, hresults⟩
  · rw [hnone]
    exact fun r hr => absurd hr List.not_mem_nil
  · rw [hresults]
    intro r hr
    cases List.mem_singleton.mp hr
    unfold isValueStatus at hother
    rw [hget] at hother
    exact (decodeStatus_told htold).2 (of_decide_eq_false hother)

theorem configResults_address (h : c.recvData a data deleted = .ok o) :
    ∀ r ∈ configResults o.outputs, r.1.nodeAddress = a := by
  rcases configResults_recvData h with hnone | ⟨opcode, n, config, told, hget, htold, hresults⟩
  · rw [hnone]
    exact fun r hr => absurd hr List.not_mem_nil
  · rw [hresults]
    intro r hr
    cases List.mem_singleton.mp hr
    exact (decodeStatus_told htold).1

end Answers

section Requests

variable {c : ConfigClient} {reply : Reply}

theorem setMessage_injective (v w : NodeValue) (h : v.setMessage = w.setMessage) : v = w := by
  cases v <;> cases w <;> cases h <;> rfl

def setOpcodes : List (List UInt8) := [[0x80, 0x0D], [0x80, 0x13], [0x80, 0x27]]

theorem ne_setMessage {opcode : List UInt8} (hlength : opcode.length = 2)
    (hopcode : opcode ∉ setOpcodes) (arguments : List UInt8) (value : NodeValue) :
    opcode ++ arguments ≠ value.setMessage := by
  intro h
  have htake : value.setMessage.take 2 ∈ setOpcodes := by
    cases value with
    | ttl value => exact List.mem_cons_self
    | gattProxy state => exact List.mem_cons_of_mem _ List.mem_cons_self
    | relay state retransmit =>
        exact List.mem_cons_of_mem _ (List.mem_cons_of_mem _ List.mem_cons_self)
  rw [← h, ← hlength, List.take_left] at htake
  exact hopcode htake

theorem sent_sendAndAwait {opcode : UInt32} {destAddress netKeyIndex : UInt16}
    {arguments : List UInt8} {count : UInt8} {m : UInt16 × List UInt8}
    (hm : m ∈ sentMessages
      (c.sendAndAwait opcode destAddress netKeyIndex arguments reply count).outputs) :
    m = (destAddress, meshOpcodeSet opcode ++ arguments) ∧
      (c.sendAndAwait opcode destAddress netKeyIndex arguments reply count).error = .none := by
  cases reply with
  | some message => cases hm
  | none => exact ⟨List.mem_singleton.mp hm, rfl⟩

theorem sent_not {opcode : UInt32} (hlength : (meshOpcodeSet opcode).length = 2)
    (hopcode : meshOpcodeSet opcode ∉ setOpcodes) {destAddress netKeyIndex : UInt16}
    {arguments : List UInt8} {count : UInt8} {m : UInt16 × List UInt8}
    (hm : m ∈ sentMessages
      (c.sendAndAwait opcode destAddress netKeyIndex arguments reply count).outputs)
    (value : NodeValue) : m.2 ≠ value.setMessage := by
  rw [(sent_sendAndAwait hm).1]
  exact ne_setMessage hlength hopcode arguments value

/-- A message that sets a value has been sent by the call that sets it. -/
theorem sent_perform {call : ConfigCall} {m : UInt16 × List UInt8}
    (hm : m ∈ sentMessages (c.perform reply call).outputs) {value : NodeValue}
    (hvalue : m.2 = value.setMessage) :
    (c.perform reply call).error = .none ∧ call.value = some (m.1, value) := by
  cases call with
  | getCompositionData destAddress => exact absurd hvalue (sent_not rfl (by decide) hm value)
  | deleteNode destAddress count => exact absurd hvalue (sent_not rfl (by decide) hm value)
  | configGet destAddress config netKeyIndex =>
      cases config with
      | appKeyIndex | defaultTTL | gattProxy | relay =>
          exact absurd hvalue (sent_not rfl (by decide) hm value)
      | _ => cases hm
  | configSet destAddress config args =>
      cases config with
      | appKeyAdd | appKeyUpdate | netKeyUpdate => cases reply <;> cases hm
      | appKeyBind | appKeyUnbind | appKeyDelete =>
          exact absurd hvalue (sent_not rfl (by decide) hm value)
      | krPhaseSet =>
          cases reply with
          | some message => cases hm
          | none =>
              cases List.mem_singleton.mp hm
              have hsent : meshOpcodeSet opConfigKeyRefreshPhaseSet ++ putLe16 args.netKeyIndex ++
                  [args.phase] = value.setMessage := hvalue
              rw [List.append_assoc] at hsent
              exact absurd hsent (ne_setMessage rfl (by decide) _ value)
      | defaultTTL =>
          change m ∈ sentMessages (c.setDefaultTTL _ _ _ _).outputs at hm
          change (c.setDefaultTTL _ _ _ _).error = _ ∧ _
          unfold ConfigClient.setDefaultTTL at hm ⊢
          split_ifs at hm ⊢ with httl
          · cases hm
          · obtain ⟨rfl, hnone⟩ := sent_sendAndAwait hm
            cases setMessage_injective (.ttl args.ttl) value hvalue
            exact ⟨hnone, rfl⟩
      | gattProxy =>
          obtain ⟨rfl, hnone⟩ := sent_sendAndAwait hm
          cases setMessage_injective (.gattProxy args.gattProxyState) value hvalue
          exact ⟨hnone, rfl⟩
      | relay =>
          obtain ⟨rfl, hnone⟩ := sent_sendAndAwait hm
          cases setMessage_injective
            (.relay args.relayStatus.relay args.relayStatus.retransmit) value hvalue
          exact ⟨hnone, rfl⟩
      | appKeyIndex | other => cases hm

end Requests

section Provenance

variable {N : Type} {server : ConfigServer N} {nodes : KeyedMap UInt16 N} {s t : ConfigNetwork N}

structure ConfigNetwork.Vouches (server : ConfigServer N) (nodes : KeyedMap UInt16 N)
    (s : ConfigNetwork N) (c : BleMeshConfiguration) : Prop where
  ttl : ∀ value, c.ttl = some value → s.Had server nodes c.nodeAddress (.ttl value)
  gattProxy : ∀ state, c.gattProxyState = some state →
    s.Had server nodes c.nodeAddress (.gattProxy state)
  relay : ∀ relayStatus, c.relayStatus = some relayStatus → ∃ state retransmit,
    s.Had server nodes c.nodeAddress (.relay state retransmit) ∧ c.Tells (.relay state retransmit)

structure ConfigNetwork.Good (server : ConfigServer N) (nodes : KeyedMap UInt16 N)
    (s : ConfigNetwork N) : Prop where
  same : ∀ a, a ∈ s.nodes ↔ a ∈ nodes
  sent : ∀ m ∈ s.toNodes, ∀ value : NodeValue, m.2 = value.setMessage →
    s.Had server nodes m.1 value
  had : ∀ a n, s.nodes.lookup a = some n → ∀ value ∈ server.values n, s.Had server nodes a value
  answered : ∀ m ∈ s.toClient, isValueStatus m.2 = true →
    ∃ value : NodeValue, m.2 = value.statusMessage ∧ s.Had server nodes m.1 value
  told : ∀ r ∈ s.told, r.1.nodeAddress ∈ nodes → s.Vouches server nodes r.1

namespace ConfigNetwork

theorem Had.mono {a : UInt16} {value : NodeValue} (h : s.Had server nodes a value)
    (hown : s.own ⊆ t.own) (hasked : s.asked ⊆ t.asked) : t.Had server nodes a value := by
  rcases h with hstart | hin | ⟨call, hcall, hvalue⟩
  · exact .inl hstart
  · exact .inr (.inl (hown hin))
  · exact .inr (.inr ⟨call, hasked hcall, hvalue⟩)

theorem Vouches.mono {c : BleMeshConfiguration} (h : s.Vouches server nodes c)
    (hown : s.own ⊆ t.own) (hasked : s.asked ⊆ t.asked) : t.Vouches server nodes c where
  ttl := fun value hvalue => (h.ttl value hvalue).mono hown hasked
  gattProxy := fun state hstate => (h.gattProxy state hstate).mono hown hasked
  relay := fun relayStatus hrelay =>
    let ⟨state, retransmit, hhad, htells⟩ := h.relay relayStatus hrelay
    ⟨state, retransmit, hhad.mono hown hasked, htells⟩

theorem vouches_of_none {c : BleMeshConfiguration} (httl : c.ttl = none)
    (hproxy : c.gattProxyState = none) (hrelay : c.relayStatus = none) :
    s.Vouches server nodes c where
  ttl := fun value hvalue => by
    rw [httl] at hvalue
    cases hvalue
  gattProxy := fun state hstate => by
    rw [hproxy] at hstate
    cases hstate
  relay := fun relayStatus hstatus => by
    rw [hrelay] at hstatus
    cases hstatus

theorem vouches_tell {a : UInt16} {value : NodeValue} (h : s.Had server nodes a value)
    (config : String) :
    s.Vouches server nodes (value.tell { config, nodeAddress := a }) := by
  cases value with
  | ttl value =>
      refine ⟨fun v hv => ?_, (fun _ hstate => by cases hstate), fun _ hstatus => by cases hstatus⟩
      cases hv
      exact h
  | gattProxy state =>
      refine ⟨(fun _ hv => by cases hv), fun v hv => ?_, fun _ hstatus => by cases hstatus⟩
      cases hv
      exact h
  | relay state retransmit =>
      refine ⟨(fun _ hv => by cases hv), (fun _ hstate => by cases hstate), fun v hv => ?_⟩
      cases hv
      exact ⟨state, retransmit, h, rfl⟩

theorem Good.told_append (h : s.Good server nodes) (client : ConfigClient)
    {results : List (BleMeshConfiguration × BluetoothError)}
    (hresults : ∀ r ∈ results, r.1.nodeAddress ∈ nodes → s.Vouches server nodes r.1) :
    Good server nodes { s with client, told := s.told ++ results } where
  same := h.same
  sent := h.sent
  had := h.had
  answered := h.answered
  told := fun r hr hin => by
    rcases List.mem_append.mp hr with hold | hnew
    · exact (h.told r hold hin).mono (List.Subset.refl _) (List.Subset.refl _)
    · exact (hresults r hnew hin).mono (List.Subset.refl _) (List.Subset.refl _)

theorem Good.hear (h : s.Good server nodes) {a : UInt16} {data : List UInt8} {deleted : Reply}
    (hresults : ∀ o, s.client.recvData a data deleted = .ok o → ∀ r ∈ configResults o.outputs,
      r.1.nodeAddress ∈ nodes → s.Vouches server nodes r.1)
    (hstep : s.hear a data deleted = some t) : t.Good server nodes := by
  unfold ConfigNetwork.hear at hstep
  cases ho : s.client.recvData a data deleted with
  | error f =>
      rw [ho] at hstep
      cases hstep
  | ok o =>
      rw [ho] at hstep
      cases hstep
      exact h.told_append o.client (hresults o ho)

theorem configResults_perform (c : ConfigClient) (call : ConfigCall) (reply : Reply) :
    configResults (c.perform reply call).outputs = [] := by
  have hcount := perform_countP c call reply
  rw [List.countP_eq_zero] at hcount
  refine List.filterMap_eq_nil_iff.mpr fun output hin => ?_
  have hnot := hcount output hin
  cases output with
  | modelConfigResult configuration error => exact absurd rfl hnot
  | _ => rfl

theorem Good.call (h : s.Good server nodes) (call : ConfigCall) (reply : Reply)
    (hstep : s.step server (.call call reply) = some t) : t.Good server nodes := by
  cases hstep
  have hasked : s.asked ⊆ if (s.client.perform reply call).error = .none then s.asked ++ [call]
      else s.asked := by
    split_ifs
    · exact List.subset_append_left _ _
    · exact List.Subset.refl _
  have hown := List.Subset.refl s.own
  refine ⟨h.same, fun m hm value hvalue => ?_, fun a n hn value hin => (h.had a n hn value hin).mono
    hown hasked, fun m hm hstatus => ?_, fun r hr hin => ?_⟩
  · rcases List.mem_append.mp hm with hold | hnew
    · exact (h.sent m hold value hvalue).mono hown hasked
    · obtain ⟨hnone, hcall⟩ := sent_perform hnew hvalue
      refine .inr (.inr ⟨call, ?_, hcall⟩)
      dsimp only
      rw [if_pos hnone]
      exact List.mem_append_right _ (List.mem_singleton_self _)
  · obtain ⟨value, hvalue, hhad⟩ := h.answered m hm hstatus
    exact ⟨value, hvalue, hhad.mono hown hasked⟩
  · have hold : r ∈ s.told := by
      have happend : r ∈ s.told ++ configResults (s.client.perform reply call).outputs := hr
      rw [configResults_perform, List.append_nil] at happend
      exact happend
    exact (h.told r hold hin).mono hown hasked

/-- What a node has after a message it has had before, or the message sets it, or it is a change
of its own. -/
theorem serve_values {n : N} {message : List UInt8} {value : NodeValue}
    (hvalue : value ∈ server.values (server.serve n message).1) :
    value ∈ server.values n ∨ message = value.setMessage ∨ value ∈ server.changed n message := by
  by_cases hold : value ∈ server.values n
  · exact .inl hold
  · by_cases hset : message = value.setMessage
    · exact .inr (.inl hset)
    · exact .inr (.inr (List.mem_filter.mpr ⟨hvalue, decide_eq_true ⟨hold, hset⟩⟩))

theorem Good.serve (hserver : server.Documented) (h : s.Good server nodes) {a : UInt16}
    {message : List UInt8} (hstep : s.step server (.serve a message) = some t) :
    t.Good server nodes := by
  unfold ConfigNetwork.step at hstep
  dsimp only at hstep
  split_ifs at hstep with hin
  obtain ⟨n, hn, rfl⟩ := Option.map_eq_some_iff.mp hstep
  have hown : s.own ⊆ s.own ++ (server.changed n message).map fun value => (a, value) :=
    List.subset_append_left _ _
  have hasked := List.Subset.refl s.asked
  have hserved (value : NodeValue) (hvalue : value ∈ server.values (server.serve n message).1) :
      Had { s with
        nodes := s.nodes.insert a (server.serve n message).1
        toNodes := s.toNodes.erase (a, message)
        toClient := s.toClient ++ (server.serve n message).2.toList.map fun answer => (a, answer)
        own := s.own ++ (server.changed n message).map fun value => (a, value) }
        server nodes a value := by
    rcases serve_values hvalue with hold | hset | hchanged
    · exact (h.had a n hn value hold).mono hown hasked
    · exact (h.sent (a, message) hin value hset).mono hown hasked
    · exact .inr (.inl (List.mem_append_right _ (List.mem_map.mpr ⟨value, hchanged, rfl⟩)))
  refine ⟨fun b => ?_, fun m hm value hvalue => ?_, fun b m hm value hvalue => ?_,
    fun m hm hstatus => ?_, fun r hr hnode => (h.told r hr hnode).mono hown hasked⟩
  · rw [AList.mem_insert, h.same]
    refine or_iff_right_of_imp ?_
    rintro rfl
    exact (h.same b).mp (KeyedMap.mem_of_lookup hn)
  · exact (h.sent m (List.mem_of_mem_erase hm) value hvalue).mono hown hasked
  · rcases KeyedMap.lookup_insert_cases hm with ⟨rfl, rfl⟩ | ⟨-, hold⟩
    · exact hserved value hvalue
    · exact (h.had b m hold value hvalue).mono hown hasked
  · rcases List.mem_append.mp hm with hold | hnew
    · obtain ⟨value, hvalue, hhad⟩ := h.answered m hold hstatus
      exact ⟨value, hvalue, hhad.mono hown hasked⟩
    · obtain ⟨answer, hanswer, rfl⟩ := List.mem_map.mp hnew
      obtain ⟨value, hvalue, htells⟩ :=
        hserver n message answer (Option.mem_toList.mp hanswer) hstatus
      exact ⟨value, htells, hserved value hvalue⟩

theorem Good.receive (h : s.Good server nodes) {a : UInt16} {answer : List UInt8}
    {deleted : Reply} (hstep : s.step server (.receive a answer deleted) = some t) :
    t.Good server nodes := by
  unfold ConfigNetwork.step at hstep
  dsimp only at hstep
  split_ifs at hstep with hin
  have hown := List.Subset.refl s.own
  have hasked := List.Subset.refl s.asked
  have herased : Good server nodes { s with toClient := s.toClient.erase (a, answer) } :=
    ⟨h.same, fun m hm v hv => (h.sent m hm v hv).mono hown hasked,
      fun b n hn v hv => (h.had b n hn v hv).mono hown hasked,
      fun m hm hstatus =>
        let ⟨value, hvalue, hhad⟩ := h.answered m (List.mem_of_mem_erase hm) hstatus
        ⟨value, hvalue, hhad.mono hown hasked⟩,
      fun r hr hnode => (h.told r hr hnode).mono hown hasked⟩
  refine herased.hear (fun o ho r hr _ => ?_) hstep
  cases hstatus : isValueStatus answer with
  | false =>
      obtain ⟨httl, hproxy, hrelay⟩ := configResults_other hstatus ho r hr
      exact vouches_of_none httl hproxy hrelay
  | true =>
      obtain ⟨value, rfl, hvalue⟩ := h.answered (a, answer) hin hstatus
      rcases configResults_statusMessage ho with hnone | ⟨config, hresults⟩
      · rw [hnone] at hr
        exact absurd hr List.not_mem_nil
      · rw [hresults] at hr
        cases List.mem_singleton.mp hr
        exact (vouches_tell hvalue config).mono hown hasked

theorem Good.other (h : s.Good server nodes) {a : UInt16} {data : List UInt8} {deleted : Reply}
    (hstep : s.step server (.other a data deleted) = some t) : t.Good server nodes := by
  unfold ConfigNetwork.step at hstep
  dsimp only at hstep
  split_ifs at hstep with hstatus
  refine h.hear (fun o ho r hr hnode => ?_) hstep
  rw [configResults_address ho r hr, ← h.same] at hnode
  have hother : isValueStatus data = false := by
    cases hread : isValueStatus data with
    | false => rfl
    | true => exact absurd ⟨hnode, hread⟩ hstatus
  obtain ⟨httl, hproxy, hrelay⟩ := configResults_other hother ho r hr
  exact vouches_of_none httl hproxy hrelay

theorem configResults_expiryOutputs (r : BleMeshPendingRequest) (deleted : Reply) :
    configResults (ConfigClient.expiryOutputs r deleted) =
      [({ config := r.desc, nodeAddress := r.addr }, .meshNoResponseFromNode)] := by
  unfold ConfigClient.expiryOutputs
  split_ifs <;> rfl

theorem Good.timerExpired (h : s.Good server nodes) {timer : ℕ} {deleted : Reply}
    (hstep : s.step server (.timerExpired timer deleted) = some t) : t.Good server nodes := by
  obtain ⟨⟨client, outputs⟩, hexpired, rfl⟩ := Option.map_eq_some_iff.mp hstep
  refine h.told_append client fun r hr _ => ?_
  unfold ConfigClient.pendingRequestTimerExpired at hexpired
  cases hfind : s.client.sources.find? (fun r => r.timer == timer) with
  | none =>
      rw [hfind] at hexpired
      cases hexpired
  | some pendingReq =>
      rw [hfind] at hexpired
      cases hexpired
      rw [configResults_expiryOutputs] at hr
      cases List.mem_singleton.mp hr
      exact vouches_of_none rfl rfl rfl

theorem Good.changes (h : s.Good server nodes) {a : UInt16} {n : N}
    (hstep : s.step server (.changes a n) = some t) : t.Good server nodes := by
  unfold ConfigNetwork.step at hstep
  dsimp only at hstep
  split_ifs at hstep with hin
  cases hstep
  have hown : s.own ⊆ s.own ++ (server.values n).map fun value => (a, value) :=
    List.subset_append_left _ _
  have hasked := List.Subset.refl s.asked
  refine ⟨fun b => ?_, fun m hm v hv => (h.sent m hm v hv).mono hown hasked,
    fun b m hm value hvalue => ?_, fun m hm hstatus => ?_,
    fun r hr hnode => (h.told r hr hnode).mono hown hasked⟩
  · rw [AList.mem_insert, h.same]
    refine or_iff_right_of_imp ?_
    rintro rfl
    exact (h.same b).mp hin
  · rcases KeyedMap.lookup_insert_cases hm with ⟨rfl, rfl⟩ | ⟨-, hold⟩
    · exact .inr (.inl (List.mem_append_right _ (List.mem_map.mpr ⟨value, hvalue, rfl⟩)))
    · exact (h.had b m hold value hvalue).mono hown hasked
  · obtain ⟨value, hvalue, hhad⟩ := h.answered m hm hstatus
    exact ⟨value, hvalue, hhad.mono hown hasked⟩

theorem Good.lost (h : s.Good server nodes) {toNodes : List (UInt16 × List UInt8)}
    {toClient : List (UInt16 × List UInt8)} (hnodes : toNodes ⊆ s.toNodes)
    (hclient : toClient ⊆ s.toClient) : Good server nodes { s with toNodes, toClient } := by
  have hown := List.Subset.refl s.own
  have hasked := List.Subset.refl s.asked
  exact ⟨h.same, fun m hm v hv => (h.sent m (hnodes hm) v hv).mono hown hasked,
    fun b n hn v hv => (h.had b n hn v hv).mono hown hasked,
    fun m hm hstatus =>
      let ⟨value, hvalue, hhad⟩ := h.answered m (hclient hm) hstatus
      ⟨value, hvalue, hhad.mono hown hasked⟩,
    fun r hr hnode => (h.told r hr hnode).mono hown hasked⟩

theorem good_init (server : ConfigServer N) (nodes : KeyedMap UInt16 N) :
    Good server nodes { nodes } where
  same := fun _ => Iff.rfl
  sent := fun _ hm => absurd hm List.not_mem_nil
  had := fun _ n hn _ hvalue => .inl ⟨n, hn, hvalue⟩
  answered := fun _ hm => absurd hm List.not_mem_nil
  told := fun _ hr => absurd hr List.not_mem_nil

theorem good_of_reach (hserver : server.Documented) (hs : (configNetwork server nodes).Reach s) :
    s.Good server nodes := by
  refine hs.invariant (P := Good server nodes) (good_init server nodes) ?_
  rintro s e t h - hstep
  cases e with
  | call call reply => exact h.call call reply hstep
  | serve a message => exact h.serve hserver hstep
  | lost a message =>
      cases hstep
      exact h.lost List.erase_subset (List.Subset.refl _)
  | receive a answer deleted => exact h.receive hstep
  | answerLost a answer =>
      cases hstep
      exact h.lost (List.Subset.refl _) List.erase_subset
  | other a data deleted => exact h.other hstep
  | timerExpired timer deleted => exact h.timerExpired hstep
  | changes a n => exact h.changes hstep

end ConfigNetwork

end Provenance

/-- A node with all three features. -/
structure NodeConfig where
  ttl : UInt8 := 0
  gattProxyState : UInt8 := 0
  relay : UInt8 := 0
  retransmit : UInt8 := 0
  deriving DecidableEq

namespace NodeConfig

variable (n : NodeConfig)

def values : List NodeValue :=
  [.ttl n.ttl, .gattProxy n.gattProxyState, .relay n.relay n.retransmit]

/-- Prohibited values are not answered. -/
def serve : List UInt8 → NodeConfig × Option NodeValue
  | [hi, lo] =>
    if hi = 0x80 ∧ lo = 0x0C then (n, some (.ttl n.ttl))
    else if hi = 0x80 ∧ lo = 0x12 then (n, some (.gattProxy n.gattProxyState))
    else if hi = 0x80 ∧ lo = 0x26 then (n, some (.relay n.relay n.retransmit))
    else (n, none)
  | [hi, lo, value] =>
    if hi = 0x80 ∧ lo = 0x0D ∧ value ≠ 1 ∧ value < 0x80 then
      ({ n with ttl := value }, some (.ttl value))
    else if hi = 0x80 ∧ lo = 0x13 ∧ value < 2 then
      ({ n with gattProxyState := value }, some (.gattProxy value))
    else (n, none)
  | [hi, lo, relay, retransmit] =>
    if hi = 0x80 ∧ lo = 0x27 ∧ relay < 2 then
      ({ n with relay, retransmit }, some (.relay relay retransmit))
    else (n, none)
  | _ => (n, none)

end NodeConfig

section Exchange

variable {c : ConfigClient} {a : UInt16} {value : NodeValue} {deleted : Reply}

end Exchange

end BluezSil.Mesh
