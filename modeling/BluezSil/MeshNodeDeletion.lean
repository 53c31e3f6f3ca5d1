import BluezSil.MeshConfigRuns

/-!
# Nodes deleted from the key database

A node is deleted from the local database when it confirms its reset, when the timer of
the reset expires, and when the timer of a network key update expires. A deletion is
credited to the queued request it is made for. A failing key message may withdraw an older
key request of its node, but never a reset.
-/

namespace BluezSil.Mesh

open ByteAccess RequestLedger TransitionRun

/-- A node is deleted with its elements, for the request with the id. -/
structure NodeDeletion where
  id : ℕ
  address : UInt16
  count : UInt8
  deriving DecidableEq, Repr

def BleMeshPendingRequest.deletion (r : BleMeshPendingRequest) : NodeDeletion where
  id := r.timer
  address := r.addr
  count :=
    if r.resp = opNetkeyStatus then UInt8.ofInt r.keyRefreshData.numberOfElements else r.count

def ConfigCall.reset : ConfigCall → Option (UInt16 × UInt8)
  | .deleteNode destAddress count => some (destAddress, count)
  | _ => none

/-- The node and its elements that are deleted if the network key does not reach it. -/
def ConfigCall.refresh : ConfigCall → Option (UInt16 × UInt8)
  | .configSet destAddress .netKeyUpdate args =>
    some (destAddress, UInt8.ofInt args.numberOfElements)
  | _ => none

def deletionsFor (id : ℕ) (outputs : List Output) : List NodeDeletion :=
  outputs.filterMap fun
    | .deleteRemoteNode address count _ => some ⟨id, address, count⟩
    | _ => none

/-- `asked` are the resets that were accepted, `refreshed` the key updates that were tried. -/
structure DeletionRun where
  client : ConfigClient := {}
  asked : List NodeDeletion := []
  refreshed : List NodeDeletion := []
  deleted : List NodeDeletion := []
  deriving DecidableEq, Repr

namespace DeletionRun

variable (s : DeletionRun)

def named (node : Option (UInt16 × UInt8)) : List NodeDeletion :=
  (node.map fun n => ⟨s.client.nextSource, n.1, n.2⟩).toList

/-- A step is refused for a timer that is not live, and where the handler of a message
leaves the message. -/
def step : ConfigEvent → Option DeletionRun
  | .request call reply =>
    let o := s.client.perform reply call
    some { client := o.client
           asked := if o.error = .none then s.named call.reset ++ s.asked else s.asked
           refreshed := s.named call.refresh ++ s.refreshed
           deleted := deletionsFor s.client.nextSource o.outputs ++ s.deleted }
  | .recvData srcAddress data deleted =>
    match s.client.matchMessage srcAddress data, s.client.recvData srcAddress data deleted with
    | .ok req, .ok o =>
      some { s with
        client := o.client
        -- no request has the id 0
        deleted := deletionsFor ((req.map fun m => m.1.timer).getD 0) o.outputs ++ s.deleted }
    | _, _ => none
  | .timerExpired timer deleted =>
    (s.client.pendingRequestTimerExpired timer deleted).map fun (client, outputs) =>
      { s with client := client, deleted := deletionsFor timer outputs ++ s.deleted }

def ledger : Ledger NodeDeletion :=
  ⟨s.asked, s.client.pendingRequests.map BleMeshPendingRequest.deletion, s.deleted⟩

/-- The requests in the queue come from the table, resets have been accepted, and those that
wait for a network key status have been tried. -/
structure Known (r : BleMeshPendingRequest) : Prop where
  table : ∃ cmd ∈ cmds, r.req = cmd.opcode ∧ r.resp = cmd.rsp
  reset : r.deletion ∈ s.asked ↔ r.req = opNodeReset
  refresh : r.resp = opNetkeyStatus → r.deletion ∈ s.refreshed

structure Good : Prop where
  timed : s.client.Timed
  asked_old : ∀ d ∈ s.asked, d.id < s.client.nextSource
  deleted_old : ∀ d ∈ s.deleted, d.id < s.client.nextSource
  known : ∀ r ∈ s.client.pendingRequests, s.Known r
  wanted : ∀ d ∈ s.deleted, d ∈ s.asked ∨ d ∈ s.refreshed
  once : (s.deleted.map NodeDeletion.id).Nodup
  waiting : ∀ r ∈ s.client.pendingRequests, r.timer ∉ s.deleted.map NodeDeletion.id

end DeletionRun

def deletionMachine : Machine DeletionRun ConfigEvent := ⟨{}, DeletionRun.step⟩

/-! ### The requests that calls queue -/

structure ConfigCall.Makes (call : ConfigCall) (r : BleMeshPendingRequest) : Prop where
  table : ∃ cmd ∈ cmds, r.req = cmd.opcode ∧ r.resp = cmd.rsp
  reset : call.reset = if r.req = opNodeReset then some (r.addr, r.count) else none
  refresh : r.resp = opNetkeyStatus →
    call.refresh = some (r.addr, UInt8.ofInt r.keyRefreshData.numberOfElements)

/-- The outcomes of a call: nothing is queued, a request is, or a key request is queued and the
oldest of its kind withdrawn. -/
inductive Queued (c : ConfigClient) (call : ConfigCall) : Outcome → Prop
  | nothing {e : BluetoothError} {outputs : List Output} : (e = .none → call.reset = none) →
      Queued c call ⟨c, e, outputs⟩
  | sent {r : BleMeshPendingRequest} {outputs : List Output} : r.timer = c.nextSource →
      call.Makes r → Queued c call ⟨c.push r, .none, outputs⟩
  | withdrawn {r : BleMeshPendingRequest} {e : BluetoothError} {outputs : List Output} :
      r.timer = c.nextSource → call.Makes r → r.req ≠ opNodeReset →
      Queued c call ⟨(c.push r).deletePendingRequest r.resp r.addr, e, outputs⟩

section Calls

variable {c : ConfigClient} {call : ConfigCall} {reply : Reply}

theorem responseEntry_mem {opcode : UInt32} {cmd : BleMeshConfigCmd}
    (h : responseEntry opcode = some cmd) : cmd ∈ cmds ∧ opcode = cmd.opcode := by
  refine ⟨List.mem_of_find?_eq_some h, ?_⟩
  have hfound := List.find?_some h
  rw [Bool.and_eq_true, beq_iff_eq] at hfound
  exact hfound.1

theorem queued_sendAndAwait {opcode : UInt32} {cmd : BleMeshConfigCmd}
    (hcmd : responseEntry opcode = some cmd) (destAddress netKeyIndex : UInt16)
    (arguments : List UInt8) (count : UInt8)
    (hreset : call.reset = if opcode = opNodeReset then some (destAddress, count) else none)
    (hresp : cmd.rsp ≠ opNetkeyStatus) :
    Queued c call (c.sendAndAwait opcode destAddress netKeyIndex arguments reply count) := by
  cases reply with
  | some message => exact Queued.nothing fun h => by cases h
  | none =>
      obtain ⟨hmem, hopcode⟩ := responseEntry_mem hcmd
      have hsent := addPendingRequest_eq c hcmd destAddress count
      simp only [ConfigClient.sendAndAwait, devKeySend, if_true, hsent]
      exact Queued.sent rfl ⟨⟨cmd, hmem, hopcode, rfl⟩, hreset, fun h => absurd h hresp⟩

theorem queued_addAppKey (hreset : call.reset = none) (destAddress net app : UInt16)
    (update : Bool) (waitTime : ℤ) :
    Queued c call (c.addAppKey destAddress net app update waitTime reply) := by
  have hresp : opAppkeyStatus ≠ opNetkeyStatus := by decide
  have hadd : opAppkeyAdd ≠ opNodeReset := by decide
  have hupdate : opAppkeyUpdate ≠ opNodeReset := by decide
  cases update with
  | false =>
      have hmakes (timer : ℕ) : call.Makes
          { timer, req := opAppkeyAdd, resp := opAppkeyStatus, addr := destAddress,
            desc := "APPKEY_ADD" } :=
        ⟨⟨⟨opAppkeyAdd, opAppkeyStatus, "APPKEY_ADD"⟩, by decide, rfl, rfl⟩, hreset,
          fun h => absurd h hresp⟩
      cases reply with
      | some message => exact Queued.withdrawn rfl (hmakes _) hadd
      | none => exact Queued.sent rfl (hmakes _)
  | true =>
      have hmakes (timer : ℕ) (data : BleMeshKeyRefreshData) : call.Makes
          { timer, req := opAppkeyUpdate, resp := opAppkeyStatus, addr := destAddress,
            desc := "APPKEY_UPDATE", keyRefreshData := data } :=
        ⟨⟨⟨opAppkeyUpdate, opAppkeyStatus, "APPKEY_UPDATE"⟩, by decide, rfl, rfl⟩, hreset,
          fun h => absurd h hresp⟩
      cases reply with
      | some message => exact Queued.withdrawn rfl (hmakes _ _) hupdate
      | none => exact Queued.sent rfl (hmakes _ _)

theorem queued_configNetKeyUpdate (destAddress : UInt16) (args : ConfigSetArgs)
    (netKeyIndex : UInt16) (waitTime : ℤ) :
    Queued c (.configSet destAddress .netKeyUpdate args)
      (c.configNetKeyUpdate destAddress netKeyIndex waitTime args.numberOfElements reply) := by
  have hupdate : opNetkeyUpdate ≠ opNodeReset := by decide
  have hmakes (timer : ℕ) (waitTime : ℤ) :
      (ConfigCall.configSet destAddress .netKeyUpdate args).Makes
        { timer, req := opNetkeyUpdate, resp := opNetkeyStatus, addr := destAddress,
          desc := "NETKEY_UPDATE"
          keyRefreshData :=
            { netKeyIndex, waitTime, numberOfElements := args.numberOfElements } } :=
    ⟨⟨⟨opNetkeyUpdate, opNetkeyStatus, "NETKEY_UPDATE"⟩, by decide, rfl, rfl⟩, rfl, fun _ => rfl⟩
  cases reply with
  | some message => exact Queued.withdrawn rfl (hmakes _ _) hupdate
  | none => exact Queued.sent rfl (hmakes _ _)

theorem queued_perform (c : ConfigClient) (call : ConfigCall) (reply : Reply) :
    Queued c call (c.perform reply call) := by
  cases call with
  | getCompositionData destAddress => exact queued_sendAndAwait rfl _ _ _ _ rfl (by decide)
  | deleteNode destAddress count => exact queued_sendAndAwait rfl _ _ _ _ rfl (by decide)
  | configGet destAddress config netKeyIndex =>
      cases config with
      | appKeyIndex | defaultTTL | gattProxy | relay =>
          exact queued_sendAndAwait rfl _ _ _ _ rfl (by decide)
      | _ => exact Queued.nothing fun _ => rfl
  | configSet destAddress config args =>
      cases config with
      | appKeyAdd | appKeyUpdate => exact queued_addAppKey rfl _ _ _ _ _
      | appKeyDelete | appKeyBind | appKeyUnbind | gattProxy | relay =>
          exact queued_sendAndAwait rfl _ _ _ _ rfl (by decide)
      | defaultTTL =>
          change Queued c _ (c.setDefaultTTL destAddress args.netKeyIndex args.ttl reply)
          unfold ConfigClient.setDefaultTTL
          split_ifs
          · exact Queued.nothing fun _ => rfl
          · exact queued_sendAndAwait rfl _ _ _ _ rfl (by decide)
      | netKeyUpdate => exact queued_configNetKeyUpdate _ _ _ _
      | krPhaseSet => cases reply <;> exact Queued.nothing fun _ => rfl
      | appKeyIndex | other => exact Queued.nothing fun _ => rfl

theorem deletionsFor_perform (c : ConfigClient) (call : ConfigCall) (reply : Reply) (id : ℕ) :
    deletionsFor id (c.perform reply call).outputs = [] := by
  cases call with
  | getCompositionData | deleteNode => cases reply <;> rfl
  | configGet _ config _ => cases config <;> cases reply <;> rfl
  | configSet _ config args =>
      cases config with
      | defaultTTL =>
          change deletionsFor id (c.setDefaultTTL _ _ _ _).outputs = []
          unfold ConfigClient.setDefaultTTL
          split_ifs
          · rfl
          · cases reply <;> rfl
      | _ => cases reply <;> rfl

end Calls

/-! ### What an answer deletes -/

section Answers

variable {c : ConfigClient} {r : BleMeshPendingRequest}

/-- In the table a reset and its status belong to each other, and no other response that has
lost its flag for unreliable transport is the status of a reset. -/
theorem cmds_reset : ∀ cmd ∈ cmds,
    (cmd.rsp &&& ~~~opUnreliable = opNodeResetStatus ↔ cmd.opcode = opNodeReset) ∧
    (cmd.rsp = opNetkeyStatus → cmd.opcode ≠ opNodeReset) ∧
    (cmd.rsp = opNodeResetStatus ↔ cmd.opcode = opNodeReset) := by
  decide

theorem deletionsFor_expiry (ht : ∃ cmd ∈ cmds, r.req = cmd.opcode ∧ r.resp = cmd.rsp)
    (deleted : Reply) :
    deletionsFor r.timer (ConfigClient.expiryOutputs r deleted) =
      if r.resp = opNetkeyStatus ∨ r.req = opNodeReset then [r.deletion] else [] := by
  obtain ⟨cmd, hcmd, hreq, hresp⟩ := ht
  obtain ⟨-, hnet, -⟩ := cmds_reset cmd hcmd
  rw [← hreq, ← hresp] at hnet
  unfold ConfigClient.expiryOutputs deletionsFor BleMeshPendingRequest.deletion
  by_cases h : r.resp = opNetkeyStatus
  · have happ : opNetkeyStatus ≠ opAppkeyStatus := by decide
    simp [h, hnet h, happ]
  · have happ : opAppkeyStatus ≠ opNetkeyStatus := by decide
    by_cases hreset : r.req = opNodeReset
    · by_cases hresp : r.resp = opAppkeyStatus <;> simp [h, hreset, hresp, happ]
    · by_cases hresp : r.resp = opAppkeyStatus <;> simp [h, hreset, hresp, happ]

theorem deletionsFor_recvData (hc : c.Timed)
    (ht : ∃ cmd ∈ cmds, r.req = cmd.opcode ∧ r.resp = cmd.rsp) {srcAddress : UInt16}
    {data payload : List UInt8} {deleted : Reply} {opcode : UInt32} {o : Received}
    (hmatch : c.matchMessage srcAddress data = .ok (some (r, opcode, payload)))
    (ho : c.recvData srcAddress data deleted = .ok o) :
    o.client = c.drop r ∧
      deletionsFor r.timer o.outputs = if r.req = opNodeReset then [r.deletion] else [] := by
  refine ⟨(recvData_of_match hc hmatch ho).1, ?_⟩
  obtain ⟨-, hopcode, haddr⟩ :=
    ConfigClient.getRequestFromResponse_spec (matchMessage_request hmatch)
  obtain ⟨cmd, hcmd, hreq, hresp⟩ := ht
  obtain ⟨hreset, hnet, -⟩ := cmds_reset cmd hcmd
  rw [← hreq, ← hresp] at hreset
  rw [← hreq, ← hresp] at hnet
  rw [ConfigClient.recvData_eq_of_match hmatch, ← hopcode] at ho
  have hconfig (handled : Option BleMeshConfiguration) :
      (handled.toList.map fun configuration =>
        Output.modelConfigResult configuration .none).filterMap (fun
          | .deleteRemoteNode address count _ => some (⟨r.timer, address, count⟩ : NodeDeletion)
          | _ => none) = [] := by
    cases handled <;> rfl
  cases hdecode : decodeStatus (r.resp &&& ~~~opUnreliable)
      { config := r.desc, nodeAddress := srcAddress } payload with
  | error f =>
      rw [hdecode] at ho
      cases ho
  | ok handled =>
      rw [hdecode] at ho
      cases ho
      unfold deletionsFor
      rw [List.filterMap_append, hconfig, List.append_nil]
      by_cases h : r.req = opNodeReset
      · have hother : r.resp ≠ opNetkeyStatus := fun heq => hnet heq h
        rw [if_pos (hreset.mpr h), if_pos h]
        simp [BleMeshPendingRequest.deletion, hother]
      · rw [if_neg fun heq => h (hreset.mp heq), if_neg h]
        rfl

end Answers

/-! ### The ledger of a run -/

namespace DeletionRun

variable {s t : DeletionRun} {r : BleMeshPendingRequest}

theorem good_init : Good {} where
  timed := ConfigClient.timed_init
  asked_old := fun _ h => absurd h List.not_mem_nil
  deleted_old := fun _ h => absurd h List.not_mem_nil
  known := fun _ h => absurd h List.not_mem_nil
  wanted := fun _ h => absurd h List.not_mem_nil
  once := List.nodup_nil
  waiting := fun _ h => absurd h List.not_mem_nil

theorem Good.tried (h : s.Good) (refreshed : List NodeDeletion) (hsub : s.refreshed ⊆ refreshed) :
    Good { s with refreshed } where
  timed := h.timed
  asked_old := h.asked_old
  deleted_old := h.deleted_old
  known := fun r hr => ⟨(h.known r hr).table, (h.known r hr).reset,
    fun hnet => hsub ((h.known r hr).refresh hnet)⟩
  wanted := fun d hd => (h.wanted d hd).imp_right fun hin => hsub hin
  once := h.once
  waiting := h.waiting

def askedWith (s : DeletionRun) (r : BleMeshPendingRequest) : List NodeDeletion :=
  if r.req = opNodeReset then r.deletion :: s.asked else s.asked

theorem mem_askedWith {d : NodeDeletion} :
    d ∈ s.askedWith r ↔ d ∈ s.asked ∨ r.req = opNodeReset ∧ d = r.deletion := by
  unfold askedWith
  split_ifs with h
  · rw [List.mem_cons]
    tauto
  · tauto

theorem Good.push (h : s.Good) (hr : r.timer = s.client.nextSource)
    (ht : ∃ cmd ∈ cmds, r.req = cmd.opcode ∧ r.resp = cmd.rsp)
    (hnet : r.resp = opNetkeyStatus → r.deletion ∈ s.refreshed) :
    Good { s with client := s.client.push r, asked := s.askedWith r } ∧
      Ledger.Step s.ledger
        (ledger { s with client := s.client.push r, asked := s.askedWith r }) := by
  have hfresh (q : NodeDeletion) (hq : q.id < s.client.nextSource) : q ≠ r.deletion := by
    rintro rfl
    exact Nat.lt_irrefl _ (hr ▸ hq)
  have hasked : r.deletion ∉ s.asked := fun hin => hfresh _ (h.asked_old _ hin) rfl
  have hpending : r.deletion ∉ s.client.pendingRequests.map BleMeshPendingRequest.deletion := by
    intro hin
    obtain ⟨q, hq, heq⟩ := List.mem_map.mp hin
    exact hfresh q.deletion (h.timed.old q hq) heq
  have hdeleted : r.deletion ∉ s.deleted := fun hin => hfresh _ (h.deleted_old _ hin) rfl
  constructor
  · refine ⟨h.timed.push hr, fun d hd => ?_, fun d hd => Nat.lt_succ_of_lt (h.deleted_old d hd),
      fun q hq => ?_, fun d hd => ?_, h.once, fun q hq => ?_⟩
    · rcases mem_askedWith.mp hd with hold | ⟨-, rfl⟩
      · exact Nat.lt_succ_of_lt (h.asked_old d hold)
      · exact Nat.lt_succ_of_le (Nat.le_of_eq hr)
    · rcases List.mem_append.mp hq with hq | hq
      · have hknown := h.known q hq
        refine ⟨hknown.table, mem_askedWith.trans ?_, hknown.refresh⟩
        rw [or_iff_left fun hnew => hfresh q.deletion (h.timed.old q hq) hnew.2]
        exact hknown.reset
      · obtain rfl := List.mem_singleton.mp hq
        exact ⟨ht, mem_askedWith.trans ⟨fun hin => (hin.resolve_left hasked).1,
          fun hreset => .inr ⟨hreset, rfl⟩⟩, hnet⟩
    · exact (h.wanted d hd).imp_left fun hin => mem_askedWith.mpr (.inl hin)
    · rcases List.mem_append.mp hq with hq | hq
      · exact h.waiting q hq
      · obtain rfl := List.mem_singleton.mp hq
        intro hin
        obtain ⟨d, hd, heq⟩ := List.mem_map.mp hin
        exact Nat.ne_of_lt (h.deleted_old d hd) (heq.trans hr)
  · unfold ledger askedWith ConfigClient.push
    rw [List.map_append, List.map_singleton]
    split_ifs
    · exact Ledger.Step.openRequest (l := s.ledger) r.deletion hasked hpending hdeleted
    · exact Ledger.Step.queue (l := s.ledger) r.deletion hasked

theorem Good.drop (h : s.Good) (hr : r ∈ s.client.pendingRequests) (deletes : Bool)
    (hreset : r.req = opNodeReset → deletes = true)
    (hwanted : deletes = true → r.deletion ∈ s.asked ∨ r.deletion ∈ s.refreshed) :
    Good { s with
        client := s.client.drop r
        deleted := (if deletes then [r.deletion] else []) ++ s.deleted } ∧
      Ledger.Step s.ledger (ledger { s with
        client := s.client.drop r
        deleted := (if deletes then [r.deletion] else []) ++ s.deleted }) := by
  have hnodup : s.client.pendingRequests.Nodup := h.timed.nodup.of_map
  constructor
  · refine ⟨h.timed.drop, h.asked_old, fun d hd => ?_, fun q hq => ?_, fun d hd => ?_, ?_,
      fun q hq hin => ?_⟩
    · rcases List.mem_append.mp hd with hd | hd
      · split_ifs at hd
        · rw [List.mem_singleton.mp hd]
          exact h.timed.old r hr
        · exact absurd hd List.not_mem_nil
      · exact h.deleted_old d hd
    · have hknown := h.known q (List.mem_of_mem_erase hq)
      exact ⟨hknown.table, hknown.reset, hknown.refresh⟩
    · rcases List.mem_append.mp hd with hd | hd
      · split_ifs at hd with hdeletes
        · rw [List.mem_singleton.mp hd]
          exact hwanted hdeletes
        · exact absurd hd List.not_mem_nil
      · exact h.wanted d hd
    · cases deletes with
      | true => exact List.nodup_cons.mpr ⟨h.waiting r hr, h.once⟩
      | false => exact h.once
    · obtain ⟨hne, hmem⟩ := hnodup.mem_erase_iff.mp hq
      cases deletes with
      | true =>
          rcases List.mem_cons.mp hin with heq | hin
          · exact hne (List.inj_on_of_nodup_map h.timed.nodup hmem hr heq)
          · exact h.waiting q hmem hin
      | false => exact h.waiting q hmem hin
  · have hids : (s.client.pendingRequests.map BleMeshPendingRequest.deletion).Nodup := by
      have hmap := h.timed.nodup
      have hcomp : s.client.pendingRequests.map (·.timer) =
          (s.client.pendingRequests.map BleMeshPendingRequest.deletion).map NodeDeletion.id := by
        rw [List.map_map]
        rfl
      rw [hcomp] at hmap
      exact hmap.of_map
    have hpending : (s.client.drop r).pendingRequests.map BleMeshPendingRequest.deletion =
        (s.client.pendingRequests.map BleMeshPendingRequest.deletion).erase r.deletion :=
      map_erase_of_nodup _ hids hr
    have hn : (if deletes then [r.deletion] else []) =
        List.replicate (if deletes then 1 else 0) r.deletion := by
      cases deletes <;> rfl
    change Ledger.Step s.ledger ⟨s.asked,
      (s.client.drop r).pendingRequests.map BleMeshPendingRequest.deletion, _⟩
    rw [hpending, hn]
    refine Ledger.Step.answer (l := s.ledger) r.deletion _ (List.mem_map_of_mem hr) fun hin => ?_
    rw [hreset ((h.known r hr).reset.mp hin)]
    rfl

/-- A failing key message queues its request and withdraws no reset. -/
theorem Good.withdraw (h : s.Good) (hr : r.timer = s.client.nextSource)
    (ht : ∃ cmd ∈ cmds, r.req = cmd.opcode ∧ r.resp = cmd.rsp) (hother : r.req ≠ opNodeReset)
    (hnet : r.resp = opNetkeyStatus → r.deletion ∈ s.refreshed) :
    Good { s with client := (s.client.push r).deletePendingRequest r.resp r.addr } ∧
      Ledger.Steps s.ledger
        (ledger { s with client := (s.client.push r).deletePendingRequest r.resp r.addr }) := by
  have hpush := h.push hr ht hnet
  have hasked : s.askedWith r = s.asked := if_neg hother
  rw [hasked] at hpush
  obtain ⟨hpush, hstep⟩ := hpush
  cases hreq : (s.client.push r).getRequestFromResponse r.resp r.addr with
  | none =>
      rw [ConfigClient.deletePendingRequest_of_none hreq]
      exact ⟨hpush, .single hstep⟩
  | some q =>
      rw [hpush.timed.deletePendingRequest_eq hreq]
      obtain ⟨hmem, hresp, -⟩ := ConfigClient.getRequestFromResponse_spec hreq
      have hkept : q.req ≠ opNodeReset := by
        obtain ⟨cmd, hcmd, hreqCmd, hrespCmd⟩ := ht
        obtain ⟨cmd', hcmd', hreqCmd', hrespCmd'⟩ := (hpush.known q hmem).table
        intro hreset
        have hstatus := (cmds_reset cmd' hcmd').2.2.mpr (hreqCmd' ▸ hreset)
        rw [← hrespCmd', hresp, hrespCmd] at hstatus
        exact hother (hreqCmd.trans ((cmds_reset cmd hcmd).2.2.mp hstatus))
      obtain ⟨hdrop, hstep'⟩ := hpush.drop hmem false (fun hreset => absurd hreset hkept)
        fun hfalse => absurd hfalse Bool.false_ne_true
      exact ⟨hdrop, .tail (.single hstep) hstep'⟩

theorem named_none {call : ConfigCall} {e : BluetoothError} (h : e = .none → call.reset = none) :
    (if e = .none then s.named call.reset ++ s.asked else s.asked) = s.asked := by
  split_ifs with he
  · rw [h he]
    rfl
  · rfl

theorem Good.request {call : ConfigCall} {reply : Reply} (h : s.Good)
    (hstep : s.step (.request call reply) = some t) :
    t.Good ∧ Ledger.Steps s.ledger t.ledger := by
  cases hstep
  rw [deletionsFor_perform, List.nil_append]
  have htried := h.tried (s.named call.refresh ++ s.refreshed) (List.subset_append_right _ _)
  have hqueued := queued_perform s.client call reply
  generalize s.client.perform reply call = o at hqueued
  -- what a call queues has the next id, so a key update that is queued is among those tried
  have hnamed {r : BleMeshPendingRequest} (hr : r.timer = s.client.nextSource)
      (hmakes : call.Makes r) (hnet : r.resp = opNetkeyStatus) :
      r.deletion ∈ s.named call.refresh ++ s.refreshed := by
    refine List.mem_append_left _ ?_
    unfold named BleMeshPendingRequest.deletion
    rw [hmakes.refresh hnet, if_pos hnet, hr]
    exact List.mem_singleton_self _
  have hasked {r : BleMeshPendingRequest} (hr : r.timer = s.client.nextSource)
      (hmakes : call.Makes r) : s.named call.reset ++ s.asked = s.askedWith r := by
    unfold named askedWith BleMeshPendingRequest.deletion
    rw [hmakes.reset]
    split_ifs with hreset hnet
    · obtain ⟨cmd, hcmd, hreq, hresp⟩ := hmakes.table
      exact absurd (hreq ▸ hreset) ((cmds_reset cmd hcmd).2.1 (hresp ▸ hnet))
    · rw [hr]
      rfl
    · rfl
  cases hqueued with
  | nothing hnone =>
      rw [named_none hnone]
      exact ⟨htried, .refl⟩
  | sent hr hmakes =>
      rw [if_pos rfl, hasked hr hmakes]
      exact (htried.push hr hmakes.table (hnamed hr hmakes)).imp_right .single
  | withdrawn hr hmakes hother =>
      have hnone : call.reset = none := by rw [hmakes.reset, if_neg hother]
      rw [named_none fun _ => hnone]
      exact htried.withdraw hr hmakes.table hother (hnamed hr hmakes)

theorem Good.recvData {srcAddress : UInt16} {data : List UInt8} {deleted : Reply} (h : s.Good)
    (hstep : s.step (.recvData srcAddress data deleted) = some t) :
    t.Good ∧ Ledger.Steps s.ledger t.ledger := by
  simp only [DeletionRun.step] at hstep
  split at hstep
  case h_2 => cases hstep
  case h_1 req o hmatch ho =>
    cases hstep
    cases req with
    | none =>
        rw [recvData_of_no_match hmatch ho]
        exact ⟨h, .refl⟩
    | some m =>
        obtain ⟨req, opcode, payload⟩ := m
        obtain ⟨hmem, -⟩ := ConfigClient.getRequestFromResponse_spec (matchMessage_request hmatch)
        have hknown := h.known req hmem
        obtain ⟨hclient, hdeleted⟩ := deletionsFor_recvData h.timed hknown.table hmatch ho
        have hdrop := h.drop hmem (decide (req.req = opNodeReset)) (fun h => decide_eq_true h)
          fun h => .inl (hknown.reset.mpr (of_decide_eq_true h))
        simp only [decide_eq_true_eq] at hdrop
        rw [hclient, Option.map_some, Option.getD_some, hdeleted]
        exact hdrop.imp_right .single

theorem Good.timerExpired {timer : ℕ} {deleted : Reply} (h : s.Good)
    (hstep : s.step (.timerExpired timer deleted) = some t) :
    t.Good ∧ Ledger.Steps s.ledger t.ledger := by
  simp only [DeletionRun.step, Option.map_eq_some_iff] at hstep
  obtain ⟨o, ho, rfl⟩ := hstep
  obtain ⟨r, hr, rfl⟩ := timerExpired_request h.timed ho
  rw [timerExpired_of_pending h.timed hr] at ho
  cases ho
  have hknown := h.known r hr
  have hdrop := h.drop hr (decide (r.resp = opNetkeyStatus ∨ r.req = opNodeReset))
    (fun h => decide_eq_true (.inr h)) fun h => (of_decide_eq_true h).elim
      (fun hnet => .inr (hknown.refresh hnet)) fun hreset => .inl (hknown.reset.mpr hreset)
  simp only [decide_eq_true_eq] at hdrop
  rw [deletionsFor_expiry hknown.table]
  exact hdrop.imp_right .single

theorem good_of_reach (hs : deletionMachine.Reach s) : s.Good ∧ s.ledger.Settled := by
  refine hs.invariant (P := fun s => s.Good ∧ s.ledger.Settled) ?_ ?_
  · exact ⟨good_init, fun d hd => absurd hd List.not_mem_nil⟩
  · rintro s e t ⟨hgood, hsettled⟩ - hstep
    have hstepped : t.Good ∧ Ledger.Steps s.ledger t.ledger := by
      cases e with
      | request call reply => exact hgood.request hstep
      | recvData srcAddress data deleted => exact hgood.recvData hstep
      | timerExpired timer deleted => exact hgood.timerExpired hstep
    exact ⟨hstepped.1, hsettled.steps hstepped.2⟩

end DeletionRun

/-- In every run a reset that was accepted waits with no deletion, and the expiry of its timer
then makes the one it asked for, or it has made exactly one. Nothing else is deleted but nodes
that a network key update was tried with, each for its update once. -/
theorem nodeDeletion_once {s : DeletionRun} (hs : deletionMachine.Reach s) :
    (∀ d ∈ s.asked,
      (∃ r ∈ s.client.pendingRequests, r.deletion = d) ∧ d ∉ s.deleted ∧
        (∀ deleted, ∃ t, s.step (.timerExpired d.id deleted) = some t ∧
          t.deleted = d :: s.deleted) ∨
      (∀ r ∈ s.client.pendingRequests, r.deletion ≠ d) ∧ s.deleted.count d = 1) ∧
    (∀ d ∈ s.deleted, d ∈ s.asked ∨ d ∈ s.refreshed) ∧
    (s.deleted.map NodeDeletion.id).Nodup := by
  obtain ⟨hgood, hsettled⟩ := DeletionRun.good_of_reach hs
  refine ⟨fun d hd => ?_, hgood.wanted, hgood.once⟩
  by_cases hpending : d ∈ s.ledger.pending
  · have hzero := hsettled.unanswered hd hpending
    obtain ⟨r, hr, rfl⟩ := List.mem_map.mp hpending
    refine .inl ⟨⟨r, hr, rfl⟩, List.count_eq_zero.mp hzero, fun deleted => ?_⟩
    have hknown := hgood.known r hr
    have hexpire := timerExpired_of_pending hgood.timed hr deleted
    have hone := deletionsFor_expiry hknown.table deleted
    rw [if_pos (.inr (hknown.reset.mp hd))] at hone
    refine ⟨_, by rw [DeletionRun.step]; exact congrArg (Option.map _) hexpire, ?_⟩
    exact congrArg (· ++ s.deleted) hone
  · refine .inr ⟨fun r hr heq => hpending (heq ▸ List.mem_map_of_mem hr), ?_⟩
    exact hsettled.answered_once hd hpending

/-- A reset that is waited for. -/
theorem nodeDeletion_once_waiting :
    ∃ s : DeletionRun, ⟨1, 5, 2⟩ ∈ s.asked ∧
      (∀ d ∈ s.asked,
        (∃ r ∈ s.client.pendingRequests, r.deletion = d) ∧ d ∉ s.deleted ∧
          (∀ deleted, ∃ t, s.step (.timerExpired d.id deleted) = some t ∧
            t.deleted = d :: s.deleted) ∨
        (∀ r ∈ s.client.pendingRequests, r.deletion ≠ d) ∧ s.deleted.count d = 1) ∧
      (∀ d ∈ s.deleted, d ∈ s.asked ∨ d ∈ s.refreshed) ∧
      (s.deleted.map NodeDeletion.id).Nodup :=
  ⟨_, by decide, nodeDeletion_once
    (.step (e := .request (.deleteNode 5 2) none) .init trivial rfl)⟩

end BluezSil.Mesh
