import BluezSil.MeshConfigRuns

/-!
# The request timer of acknowledged on-off messages

An acknowledged `setOnOff` starts the one request timer of the adapter. Every message
received with an application key, every failing send and the next such request stop it,
and its expiry leaves its id behind. A request is known by the id of its timer. It gets one
result as long as only its own status stops its timer.
-/

namespace BluezSil.Mesh

open ByteAccess RequestLedger TransitionRun

def opGenericOnoffStatus : UInt32 := 0x8204

structure ElementModels where
  configClient : Bool
  onOffClient : Bool
  deriving DecidableEq, Repr

/-- The request timer and what its handler reports. `removedDead` lists the ids given to
`g_source_remove` without a live source. -/
structure RequestTimer where
  mReqExpTimerId : ℕ := 0
  config : String := ""
  onOffState : Bool := false
  sources : List ℕ := []
  nextSource : ℕ := 1
  removedDead : List ℕ := []
  deriving DecidableEq, Repr

inductive TimeOutReport
  | modelSetOnOffResult (onOffState : Bool)
  | modelConfigResult
  deriving DecidableEq, Repr

namespace RequestTimer

variable (t : RequestTimer)

def stopReqTimer : RequestTimer :=
  if t.mReqExpTimerId ≠ 0 then
    { t with
      mReqExpTimerId := 0
      sources := t.sources.erase t.mReqExpTimerId
      removedDead :=
        if t.mReqExpTimerId ∈ t.sources then t.removedDead
        else t.mReqExpTimerId :: t.removedDead }
  else t

def startTimer (config : String) : RequestTimer :=
  let t := t.stopReqTimer
  { t with
    config := config
    mReqExpTimerId := t.nextSource
    sources := t.nextSource :: t.sources
    nextSource := t.nextSource + 1 }

def send (reply : Reply) : RequestTimer × BluetoothError :=
  match reply with
  | some message =>
    (t.stopReqTimer,
      if strstr message "Object not found" then .meshAppKeyIndexDoesNotExist else .fail)
  | none => (t, .none)

def setOnOff (models : ElementModels) (onoff ack : Bool) (reply : Reply) :
    RequestTimer × BluetoothError :=
  let t := if ack then { t.startTimer "setOnOff" with onOffState := onoff } else t
  if models.onOffClient then t.send reply else (t, .fail)

/-- The handler returns false, so GLib removes the source. It keeps `mReqExpTimerId`. -/
def atTimeOut (source : ℕ) : Option (RequestTimer × TimeOutReport) :=
  if source ∈ t.sources then
    some ({ t with sources := t.sources.erase source },
      if t.config = "setOnOff" then .modelSetOnOffResult t.onOffState else .modelConfigResult)
  else none

end RequestTimer

/-- `recvData` of the on-off client: whether the message is handled, and the state that is
reported. -/
def onOffRecvData (data : List UInt8) : Access (Bool × Option Bool) := do
  match ← meshOpcodeGet data (UInt16.ofNat data.length) with
  | none => return (true, none)
  | some (opcode, n) =>
    let payload := data.drop n
    if opcode &&& ~~~opUnreliable = opGenericOnoffStatus then
      if payload.length ≠ 1 ∧ payload.length ≠ 3 then return (false, none)
      let onoff ← readByte payload
      return (true, some (onoff ≠ 0))
    else return (false, none)

structure ElementReceived where
  client : ConfigClient
  onOff : Option Bool

def ElementModels.askConfigClient (models : ElementModels) (client : ConfigClient)
    (argSource : UInt16) (data : List UInt8) (deleted : Reply) : Access Received :=
  if models.configClient then client.recvData argSource data deleted
  else .ok ⟨client, false, []⟩

/-- The models are asked in the order of their ids until one has handled the message. -/
def ElementModels.recvData (models : ElementModels) (client : ConfigClient) (argSource : UInt16)
    (data : List UInt8) (deleted : Reply) : Access ElementReceived := do
  let received ← models.askConfigClient client argSource data deleted
  if received.handled ∨ models.onOffClient = false then return ⟨received.client, none⟩
  let (_, onOff) ← onOffRecvData data
  return ⟨received.client, onOff⟩

/-! ### Runs -/

/-- `answers` is the request that a status message answers, if it answers one. -/
inductive AdvEvent
  | setOnOff (onoff ack : Bool) (reply : Reply)
  | messageReceived (argSource : UInt16) (data : List UInt8) (deleted : Reply)
      (answers : Option ℕ)
  | devKeyMessageReceived (argSource : UInt16) (data : List UInt8) (deleted : Reply)
      (answers : Option ℕ)
  | request (call : ConfigCall) (reply : Reply)
  | requestTimerExpired (source : ℕ)
  | configTimerExpired (timer : ℕ) (deleted : Reply)
  deriving DecidableEq, Repr

structure AdvRun where
  timer : RequestTimer := {}
  client : ConfigClient := {}
  accepted : List ℕ := []
  reported : List ℕ := []
  deriving DecidableEq, Repr

namespace AdvRun

variable (models : ElementModels) (s : AdvRun)

def creditStatus (answers : Option ℕ) (onOff : Option Bool) : List ℕ :=
  if onOff.isSome then (answers.filter (· ∈ s.accepted)).toList else []

def receive (timer : RequestTimer) (argSource : UInt16) (data : List UInt8) (deleted : Reply)
    (answers : Option ℕ) : Option AdvRun :=
  match models.recvData s.client argSource data deleted with
  | .ok o =>
    some { s with
      timer := timer
      client := o.client
      reported := s.creditStatus answers o.onOff ++ s.reported }
  | .error _ => none

def perform (call : ConfigCall) (reply : Reply) : Outcome :=
  if models.configClient then s.client.perform reply call else ⟨s.client, .fail, []⟩

/-- A step is refused for a timer that is not live, and where the handler of a message
leaves the message. -/
def step : AdvEvent → Option AdvRun
  | .setOnOff onoff ack reply =>
    let o := s.timer.setOnOff models onoff ack reply
    some { s with
      timer := o.1
      accepted :=
        if ack ∧ o.2 = .none then s.timer.nextSource :: s.accepted else s.accepted }
  | .messageReceived argSource data deleted answers =>
    s.receive models s.timer.stopReqTimer argSource data deleted answers
  | .devKeyMessageReceived argSource data deleted answers =>
    s.receive models s.timer argSource data deleted answers
  | .request call reply =>
    let o := s.perform models call reply
    some { s with
      client := o.client
      timer := if Output.stopReqTimer ∈ o.outputs then s.timer.stopReqTimer else s.timer }
  | .requestTimerExpired source =>
    (s.timer.atTimeOut source).map fun (timer, report) =>
      { s with
        timer := timer
        reported :=
          match report with
          | .modelSetOnOffResult _ => source :: s.reported
          | .modelConfigResult => s.reported }
  | .configTimerExpired timer deleted =>
    (s.client.pendingRequestTimerExpired timer deleted).map fun o => { s with client := o.1 }

def Waits (id : ℕ) : Prop := id ∈ s.timer.sources

instance (id : ℕ) : Decidable (s.Waits id) := inferInstanceAs (Decidable (id ∈ s.timer.sources))

/-- To stop the timer is to remove a live source of no accepted request, or nothing. -/
def Idle : Prop :=
  s.timer.mReqExpTimerId = 0 ∨
    s.Waits s.timer.mReqExpTimerId ∧ s.timer.mReqExpTimerId ∉ s.accepted

instance : Decidable s.Idle := inferInstanceAs (Decidable (_ ∨ _))

/-- A status message that reaches the on-off client. -/
structure IsOnOffStatus (argSource : UInt16) (data : List UInt8) : Prop where
  onOffClient : models.onOffClient = true
  unclaimed : models.configClient = true → s.client.matchMessage argSource data = .ok none
  status : ∃ opcode n, meshOpcodeGet data (UInt16.ofNat data.length) = .ok (some (opcode, n)) ∧
    opcode &&& ~~~opUnreliable = opGenericOnoffStatus ∧
    ((data.drop n).length = 1 ∨ (data.drop n).length = 3)

/-- A step that stops the timer finds no request waiting for it and no timer that has
expired, unless it is the status of the request that waits. No other status answers an
accepted request. -/
def Undisturbed : AdvEvent → Prop
  | .setOnOff _ ack reply => ack = true ∨ models.onOffClient = true ∧ reply ≠ none → s.Idle
  | .messageReceived argSource data _ answers =>
    s.Idle ∧ (∀ id ∈ answers, id ∉ s.accepted) ∨
      s.Waits s.timer.mReqExpTimerId ∧ answers = some s.timer.mReqExpTimerId ∧
        s.IsOnOffStatus models argSource data
  | .devKeyMessageReceived _ _ _ answers => ∀ id ∈ answers, id ∉ s.accepted
  | .request call reply => Output.stopReqTimer ∈ (s.perform models call reply).outputs → s.Idle
  | .requestTimerExpired _ => True
  | .configTimerExpired _ _ => True

end AdvRun

def advMachine (models : ElementModels) : Machine AdvRun AdvEvent := ⟨{}, AdvRun.step models⟩

/-! ### What a step does to the timer -/

namespace RequestTimer

variable {t : RequestTimer}

/-- At most the timer with the stored id is live. -/
structure One (t : RequestTimer) : Prop where
  live : t.sources = [] ∨ t.sources = [t.mReqExpTimerId]
  zero : 0 ∉ t.sources
  below : ∀ id ∈ t.sources, id < t.nextSource
  pos : 0 < t.nextSource
  config : t.sources ≠ [] → t.config = "setOnOff"
  clean : t.removedDead = []

theorem one_init : One {} where
  live := .inl rfl
  zero := List.not_mem_nil
  below := nofun
  pos := Nat.one_pos
  config := fun h => absurd rfl h
  clean := rfl

theorem One.stopReqTimer_eq (h : t.One)
    (hid : t.mReqExpTimerId = 0 ∨ t.mReqExpTimerId ∈ t.sources) :
    t.stopReqTimer = { t with mReqExpTimerId := 0, sources := [] } := by
  by_cases hzero : t.mReqExpTimerId = 0
  · have hnil : t.sources = [] := by
      apply h.live.resolve_right
      intro heq
      apply h.zero
      rw [heq, hzero]
      exact List.mem_singleton_self 0
    rw [stopReqTimer, if_neg (not_not.mpr hzero), ← hnil, ← hzero]
  · have hmem := hid.resolve_left hzero
    have hone : t.sources = [t.mReqExpTimerId] := by
      apply h.live.resolve_left
      exact List.ne_nil_of_mem hmem
    rw [stopReqTimer, if_pos hzero, if_pos hmem, hone, List.erase_cons_head]

theorem One.cleared (h : t.One) (id : ℕ) : One { t with mReqExpTimerId := id, sources := [] } where
  live := .inl rfl
  zero := List.not_mem_nil
  below := nofun
  pos := h.pos
  config := fun hne => absurd rfl hne
  clean := h.clean

def started (t : RequestTimer) (onOffState : Bool) : RequestTimer :=
  { t with
    mReqExpTimerId := t.nextSource
    config := "setOnOff"
    onOffState := onOffState
    sources := [t.nextSource]
    nextSource := t.nextSource + 1 }

theorem One.started (h : t.One) (onOffState : Bool) : One (t.started onOffState) where
  live := .inr rfl
  zero := by
    intro hzero
    exact Nat.ne_of_lt h.pos (List.mem_singleton.mp hzero)
  below := by
    intro id hid
    rw [List.mem_singleton.mp hid]
    exact Nat.lt_succ_self _
  pos := Nat.succ_pos _
  config := fun _ => rfl
  clean := h.clean

theorem send_error (t : RequestTimer) (message : String) :
    (t.send (some message)).1 = t.stopReqTimer ∧ (t.send (some message)).2 ≠ .none := by
  refine ⟨rfl, ?_⟩
  unfold send
  dsimp only
  split_ifs
  · decide
  · decide

theorem One.startTimer_eq (h : t.One)
    (hid : t.mReqExpTimerId = 0 ∨ t.mReqExpTimerId ∈ t.sources) (onoff : Bool) :
    { t.startTimer "setOnOff" with onOffState := onoff } = t.started onoff := by
  unfold startTimer
  rw [h.stopReqTimer_eq hid]
  rfl

theorem One.atTimeOut_eq (h : t.One) {source : ℕ} {o : RequestTimer × TimeOutReport}
    (ho : t.atTimeOut source = some o) :
    t.sources = [source] ∧ o = ({ t with sources := [] }, .modelSetOnOffResult t.onOffState) := by
  unfold atTimeOut at ho
  split_ifs at ho with hmem hconfig
  · have hone := h.live.resolve_left (List.ne_nil_of_mem hmem)
    have hsource : source = t.mReqExpTimerId := by
      rw [hone] at hmem
      exact List.mem_singleton.mp hmem
    refine ⟨hsource ▸ hone, ?_⟩
    rw [← Option.some.inj ho, hone, hsource, List.erase_cons_head]
  · exact absurd (h.config (List.ne_nil_of_mem hmem)) hconfig

end RequestTimer

/-! ### The ledger of a run -/

namespace AdvRun

variable {models : ElementModels} {s t : AdvRun}

def ledger (s : AdvRun) : Ledger ℕ := ⟨s.accepted, s.timer.sources, s.reported⟩

structure Good (s : AdvRun) : Prop where
  one : s.timer.One
  accepted_old : ∀ id ∈ s.accepted, id < s.timer.nextSource
  reported_old : ∀ id ∈ s.reported, id < s.timer.nextSource

theorem good_init : Good {} where
  one := RequestTimer.one_init
  accepted_old := nofun
  reported_old := nofun

theorem Good.withClient (h : s.Good) (client : ConfigClient) : Good { s with client := client } :=
  ⟨h.one, h.accepted_old, h.reported_old⟩

theorem answer_live {id : ℕ} (hone : s.timer.sources = [id]) (n : ℕ)
    (hn : id ∈ s.accepted → n = 1) :
    Ledger.Step s.ledger ⟨s.accepted, [], List.replicate n id ++ s.reported⟩ := by
  have hmem : id ∈ s.ledger.pending := by
    change id ∈ s.timer.sources
    rw [hone]
    exact List.mem_singleton_self id
  have hanswer := Ledger.Step.answer (l := s.ledger) id n hmem hn
  unfold ledger at hanswer ⊢
  rw [hone, List.erase_cons_head] at hanswer
  rw [hone]
  exact hanswer

theorem Idle.stoppable (h : s.Idle) :
    s.timer.mReqExpTimerId = 0 ∨ s.timer.mReqExpTimerId ∈ s.timer.sources :=
  h.imp_right And.left

/-- The source that is stopped, if there is one, is that of no accepted request. -/
theorem Good.stop (h : s.Good) (hidle : s.Idle) :
    Good { s with timer := s.timer.stopReqTimer } ∧
      Ledger.Step s.ledger (ledger { s with timer := s.timer.stopReqTimer }) := by
  rw [h.one.stopReqTimer_eq hidle.stoppable]
  refine ⟨⟨h.one.cleared 0, h.accepted_old, h.reported_old⟩, ?_⟩
  rcases h.one.live with hnil | hone
  · have hkeep : ledger { s with
        timer := { s.timer with mReqExpTimerId := 0, sources := [] } } = s.ledger := by
      unfold ledger
      rw [hnil]
    rw [hkeep]
    exact Ledger.Step.idle
  · have hmem : s.timer.mReqExpTimerId ∈ s.timer.sources := by
      rw [hone]
      exact List.mem_singleton_self _
    have hunaccepted : s.timer.mReqExpTimerId ∉ s.accepted := by
      rcases hidle with hzero | hidle
      · rw [hzero] at hmem
        exact absurd hmem h.one.zero
      · exact hidle.2
    exact answer_live hone 0 fun hacc => absurd hacc hunaccepted

theorem Good.fresh (h : s.Good) :
    s.timer.nextSource ∉ s.accepted ∧ s.timer.nextSource ∉ s.reported := by
  constructor
  · intro hmem
    exact Nat.lt_irrefl _ (h.accepted_old _ hmem)
  · intro hmem
    exact Nat.lt_irrefl _ (h.reported_old _ hmem)

theorem Good.started (h : s.Good) (hidle : s.Idle) (onoff : Bool) {accepted : List ℕ}
    (haccepted : accepted = s.accepted ∨ accepted = s.timer.nextSource :: s.accepted) :
    Good { s with timer := s.timer.started onoff, accepted := accepted } ∧
      Ledger.Steps s.ledger
        (ledger { s with timer := s.timer.started onoff, accepted := accepted }) := by
  obtain ⟨_, hstop⟩ := h.stop hidle
  rw [h.one.stopReqTimer_eq hidle.stoppable] at hstop
  constructor
  · refine ⟨h.one.started onoff, ?_, fun id hid => Nat.lt_succ_of_lt (h.reported_old id hid)⟩
    intro id hid
    rcases haccepted with rfl | rfl
    · exact Nat.lt_succ_of_lt (h.accepted_old id hid)
    · rcases List.mem_cons.mp hid with rfl | hid
      · exact Nat.lt_succ_self _
      · exact Nat.lt_succ_of_lt (h.accepted_old id hid)
  · apply Relation.ReflTransGen.tail (.single hstop)
    rcases haccepted with rfl | rfl
    · exact Ledger.Step.queue (l := ⟨s.accepted, [], s.reported⟩) _ h.fresh.1
    · exact Ledger.Step.openRequest (l := ⟨s.accepted, [], s.reported⟩) _ h.fresh.1
        List.not_mem_nil h.fresh.2

theorem Good.startedAndStopped (h : s.Good) (hidle : s.Idle) (onoff : Bool) :
    Good { s with timer := (s.timer.started onoff).stopReqTimer } ∧
      Ledger.Steps s.ledger
        (ledger { s with timer := (s.timer.started onoff).stopReqTimer }) := by
  obtain ⟨hgood, _⟩ := h.started hidle onoff (.inl rfl)
  obtain ⟨_, hstop⟩ := h.stop hidle
  rw [h.one.stopReqTimer_eq hidle.stoppable] at hstop
  rw [hgood.one.stopReqTimer_eq (.inr (List.mem_singleton_self _))]
  exact ⟨⟨hgood.one.cleared 0, hgood.accepted_old, hgood.reported_old⟩, .single hstop⟩

theorem Good.setOnOff {onoff ack : Bool} {reply : Reply} (h : s.Good)
    (hg : s.Undisturbed models (.setOnOff onoff ack reply))
    (hs : s.step models (.setOnOff onoff ack reply) = some t) :
    t.Good ∧ Ledger.Steps s.ledger t.ledger := by
  simp only [step, RequestTimer.setOnOff] at hs
  cases ack with
  | false =>
      simp only [Bool.false_eq_true, if_false, false_and, Option.some.injEq] at hs
      cases hmodel : models.onOffClient with
      | false =>
          rw [hmodel] at hs
          subst hs
          exact ⟨h, .refl⟩
      | true =>
          rw [hmodel] at hs
          cases reply with
          | none =>
              subst hs
              exact ⟨h, .refl⟩
          | some message =>
              subst hs
              have hidle := hg (.inr ⟨hmodel, Option.some_ne_none _⟩)
              exact (h.stop hidle).imp_right .single
  | true =>
      have hidle := hg (.inl rfl)
      simp only [if_true, true_and, h.one.startTimer_eq hidle.stoppable,
        Option.some.injEq] at hs
      cases hmodel : models.onOffClient with
      | false =>
          rw [hmodel] at hs
          subst hs
          exact h.started hidle onoff (.inl rfl)
      | true =>
          rw [hmodel] at hs
          cases reply with
          | none =>
              subst hs
              exact h.started hidle onoff (.inr rfl)
          | some message =>
              obtain ⟨hstop, herror⟩ := (s.timer.started onoff).send_error message
              simp only [if_true, hstop, herror, if_false] at hs
              subst hs
              exact h.startedAndStopped hidle onoff

theorem receive_eq {timer : RequestTimer} {argSource : UInt16} {data : List UInt8}
    {deleted : Reply} {answers : Option ℕ}
    (hs : s.receive models timer argSource data deleted answers = some t) :
    ∃ o, models.recvData s.client argSource data deleted = .ok o ∧
      t = { s with
        timer := timer
        client := o.client
        reported := s.creditStatus answers o.onOff ++ s.reported } := by
  unfold receive at hs
  cases ho : models.recvData s.client argSource data deleted with
  | error f => simp [ho] at hs
  | ok o =>
      rw [ho] at hs
      exact ⟨o, rfl, (Option.some.inj hs).symm⟩

theorem creditStatus_of_unaccepted {answers : Option ℕ} (h : ∀ id ∈ answers, id ∉ s.accepted)
    (onOff : Option Bool) : s.creditStatus answers onOff = [] := by
  unfold creditStatus
  cases answers with
  | none => simp
  | some id =>
      have hid : id ∉ s.accepted := h id rfl
      simp [hid]

theorem onOffRecvData_of_status {data : List UInt8} {opcode : UInt32} {n : ℕ}
    (hget : meshOpcodeGet data (UInt16.ofNat data.length) = .ok (some (opcode, n)))
    (hop : opcode &&& ~~~opUnreliable = opGenericOnoffStatus)
    (hlen : (data.drop n).length = 1 ∨ (data.drop n).length = 3) :
    ∃ onoff, onOffRecvData data = .ok (true, some onoff) := by
  have hne : data.drop n ≠ [] := by
    intro hnil
    rw [hnil] at hlen
    exact absurd hlen (by decide)
  obtain ⟨b, rest, hpayload⟩ := List.exists_cons_of_ne_nil hne
  refine ⟨b ≠ 0, ?_⟩
  unfold onOffRecvData
  rw [hget, bind_ok]
  dsimp only
  rw [if_pos hop, if_neg (by omega), hpayload]
  rfl

theorem IsOnOffStatus.reported {argSource : UInt16} {data : List UInt8} {deleted : Reply}
    {o : ElementReceived} (h : s.IsOnOffStatus models argSource data)
    (ho : models.recvData s.client argSource data deleted = .ok o) : o.onOff.isSome = true := by
  obtain ⟨opcode, n, hget, hop, hlen⟩ := h.status
  obtain ⟨onoff, honoff⟩ := onOffRecvData_of_status hget hop hlen
  unfold ElementModels.recvData at ho
  have hunhandled : models.askConfigClient s.client argSource data deleted =
      .ok ⟨s.client, false, []⟩ := by
    unfold ElementModels.askConfigClient
    split_ifs with hconfig
    · unfold ConfigClient.recvData
      rw [h.unclaimed hconfig]
      rfl
    · rfl
  rw [hunhandled, bind_ok, h.onOffClient] at ho
  simp only [Bool.false_eq_true, Bool.true_eq_false, or_self, if_false] at ho
  rw [honoff, bind_ok] at ho
  cases ho
  rfl

/-- The status of the request that waits stops its timer and is its one result. -/
theorem Good.answered (h : s.Good) (hwaits : s.Waits s.timer.mReqExpTimerId)
    (client : ConfigClient) :
    Good { s with
      timer := s.timer.stopReqTimer
      client := client
      reported := s.timer.mReqExpTimerId :: s.reported } ∧
    Ledger.Step s.ledger
      ⟨s.accepted, s.timer.stopReqTimer.sources, s.timer.mReqExpTimerId :: s.reported⟩ := by
  have hone := h.one.live.resolve_left (List.ne_nil_of_mem hwaits)
  rw [h.one.stopReqTimer_eq (.inr hwaits)]
  constructor
  · refine ⟨h.one.cleared 0, h.accepted_old, ?_⟩
    intro id hid
    rcases List.mem_cons.mp hid with rfl | hid
    · exact h.one.below _ hwaits
    · exact h.reported_old id hid
  · exact answer_live hone 1 fun _ => rfl

theorem Good.messageReceived {argSource : UInt16} {data : List UInt8} {deleted : Reply}
    {answers : Option ℕ} (h : s.Good)
    (hg : s.Undisturbed models (.messageReceived argSource data deleted answers))
    (hs : s.step models (.messageReceived argSource data deleted answers) = some t) :
    t.Good ∧ Ledger.Steps s.ledger t.ledger := by
  obtain ⟨o, ho, rfl⟩ := receive_eq hs
  rcases hg with ⟨hidle, hnone⟩ | ⟨hwaits, rfl, hstatus⟩
  · rw [creditStatus_of_unaccepted hnone]
    obtain ⟨hgood, hstep⟩ := h.stop hidle
    exact ⟨hgood.withClient o.client, .single hstep⟩
  · by_cases hacc : s.timer.mReqExpTimerId ∈ s.accepted
    · have hcredit : s.creditStatus (some s.timer.mReqExpTimerId) o.onOff =
          [s.timer.mReqExpTimerId] := by
        unfold creditStatus
        rw [if_pos (hstatus.reported ho)]
        simp [hacc]
      rw [hcredit]
      exact (h.answered hwaits o.client).imp_right .single
    · rw [creditStatus_of_unaccepted fun id hid => by
        cases hid
        exact hacc]
      obtain ⟨hgood, hstep⟩ := h.stop (.inr ⟨hwaits, hacc⟩)
      exact ⟨hgood.withClient o.client, .single hstep⟩

theorem Good.devKeyMessageReceived {argSource : UInt16} {data : List UInt8} {deleted : Reply}
    {answers : Option ℕ} (h : s.Good)
    (hg : s.Undisturbed models (.devKeyMessageReceived argSource data deleted answers))
    (hs : s.step models (.devKeyMessageReceived argSource data deleted answers) = some t) :
    t.Good ∧ Ledger.Steps s.ledger t.ledger := by
  obtain ⟨o, _, rfl⟩ := receive_eq hs
  rw [creditStatus_of_unaccepted hg]
  exact ⟨h.withClient o.client, .refl⟩

theorem Good.request {call : ConfigCall} {reply : Reply} (h : s.Good)
    (hg : s.Undisturbed models (.request call reply))
    (hs : s.step models (.request call reply) = some t) :
    t.Good ∧ Ledger.Steps s.ledger t.ledger := by
  cases hs
  by_cases hstop : Output.stopReqTimer ∈ (s.perform models call reply).outputs
  · rw [if_pos hstop]
    obtain ⟨hgood, hstep⟩ := h.stop (hg hstop)
    exact ⟨hgood.withClient _, .single hstep⟩
  · rw [if_neg hstop]
    exact ⟨h.withClient _, .refl⟩

theorem Good.requestTimerExpired {source : ℕ} (h : s.Good)
    (hs : s.step models (.requestTimerExpired source) = some t) :
    t.Good ∧ Ledger.Steps s.ledger t.ledger := by
  obtain ⟨o, ho, rfl⟩ := Option.map_eq_some_iff.mp hs
  obtain ⟨hone, rfl⟩ := h.one.atTimeOut_eq ho
  have hmem : source ∈ s.timer.sources := by
    rw [hone]
    exact List.mem_singleton_self _
  constructor
  · refine ⟨h.one.cleared s.timer.mReqExpTimerId, h.accepted_old, ?_⟩
    intro id hid
    rcases List.mem_cons.mp hid with rfl | hid
    · exact h.one.below _ hmem
    · exact h.reported_old id hid
  · exact .single (answer_live hone 1 fun _ => rfl)

theorem Good.step {e : AdvEvent} (h : s.Good) (hg : s.Undisturbed models e)
    (hs : s.step models e = some t) : t.Good ∧ Ledger.Steps s.ledger t.ledger := by
  cases e with
  | setOnOff onoff ack reply => exact h.setOnOff hg hs
  | messageReceived argSource data deleted answers => exact h.messageReceived hg hs
  | devKeyMessageReceived argSource data deleted answers => exact h.devKeyMessageReceived hg hs
  | request call reply => exact h.request hg hs
  | requestTimerExpired source => exact h.requestTimerExpired hs
  | configTimerExpired timer deleted =>
      obtain ⟨o, _, rfl⟩ := Option.map_eq_some_iff.mp hs
      exact ⟨h.withClient o.1, .refl⟩

theorem good_of_reach (hs : (advMachine models).ReachWith (Undisturbed models) s) :
    s.Good ∧ s.ledger.Settled := by
  refine hs.invariant (P := fun s => s.Good ∧ s.ledger.Settled) ?_ ?_
  · exact ⟨good_init, fun id hid => absurd hid List.not_mem_nil⟩
  · rintro s e t ⟨hgood, hsettled⟩ hg hstep
    obtain ⟨hgood', hsteps⟩ := hgood.step hg hstep
    exact ⟨hgood', hsettled.steps hsteps⟩

end AdvRun

/-- In an undisturbed run only live sources are removed, and an accepted request waits
without a result and its timer is ready to give it one, or it has one result for good. -/
theorem onOff_answers_once {models : ElementModels} {s : AdvRun}
    (hs : (advMachine models).ReachWith (AdvRun.Undisturbed models) s) :
    s.timer.removedDead = [] ∧ ∀ id ∈ s.accepted,
      (s.Waits id → s.reported.count id = 0 ∧ ∃ t,
        s.step models (.requestTimerExpired id) = some t ∧ ¬ t.Waits id ∧
          t.reported.count id = 1) ∧
      (¬ s.Waits id → s.reported.count id = 1 ∧ ∀ e t,
        s.Undisturbed models e → s.step models e = some t → ¬ t.Waits id) := by
  obtain ⟨hgood, hsettled⟩ := AdvRun.good_of_reach hs
  refine ⟨hgood.one.clean, fun id hid => ⟨fun hwaits => ?_, fun hgone => ?_⟩⟩
  · have hzero : s.reported.count id = 0 := hsettled.unanswered hid hwaits
    refine ⟨hzero, ?_⟩
    cases hexpire : s.timer.atTimeOut id with
    | none =>
        have hmem : id ∈ s.timer.sources := hwaits
        unfold RequestTimer.atTimeOut at hexpire
        rw [if_pos hmem] at hexpire
        cases hexpire
    | some o =>
        obtain ⟨_, rfl⟩ := hgood.one.atTimeOut_eq hexpire
        refine ⟨_, by rw [AdvRun.step, hexpire]; rfl, List.not_mem_nil, ?_⟩
        rw [List.count_cons_self, hzero]
  · refine ⟨hsettled.answered_once hid hgone, fun e t hg hstep => ?_⟩
    obtain ⟨_, hsteps⟩ := hgood.step hg hstep
    exact hsteps.not_pending hid hgone

def bothModels : ElementModels := ⟨true, true⟩

/-- A request that waits. -/
theorem onOff_answers_once_waiting : ∃ s : AdvRun, 1 ∈ s.accepted ∧ s.Waits 1 ∧
    s.timer.removedDead = [] := by
  have hidle : AdvRun.Undisturbed bothModels (advMachine bothModels).init
      (.setOnOff true true none) := fun _ => .inl rfl
  exact ⟨_, by decide, by decide, (onOff_answers_once (.step .init hidle rfl)).1⟩

/-- A message that is no on-off status stops the timer of the request. -/
theorem onOff_answer_lost : ¬ ∀ s, (advMachine bothModels).Reach s →
    s.timer.removedDead = [] ∧ ∀ id ∈ s.accepted, s.Waits id ∨ s.reported.count id = 1 := by
  intro h
  have hrun : ∃ t, (advMachine bothModels).run (advMachine bothModels).init
      [.setOnOff true true none, .messageReceived 7 [0x01] none none] = some t ∧
      1 ∈ t.accepted ∧ ¬ (t.Waits 1 ∨ t.reported.count 1 = 1) :=
    ⟨_, rfl, by decide, by decide⟩
  obtain ⟨t, hrun, hacc, hlost⟩ := hrun
  exact hlost ((h t (Machine.reach_of_run _ hrun)).2 1 hacc)

/-- The timer of a second request removes the source of the first one, which has expired. -/
example : ∃ t, (advMachine bothModels).run (advMachine bothModels).init
    [.setOnOff true true none, .requestTimerExpired 1, .setOnOff false true none] = some t ∧
    t.timer.removedDead = [1] := ⟨_, rfl, rfl⟩

end BluezSil.Mesh
