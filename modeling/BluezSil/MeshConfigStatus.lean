import BluezSil.MeshConfigClient

/-!
# The status byte of a reply

Three of the replies begin with a status byte. The handler compares it for the list
of application keys only, and leaves a list that was refused without a report; for
the others the report is a success whatever the byte says. No branch of the handler
reports an error.
-/

namespace BluezSil.Mesh

open ByteAccess

def statusReplies : List UInt32 := [opAppkeyStatus, opAppkeyList, opModelAppStatus]

/-- A reply with a status byte, of a length that the handler accepts. -/
structure StatusReply (opcode : UInt32) (payload : List UInt8) : Prop where
  carries : opcode ∈ statusReplies
  appKeyStatus : opcode = opAppkeyStatus → payload.length = 4
  keyList : opcode = opAppkeyList → 3 ≤ payload.length
  modelApp : opcode = opModelAppStatus → payload.length = 7 ∨ payload.length = 9

/-- The node accepted what it was asked: the status byte is the success status. -/
def SaysSuccess (payload : List UInt8) : Prop := payload.head? = some meshStatusSuccess

theorem StatusReply.ok {opcode : UInt32} {payload : List UInt8} (h : StatusReply opcode payload)
    (configuration : BleMeshConfiguration) :
    ∃ handled, decodeStatus opcode configuration payload = .ok handled := by
  have hcarries := h.carries
  simp only [statusReplies, List.mem_cons, List.not_mem_nil, or_false] at hcarries
  rcases hcarries with rfl | rfl | rfl
  · obtain ⟨_, _, hstatus⟩ := decodeStatus_appKeyStatus (h.appKeyStatus rfl) configuration
    exact ⟨_, hstatus⟩
  · match payload, h.keyList rfl with
    | status :: net₀ :: net₁ :: data, _ =>
        exact ⟨_, decodeStatus_appKeyList status net₀ net₁ data configuration⟩
  · exact ⟨_, decodeStatus_modelApp (h.modelApp rfl) configuration⟩

theorem statusReply_of_handled {opcode : UInt32} {payload : List UInt8}
    {configuration handled : BleMeshConfiguration} (hcarries : opcode ∈ statusReplies)
    (h : decodeStatus opcode configuration payload = .ok (some handled)) :
    StatusReply opcode payload := by
  have hop := hcarries
  simp only [statusReplies, List.mem_cons, List.not_mem_nil, or_false] at hop
  rcases hop with rfl | rfl | rfl
  · refine ⟨hcarries, fun _ => ?_, fun h => absurd h (by decide), fun h => absurd h (by decide)⟩
    by_contra hlen
    rw [decodeStatus, if_pos rfl, if_pos hlen] at h
    cases h
  · refine ⟨hcarries, fun h => absurd h (by decide), fun _ => ?_, fun h => absurd h (by decide)⟩
    by_contra hlen
    rw [decodeStatus, if_neg (by decide), if_pos rfl, if_pos (by omega)] at h
    cases h
  · refine ⟨hcarries, fun h => absurd h (by decide), fun h => absurd h (by decide), fun _ => ?_⟩
    by_contra hlen
    rw [decodeStatus, if_neg (by decide), if_neg (by decide), if_pos rfl,
      if_pos (not_or.mp hlen)] at h
    cases h

namespace ConfigClient

variable {c : ConfigClient} {srcAddress : UInt16} {data payload : List UInt8} {deleted : Reply}
  {req : BleMeshPendingRequest} {opcode : UInt32} {o : Received}

/-- The outcomes of the handler for a message that answers a request. -/
theorem recvData_matched (h : c.matchMessage srcAddress data = .ok (some (req, opcode, payload)))
    (ho : c.recvData srcAddress data deleted = .ok o) :
    ∃ handled, decodeStatus (opcode &&& ~~~opUnreliable)
        { config := req.desc, nodeAddress := srcAddress } payload = .ok handled ∧
      ∀ configuration error, .modelConfigResult configuration error ∈ o.outputs →
        handled = some configuration ∧ error = .none := by
  rw [recvData_eq_of_match h] at ho
  cases hdecode : decodeStatus (opcode &&& ~~~opUnreliable)
      { config := req.desc, nodeAddress := srcAddress } payload with
  | error f =>
      rw [hdecode] at ho
      cases ho
  | ok handled =>
      rw [hdecode] at ho
      cases ho
      refine ⟨handled, rfl, ?_⟩
      intro configuration error hmem
      rcases List.mem_append.mp hmem with hreset | hreported
      · split_ifs at hreset
        · cases List.mem_singleton.mp hreset
        · cases hreset
      · obtain ⟨reported, hhandled, heq⟩ := List.mem_map.mp hreported
        cases heq
        exact ⟨Option.mem_toList.mp hhandled, rfl⟩

theorem recvData_ok (h : c.matchMessage srcAddress data = .ok (some (req, opcode, payload)))
    (hreply : StatusReply (opcode &&& ~~~opUnreliable) payload) (deleted : Reply) :
    ∃ o, c.recvData srcAddress data deleted = .ok o := by
  obtain ⟨handled, hdecode⟩ := hreply.ok { config := req.desc, nodeAddress := srcAddress }
  rw [recvData_eq_of_match h, hdecode]
  exact ⟨_, rfl⟩

/-- What is reported for a message agrees with its status byte: a success only if the
byte says so, and any other status of an accepted reply as an error for the request
that is answered. -/
def ReportsStatus (c : ConfigClient) (srcAddress : UInt16) (data : List UInt8)
    (deleted : Reply) : Prop :=
  ∀ req opcode payload o, c.matchMessage srcAddress data = .ok (some (req, opcode, payload)) →
    c.recvData srcAddress data deleted = .ok o →
    (opcode &&& ~~~opUnreliable ∈ statusReplies →
      ∀ configuration, .modelConfigResult configuration .none ∈ o.outputs →
        SaysSuccess payload) ∧
    (StatusReply (opcode &&& ~~~opUnreliable) payload → ¬ SaysSuccess payload →
      ∃ configuration error, error ≠ .none ∧ configuration.config = req.desc ∧
        configuration.nodeAddress = req.addr ∧
        .modelConfigResult configuration error ∈ o.outputs)

def AnswersSuccess (c : ConfigClient) (srcAddress : UInt16) (data : List UInt8) : Prop :=
  ∀ req opcode payload, c.matchMessage srcAddress data = .ok (some (req, opcode, payload)) →
    StatusReply (opcode &&& ~~~opUnreliable) payload → SaysSuccess payload

/-- The report agrees with the status byte exactly when the byte says success. -/
theorem recvData_reportsStatus_iff (c : ConfigClient) (srcAddress : UInt16) (data : List UInt8)
    (deleted : Reply) :
    c.ReportsStatus srcAddress data deleted ↔ c.AnswersSuccess srcAddress data := by
  constructor
  · intro hreports req opcode payload hmatch hreply
    by_contra hstatus
    obtain ⟨o, ho⟩ := recvData_ok hmatch hreply deleted
    obtain ⟨configuration, error, herror, _, _, hmem⟩ :=
      (hreports req opcode payload o hmatch ho).2 hreply hstatus
    obtain ⟨handled, _, honly⟩ := recvData_matched hmatch ho
    exact herror (honly configuration error hmem).2
  · intro hsuccess req opcode payload o hmatch ho
    obtain ⟨handled, hdecode, honly⟩ := recvData_matched hmatch ho
    constructor
    · intro hcarries configuration hmem
      obtain ⟨rfl, _⟩ := honly configuration .none hmem
      exact hsuccess req opcode payload hmatch (statusReply_of_handled hcarries hdecode)
    · intro hreply hstatus
      exact absurd (hsuccess req opcode payload hmatch hreply) hstatus

def awaitingBind : ConfigClient :=
  (configBindAppKey {} 0x0005 0 1 0x1000 none).client

def bindAnswer (status : UInt8) : List UInt8 :=
  meshOpcodeSet opModelAppStatus ++ [status, 0x05, 0x00, 0x01, 0x00, 0x00, 0x10]

/-- The refusal of a bind, invalid application key index, is reported as a success. -/
theorem recvData_refused_bind :
    ¬ ∀ (c : ConfigClient) (srcAddress : UInt16) (data : List UInt8) (deleted : Reply),
      c.ReportsStatus srcAddress data deleted := by
  intro hall
  have hreport : ∃ req payload o,
      awaitingBind.matchMessage 0x0005 (bindAnswer 0x03) =
        .ok (some (req, opModelAppStatus, payload)) ∧
      awaitingBind.recvData 0x0005 (bindAnswer 0x03) none = .ok o ∧
      .modelConfigResult { config := "APPKEY_BIND", nodeAddress := 0x0005 } .none ∈ o.outputs ∧
      payload.head? = some 0x03 := by
    refine ⟨_, _, _, rfl, rfl, ?_, rfl⟩
    exact List.mem_singleton_self _
  obtain ⟨req, payload, o, hmatch, ho, hmem, hhead⟩ := hreport
  have hsuccess := (hall awaitingBind 0x0005 (bindAnswer 0x03) none req _ payload o hmatch ho).1
    (by decide) _ hmem
  rw [SaysSuccess, hhead] at hsuccess
  exact absurd hsuccess (by decide)

end ConfigClient

end BluezSil.Mesh
