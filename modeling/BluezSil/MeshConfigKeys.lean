import BluezSil.MeshConfigRuns
import Mathlib.Logic.Function.Basic

/-!
# Application key requests and the statuses that answer them

Each key request of a run is recorded with its key, and each application key
status with the node and the key index it carries. The client matches a status by
node alone and takes the oldest request. As long as the statuses come in the order
of the requests, that request is the one for the key the status carries, and no
time-out blames a key that has been answered.
-/

namespace BluezSil.Mesh

open ByteAccess RequestLedger TransitionRun

def statusKey : List UInt8 → Option (UInt16 × UInt16)
  | [_, b₁, b₂, b₃] => some (word16 b₁ b₂ &&& 0xfff, word16 b₂ b₃ >>> 4)
  | _ => none

theorem decodeStatus_statusKey {payload : List UInt8} {key : UInt16 × UInt16}
    (h : statusKey payload = some key) (configuration : BleMeshConfiguration) :
    decodeStatus opAppkeyStatus configuration payload =
      .ok (some { configuration with netKeyIndex := some key.1, appKeyIndex := some key.2 }) := by
  match payload, h with
  | [_, _, _, _], rfl => rfl

/-- The client, the key asked for by each request, and the nodes and key indexes answered
since they were asked for last. -/
structure KeyRun where
  client : ConfigClient := {}
  keyOf : ℕ → UInt16 × UInt16 := fun _ => (0, 0)
  answered : List (UInt16 × UInt16) := []

def ConfigClient.answeredKey (c : ConfigClient) (srcAddress : UInt16) (data : List UInt8) :
    List (UInt16 × UInt16) :=
  match c.matchMessage srcAddress data with
  | .ok (some (_, opcode, payload)) =>
    if opcode = opAppkeyStatus then (statusKey payload).toList.map fun key => (srcAddress, key.2)
    else []
  | _ => []

theorem ConfigClient.answeredKey_of_match {c : ConfigClient} {srcAddress : UInt16}
    {data payload : List UInt8} {req : BleMeshPendingRequest} {opcode : UInt32}
    (h : c.matchMessage srcAddress data = .ok (some (req, opcode, payload))) :
    c.answeredKey srcAddress data =
      if opcode = opAppkeyStatus then (statusKey payload).toList.map fun key => (srcAddress, key.2)
      else [] := by
  rw [answeredKey, h]

def KeyRun.keysAfter (s : KeyRun) (call : ConfigCall) : ℕ → UInt16 × UInt16 :=
  match call.keyRequest with
  | some (_, key) => Function.update s.keyOf s.client.nextSource key
  | none => s.keyOf

theorem KeyRun.keysAfter_of_lt (s : KeyRun) (call : ConfigCall) {id : ℕ}
    (hid : id < s.client.nextSource) : s.keysAfter call id = s.keyOf id := by
  rw [keysAfter]
  cases call.keyRequest with
  | none => rfl
  | some key => exact Function.update_of_ne (Nat.ne_of_lt hid) _ _

theorem KeyRun.keysAfter_self (s : KeyRun) {call : ConfigCall} {node : UInt16}
    {key : UInt16 × UInt16} (hcall : call.keyRequest = some (node, key)) :
    s.keysAfter call s.client.nextSource = key := by
  rw [keysAfter, hcall]
  exact Function.update_self _ _ _

/-- A key that is asked for again has not been answered. -/
def KeyRun.answeredAfter (s : KeyRun) (call : ConfigCall) (reply : Reply) :
    List (UInt16 × UInt16) :=
  match reply, call.keyRequest with
  | none, some (node, _, app) => s.answered.filter (· ≠ (node, app))
  | _, _ => s.answered

theorem KeyRun.answeredAfter_subset (s : KeyRun) (call : ConfigCall) (reply : Reply) :
    s.answeredAfter call reply ⊆ s.answered := by
  unfold answeredAfter
  split
  · exact List.filter_subset_self _
  · exact List.Subset.refl _

theorem KeyRun.notMem_answeredAfter (s : KeyRun) {call : ConfigCall} {node net app : UInt16}
    (hcall : call.keyRequest = some (node, net, app)) :
    (node, app) ∉ s.answeredAfter call none := by
  unfold answeredAfter
  rw [hcall]
  intro hmem
  exact of_decide_eq_true (List.mem_filter.mp hmem).2 rfl

theorem KeyRun.mem_answeredAfter (s : KeyRun) (call : ConfigCall) (reply : Reply)
    {key : UInt16 × UInt16} (hkey : key ∈ s.answered) : key ∈ s.answeredAfter call reply ∨
      reply = none ∧ ∃ net, call.keyRequest = some (key.1, net, key.2) := by
  unfold answeredAfter
  split
  · next node net app hcall =>
      by_cases hsame : key = (node, app)
      · subst hsame
        exact .inr ⟨rfl, net, hcall⟩
      · exact .inl (List.mem_filter.mpr ⟨hkey, decide_eq_true hsame⟩)
  · exact .inl hkey

def KeyRun.step (s : KeyRun) : ConfigEvent → Option KeyRun
  | .request call reply =>
    some { s with
      client := (s.client.perform reply call).client
      keyOf := s.keysAfter call
      answered := s.answeredAfter call reply }
  | .recvData srcAddress data deleted =>
    match s.client.recvData srcAddress data deleted with
    | .ok o =>
      some { s with
        client := o.client
        answered := s.client.answeredKey srcAddress data ++ s.answered }
    | .error _ => none
  | .timerExpired timer deleted =>
    (s.client.pendingRequestTimerExpired timer deleted).map fun o => { s with client := o.1 }

def keyMachine : Machine KeyRun ConfigEvent := ⟨{}, KeyRun.step⟩

def KeyRun.Outstanding (s : KeyRun) (node : UInt16) (r : BleMeshPendingRequest) : Prop :=
  r ∈ s.client.pendingRequests ∧ r.resp = opAppkeyStatus ∧ r.addr = node

/-- The steps of a run in which the keys are answered in order, and no key while a later update
of it is outstanding. A time-out of a request that keeps no key index must not meet an answered
index 0. -/
def InOrder (s : KeyRun) : ConfigEvent → Prop
  | .request call reply => reply ≠ none → ∀ destAddress, call.appKeyDest = some destAddress →
      ∀ r, ¬ s.Outstanding destAddress r
  | .recvData srcAddress data _ => ∀ req payload key,
      s.client.matchMessage srcAddress data = .ok (some (req, opAppkeyStatus, payload)) →
      statusKey payload = some key →
      ∃ r, s.Outstanding srcAddress r ∧ s.keyOf r.timer = key ∧
        ∀ q, s.Outstanding srcAddress q → q = r ∨
          r.timer < q.timer ∧ (q.req = opAppkeyUpdate → (s.keyOf q.timer).2 ≠ key.2)
  | .timerExpired timer _ => ∀ node r, s.Outstanding node r → r.timer = timer →
      r.req ≠ opAppkeyUpdate → (node, 0) ∉ s.answered

namespace KeyRun

structure Good (s : KeyRun) : Prop where
  timed : s.client.Timed
  kept : ∀ node r, s.Outstanding node r →
    r.keyRefreshData.appKeyIndex = if r.req = opAppkeyUpdate then (s.keyOf r.timer).2 else 0
  unanswered : ∀ node r, s.Outstanding node r → r.req = opAppkeyUpdate →
    (node, (s.keyOf r.timer).2) ∉ s.answered

theorem good_init : Good {} where
  timed := ConfigClient.timed_init
  kept := fun _ _ h => absurd h.1 List.not_mem_nil
  unanswered := fun _ _ _ _ => List.not_mem_nil

variable {s : KeyRun} {node : UInt16} {r : BleMeshPendingRequest}

/-- The status discharges the oldest request, which is the one for its key. -/
theorem Good.discharges (h : s.Good) {srcAddress : UInt16} {data payload : List UInt8}
    (deleted : Reply) {key : UInt16 × UInt16}
    (hmatch : s.client.matchMessage srcAddress data = .ok (some (r, opAppkeyStatus, payload)))
    (hkey : statusKey payload = some key) (hord : InOrder s (.recvData srcAddress data deleted)) :
    s.keyOf r.timer = key ∧ ∀ q, s.Outstanding srcAddress q → q ≠ r → q.req = opAppkeyUpdate →
      (s.keyOf q.timer).2 ≠ key.2 := by
  obtain ⟨q, ⟨hq, hresp, haddr⟩, hqkey, hold⟩ := hord r payload key hmatch hkey
  have hfind := matchMessage_request hmatch
  have hle : r.timer ≤ q.timer :=
    find_oldest _ h.timed.sorted hfind hq (BleMeshPendingRequest.awaits_iff.mpr ⟨hresp, haddr⟩)
  rcases hold r (ConfigClient.getRequestFromResponse_spec hfind) with rfl | ⟨hlt, _⟩
  · exact ⟨hqkey, fun p hp hne => ((hold p hp).resolve_left hne).2⟩
  · exact absurd hlt (Nat.not_lt_of_le hle)

theorem Good.of_subset (h : s.Good) {c : ConfigClient} (hc : c.Timed)
    (hsub : ∀ r ∈ c.pendingRequests, r ∈ s.client.pendingRequests)
    {keyOf : ℕ → UInt16 × UInt16} (hkeep : ∀ id < s.client.nextSource, keyOf id = s.keyOf id)
    {answered : List (UInt16 × UInt16)} (hanswered : answered ⊆ s.answered) :
    Good ⟨c, keyOf, answered⟩ := by
  have hold : ∀ node r, Outstanding ⟨c, keyOf, answered⟩ node r →
      s.Outstanding node r ∧ keyOf r.timer = s.keyOf r.timer := by
    rintro node r ⟨hr, hresp⟩
    exact ⟨⟨hsub r hr, hresp⟩, hkeep _ (h.timed.old r (hsub r hr))⟩
  refine ⟨hc, ?_, ?_⟩
  · intro node r hr
    change _ = if _ then (keyOf r.timer).2 else 0
    rw [(hold node r hr).2]
    exact h.kept node r (hold node r hr).1
  · intro node r hr hupdate
    change (node, (keyOf r.timer).2) ∉ answered
    rw [(hold node r hr).2]
    exact fun hmem => h.unanswered node r (hold node r hr).1 hupdate (hanswered hmem)

theorem Good.drop (h : s.Good) (r : BleMeshPendingRequest) :
    Good { s with client := s.client.drop r } :=
  h.of_subset h.timed.drop (fun _ hq => List.mem_of_mem_erase hq) (fun _ _ => rfl)
    (List.Subset.refl _)

theorem Good.push (h : s.Good) (hr : r.timer = s.client.nextSource)
    {keyOf : ℕ → UInt16 × UInt16} (hkeep : ∀ id < s.client.nextSource, keyOf id = s.keyOf id)
    {answered : List (UInt16 × UInt16)} (hanswered : answered ⊆ s.answered)
    (hnew : r.resp = opAppkeyStatus →
      (r.keyRefreshData.appKeyIndex = if r.req = opAppkeyUpdate then (keyOf r.timer).2 else 0) ∧
      (r.addr, (keyOf r.timer).2) ∉ answered) :
    Good ⟨s.client.push r, keyOf, answered⟩ := by
  have hcases : ∀ node q, Outstanding ⟨s.client.push r, keyOf, answered⟩ node q →
      s.Outstanding node q ∧ keyOf q.timer = s.keyOf q.timer ∨
      q = r ∧ r.resp = opAppkeyStatus ∧ r.addr = node := by
    rintro node q ⟨hq, hresp, haddr⟩
    rcases List.mem_append.mp hq with hq | hq
    · exact Or.inl ⟨⟨hq, hresp, haddr⟩, hkeep _ (h.timed.old q hq)⟩
    · obtain rfl := List.mem_singleton.mp hq
      exact Or.inr ⟨rfl, hresp, haddr⟩
  refine ⟨h.timed.push hr, ?_, ?_⟩
  · intro node q hq
    rcases hcases node q hq with ⟨hq, hsame⟩ | ⟨rfl, hresp, _⟩
    · change _ = if _ then (keyOf q.timer).2 else 0
      rw [hsame]
      exact h.kept node q hq
    · exact (hnew hresp).1
  · intro node q hq hupdate
    rcases hcases node q hq with ⟨hq, hsame⟩ | ⟨rfl, hresp, rfl⟩
    · change (node, (keyOf q.timer).2) ∉ answered
      rw [hsame]
      exact fun hmem => h.unanswered node q hq hupdate (hanswered hmem)
    · exact (hnew hresp).2

/-- An answer leaves no update of its key behind. -/
theorem Good.answer (h : s.Good) (hothers : ∀ q, s.Outstanding node q → q ≠ r →
      q.req = opAppkeyUpdate → (s.keyOf q.timer).2 ≠ (s.keyOf r.timer).2) :
    Good { s with client := s.client.drop r,
                  answered := (node, (s.keyOf r.timer).2) :: s.answered } := by
  have hdrop := h.drop r
  refine ⟨hdrop.timed, hdrop.kept, ?_⟩
  intro node' q hq hupdate hmem
  have hq' : s.Outstanding node' q := ⟨List.mem_of_mem_erase hq.1, hq.2⟩
  have hnodup : s.client.pendingRequests.Nodup := h.timed.nodup.of_map
  have hne : q ≠ r := (hnodup.mem_erase_iff.mp hq.1).1
  rcases List.mem_cons.mp hmem with heq | hmem
  · obtain ⟨rfl, hkey⟩ := Prod.mk.inj heq
    exact hothers q hq' hne hupdate hkey
  · exact hdrop.unanswered node' q hq hupdate hmem

theorem Good.request (h : s.Good) {t : KeyRun} {call : ConfigCall} {reply : Reply}
    (hord : InOrder s (.request call reply)) (hstep : s.step (.request call reply) = some t) :
    t.Good := by
  cases hstep
  have hkeep : ∀ id < s.client.nextSource, s.keysAfter call id = s.keyOf id :=
    fun _ hid => s.keysAfter_of_lt call hid
  have hanswered := s.answeredAfter_subset call reply
  have hperf := performed_perform s.client call reply
  generalize s.client.perform reply call = o at hperf
  cases hperf with
  | refused he => exact h.of_subset h.timed (fun _ hr => hr) hkeep hanswered
  | unawaited hexp => exact h.of_subset h.timed (fun _ hr => hr) hkeep hanswered
  | sent hreply hr hresp =>
      apply h.push hr hkeep hanswered
      intro hstatus
      obtain ⟨node, net, app, hcall, rfl, hkept⟩ := hresp.key hstatus
      subst hreply
      rw [hr, s.keysAfter_self hcall]
      exact ⟨hkept, s.notMem_answeredAfter hcall⟩
  | @withdrawn r _ _ hreply hr he hwait =>
      rcases hwait with hnet | ⟨happ, hdest⟩
      · have hne : opNetkeyStatus ≠ opAppkeyStatus := by decide
        have hpush := h.push hr hkeep hanswered
          (fun hstatus => absurd (hnet.symm.trans hstatus) hne)
        exact hpush.of_subset (hpush.timed.deletePendingRequest _ _)
          (fun _ hq => ConfigClient.mem_of_mem_deletePendingRequest hq) (fun _ _ => rfl)
          (List.Subset.refl _)
      · refine h.of_subset ((h.timed.push hr).deletePendingRequest _ _) (fun q hq => ?_) hkeep
          hanswered
        apply h.timed.mem_of_mem_withdraw hr _ hq
        intro p hp hmatch
        rw [happ] at hmatch
        exact hord hreply _ hdest p ⟨hp, hmatch⟩

theorem Good.recvData (h : s.Good) {t : KeyRun} {srcAddress : UInt16} {data : List UInt8}
    {deleted : Reply} (hord : InOrder s (.recvData srcAddress data deleted))
    (hstep : s.step (.recvData srcAddress data deleted) = some t) : t.Good := by
  simp only [KeyRun.step] at hstep
  split at hstep
  case h_2 => cases hstep
  case h_1 o ho =>
    cases hstep
    cases hm : s.client.matchMessage srcAddress data with
    | error f =>
        rw [ConfigClient.recvData, hm] at ho
        cases ho
    | ok m =>
        cases m with
        | none =>
            rw [recvData_of_no_match hm ho, ConfigClient.answeredKey, hm]
            exact h
        | some answer =>
            obtain ⟨req, opcode, payload⟩ := answer
            obtain ⟨hclient, _⟩ := recvData_of_match h.timed hm ho
            rw [hclient, ConfigClient.answeredKey_of_match hm]
            by_cases hop : opcode = opAppkeyStatus
            · subst hop
              rw [if_pos rfl]
              cases hkey : statusKey payload with
              | none => exact h.drop req
              | some key =>
                  obtain ⟨rfl, hothers⟩ := h.discharges deleted hm hkey hord
                  exact h.answer hothers
            · rw [if_neg hop]
              exact h.drop req

theorem Good.step {t : KeyRun} {e : ConfigEvent} (h : s.Good) (hord : InOrder s e)
    (hstep : s.step e = some t) : t.Good := by
  cases e with
  | request call reply => exact h.request hord hstep
  | recvData srcAddress data deleted => exact h.recvData hord hstep
  | timerExpired timer deleted =>
      simp only [KeyRun.step, Option.map_eq_some_iff] at hstep
      obtain ⟨o, ho, rfl⟩ := hstep
      obtain ⟨r, hr, rfl⟩ := timerExpired_request h.timed ho
      rw [timerExpired_of_pending h.timed hr] at ho
      cases ho
      exact h.drop r

theorem answered_step {t : KeyRun} {e : ConfigEvent} (hstep : s.step e = some t)
    {key : UInt16 × UInt16} (hkey : key ∈ s.answered) : key ∈ t.answered ∨
      ∃ call net, e = .request call none ∧ call.keyRequest = some (key.1, net, key.2) := by
  cases e with
  | request call reply =>
      cases hstep
      refine (s.mem_answeredAfter call reply hkey).imp_right ?_
      rintro ⟨rfl, net, hcall⟩
      exact ⟨call, net, rfl, hcall⟩
  | recvData srcAddress data deleted =>
      simp only [KeyRun.step] at hstep
      split at hstep
      · cases hstep
        exact .inl (List.mem_append_right _ hkey)
      · cases hstep
  | timerExpired timer deleted =>
      simp only [KeyRun.step, Option.map_eq_some_iff] at hstep
      obtain ⟨o, _, rfl⟩ := hstep
      exact .inl hkey

theorem good_of_reach (hs : keyMachine.ReachWith InOrder s) : s.Good :=
  hs.invariant good_init (fun _ _ _ h hord hstep => h.step hord hstep)

end KeyRun

/-- The only key report of a time-out names the node of the request and the index
kept with it. -/
theorem expiryOutputs_report {r : BleMeshPendingRequest} {deleted : Reply}
    {report : KeyRefreshReport}
    (h : .keyRefreshResult report ∈ ConfigClient.expiryOutputs r deleted)
    (herror : report.error = .meshCannotUpdateAppkey) :
    r.resp = opAppkeyStatus ∧ report.nodeAddress = some r.addr ∧
      report.appKeyIndex = some r.keyRefreshData.appKeyIndex := by
  simp only [ConfigClient.expiryOutputs, List.mem_append] at h
  rcases h with ((h | h) | h) | h
  · simp at h
  · split_ifs at h
    · simp only [List.mem_cons, Output.keyRefreshResult.injEq, reduceCtorEq, List.not_mem_nil,
        or_false] at h
      rw [h] at herror
      cases herror
    · cases h
  · split_ifs at h with hresp
    · simp only [List.mem_cons, Output.keyRefreshResult.injEq, List.not_mem_nil, or_false] at h
      rw [h]
      exact ⟨hresp, rfl, rfl⟩
    · cases h
  · split_ifs at h
    · simp at h
    · cases h

/-- In a run in which the keys are answered in order, and none while a later update of it is
outstanding, a status discharges the request for exactly its key, and what a time-out reports is
not among the keys answered. A key stays answered until it is asked for again. -/
theorem keyStatus_answers_its_key {s : KeyRun} (hs : keyMachine.ReachWith InOrder s) :
    (∀ srcAddress data deleted req payload key,
      InOrder s (.recvData srcAddress data deleted) →
      s.client.matchMessage srcAddress data = .ok (some (req, opAppkeyStatus, payload)) →
      statusKey payload = some key → s.keyOf req.timer = key ∧
      ∀ t, s.step (.recvData srcAddress data deleted) = some t →
        t.client.pendingRequests = s.client.pendingRequests.erase req) ∧
    (∀ timer deleted client outputs report,
      InOrder s (.timerExpired timer deleted) →
      s.client.pendingRequestTimerExpired timer deleted = some (client, outputs) →
      .keyRefreshResult report ∈ outputs → report.error = .meshCannotUpdateAppkey →
      ∃ node app, report.nodeAddress = some node ∧ report.appKeyIndex = some app ∧
        (node, app) ∉ s.answered) ∧
    (∀ e t, s.step e = some t → ∀ key ∈ s.answered, key ∈ t.answered ∨
      ∃ call net, e = .request call none ∧ call.keyRequest = some (key.1, net, key.2)) := by
  have hgood := KeyRun.good_of_reach hs
  refine ⟨?_, ?_, fun e t hstep key => KeyRun.answered_step hstep⟩
  · intro srcAddress data deleted req payload key hord hmatch hkey
    refine ⟨(hgood.discharges deleted hmatch hkey hord).1, fun t hstep => ?_⟩
    simp only [KeyRun.step] at hstep
    split at hstep
    · rename_i o ho
      cases hstep
      obtain ⟨hclient, _⟩ := recvData_of_match hgood.timed hmatch ho
      rw [hclient]
      rfl
    · cases hstep
  · intro timer deleted client outputs report hord ho hmem herror
    obtain ⟨r, hr, rfl⟩ := timerExpired_request hgood.timed ho
    rw [timerExpired_of_pending hgood.timed hr] at ho
    cases ho
    obtain ⟨hresp, hnode, happ⟩ := expiryOutputs_report hmem herror
    have hout : s.Outstanding r.addr r := ⟨hr, hresp, rfl⟩
    refine ⟨r.addr, _, hnode, happ, ?_⟩
    rw [hgood.kept r.addr r hout]
    split_ifs with hupdate
    · exact hgood.unanswered r.addr r hout hupdate
    · exact hord r.addr r hout rfl hupdate

def appKeyUpdateCall (appKeyIndex : UInt16) : ConfigCall :=
  .configSet 5 .appKeyUpdate { netKeyIndex := 0, appKeyIndex := appKeyIndex }

def appKeyUpdateRequest (timer : ℕ) (appKeyIndex : UInt16) : BleMeshPendingRequest where
  timer := timer
  req := opAppkeyUpdate
  resp := opAppkeyStatus
  addr := 5
  desc := "APPKEY_UPDATE"
  keyRefreshData := { appKeyIndex := appKeyIndex, waitTime := 2000 }

/-- A key is updated, and updated again once the first update has been answered. -/
theorem keyStatus_answers_its_key_update : ∃ s : KeyRun, keyMachine.ReachWith InOrder s ∧
    s.client.pendingRequests = [appKeyUpdateRequest 2 1] ∧
    s.client.matchMessage 5 [0x80, 0x03, 0, 0, 0x10, 0] =
      .ok (some (appKeyUpdateRequest 2 1, opAppkeyStatus, [0, 0, 0x10, 0])) ∧
    s.keyOf 2 = (0, 1) := by
  have hsent := Machine.ReachWith.step (M := keyMachine) (G := InOrder)
    (e := .request (appKeyUpdateCall 1) none) .init (fun h => absurd rfl h) rfl
  have hanswered := Machine.ReachWith.step (M := keyMachine)
    (e := .recvData 5 [0x80, 0x03, 0, 0, 0x10, 0] none) hsent
    (by
      intro req payload key hmatch hkey
      cases hmatch
      cases hkey
      exact ⟨_, ⟨List.mem_singleton_self _, rfl, rfl⟩, rfl,
        fun q hq => .inl (List.mem_singleton.mp hq.1)⟩) rfl
  have hagain := Machine.ReachWith.step (M := keyMachine)
    (e := .request (appKeyUpdateCall 1) none) hanswered (fun h => absurd rfl h) rfl
  refine ⟨_, hagain, rfl, rfl, ?_⟩
  refine ((keyStatus_answers_its_key hagain).1 5 [0x80, 0x03, 0, 0, 0x10, 0] none
    (appKeyUpdateRequest 2 1) [0, 0, 0x10, 0] (0, 1) ?_ rfl rfl).1
  intro req payload key hmatch hkey
  cases hmatch
  cases hkey
  exact ⟨_, ⟨List.mem_singleton_self _, rfl, rfl⟩, rfl,
    fun q hq => .inl (List.mem_singleton.mp hq.1)⟩

/-- Two updates of which the first is lost: the status of the second discharges
the first, and the second is blamed although it has been answered. -/
theorem keyStatus_answers_another_key :
    (¬ ∀ s : KeyRun, keyMachine.Reach s → ∀ srcAddress data req payload key,
      s.client.matchMessage srcAddress data = .ok (some (req, opAppkeyStatus, payload)) →
      statusKey payload = some key → s.keyOf req.timer = key) ∧
    (¬ ∀ s : KeyRun, keyMachine.Reach s → ∀ timer deleted client outputs report node app,
      s.client.pendingRequestTimerExpired timer deleted = some (client, outputs) →
      .keyRefreshResult report ∈ outputs → report.error = .meshCannotUpdateAppkey →
      report.nodeAddress = some node → report.appKeyIndex = some app →
      (node, app) ∉ s.answered) := by
  have hsent : ∃ s, keyMachine.run keyMachine.init
      [.request (appKeyUpdateCall 1) none, .request (appKeyUpdateCall 2) none] = some s ∧
      s.client.matchMessage 5 [0x80, 0x03, 0, 0, 0x20, 0] =
        .ok (some (appKeyUpdateRequest 1 1, opAppkeyStatus, [0, 0, 0x20, 0])) ∧
      s.keyOf 1 ≠ (0, 2) := ⟨_, rfl, rfl, by decide⟩
  have hanswered : ∃ s, keyMachine.run keyMachine.init
      [.request (appKeyUpdateCall 1) none, .request (appKeyUpdateCall 2) none,
       .recvData 5 [0x80, 0x03, 0, 0, 0x20, 0] none] = some s ∧
      s.client.pendingRequestTimerExpired 2 none =
        some ({ nextSource := 3 },
          ConfigClient.expiryOutputs (appKeyUpdateRequest 2 2) none) ∧
      (5, 2) ∈ s.answered := ⟨_, rfl, rfl, by decide⟩
  constructor
  · intro h
    obtain ⟨s, hrun, hmatch, hkey⟩ := hsent
    exact hkey (h s (Machine.reach_of_run _ hrun) 5 _ _ _ _ hmatch rfl)
  · intro h
    obtain ⟨s, hrun, hexpire, hmem⟩ := hanswered
    exact h s (Machine.reach_of_run _ hrun) 2 none _ _ _ 5 2 hexpire
      (List.mem_cons_of_mem _ (List.mem_cons_self)) rfl rfl rfl hmem

end BluezSil.Mesh
