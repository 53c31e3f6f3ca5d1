import BluezSil.MeshKeyRefreshRuns
import BluezSil.MeshConfigRuns

/-!
# Nodes expelled by a time-out during a key refresh

The refresh thread runs next to the main loop, which receives messages and lets
the timers of the configuration client expire. A call of the thread is begun and
later returns, and anything may happen in between. The expiry of a network key
update deletes its node, but the thread keeps the node in its list: it stops
sending to the node only if it has nothing left to send to it.
-/

namespace BluezSil.Mesh

open CallProgram Program RequestLedger TransitionRun

/-! ### The two halves of a call -/

/-- The part of `configSet` before its D-Bus call. -/
def ConfigClient.beginSet (c : ConfigClient) (destAddress : UInt16) (config : ConfigName)
    (a : ConfigSetArgs) : ConfigClient :=
  match config with
  | .appKeyAdd => c.addPendingRequest opAppkeyAdd destAddress
  | .appKeyUpdate => c.addPendingRefresh opAppkeyUpdate destAddress
      { netKeyIndex := a.netKeyIndex, appKeyIndex := a.appKeyIndex, waitTime := a.waitTime }
  | .netKeyUpdate => c.addPendingRefresh opNetkeyUpdate destAddress
      { netKeyIndex := a.netKeyIndex, waitTime := a.waitTime,
        numberOfElements := a.numberOfElements }
  | _ => c

/-- The part of `configSet` after its D-Bus call has returned. -/
def ConfigClient.endSet (c : ConfigClient) (destAddress : UInt16) (config : ConfigName)
    (a : ConfigSetArgs) (reply : Reply) : ConfigClient × BluetoothError :=
  match config, reply with
  | .appKeyAdd, some message | .appKeyUpdate, some message =>
    (c.deletePendingRequest opAppkeyStatus destAddress, addAppKeyError message)
  | .netKeyUpdate, some _ => (c.deletePendingRequest opNetkeyStatus destAddress, .fail)
  | .appKeyAdd, none | .appKeyUpdate, none | .netKeyUpdate, none => (c, .none)
  | config, reply =>
    let o := c.configSet destAddress config a reply
    (o.client, o.error)

def beginCall (c : ConfigClient) : RefreshCall → ConfigClient
  | .configSet destAddress config args => c.beginSet destAddress config args
  | _ => c

def endCall (c : ConfigClient) (reply : Reply) :
    (call : RefreshCall) → ConfigClient × RefreshAnswer call
  | .updateSubnet _ => (c, reply)
  | .callback _ => (c, ())
  | .keyRefreshResult _ => (c, ())
  | .addNetKey _ _ _ _ => (c, reply)
  | .deleteRemoteNode _ _ => (c, reply)
  | .configSet destAddress config args => c.endSet destAddress config args reply
  | .updateAppKey _ => (c, reply)
  | .setKeyPhase _ _ => (c, reply)
  | .sleep _ => (c, ())

/-! ### The thread and the main loop -/

inductive RefreshEvent
  | beginCall
  | endCall (reply : Reply)
  | main (e : ConfigEvent)
  deriving DecidableEq, Repr

/-- The client, what is left of the thread's program, whether its next call has
been begun, the calls that have returned, and the nodes that the expiry of a
network key update has deleted. -/
structure RefreshWorld where
  client : ConfigClient
  thread : Refresh Unit
  inCall : Bool := false
  returned : RefreshTrace := []
  expelled : List UInt16 := []

def ConfigClient.expiringUpdate (c : ConfigClient) (timer : ℕ) : Option UInt16 :=
  match c.sources.find? (fun r => r.timer == timer) with
  | some r => if r.resp = opNetkeyStatus then some r.addr else none
  | none => none

def RefreshWorld.step (w : RefreshWorld) : RefreshEvent → Option RefreshWorld
  | .beginCall =>
    match w.thread, w.inCall with
    | .call c _, false => some { w with client := Mesh.beginCall w.client c, inCall := true }
    | _, _ => none
  | .endCall reply =>
    match w.thread, w.inCall with
    | .call c next, true =>
      let (client, answer) := Mesh.endCall w.client reply c
      some { w with
        client := client
        thread := next answer
        inCall := false
        returned := w.returned ++ [⟨c, answer⟩] }
    | _, _ => none
  | .main (.request request reply) =>
    some { w with client := (w.client.perform reply request).client }
  | .main (.recvData srcAddress data deleted) =>
    match w.client.recvData srcAddress data deleted with
    | .ok o => some { w with client := o.client }
    | .error _ => none
  | .main (.timerExpired timer deleted) =>
    match w.client.pendingRequestTimerExpired timer deleted with
    | some (client, _) =>
      let deletedNode := if deleted = none then (w.client.expiringUpdate timer).toList else []
      some { w with client := client, expelled := deletedNode ++ w.expelled }
    | none => none

def refreshMachine (a : RefreshArgs) (c : ConfigClient) : Machine RefreshWorld RefreshEvent :=
  ⟨{ client := c, thread := keyRefresh a }, RefreshWorld.step⟩

def RefreshWorld.begun (w : RefreshWorld) : List RefreshCall :=
  w.returned.map (·.1) ++
    match w.thread, w.inCall with
    | .call c _, true => [c]
    | _, _ => []

def RefreshWorld.phase₃Sent (w : RefreshWorld) (x : UInt16) : ℕ :=
  (w.begun.filterMap (sentTo x)).count (.krPhaseSet 3)

/-- The run has ended with a failed update of the subnet, or it has sent phase 3 to
all entries of `x` that are neither blacklisted nor erased for a failed update, and
to the local node if `x` is its address. -/
def Served (a : RefreshArgs) (w : RefreshWorld) (x : UInt16) : Prop :=
  (∃ message t, w.returned = ⟨.updateSubnet a.netKeyIndex, some message⟩ :: t) ∨
  w.phase₃Sent x + failedUpdates x w.returned = localEntry x + entriesAt x a.kept

/-- A network key update expires and deletes its node only after the run has
served the node. -/
def ExpiresServed (a : RefreshArgs) (w : RefreshWorld) : RefreshEvent → Prop
  | .main (.timerExpired timer none) =>
    ∀ x, w.client.expiringUpdate timer = some x → Served a w x
  | _ => True

/-! ### What a served node is still sent -/

theorem holdersAt_le_entriesAt (x i : UInt16) (nodes : List BleMeshNode) :
    holdersAt x i nodes ≤ entriesAt x nodes :=
  List.countP_mono_left fun _ _ h => (Bool.and_eq_true_iff.mp h).1

theorem mem_of_append_replicate {l₁ l₂ l : List MeshMessage} {m : MeshMessage} {k : ℕ}
    (heq : l₁ ++ l₂ = l ++ List.replicate (k + 1) m) (hne : l₂ ≠ []) : m ∈ l₂ := by
  have hlast : (l₁ ++ l₂).getLast? = some m := by
    rw [heq, List.replicate_succ', ← List.append_assoc, List.getLast?_concat]
  rw [List.getLast?_append_of_ne_nil l₁ hne] at hlast
  exact List.mem_of_getLast? hlast

theorem count_phase₃ (i j k : ℕ) (keys : List UInt16) (copies : UInt16 → ℕ) :
    (List.replicate i MeshMessage.netKeyUpdate ++
      (keys.flatMap fun key => List.replicate (copies key) (MeshMessage.appKeyUpdate key)) ++
      List.replicate j (MeshMessage.krPhaseSet 2) ++
      List.replicate k (MeshMessage.krPhaseSet 3)).count (.krPhaseSet 3) = k := by
  have hkeys : (keys.flatMap fun key =>
      List.replicate (copies key) (MeshMessage.appKeyUpdate key)).count (.krPhaseSet 3) = 0 := by
    rw [List.count_eq_zero]
    intro hmem
    obtain ⟨key, _, hkey⟩ := List.mem_flatMap.mp hmem
    cases List.eq_of_mem_replicate hkey
  rw [List.count_append, List.count_append, List.count_append, hkeys, List.count_replicate_self]
  simp [List.count_replicate]

/-- Once phase 3 has gone to all entries of `x`, the rest of the run sends `x`
network key updates at most. -/
theorem messages_after_served {a : RefreshArgs} {t s : RefreshTrace} {x : UInt16}
    (h : Run (keyRefresh a) (t ++ s) ())
    (hserved : (∃ message t', t = ⟨.updateSubnet a.netKeyIndex, some message⟩ :: t') ∨
      localEntry x + entriesAt x a.kept ≤
        (messages x t).count (.krPhaseSet 3) + failedUpdates x t) :
    ∀ m ∈ messages x s, m = .netKeyUpdate := by
  rcases run_keyRefresh h with ⟨message, heq⟩ | ⟨p, heq⟩
  · have hnone : messages x t ++ messages x s = [] := by
      rw [← messages_append, heq]
      rfl
    rw [(List.append_eq_nil_iff.mp hnone).2]
    exact fun m hm => absurd hm List.not_mem_nil
  · have hserved : localEntry x + entriesAt x a.kept ≤
        (messages x t).count (.krPhaseSet 3) + failedUpdates x t := by
      refine hserved.resolve_left ?_
      rintro ⟨message, t', rfl⟩
      cases (List.cons.inj heq).1
    have hmsg := p.messages_trace x
    have hfailed := p.failedUpdates_trace x
    rw [← heq, messages_append] at hmsg
    rw [← heq, failedUpdates_append] at hfailed
    set k := localEntry x + entriesAt x p.rest with hk
    have hcount : (messages x t).count (.krPhaseSet 3) +
        (messages x s).count (.krPhaseSet 3) = k := by
      rw [← List.count_append, hmsg, count_phase₃]
    have hnone : (messages x s).count (.krPhaseSet 3) = 0 := by omega
    by_cases hpos : k = 0
    · have hlocal : localEntry x = 0 := by omega
      have hholders : ∀ i, holdersAt x i p.rest = 0 := by
        intro i
        have hle := holdersAt_le_entriesAt x i p.rest
        omega
      intro m hm
      have hall : m ∈ messages x t ++ messages x s := List.mem_append_right _ hm
      rw [hmsg, hpos, hlocal] at hall
      simp only [hholders, Nat.zero_add, List.replicate_zero, List.append_nil, List.mem_append,
        List.mem_flatMap, List.not_mem_nil, and_false, exists_false, or_false] at hall
      exact List.eq_of_mem_replicate hall
    · obtain ⟨j, hj⟩ := Nat.exists_eq_succ_of_ne_zero hpos
      rw [hj] at hmsg
      intro m hm
      have hmem := mem_of_append_replicate hmsg (List.ne_nil_of_mem hm)
      exact absurd hnone (Nat.ne_of_gt (List.count_pos_iff.mpr hmem))

/-! ### Runs of the thread and the main loop -/

namespace RefreshWorld

variable {a : RefreshArgs} {w : RefreshWorld} {x : UInt16}

/-- Whatever the calls still to be begun are answered, `x` is sent network key
updates at most. -/
def Finished (w : RefreshWorld) (x : UInt16) : Prop :=
  match w.thread, w.inCall with
  | .call _ next, true => ∀ r s, Run (next r) s () → ∀ m ∈ messages x s, m = .netKeyUpdate
  | thread, _ => ∀ s, Run thread s () → ∀ m ∈ messages x s, m = .netKeyUpdate

structure Good (a : RefreshArgs) (w : RefreshWorld) : Prop where
  steps : Steps (keyRefresh a) w.returned w.thread
  finished : ∀ x ∈ w.expelled, w.Finished x

theorem good_init (a : RefreshArgs) (c : ConfigClient) :
    Good a { client := c, thread := keyRefresh a } :=
  ⟨Steps.refl _, fun _ hx => absurd hx List.not_mem_nil⟩

theorem finished_inCall {c : RefreshCall} {next : RefreshAnswer c → Refresh Unit}
    (hthread : w.thread = .call c next) (hcall : w.inCall = true) :
    w.Finished x ↔ ∀ r s, Run (next r) s () → ∀ m ∈ messages x s, m = .netKeyUpdate := by
  rw [Finished, hthread, hcall]

theorem finished_idle (hcall : w.inCall = false) :
    w.Finished x ↔ ∀ s, Run w.thread s () → ∀ m ∈ messages x s, m = .netKeyUpdate := by
  rw [Finished, hcall]
  cases w.thread <;> rfl

theorem messages_eq_filterMap (t : RefreshTrace) :
    messages x t = (t.map (·.1)).filterMap (sentTo x) := by
  rw [messages, List.filterMap_map]
  rfl

theorem Good.finished_of_served (h : Good a w) (hserved : Served a w x) : w.Finished x := by
  have hidle : w.begun = w.returned.map (·.1) →
      ∀ s, Run w.thread s () → ∀ m ∈ messages x s, m = .netKeyUpdate := by
    intro hbegun s hrun
    refine messages_after_served (h.steps.run hrun) (hserved.imp_right fun hcount => ?_)
    rw [phase₃Sent, hbegun, ← messages_eq_filterMap] at hcount
    exact hcount.symm.le
  cases hcall : w.inCall with
  | false =>
      rw [finished_idle hcall]
      refine hidle ?_
      rw [begun, hcall]
      cases w.thread <;> exact List.append_nil _
  | true =>
      cases hthread : w.thread with
      | pure u =>
          rw [Finished, hthread, hcall]
          rw [hthread] at hidle
          exact hidle (by rw [begun, hthread]; exact List.append_nil _)
      | call c next =>
          rw [finished_inCall hthread hcall]
          intro r s hrun
          have hsteps := h.steps
          rw [hthread] at hsteps
          have htotal := hsteps.run (Run.call hrun)
          rw [List.append_cons] at htotal
          refine messages_after_served htotal (hserved.imp (fun hfail => ?_) fun hcount => ?_)
          · obtain ⟨message, t, ht⟩ := hfail
            exact ⟨message, t ++ [⟨c, r⟩], by rw [ht]; rfl⟩
          · have hbegun : w.begun =
                (w.returned ++ [(⟨c, r⟩ : Answered RefreshAnswer)]).map (·.1) := by
              rw [begun, hthread, hcall, List.map_append]
              rfl
            rw [phase₃Sent, hbegun, ← messages_eq_filterMap] at hcount
            rw [failedUpdates_append]
            omega

theorem Good.step {w' : RefreshWorld} {e : RefreshEvent} (h : Good a w)
    (hg : ExpiresServed a w e) (hstep : w.step e = some w') : Good a w' := by
  cases e with
  | beginCall =>
      simp only [RefreshWorld.step] at hstep
      split at hstep
      case h_2 => cases hstep
      case h_1 c next hthread hcall =>
        cases hstep
        refine ⟨h.steps, fun x hx => ?_⟩
        refine (finished_inCall (w := { w with client := _, inCall := true }) hthread rfl).mpr ?_
        intro r s hrun m hm
        have hidle := (finished_idle hcall).mp (h.finished x hx)
        rw [hthread] at hidle
        refine hidle _ (Run.call (r := r) hrun) m ?_
        rw [messages_cons]
        exact List.mem_append_right _ hm
  | endCall reply =>
      simp only [RefreshWorld.step] at hstep
      split at hstep
      case h_2 => cases hstep
      case h_1 c next hthread hcall =>
        cases hstep
        have hsteps := h.steps
        rw [hthread] at hsteps
        refine ⟨hsteps.append (Steps.call (Steps.refl _)), fun x hx => ?_⟩
        rw [finished_idle rfl]
        exact (finished_inCall hthread hcall).mp (h.finished x hx) _
  | main e =>
      cases e with
      | request request reply =>
          cases hstep
          exact ⟨h.steps, h.finished⟩
      | recvData srcAddress data deleted =>
          simp only [RefreshWorld.step] at hstep
          split at hstep
          · cases hstep
            exact ⟨h.steps, h.finished⟩
          · cases hstep
      | timerExpired timer deleted =>
          simp only [RefreshWorld.step] at hstep
          split at hstep
          · cases hstep
            refine ⟨h.steps, fun x hx => ?_⟩
            change w.Finished x
            rcases List.mem_append.mp hx with hx | hx
            · cases deleted with
              | some message => exact absurd hx List.not_mem_nil
              | none =>
                  have hexpiring : w.client.expiringUpdate timer = some x := by
                    simpa using hx
                  exact h.finished_of_served (hg x hexpiring)
            · exact h.finished x hx
          · cases hstep

theorem good_of_reach {c : ConfigClient}
    (hw : (refreshMachine a c).ReachWith (ExpiresServed a) w) : Good a w :=
  hw.invariant (good_init a c) fun _ _ _ h hg hstep => h.step hg hstep

end RefreshWorld

/-- In a run whose expiring network key updates delete only nodes that have been
served, the thread begins no application key update and no phase message to a node
so deleted. -/
theorem keyRefresh_spares_expelled {a : RefreshArgs} {client : ConfigClient} {w : RefreshWorld}
    (hw : (refreshMachine a client).ReachWith (ExpiresServed a) w) {x : UInt16}
    (hx : x ∈ w.expelled) {w' : RefreshWorld} (hbegin : w.step .beginCall = some w') :
    ∃ c, w'.begun = w.begun ++ [c] ∧ ∀ m, sentTo x c = some m → m = .netKeyUpdate := by
  have hfinished := (RefreshWorld.good_of_reach hw).finished x hx
  simp only [RefreshWorld.step] at hbegin
  split at hbegin
  case h_2 => cases hbegin
  case h_1 c next hthread hcall =>
    cases hbegin
    refine ⟨c, ?_, fun m hm => ?_⟩
    · rw [RefreshWorld.begun, RefreshWorld.begun, hthread, hcall, List.append_nil]
    · have hrun := run_follow allSucceed w.thread
      have hidle := (RefreshWorld.finished_idle hcall).mp hfinished _ hrun m
      refine hidle ?_
      rw [hthread]
      change m ∈ messages x (⟨c, allSucceed c⟩ :: _)
      rw [messages_cons, hm]
      exact List.mem_append_left _ List.mem_cons_self

def refreshFive : RefreshArgs where
  refreshAppKeys := false
  appKeyIndexesToRefresh := []
  blackListedNodes := []
  nodes := [⟨5, 1, []⟩]
  netKeyIndex := 0
  waitTime := 0

/-- The thread makes `n` calls, and all D-Bus calls succeed. -/
def turns (n : ℕ) : List RefreshEvent :=
  (List.replicate n [RefreshEvent.beginCall, .endCall none]).flatten

theorem expiresServed_turns (a : RefreshArgs) (n : ℕ) :
    ∀ e ∈ turns n, ∀ w, ExpiresServed a w e := by
  intro e he w
  obtain ⟨turn, hturn, he⟩ := List.mem_flatten.mp he
  rw [List.eq_of_mem_replicate hturn] at he
  rcases List.mem_cons.mp he with rfl | he
  · trivial
  · rw [List.mem_singleton.mp he]
    trivial

/-- The update of the only node expires after both phases. -/
theorem keyRefresh_spares_expelled_late : ∃ w w' : RefreshWorld,
    (refreshMachine refreshFive {}).ReachWith (ExpiresServed refreshFive) w ∧ 5 ∈ w.expelled ∧
    w.step .beginCall = some w' ∧
    ∃ c, w'.begun = w.begun ++ [c] ∧ ∀ m, sentTo 5 c = some m → m = .netKeyUpdate := by
  have hlate : ∃ w w₂ w' : RefreshWorld, (refreshMachine refreshFive {}).run
      (refreshMachine refreshFive {}).init (turns 16) = some w ∧
      Served refreshFive w 5 ∧ w.client.expiringUpdate 1 = some 5 ∧
      w.step (.main (.timerExpired 1 none)) = some w₂ ∧ 5 ∈ w₂.expelled ∧
      w₂.step .beginCall = some w' :=
    ⟨_, _, _, rfl, Or.inr rfl, rfl, rfl, List.mem_cons_self, rfl⟩
  obtain ⟨w, w₂, w', hrun, hserved, hexpiring, hexpire, hexpelled, hbegin⟩ := hlate
  have hw := Machine.reachWith_of_run _ (expiresServed_turns refreshFive 16) .init hrun
  have hguard : ExpiresServed refreshFive w (.main (.timerExpired 1 none)) := by
    intro x hx
    rw [hexpiring, Option.some.injEq] at hx
    rwa [← hx]
  have hw₂ := hw.step hguard hexpire
  exact ⟨w₂, w', hw₂, hexpelled, hbegin, keyRefresh_spares_expelled hw₂ hexpelled hbegin⟩

/-- The update of the only node expires in phase 1, and the node is sent phase 2. -/
theorem keyRefresh_rekeys_expelled :
    ¬ ∀ (a : RefreshArgs) (w w' : RefreshWorld) (x : UInt16), (refreshMachine a {}).Reach w →
      x ∈ w.expelled → w.step .beginCall = some w' →
      ∃ c, w'.begun = w.begun ++ [c] ∧ ∀ m, sentTo x c = some m → m = .netKeyUpdate := by
  intro h
  have hrun : ∃ w w' : RefreshWorld, (refreshMachine refreshFive {}).run
      (refreshMachine refreshFive {}).init
      (turns 6 ++ [.main (.timerExpired 1 none)] ++ turns 4) = some w ∧
      5 ∈ w.expelled ∧ w.step .beginCall = some w' ∧
      w'.begun.getLast? = some (.configSet 5 .krPhaseSet
        { netKeyIndex := 0, numberOfElements := 0, phase := 2 }) :=
    ⟨_, _, rfl, List.mem_cons_self, rfl, rfl⟩
  obtain ⟨w, w', hrun, hexpelled, hbegin, hlast⟩ := hrun
  obtain ⟨c, hc, hspared⟩ :=
    h refreshFive w w' 5 (Machine.reach_of_run _ hrun) hexpelled hbegin
  rw [hc, List.getLast?_concat, Option.some.injEq] at hlast
  rw [hlast] at hspared
  cases hspared _ rfl

end BluezSil.Mesh
