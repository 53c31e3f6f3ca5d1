import Mathlib.Logic.Function.Basic
import BluezSil.GattConnections
import BluezSil.TransitionRun

/-!
# What applications are told about GATT connections

A run keeps, beside the tables, the connections applications were told of and that
have not ended, and how the last connect attempt to each address ended. The table
agrees with both as long as no application connects to a second device, no attempt
fails at a connected address, and every disconnect finds the entry it was asked for.
-/

namespace BluezSil.Gatt

open TransitionRun

inductive GattEvent
  | connectGatt (appId : UInt16) (autoConnection : Bool) (address : Text) (found : Bool)
      (order : List UInt16)
  | connected (n : ℕ) (error : BluetoothError)
  | reconnected (n : ℕ) (error : BluetoothError)
  | disconnectGatt (appId connectId : UInt16) (address : Text) (found : Bool)
  | disconnected (n : ℕ) (error : BluetoothError)
  | deviceAdded (address : Text) (found : Bool)
  | serviceRemoved (address : Text)
  | deviceRemoved (address : Text) (order : List UInt16)
  | autoConnTimeout (source : ℕ) (address : Text) (appId : UInt16)

structure GattRun where
  gatt : GattConnections := {}
  promised : List (UInt16 × Text) := []
  lastAttempt : Text → Option Bool := fun _ => none

namespace GattRun

variable (s : GattRun)

def report (address : Text) : ConnectReport → GattRun
  | (.none, connId) =>
    { s with
      promised := (connId, address) :: s.promised
      lastAttempt := Function.update s.lastAttempt address (some true) }
  | (_, _) => { s with lastAttempt := Function.update s.lastAttempt address (some false) }

def endAddress (address : Text) : GattRun :=
  { s with promised := s.promised.filter fun p => p.2 ≠ address }

def Listed (address : Text) : Prop :=
  ∃ connId c, s.gatt.mConnectedDevices.lookup connId = some c ∧ c.address = address

/-- A completion is that of the closure at position `n` among those that wait. An iteration
meets every key once, and a timer can expire only while its source is live. -/
def step : GattEvent → Option GattRun
  | .connectGatt appId autoConnection address found order =>
    if order.Perm s.gatt.mConnectedDevices.keys then
      let o := s.gatt.connectGatt appId autoConnection address found order
      let t := { s with gatt := o.1 }
      some (o.2.elim t (t.report (convertAddressToLowerCase address)))
    else none
  | .connected n error =>
    s.gatt.connects[n]?.map fun c =>
      let gatt := { s.gatt with connects := s.gatt.connects.eraseIdx n }
      let o := gatt.isConnectCallback c error
      { s with gatt := o.1 }.report c.lowerCaseAddress o.2
  | .reconnected n error =>
    s.gatt.reconnects[n]?.map fun r =>
      let gatt := { s.gatt with reconnects := s.gatt.reconnects.eraseIdx n }
      { s with
        gatt := gatt.gattConnCallBack r error
        lastAttempt := Function.update s.lastAttempt r.devAddress (some (error == .none)) }
  | .disconnectGatt appId connectId address found =>
    some { s with gatt := (s.gatt.disconnectGatt appId connectId address found).1 }
  | .disconnected n error =>
    s.gatt.disconnects[n]?.bind fun d =>
      let gatt := { s.gatt with disconnects := s.gatt.disconnects.eraseIdx n }
      (gatt.isDisconnectCallback d error).map fun o =>
        { s with
          gatt := o.1
          promised :=
            if o.2 = .none then
              s.promised.filter (· ≠ (d.connectId, convertAddressToLowerCase d.address))
            else s.promised }
  | .deviceAdded address found =>
    some { s with gatt := s.gatt.handleAutoConnectDevAdd address found }
  | .serviceRemoved address =>
    some { s with gatt := s.gatt.handleAutoConnectDevRem address }
  | .deviceRemoved address order =>
    if order.Perm s.gatt.mConnectedDevices.keys then
      let t := { s with gatt := s.gatt.updateDeviceProperties order address }
      let lowerCaseAddress := convertAddressToLowerCase address
      some (if lowerCaseAddress ∈ s.gatt.mAutoConnDevMap then t
        else t.endAddress lowerCaseAddress)
    else none
  | .autoConnTimeout source address appId =>
    if source ∈ s.gatt.sources then
      let t := { s with gatt := s.gatt.handleAutoConnTimeout address appId }
      let devAddress := convertAddressToLowerCase address
      -- only the time-out of its own timer ends a connection
      some (if (s.gatt.mAutoConnDevMap.lookup devAddress).any
          fun entry => entry.1 ≠ 0 ∧ entry.1 = source then
        t.endAddress devAddress else t)
    else none

/-- Every application reads back the address it was told of, and the last attempt to
connect to an address of the table succeeded. -/
structure Coherent : Prop where
  told : ∀ connId a, (connId, a) ∈ s.promised → s.gatt.getAddress connId = a
  listed : ∀ a, s.Listed a → s.lastAttempt a = some true

/-- Completing the disconnect `n` ends the connection it was asked for and no other. -/
def EndsOnly (n : ℕ) : Prop :=
  ∀ d t, s.gatt.disconnects[n]? = some d → s.step (.disconnected n .none) = some t →
    s.gatt.getAddress d.connectId = convertAddressToLowerCase d.address ∧
    ∀ connId, t.gatt.mConnectedDevices.lookup connId =
      if connId = d.connectId then none else s.gatt.mConnectedDevices.lookup connId

end GattRun

def gattMachine : Machine GattRun GattEvent := ⟨{}, GattRun.step⟩

/-- The steps that keep the table in line with what applications are told. -/
def Tracked (s : GattRun) : GattEvent → Prop
  | .connectGatt _ _ address found _ =>
    found = false → ¬ s.Listed (convertAddressToLowerCase address)
  | .connected n error => ∀ c, s.gatt.connects[n]? = some c →
    if error = .none then
      ∀ d, s.gatt.mConnectedDevices.lookup c.pAppId = some d → d.address = c.lowerCaseAddress
    else ¬ s.Listed c.lowerCaseAddress
  | .reconnected _ error => error = .none
  | .disconnected n error => ∀ d, s.gatt.disconnects[n]? = some d → error = .none →
    d.appId = d.connectId ∧
    s.gatt.mConnectedDevices.lookup d.connectId =
      some ⟨d.deviceInfo, convertAddressToLowerCase d.address⟩
  | .deviceRemoved address _ =>
    ¬ s.Listed (convertAddressToLowerCase address) →
    convertAddressToLowerCase address ∉ s.gatt.mAutoConnDevMap → ∀ a, (0, a) ∉ s.promised
  | .autoConnTimeout source address appId => ∀ timer id,
    s.gatt.mAutoConnDevMap.lookup (convertAddressToLowerCase address) = some (timer, id) →
    timer ≠ 0 → timer = source ∧ appId = id
  | _ => True

namespace GattRun

variable {s t : GattRun} {a : Text} {k : UInt16}

/-- The table agrees with what applications were told and with the last attempts, and
the closures that wait agree with the table. -/
structure Tabled (s : GattRun) : Prop where
  kept : ∀ k a, (k, a) ∈ s.promised →
    ∃ c, s.gatt.mConnectedDevices.lookup k = some c ∧ c.address = a
  succeeded : ∀ a, s.Listed a → s.lastAttempt a = some true
  lower : ∀ k c, s.gatt.mConnectedDevices.lookup k = some c →
    convertAddressToLowerCase c.address = c.address
  nodes : ∀ k c, s.gatt.mConnectedDevices.lookup k = some c → c.node < s.gatt.nextNode
  connects : ∀ c ∈ s.gatt.connects,
    convertAddressToLowerCase c.lowerCaseAddress = c.lowerCaseAddress
  disconnects : ∀ d ∈ s.gatt.disconnects, d.deviceInfo < s.gatt.nextNode ∧
    ∀ c, s.gatt.mConnectedDevices.lookup d.appId = some c → c.node = d.deviceInfo →
      d.deviceAddress = convertAddressToUpperCase c.address

/-- An automatic reconnection is for a connection an application was told of. -/
def Backed (s : GattRun) : Prop :=
  ∀ a source k, s.gatt.mAutoConnDevMap.lookup a = some (source, k) → (k, a) ∈ s.promised

theorem tabled_init : Tabled {} := by
  refine ⟨fun k a h => ?_, fun a h => ?_, fun k c h => ?_, fun k c h => ?_, fun c h => ?_,
    fun d h => ?_⟩
  · cases h
  · obtain ⟨k, c, hc, _⟩ := h
    cases hc
  · cases h
  · cases h
  · cases h
  · cases h

theorem backed_init : Backed {} := by
  intro a source k h
  cases h

theorem Tabled.of_table (h : s.Tabled) (gatt : GattConnections)
    (htable : gatt.mConnectedDevices = s.gatt.mConnectedDevices)
    (hnode : gatt.nextNode = s.gatt.nextNode)
    (hconnects : ∀ c ∈ gatt.connects, c ∈ s.gatt.connects)
    (hdisconnects : ∀ d ∈ gatt.disconnects, d ∈ s.gatt.disconnects) :
    Tabled { s with gatt } := by
  constructor
  · change ∀ k a, (k, a) ∈ s.promised → ∃ c, gatt.mConnectedDevices.lookup k = some c ∧ _
    rw [htable]
    exact h.kept
  · rintro a ⟨k, c, hc, ha⟩
    change gatt.mConnectedDevices.lookup k = some c at hc
    rw [htable] at hc
    exact h.succeeded a ⟨k, c, hc, ha⟩
  · change ∀ k c, gatt.mConnectedDevices.lookup k = some c → _
    rw [htable]
    exact h.lower
  · change ∀ k c, gatt.mConnectedDevices.lookup k = some c → c.node < gatt.nextNode
    rw [htable, hnode]
    exact h.nodes
  · exact fun c hc => h.connects c (hconnects c hc)
  · change ∀ d ∈ gatt.disconnects, d.deviceInfo < gatt.nextNode ∧
      ∀ c, gatt.mConnectedDevices.lookup d.appId = some c → _
    rw [htable, hnode]
    exact fun d hd => h.disconnects d (hdisconnects d hd)

theorem Tabled.erase (h : s.Tabled) (k : UInt16) {promised : List (UInt16 × Text)}
    (hpromised : ∀ j a, (j, a) ∈ promised → (j, a) ∈ s.promised ∧ j ≠ k) :
    Tabled { s with
      gatt := { s.gatt with mConnectedDevices := s.gatt.mConnectedDevices.erase k }
      promised } := by
  constructor
  · intro j a hj
    obtain ⟨hold, hne⟩ := hpromised j a hj
    obtain ⟨c, hc, ha⟩ := h.kept j a hold
    exact ⟨c, (AList.lookup_erase_ne hne).trans hc, ha⟩
  · rintro a ⟨j, c, hc, ha⟩
    exact h.succeeded a ⟨j, c, (KeyedMap.lookup_erase_some hc).2, ha⟩
  · exact fun j c hc => h.lower j c (KeyedMap.lookup_erase_some hc).2
  · exact fun j c hc => h.nodes j c (KeyedMap.lookup_erase_some hc).2
  · exact h.connects
  · intro d hd
    obtain ⟨hlt, hd⟩ := h.disconnects d hd
    exact ⟨hlt, fun c hc => hd c (KeyedMap.lookup_erase_some hc).2⟩

theorem Tabled.attempted (h : s.Tabled) (a : Text) :
    Tabled { s with lastAttempt := Function.update s.lastAttempt a (some true) } := by
  refine ⟨h.kept, fun b hb => ?_, h.lower, h.nodes, h.connects, h.disconnects⟩
  change Function.update s.lastAttempt a (some true) b = some true
  by_cases hba : b = a
  · rw [hba, Function.update_self]
  · rw [Function.update_of_ne hba]
    exact h.succeeded b hb

theorem Tabled.report_none (h : s.Tabled) {c : Connection}
    (hk : s.gatt.mConnectedDevices.lookup k = some c) (ha : c.address = a) :
    Tabled (s.report a (.none, k)) := by
  have h' := h.attempted a
  refine ⟨fun j b hj => ?_, h'.succeeded, h.lower, h.nodes, h.connects, h.disconnects⟩
  rcases List.mem_cons.mp hj with heq | hold
  · cases heq
    exact ⟨c, hk, ha⟩
  · exact h.kept j b hold

theorem report_of_error {error : BluetoothError} (herror : error ≠ .none) :
    s.report a (error, k) =
      { s with lastAttempt := Function.update s.lastAttempt a (some false) } := by
  cases error with
  | none => exact absurd rfl herror
  | _ => rfl

theorem Tabled.failed (h : s.Tabled) (ha : ¬ s.Listed a) :
    Tabled { s with lastAttempt := Function.update s.lastAttempt a (some false) } := by
  refine ⟨h.kept, fun b hb => ?_, h.lower, h.nodes, h.connects, h.disconnects⟩
  change Function.update s.lastAttempt a (some false) b = some true
  have hba : b ≠ a := by
    rintro rfl
    exact ha hb
  rw [Function.update_of_ne hba]
  exact h.succeeded b hb

theorem Tabled.insertConnected (h : s.Tabled) (hlower : convertAddressToLowerCase a = a)
    (hfree : ∀ c, s.gatt.mConnectedDevices.lookup k = some c → c.address = a) :
    Tabled ({ s with gatt := s.gatt.insertConnected k a }.report a (.none, k)) := by
  have hcases : ∀ {j : UInt16} {c : Connection},
      (s.gatt.insertConnected k a).mConnectedDevices.lookup j = some c →
      s.gatt.mConnectedDevices.lookup j = some c ∨ j = k ∧ c = ⟨s.gatt.nextNode, a⟩ :=
    fun hc => KeyedMap.lookup_emplace_cases hc
  have hk : ∃ c, (s.gatt.insertConnected k a).mConnectedDevices.lookup k = some c ∧
      c.address = a := by
    cases hold : s.gatt.mConnectedDevices.lookup k with
    | none => exact ⟨_, KeyedMap.lookup_emplace_self (AList.lookup_eq_none.mp hold), rfl⟩
    | some c => exact ⟨c, KeyedMap.lookup_emplace_of_some hold, hfree c hold⟩
  constructor
  · intro j b hj
    rcases List.mem_cons.mp hj with heq | hold
    · cases heq
      exact hk
    · obtain ⟨c, hc, hb⟩ := h.kept j b hold
      exact ⟨c, KeyedMap.lookup_emplace_of_some hc, hb⟩
  · rintro b ⟨j, c, hc, hb⟩
    change Function.update s.lastAttempt a (some true) b = some true
    by_cases hba : b = a
    · rw [hba, Function.update_self]
    · rw [Function.update_of_ne hba]
      rcases hcases hc with hold | ⟨_, rfl⟩
      · exact h.succeeded b ⟨j, c, hold, hb⟩
      · exact absurd hb.symm hba
  · intro j c hc
    rcases hcases hc with hold | ⟨_, rfl⟩
    · exact h.lower j c hold
    · exact hlower
  · intro j c hc
    change c.node < s.gatt.nextNode + 1
    rcases hcases hc with hold | ⟨_, rfl⟩
    · exact Nat.lt_succ_of_lt (h.nodes j c hold)
    · exact Nat.lt_succ_self _
  · exact h.connects
  · intro d hd
    obtain ⟨hlt, hentry⟩ := h.disconnects d hd
    refine ⟨Nat.lt_succ_of_lt hlt, fun c hc hnode => ?_⟩
    rcases hcases hc with hold | ⟨_, rfl⟩
    · exact hentry c hold hnode
    · -- the iterator is older than the new entry
      exact absurd hnode (Nat.ne_of_gt hlt)

theorem isConnectedTo_iff (gatt : GattConnections) (a : Text) (k : UInt16) :
    gatt.isConnectedTo a k = true ↔
      ∃ c, gatt.mConnectedDevices.lookup k = some c ∧ c.address = a := by
  unfold GattConnections.isConnectedTo
  cases gatt.mConnectedDevices.lookup k with
  | none => simp
  | some c => simp

/-- What the loop of `connectGatt` reports at once is an entry for the address. -/
theorem findConnected_reports {gatt : GattConnections} {order : List UInt16} :
    ∀ {p : UInt16}, gatt.findConnected a order p = .inr k → gatt.isConnectedTo a k = true := by
  induction order with
  | nil =>
      intro p h
      cases h
  | cons j order ih =>
      intro p h
      rw [GattConnections.findConnected] at h
      split_ifs at h with hj
      · split at h
        · cases h
          exact hj
        · exact ih h
      · exact ih h

theorem getConnectId_cases (gatt : GattConnections) {order : List UInt16}
    (horder : order.Perm gatt.mConnectedDevices.keys) (address : Text) :
    gatt.isConnectedTo (convertAddressToLowerCase address)
      (gatt.getConnectId order address) = true ∨
    gatt.getConnectId order address = 0 ∧
      ∀ k, ¬ gatt.isConnectedTo (convertAddressToLowerCase address) k = true := by
  unfold GattConnections.getConnectId
  dsimp only
  cases hfind : order.find? (gatt.isConnectedTo (convertAddressToLowerCase address)) with
  | some k => exact .inl (List.find?_some hfind)
  | none =>
      right
      refine ⟨rfl, ?_⟩
      intro k hk
      obtain ⟨c, hc, _⟩ := (isConnectedTo_iff gatt _ k).mp hk
      have hmem : k ∈ gatt.mConnectedDevices := AList.lookup_isSome.mp (by rw [hc]; rfl)
      exact List.find?_eq_none.mp hfind k (horder.mem_iff.mpr hmem) hk

theorem lookup_handleAutoConnectReq {gatt : GattConnections} {autoConnection : Bool}
    {address : Text} {source : ℕ} {id : UInt16}
    (h : (gatt.handleAutoConnectReq autoConnection address k).mAutoConnDevMap.lookup a =
      some (source, id)) :
    a = convertAddressToLowerCase address ∧ autoConnection = true ∧ id = k ∨
    a ≠ convertAddressToLowerCase address ∧ gatt.mAutoConnDevMap.lookup a = some (source, id) := by
  unfold GattConnections.handleAutoConnectReq GattConnections.removeSource at h
  dsimp only at h
  by_cases ha : a = convertAddressToLowerCase address
  · subst ha
    cases autoConnection with
    | true =>
        rw [if_pos rfl, AList.lookup_insert] at h
        cases h
        exact .inl ⟨rfl, rfl, rfl⟩
    | false =>
        rw [if_neg Bool.false_ne_true, AList.lookup_erase] at h
        cases h
  · cases autoConnection with
    | true =>
        rw [if_pos rfl, AList.lookup_insert_ne ha] at h
        exact .inr ⟨ha, h⟩
    | false =>
        rw [if_neg Bool.false_ne_true, AList.lookup_erase_ne ha] at h
        exact .inr ⟨ha, h⟩

structure Good (s : GattRun) : Prop where
  tabled : s.Tabled
  backed : s.Backed

theorem Good.connectGatt (h : s.Good) {appId : UInt16} {autoConnection : Bool} {address : Text}
    {found : Bool} {order : List UInt16}
    (he : Tracked s (.connectGatt appId autoConnection address found order))
    (hstep : s.step (.connectGatt appId autoConnection address found order) = some t) :
    t.Good := by
  simp only [step, Option.ite_none_right_eq_some, Option.some.injEq] at hstep
  obtain ⟨_, rfl⟩ := hstep
  unfold GattConnections.connectGatt
  cases found with
  | false => exact ⟨h.tabled.failed (he rfl), h.backed⟩
  | true =>
      rw [if_neg (not_not.mpr rfl)]
      dsimp only
      cases hfind : s.gatt.findConnected (convertAddressToLowerCase address) order appId with
      | inr k =>
          obtain ⟨c, hc, ha⟩ := (isConnectedTo_iff _ _ _).mp (findConnected_reports hfind)
          exact ⟨h.tabled.report_none hc ha, fun a source id hauto =>
            List.mem_cons_of_mem _ (h.backed a source id hauto)⟩
      | inl k =>
          refine ⟨⟨h.tabled.kept, h.tabled.succeeded, h.tabled.lower, h.tabled.nodes, ?_,
            h.tabled.disconnects⟩, h.backed⟩
          intro c hc
          rcases List.mem_append.mp hc with hold | hnew
          · exact h.tabled.connects c hold
          · rw [List.mem_singleton.mp hnew]
            exact lowerCase_lowerCase address

theorem Good.connected (h : s.Good) {n : ℕ} {error : BluetoothError}
    (he : Tracked s (.connected n error)) (hstep : s.step (.connected n error) = some t) :
    t.Good := by
  simp only [step, Option.map_eq_some_iff] at hstep
  obtain ⟨c, hc, rfl⟩ := hstep
  have he := he c hc
  have hbase := h.tabled.of_table { s.gatt with connects := s.gatt.connects.eraseIdx n } rfl rfl
    (fun _ hmem => List.mem_of_mem_eraseIdx hmem) (fun _ hd => hd)
  have hlower := h.tabled.connects c (List.mem_of_getElem? hc)
  unfold GattConnections.isConnectCallback
  by_cases herror : error = .none
  · rw [if_pos herror] at he
    rw [if_neg (not_not.mpr herror)]
    have hreq := hbase.of_table (GattConnections.handleAutoConnectReq
      { s.gatt with connects := s.gatt.connects.eraseIdx n }
      c.autoConnection c.lowerCaseAddress c.pAppId) rfl rfl (fun _ hc => hc) (fun _ hd => hd)
    constructor
    · exact hreq.insertConnected hlower he
    · intro a source id hauto
      rcases lookup_handleAutoConnectReq hauto with ⟨ha, _, hid⟩ | ⟨_, hold⟩
      · rw [ha, hlower, hid]
        exact List.mem_cons_self
      · exact List.mem_cons_of_mem _ (h.backed a source id hold)
  · rw [if_neg herror] at he
    rw [if_pos herror, report_of_error herror]
    exact ⟨hbase.failed he, h.backed⟩

theorem Good.reconnected (h : s.Good) {n : ℕ} {error : BluetoothError}
    (he : Tracked s (.reconnected n error)) (hstep : s.step (.reconnected n error) = some t) :
    t.Good := by
  cases he
  simp only [step, Option.map_eq_some_iff] at hstep
  obtain ⟨r, _, rfl⟩ := hstep
  have hbase := h.tabled.of_table { s.gatt with reconnects := s.gatt.reconnects.eraseIdx n }
    rfl rfl (fun _ hc => hc) (fun _ hd => hd)
  exact ⟨hbase.attempted r.devAddress, h.backed⟩

theorem Good.disconnectGatt (h : s.Good) {appId connectId : UInt16} {address : Text}
    {found : Bool} (hstep : s.step (.disconnectGatt appId connectId address found) = some t) :
    t.Good := by
  cases hstep
  unfold GattConnections.disconnectGatt
  cases hentry : s.gatt.mConnectedDevices.lookup appId with
  | none => exact h
  | some deviceInfo =>
      cases found with
      | false => exact h
      | true =>
          refine ⟨⟨h.tabled.kept, h.tabled.succeeded, h.tabled.lower, h.tabled.nodes,
            h.tabled.connects, ?_⟩, h.backed⟩
          intro d hd
          rcases List.mem_append.mp hd with hold | hnew
          · exact h.tabled.disconnects d hold
          · rw [List.mem_singleton.mp hnew]
            refine ⟨h.tabled.nodes appId deviceInfo hentry, fun c hc _ => ?_⟩
            change s.gatt.mConnectedDevices.lookup appId = some c at hc
            rw [hentry] at hc
            cases hc
            rfl

def disconnect (s : GattRun) (n : ℕ) (d : DisconnectCall) : GattRun :=
  { s with
    gatt := ({ s.gatt with
      disconnects := s.gatt.disconnects.eraseIdx n
      mConnectedDevices := s.gatt.mConnectedDevices.erase d.connectId } :
      GattConnections).handleAutoConnectReq false d.deviceAddress d.connectId
    promised := s.promised.filter (· ≠ (d.connectId, convertAddressToLowerCase d.address)) }

theorem step_disconnected {n : ℕ} {d : DisconnectCall} (hd : s.gatt.disconnects[n]? = some d)
    (he : Tracked s (.disconnected n .none)) :
    s.step (.disconnected n .none) = some (s.disconnect n d) := by
  obtain ⟨happ, hentry⟩ := he d hd rfl
  rw [← happ] at hentry
  simp only [step, hd, Option.bind_some]
  unfold GattConnections.isDisconnectCallback disconnect
  rw [if_neg (not_not.mpr rfl), if_pos (by rw [hentry]; rfl), Option.map_some, if_pos rfl,
    ← happ]

theorem Good.disconnect (h : s.Good) {n : ℕ} {d : DisconnectCall}
    (hd : s.gatt.disconnects[n]? = some d) (he : Tracked s (.disconnected n .none)) :
    (s.disconnect n d).Good := by
  obtain ⟨happ, hentry⟩ := he d hd rfl
  have hbase := h.tabled.of_table
    { s.gatt with disconnects := s.gatt.disconnects.eraseIdx n } rfl rfl (fun _ hc => hc)
    (fun _ hmem => List.mem_of_mem_eraseIdx hmem)
  constructor
  · refine (hbase.erase d.connectId fun j a hj => ?_).of_table _ rfl rfl (fun _ hc => hc)
      (fun _ hd => hd)
    obtain ⟨hold, hne⟩ := List.mem_filter.mp hj
    refine ⟨hold, ?_⟩
    rintro rfl
    -- the entry of the id has the address asked for, so it is the pair filtered out
    obtain ⟨c, hc, rfl⟩ := h.tabled.kept _ _ hold
    rw [hentry] at hc
    cases hc
    exact absurd rfl (of_decide_eq_true hne)
  · intro a source id hauto
    rcases lookup_handleAutoConnectReq hauto with ⟨_, hfalse, _⟩ | ⟨hne, hold⟩
    · cases hfalse
    · have haddress := (h.tabled.disconnects d (List.mem_of_getElem? hd)).2 _
        (happ ▸ hentry) rfl
      rw [haddress, lowerCase_upperCase, lowerCase_lowerCase] at hne
      refine List.mem_filter.mpr ⟨h.backed a source id hold, decide_eq_true ?_⟩
      intro heq
      cases heq
      exact hne rfl

theorem Good.disconnected (h : s.Good) {n : ℕ} {error : BluetoothError}
    (he : Tracked s (.disconnected n error)) (hstep : s.step (.disconnected n error) = some t) :
    t.Good := by
  by_cases herror : error = .none
  · subst herror
    cases hd : s.gatt.disconnects[n]? with
    | none =>
        simp only [step, hd, Option.bind_none] at hstep
        cases hstep
    | some d =>
        rw [step_disconnected hd he] at hstep
        cases hstep
        exact h.disconnect hd he
  · simp only [step, GattConnections.isDisconnectCallback, if_pos herror,
      Option.bind_eq_some_iff, Option.map_some, Option.some.injEq] at hstep
    obtain ⟨d, _, rfl⟩ := hstep
    rw [if_neg herror]
    exact ⟨h.tabled.of_table _ rfl rfl (fun _ hc => hc)
      (fun _ hmem => List.mem_of_mem_eraseIdx hmem), h.backed⟩

theorem Backed.renew (h : s.Backed) (gatt : GattConnections) {source source' : ℕ}
    {appId : UInt16} (hold : s.gatt.mAutoConnDevMap.lookup a = some (source, appId))
    (hnew : gatt.mAutoConnDevMap = s.gatt.mAutoConnDevMap.insert a (source', appId)) :
    Backed { s with gatt } := by
  intro b source'' id hb
  change gatt.mAutoConnDevMap.lookup b = some (source'', id) at hb
  rw [hnew] at hb
  rcases KeyedMap.lookup_insert_cases hb with ⟨rfl, hnewer⟩ | ⟨_, hother⟩
  · cases hnewer
    exact h b source appId hold
  · exact h b source'' id hother

theorem Good.deviceAdded (h : s.Good) {address : Text} {found : Bool}
    (hstep : s.step (.deviceAdded address found) = some t) : t.Good := by
  cases hstep
  unfold GattConnections.handleAutoConnectDevAdd
  cases hold : s.gatt.mAutoConnDevMap.lookup (convertAddressToLowerCase address) with
  | none =>
      simp only [hold]
      exact h
  | some entry =>
      simp only [hold]
      cases found with
      | false =>
          exact ⟨h.tabled.of_table _ rfl rfl (fun _ hc => hc) (fun _ hd => hd),
            h.backed.renew _ hold rfl⟩
      | true =>
          exact ⟨h.tabled.of_table _ rfl rfl (fun _ hc => hc) (fun _ hd => hd),
            h.backed.renew _ hold rfl⟩

theorem Good.serviceRemoved (h : s.Good) {address : Text}
    (hstep : s.step (.serviceRemoved address) = some t) : t.Good := by
  cases hstep
  unfold GattConnections.handleAutoConnectDevRem
  cases hold : s.gatt.mAutoConnDevMap.lookup (convertAddressToLowerCase address) with
  | none =>
      simp only [hold]
      exact h
  | some entry =>
      simp only [hold]
      exact ⟨h.tabled.of_table _ rfl rfl (fun _ hc => hc) (fun _ hd => hd),
        h.backed.renew _ hold rfl⟩

theorem mem_endAddress {j : UInt16} {b : Text}
    (hj : (j, b) ∈ s.promised.filter fun p => p.2 ≠ a) : (j, b) ∈ s.promised ∧ b ≠ a := by
  obtain ⟨hold, hne⟩ := List.mem_filter.mp hj
  exact ⟨hold, of_decide_eq_true hne⟩

theorem Backed.endAddress (h : s.Backed) (gatt : GattConnections)
    (hauto : ∀ b source id, gatt.mAutoConnDevMap.lookup b = some (source, id) →
      b ≠ a ∧ s.gatt.mAutoConnDevMap.lookup b = some (source, id)) :
    Backed (GattRun.endAddress { s with gatt } a) := by
  intro b source id hb
  obtain ⟨hne, hold⟩ := hauto b source id hb
  exact List.mem_filter.mpr ⟨h b source id hold, decide_eq_true hne⟩

theorem Good.deviceRemoved (h : s.Good) {address : Text} {order : List UInt16}
    (he : Tracked s (.deviceRemoved address order))
    (hstep : s.step (.deviceRemoved address order) = some t) : t.Good := by
  simp only [step, Option.ite_none_right_eq_some, Option.some.injEq] at hstep
  obtain ⟨horder, rfl⟩ := hstep
  unfold GattConnections.updateDeviceProperties
  dsimp only
  by_cases hauto : convertAddressToLowerCase address ∈ s.gatt.mAutoConnDevMap
  · rw [if_pos hauto, if_neg (not_not.mpr hauto)]
    exact h
  · rw [if_neg hauto, if_pos hauto]
    constructor
    · refine h.tabled.erase _ fun j b hj => ?_
      obtain ⟨hold, hne⟩ := mem_endAddress hj
      refine ⟨hold, ?_⟩
      obtain ⟨c, hc, rfl⟩ := h.tabled.kept j b hold
      have hcases := getConnectId_cases s.gatt horder (convertAddressToLowerCase address)
      rw [lowerCase_lowerCase] at hcases
      rcases hcases with hfound | ⟨hzero, hnone⟩
      · obtain ⟨c', hc', haddress⟩ := (isConnectedTo_iff _ _ _).mp hfound
        rintro rfl
        rw [hc] at hc'
        cases hc'
        exact hne haddress
      · rw [hzero]
        rintro rfl
        have hlisted : ¬ s.Listed (convertAddressToLowerCase address) := by
          rintro ⟨k, hk⟩
          exact hnone k ((isConnectedTo_iff _ _ _).mpr hk)
        exact he hlisted hauto _ hold
    · refine h.backed.endAddress _ fun b source id hb => ⟨?_, hb⟩
      rintro rfl
      exact hauto (AList.lookup_isSome.mp (by rw [hb]; rfl))

theorem Good.autoConnTimeout (h : s.Good) {source : ℕ} {address : Text} {appId : UInt16}
    (he : Tracked s (.autoConnTimeout source address appId))
    (hstep : s.step (.autoConnTimeout source address appId) = some t) : t.Good := by
  simp only [step, Option.ite_none_right_eq_some, Option.some.injEq] at hstep
  obtain ⟨_, rfl⟩ := hstep
  unfold GattConnections.handleAutoConnTimeout
  dsimp only
  cases hold : s.gatt.mAutoConnDevMap.lookup (convertAddressToLowerCase address) with
  | none => exact h
  | some entry =>
      obtain ⟨timer, id⟩ := entry
      dsimp only
      by_cases htimer : timer = 0
      · simp only [htimer, Option.any_some, ne_eq, not_true_eq_false, false_and, decide_false]
        exact h
      · obtain ⟨rfl, rfl⟩ := he timer id hold htimer
        have hany : (Option.any (fun p : ℕ × UInt16 => decide (p.1 ≠ 0 ∧ p.1 = timer))
            (some (timer, appId))) = true := decide_eq_true ⟨htimer, rfl⟩
        rw [if_pos hany, if_pos htimer]
        obtain ⟨c, hc, haddress⟩ := h.tabled.kept _ _ (h.backed _ _ _ hold)
        constructor
        · refine (h.tabled.erase appId fun j b hj => ?_).of_table _ rfl rfl (fun _ hc => hc)
            (fun _ hd => hd)
          obtain ⟨hkept, hne⟩ := mem_endAddress hj
          refine ⟨hkept, ?_⟩
          rintro rfl
          obtain ⟨c', hc', rfl⟩ := h.tabled.kept _ _ hkept
          rw [hc] at hc'
          cases hc'
          exact hne haddress
        · exact h.backed.endAddress _ fun b source id hb => KeyedMap.lookup_erase_some hb

theorem Good.step (h : s.Good) {e : GattEvent} (he : Tracked s e) (hstep : s.step e = some t) :
    t.Good := by
  cases e with
  | connectGatt appId autoConnection address found order => exact h.connectGatt he hstep
  | connected n error => exact h.connected he hstep
  | reconnected n error => exact h.reconnected he hstep
  | disconnectGatt appId connectId address found => exact h.disconnectGatt hstep
  | disconnected n error => exact h.disconnected he hstep
  | deviceAdded address found => exact h.deviceAdded hstep
  | serviceRemoved address => exact h.serviceRemoved hstep
  | deviceRemoved address order => exact h.deviceRemoved he hstep
  | autoConnTimeout source address appId => exact h.autoConnTimeout he hstep

theorem good_of_reach (hs : gattMachine.ReachWith Tracked s) : s.Good :=
  hs.invariant ⟨tabled_init, backed_init⟩ fun _ _ _ h he hstep => h.step he hstep

theorem getAddress_of_lookup {c : Connection} (hc : s.gatt.mConnectedDevices.lookup k = some c) :
    s.gatt.getAddress k = c.address := by
  unfold GattConnections.getAddress
  rw [hc]

theorem Good.coherent (h : s.Good) : s.Coherent := by
  constructor
  · intro k a hk
    obtain ⟨c, hc, ha⟩ := h.tabled.kept k a hk
    rw [getAddress_of_lookup hc, ha]
  · exact h.tabled.succeeded

theorem endsOnly_of_tracked {n : ℕ} (he : Tracked s (.disconnected n .none)) :
    s.EndsOnly n := by
  intro d t hd hstep
  rw [step_disconnected hd he] at hstep
  cases hstep
  obtain ⟨_, hentry⟩ := he d hd rfl
  refine ⟨getAddress_of_lookup hentry, fun k => ?_⟩
  change (s.gatt.mConnectedDevices.erase d.connectId).lookup k = _
  split_ifs with hk
  · rw [hk, AList.lookup_erase]
  · exact AList.lookup_erase_ne hk

end GattRun

/-- In a tracked run the table is what applications were told, and a disconnect that finds
its connection ends no other. -/
theorem gattTable_coherent {s : GattRun} (hs : gattMachine.ReachWith Tracked s) :
    s.Coherent ∧ ∀ n, Tracked s (.disconnected n .none) → s.EndsOnly n :=
  ⟨(GattRun.good_of_reach hs).coherent, fun _ he => GattRun.endsOnly_of_tracked he⟩

/-- An application connects, and then asks for the disconnect of its connection. -/
theorem gattTable_coherent_disconnect :
    ∃ s : GattRun, (1, ['a']) ∈ s.promised ∧ s.gatt.disconnects ≠ [] ∧ s.Coherent ∧
      s.EndsOnly 0 := by
  have hfree : Tracked
      { gatt := { connects := [⟨['a'], 1, false⟩] } } (.connected 0 .none) := by
    intro c hc
    cases hc
    intro d hd
    cases hd
  obtain ⟨hcoherent, hends⟩ := gattTable_coherent
    (.step (e := .disconnectGatt 1 1 ['A'] true)
      (.step (e := .connected 0 .none)
        (.step (e := .connectGatt 1 false ['A'] true []) .init nofun rfl) hfree rfl)
      trivial rfl)
  refine ⟨_, ?_, ?_, hcoherent, hends 0 ?_⟩
  · decide
  · decide
  · intro d hd _
    cases hd
    exact ⟨rfl, by decide⟩

/-- An application that connects to a second device reads back the address of the first. -/
theorem gattTable_second_device :
    ¬ ∀ s : GattRun, gattMachine.Reach s → s.Coherent ∧ ∀ n, s.EndsOnly n := by
  intro h
  have hrun : ∃ t, gattMachine.run gattMachine.init
      [.connectGatt 1 false ['A'] true [], .connected 0 .none,
        .connectGatt 1 false ['B'] true [1], .connected 0 .none] = some t ∧
      (1, ['b']) ∈ t.promised ∧ t.gatt.getAddress 1 = ['a'] :=
    ⟨_, rfl, by decide, by decide⟩
  obtain ⟨t, hrun, htold, haddress⟩ := hrun
  have hback := (h t (Machine.reach_of_run _ hrun)).1.told 1 ['b'] htold
  rw [haddress] at hback
  exact absurd hback (by decide)

end BluezSil.Gatt
