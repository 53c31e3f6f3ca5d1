import BluezSil.GattConnectionRuns
import BluezSil.TimerTable

/-!
# Timers of automatic reconnections

A reconnection timer is armed when a service of the device goes away. It is given a
pointer to a pair that is a local of the arming function, and its handler asks to be
called again. The entries of `mAutoConnDevMap` and the live sources agree until a timer
expires, but no live source carries the address it was armed for.
-/

namespace BluezSil.Gatt

open TransitionRun

def GattConnections.armedSource (s : GattConnections) (address : Text) : ℕ :=
  (s.mAutoConnDevMap.lookup address).elim 0 Prod.fst

/-- The pairs given to timers that still exist, by the source of the timer. -/
structure TimerRun where
  run : GattRun := {}
  pairs : KeyedMap ℕ Text := ∅

namespace TimerRun

variable (s : TimerRun)

/-- The function that arms a timer makes the pair and lets it go as it returns. A timer
expires with the address of its pair if there is one, and with any address if not. -/
def step : GattEvent → Option TimerRun
  | .serviceRemoved address =>
    let source := s.run.gatt.nextSource
    let pairs := s.pairs.insert source (convertAddressToLowerCase address)
    (s.run.step (.serviceRemoved address)).map fun run => ⟨run, pairs.erase source⟩
  | .autoConnTimeout source address appId =>
    if (s.pairs.lookup source).all (· = address) then
      (s.run.step (.autoConnTimeout source address appId)).map fun run => ⟨run, s.pairs⟩
    else none
  | e => (s.run.step e).map fun run => ⟨run, s.pairs⟩

def SourcesMatch : Prop := TimerTable.Matched s.run.gatt.sources s.run.gatt.armedSource

/-- The expiry of a timer removes the entry and the connection of its address, and ends
the timer. -/
def ExpiresCleanly : Prop :=
  ∀ a source id appId t, s.run.gatt.mAutoConnDevMap.lookup a = some (source, id) →
    s.step (.autoConnTimeout source a appId) = some t →
    t.run.gatt.mAutoConnDevMap = s.run.gatt.mAutoConnDevMap.erase a ∧
    t.run.gatt.mConnectedDevices = s.run.gatt.mConnectedDevices.erase id ∧
    source ∉ t.run.gatt.sources

structure TimersSound : Prop where
  sources : s.SourcesMatch
  address : ∀ a, s.run.gatt.armedSource a ≠ 0 →
    s.pairs.lookup (s.run.gatt.armedSource a) = some a
  expiry : s.ExpiresCleanly

end TimerRun

def timerMachine : Machine TimerRun GattEvent := ⟨{}, TimerRun.step⟩

def NeverArms (s : TimerRun) : GattEvent → Prop
  | .serviceRemoved address => convertAddressToLowerCase address ∉ s.run.gatt.mAutoConnDevMap
  | _ => True

def NeverExpires (_ : TimerRun) : GattEvent → Prop
  | .autoConnTimeout _ _ _ => False
  | _ => True

instance : DecidableRel NeverArms := fun s e => by
  unfold NeverArms
  cases e <;> infer_instance

def GattEvent.ArmsOrExpires : GattEvent → Prop
  | .serviceRemoved _ => True
  | .autoConnTimeout _ _ _ => True
  | _ => False

namespace GattConnections

variable {s : GattConnections} {a : Text} {n : ℕ} {k : UInt16}

def timers (s : GattConnections) : TimerTable.Timers Text :=
  ⟨s.sources, s.nextSource, s.armedSource⟩

theorem armedSource_of_lookup (h : s.mAutoConnDevMap.lookup a = some (n, k)) :
    s.armedSource a = n := by
  unfold armedSource
  rw [h]
  rfl

theorem armedSource_insert (s : GattConnections) (a : Text) (n : ℕ) (k : UInt16) :
    armedSource { s with mAutoConnDevMap := s.mAutoConnDevMap.insert a (n, k) } =
      Function.update s.armedSource a n := by
  funext b
  unfold armedSource
  dsimp only
  by_cases hba : b = a
  · rw [hba, AList.lookup_insert, Function.update_self]
    rfl
  · rw [AList.lookup_insert_ne hba, Function.update_of_ne hba]

theorem armedSource_erase (s : GattConnections) (a : Text) :
    armedSource { s with mAutoConnDevMap := s.mAutoConnDevMap.erase a } =
      Function.update s.armedSource a 0 := by
  funext b
  unfold armedSource
  dsimp only
  by_cases hba : b = a
  · rw [hba, AList.lookup_erase, Function.update_self]
    rfl
  · rw [AList.lookup_erase_ne hba, Function.update_of_ne hba]

theorem timers_handleAutoConnectReq (s : GattConnections) (autoConnection : Bool)
    (address : Text) (appId : UInt16) :
    s.timers.Quiet (s.handleAutoConnectReq autoConnection address appId).timers := by
  apply TimerTable.Timers.Quiet.disarm (convertAddressToLowerCase address)
  · rfl
  · rfl
  · cases autoConnection with
    | true => exact armedSource_insert s _ 0 appId
    | false => exact armedSource_erase s _

theorem timers_handleAutoConnectDevAdd (s : GattConnections) (address : Text) (found : Bool) :
    s.timers.Quiet (s.handleAutoConnectDevAdd address found).timers := by
  unfold handleAutoConnectDevAdd
  dsimp only
  cases hentry : s.mAutoConnDevMap.lookup (convertAddressToLowerCase address) with
  | none => exact .keep rfl
  | some entry =>
      obtain ⟨source, appId⟩ := entry
      have hsource := armedSource_of_lookup hentry
      apply TimerTable.Timers.Quiet.disarm (convertAddressToLowerCase address)
      · change _ = TimerTable.removeSource s.sources (s.armedSource _)
        rw [hsource]
        cases found with
        | true => rfl
        | false => rfl
      · cases found with
        | true => rfl
        | false => rfl
      · have harmed := armedSource_insert s (convertAddressToLowerCase address) 0 appId
        cases found with
        | true => exact harmed
        | false => exact harmed

theorem handleAutoConnectDevRem_of_not_mem {address : Text}
    (h : convertAddressToLowerCase address ∉ s.mAutoConnDevMap) :
    s.handleAutoConnectDevRem address = s := by
  unfold handleAutoConnectDevRem
  dsimp only
  rw [AList.lookup_eq_none.mpr h]

theorem timers_handleAutoConnectDevRem {address : Text}
    (h : convertAddressToLowerCase address ∈ s.mAutoConnDevMap) :
    s.timers.Arms (s.handleAutoConnectDevRem address).timers
      (convertAddressToLowerCase address) := by
  obtain ⟨entry, hentry⟩ := Option.isSome_iff_exists.mp (AList.lookup_isSome.mpr h)
  obtain ⟨source, appId⟩ := entry
  have hsource := armedSource_of_lookup hentry
  unfold handleAutoConnectDevRem
  dsimp only
  rw [hentry]
  constructor
  · change _ = s.nextSource :: TimerTable.removeSource s.sources (s.armedSource _)
    rw [hsource]
    rfl
  · rfl
  · exact armedSource_insert s _ _ appId

end GattConnections

namespace GattRun

variable {s t : GattRun} {e : GattEvent}

theorem report_gatt (s : GattRun) (a : Text) (r : ConnectReport) :
    (s.report a r).gatt = s.gatt := by
  obtain ⟨error, connId⟩ := r
  cases error with
  | none => rfl
  | _ => rfl

theorem timers_connectGatt (gatt : GattConnections) (appId : UInt16) (autoConnection : Bool)
    (address : Text) (found : Bool) (order : List UInt16) :
    (gatt.connectGatt appId autoConnection address found order).1.timers = gatt.timers := by
  unfold GattConnections.connectGatt
  cases found with
  | false => rfl
  | true =>
      dsimp only
      cases gatt.findConnected (convertAddressToLowerCase address) order appId with
      | inl pAppId => rfl
      | inr pAppId => rfl

theorem timers_isConnectCallback (gatt : GattConnections) (c : ConnectCall)
    (error : BluetoothError) :
    gatt.timers.Quiet (gatt.isConnectCallback c error).1.timers := by
  unfold GattConnections.isConnectCallback
  split_ifs with herror
  · exact .keep rfl
  · exact gatt.timers_handleAutoConnectReq c.autoConnection c.lowerCaseAddress c.pAppId

theorem timers_gattConnCallBack (gatt : GattConnections) (r : Reconnect)
    (error : BluetoothError) : (gatt.gattConnCallBack r error).timers = gatt.timers := by
  unfold GattConnections.gattConnCallBack GattConnections.assignConnected
  split_ifs with herror
  · cases gatt.mConnectedDevices.lookup r.appId with
    | none => rfl
    | some c => rfl
  · rfl

theorem timers_disconnectGatt (gatt : GattConnections) (appId connectId : UInt16)
    (address : Text) (found : Bool) :
    (gatt.disconnectGatt appId connectId address found).1.timers = gatt.timers := by
  unfold GattConnections.disconnectGatt
  cases gatt.mConnectedDevices.lookup appId with
  | none => rfl
  | some c =>
      cases found with
      | true => rfl
      | false => rfl

theorem timers_isDisconnectCallback {gatt : GattConnections} {d : DisconnectCall}
    {error : BluetoothError} {o : GattConnections × BluetoothError}
    (h : gatt.isDisconnectCallback d error = some o) : gatt.timers.Quiet o.1.timers := by
  unfold GattConnections.isDisconnectCallback at h
  split_ifs at h with herror hnode
  · cases h
    exact .keep rfl
  · cases h
    exact GattConnections.timers_handleAutoConnectReq
      { gatt with mConnectedDevices := gatt.mConnectedDevices.erase d.appId }
      false d.deviceAddress d.appId

theorem timers_updateDeviceProperties (gatt : GattConnections) (order : List UInt16)
    (address : Text) : (gatt.updateDeviceProperties order address).timers = gatt.timers := by
  unfold GattConnections.updateDeviceProperties
  dsimp only
  split_ifs
  · rfl
  · rfl

theorem step_quiet (hs : s.step e = some t) (he : ¬ e.ArmsOrExpires) :
    s.gatt.timers.Quiet t.gatt.timers := by
  cases e with
  | connectGatt appId autoConnection address found order =>
      simp only [step] at hs
      split_ifs at hs
      cases hs
      have hkeep := timers_connectGatt s.gatt appId autoConnection address found order
      cases (s.gatt.connectGatt appId autoConnection address found order).2 with
      | none => exact .keep hkeep
      | some r =>
          apply TimerTable.Timers.Quiet.keep
          rw [Option.elim_some, report_gatt]
          exact hkeep
  | connected n error =>
      obtain ⟨c, _, rfl⟩ := Option.map_eq_some_iff.mp hs
      rw [report_gatt]
      exact timers_isConnectCallback
        { s.gatt with connects := s.gatt.connects.eraseIdx n } c error
  | reconnected n error =>
      obtain ⟨r, _, rfl⟩ := Option.map_eq_some_iff.mp hs
      exact .keep (timers_gattConnCallBack
        { s.gatt with reconnects := s.gatt.reconnects.eraseIdx n } r error)
  | disconnectGatt appId connectId address found =>
      cases hs
      exact .keep (timers_disconnectGatt s.gatt appId connectId address found)
  | disconnected n error =>
      obtain ⟨d, _, hd⟩ := Option.bind_eq_some_iff.mp hs
      obtain ⟨o, ho, rfl⟩ := Option.map_eq_some_iff.mp hd
      have hquiet := timers_isDisconnectCallback ho
      exact hquiet
  | deviceAdded address found =>
      cases hs
      exact s.gatt.timers_handleAutoConnectDevAdd address found
  | serviceRemoved address => exact absurd trivial he
  | deviceRemoved address order =>
      simp only [step] at hs
      split_ifs at hs
      · cases hs
        exact .keep (timers_updateDeviceProperties s.gatt order address)
      · cases hs
        exact .keep (timers_updateDeviceProperties s.gatt order address)
  | autoConnTimeout source address appId => exact absurd trivial he

theorem handleAutoConnTimeout_sources (gatt : GattConnections) (address : Text)
    (appId : UInt16) :
    (gatt.handleAutoConnTimeout address appId).sources = gatt.sources ∧
      (gatt.handleAutoConnTimeout address appId).nextSource = gatt.nextSource := by
  unfold GattConnections.handleAutoConnTimeout
  dsimp only
  cases gatt.mAutoConnDevMap.lookup (convertAddressToLowerCase address) with
  | none => exact ⟨rfl, rfl⟩
  | some entry =>
      dsimp only
      split_ifs
      · exact ⟨rfl, rfl⟩
      · exact ⟨rfl, rfl⟩

/-- A timer that expires is live, and it stays so as its handler asks to be called again. -/
theorem expiry_live {source : ℕ} {address : Text} {appId : UInt16}
    (hs : s.step (.autoConnTimeout source address appId) = some t) :
    source ∈ s.gatt.sources ∧ t.gatt.sources = s.gatt.sources ∧
      t.gatt.nextSource = s.gatt.nextSource := by
  have hkeep := handleAutoConnTimeout_sources s.gatt address appId
  simp only [step] at hs
  split_ifs at hs with hlive
  · cases hs
    exact ⟨hlive, hkeep⟩
  · cases hs
    exact ⟨hlive, hkeep⟩

end GattRun

namespace TimerRun

variable {s t : TimerRun} {e : GattEvent}

theorem run_step (hs : s.step e = some t) : s.run.step e = some t.run := by
  cases e with
  | autoConnTimeout source address appId =>
      simp only [step] at hs
      split_ifs at hs
      obtain ⟨run, hrun, rfl⟩ := Option.map_eq_some_iff.mp hs
      exact hrun
  | connectGatt | connected | reconnected | disconnectGatt | disconnected | deviceAdded
  | serviceRemoved | deviceRemoved =>
      simp only [step, Option.map_eq_some_iff] at hs
      obtain ⟨run, hrun, rfl⟩ := hs
      exact hrun

theorem idle_step (h : s.run.gatt.timers.Idle) (hg : NeverArms s e) (hs : s.step e = some t) :
    t.run.gatt.timers.Idle := by
  have hrun := run_step hs
  cases e with
  | serviceRemoved address =>
      rw [← Option.some.inj hrun]
      exact (GattConnections.handleAutoConnectDevRem_of_not_mem hg).symm ▸ h
  | autoConnTimeout source address appId =>
      simp only [GattRun.step] at hrun
      split_ifs at hrun with hlive
      all_goals
        have hnil : s.run.gatt.sources = [] := h.live
        rw [hnil] at hlive
        cases hlive
  | connectGatt | connected | reconnected | disconnectGatt | disconnected | deviceAdded
  | deviceRemoved => exact h.quiet (GattRun.step_quiet hrun not_false)

theorem sound_of_idle (h : s.run.gatt.timers.Idle) : s.TimersSound := by
  constructor
  · exact h.matched
  · intro a ha
    exact absurd (h.armed a) ha
  · intro a source id appId t _ hs
    obtain ⟨hlive, _⟩ := GattRun.expiry_live (run_step hs)
    have hnil : s.run.gatt.sources = [] := h.live
    rw [hnil] at hlive
    cases hlive

theorem right_step (h : s.run.gatt.timers.Right) (hg : NeverExpires s e)
    (hs : s.step e = some t) : t.run.gatt.timers.Right := by
  have hrun := run_step hs
  cases e with
  | serviceRemoved address =>
      rw [← Option.some.inj hrun]
      by_cases hmem : convertAddressToLowerCase address ∈ s.run.gatt.mAutoConnDevMap
      · exact h.arms (GattConnections.timers_handleAutoConnectDevRem hmem)
      · exact (GattConnections.handleAutoConnectDevRem_of_not_mem hmem).symm ▸ h
  | autoConnTimeout source address appId => exact absurd hg id
  | connectGatt | connected | reconnected | disconnectGatt | disconnected | deviceAdded
  | deviceRemoved => exact h.quiet (GattRun.step_quiet hrun not_false)

theorem next_pos_step (h : 0 < s.run.gatt.nextSource) (hs : s.step e = some t) :
    0 < t.run.gatt.nextSource := by
  have hrun := run_step hs
  cases e with
  | serviceRemoved address =>
      rw [← Option.some.inj hrun]
      by_cases hmem : convertAddressToLowerCase address ∈ s.run.gatt.mAutoConnDevMap
      · have hnext := (GattConnections.timers_handleAutoConnectDevRem hmem).next
        exact Nat.lt_of_lt_of_eq (Nat.succ_pos _) hnext.symm
      · exact (GattConnections.handleAutoConnectDevRem_of_not_mem hmem).symm ▸ h
  | autoConnTimeout source address appId =>
      rw [(GattRun.expiry_live hrun).2.2]
      exact h
  | connectGatt | connected | reconnected | disconnectGatt | disconnected | deviceAdded
  | deviceRemoved =>
      have hnext := (GattRun.step_quiet hrun not_false).next_eq
      exact Nat.lt_of_lt_of_eq h hnext.symm

/-- The pair is gone when the function that armed the timer has returned. -/
theorem not_sound_of_armed {address : Text} (hpos : 0 < s.run.gatt.nextSource)
    (hmem : convertAddressToLowerCase address ∈ s.run.gatt.mAutoConnDevMap)
    (hs : s.step (.serviceRemoved address) = some t) : ¬ t.TimersSound := by
  have hrun := run_step hs
  have harmed : t.run.gatt.armedSource (convertAddressToLowerCase address) =
      s.run.gatt.nextSource := by
    rw [← Option.some.inj hrun]
    have h := (GattConnections.timers_handleAutoConnectDevRem hmem).armed
    exact (congrFun h _).trans (Function.update_self _ _ _)
  have hgone : t.pairs.lookup s.run.gatt.nextSource = none := by
    cases hs
    exact AList.lookup_erase _ _
  intro h
  have hpair := h.address (convertAddressToLowerCase address)
  rw [harmed, hgone] at hpair
  cases hpair (Nat.pos_iff_ne_zero.mp hpos)

end TimerRun

theorem sourcesMatch_of_reach {s : TimerRun} (h : timerMachine.ReachWith NeverExpires s) :
    s.SourcesMatch := by
  have hinit : timerMachine.init.run.gatt.timers.Right :=
    ⟨TimerTable.matched_nil fun _ => rfl, nofun, Nat.one_pos⟩
  have hright : s.run.gatt.timers.Right :=
    h.invariant hinit fun _ _ _ => TimerRun.right_step
  exact hright.matched

/-- The timers are right as long as none is armed. Arming one leaves it without its
address; otherwise the sources and the entries agree until one expires, and a timer that
expires stays live. -/
theorem autoConnectTimers (s : TimerRun) :
    (timerMachine.ReachWith NeverArms s → s.TimersSound) ∧
    (timerMachine.Reach s → ∀ t address,
      convertAddressToLowerCase address ∈ s.run.gatt.mAutoConnDevMap →
      s.step (.serviceRemoved address) = some t → ¬ t.TimersSound) ∧
    (timerMachine.ReachWith NeverExpires s → s.SourcesMatch) ∧
    (∀ (t : TimerRun) source address appId,
      s.step (.autoConnTimeout source address appId) = some t →
      source ∈ t.run.gatt.sources) := by
  refine ⟨?_, ?_, sourcesMatch_of_reach, ?_⟩
  · intro h
    have hinit : timerMachine.init.run.gatt.timers.Idle := ⟨rfl, fun _ => rfl⟩
    have hidle : s.run.gatt.timers.Idle := h.invariant hinit fun _ _ _ => TimerRun.idle_step
    exact TimerRun.sound_of_idle hidle
  · intro h t address
    have hinit : 0 < timerMachine.init.run.gatt.nextSource := Nat.one_pos
    have hpos := h.invariant (P := fun s => 0 < s.run.gatt.nextSource) hinit
      fun _ _ _ hpos _ => TimerRun.next_pos_step hpos
    exact TimerRun.not_sound_of_armed hpos
  · intro t source address appId hs
    obtain ⟨hlive, hkept, _⟩ := GattRun.expiry_live (TimerRun.run_step hs)
    rw [hkept]
    exact hlive

def autoConnectEvents : List GattEvent :=
  [.connectGatt 1 true ['A'] true [], .connected 0 .none]

/-- A device is connected automatically and none of its services goes away. -/
theorem autoConnectTimers_connected : ∃ s : TimerRun,
    s.run.gatt.mAutoConnDevMap.lookup ['a'] = some (0, 1) ∧ s.TimersSound := by
  have hsound := (autoConnectTimers _).1
    (Machine.reachWith_of_runWith autoConnectEvents .init rfl)
  exact ⟨_, rfl, hsound⟩

/-- A service of the device goes away and the device does not come back in time: the
source outlives its entry. -/
theorem autoConnectTimers_expired : ¬ ∀ s : TimerRun, timerMachine.Reach s → s.TimersSound := by
  intro h
  have hrun : ∃ t, timerMachine.run timerMachine.init (autoConnectEvents ++
      [.serviceRemoved ['A'], .autoConnTimeout 1 ['a'] 1]) = some t ∧
      t.run.gatt.sources = [1] ∧ t.run.gatt.mAutoConnDevMap = ∅ :=
    ⟨_, rfl, rfl, rfl⟩
  obtain ⟨t, hrun, hsources, hempty⟩ := hrun
  have hlive := (h t (Machine.reach_of_run _ hrun)).sources.mem_iff 1
  rw [hsources] at hlive
  obtain ⟨a, ha⟩ := (hlive.mp (by decide)).2
  unfold GattConnections.armedSource at ha
  rw [hempty] at ha
  cases ha

end BluezSil.Gatt
