import BluezSil.A2dpTransport
import BluezSil.ReportLog

/-!
# A2DP status of several devices

The profile has one flag for being connected and one play state, while the status updates are
each about a device and a State change is told of the device whose transport is kept. The flag
is that of the last update, and the end of playing is told of the device at hand, whether or
not it was the one that played.
-/

namespace BluezSil.A2dp

open ReportLog TransitionRun

/-- What is told to the observers, with the address in lower case, and the volume to AVRCP. -/
inductive A2dpReport
  | stateChanged (address : Text) (state : BluetoothA2dpProfileState)
  | propertiesChanged (address : Text) (connected : Bool)
  | updateAvrcpVolume (address : Text) (volume : UInt16)
  | delayReportChanged (address : Text) (delay : UInt16)
  deriving DecidableEq

inductive Topic
  | state (address : Text)
  | connected (address : Text)
  | volume (address : Text)
  | delay (address : Text)
  deriving DecidableEq

def A2dpReport.topic : A2dpReport → Topic
  | .stateChanged address _ => .state address
  | .propertiesChanged address _ => .connected address
  | .updateAvrcpVolume address _ => .volume address
  | .delayReportChanged address _ => .delay address

/-- A changed property of a transport. Of `UUID` and the others nothing is told. -/
inductive TransportChange
  | state (state : Text)
  | volume (volume : UInt16)
  | delay (delay : UInt16)
  | other

/-- The device path of a transport, and the address of the device known by a path. -/
structure DeviceLookup where
  get_device : Text → Option Text
  findDeviceByObjectPath : Text → Option Text

inductive ConnectOutcome
  | alreadyConnected
  /-- The request goes on to the device. -/
  | requested
  deriving DecidableEq

def activeState : Text := "active".toList

namespace Bluez5ProfileA2dp

section Operations

variable (a2dp : Bluez5ProfileA2dp) (devices : DeviceLookup)

def connect : ConnectOutcome := if ¬ a2dp.mConnected then .requested else .alreadyConnected

/-- The reports are returned latest first, here and below. -/
def updateConnectionStatus (address : Text) (status : Bool) :
    Bluez5ProfileA2dp × List A2dpReport :=
  let a2dp := { a2dp with mConnected := status }
  let address := convertAddressToLowerCase address
  if a2dp.mState = .playing ∧ ¬ status then
    let a2dp := { a2dp with mState := .notPlaying }
    (a2dp, [.propertiesChanged address status, .stateChanged address a2dp.mState])
  else (a2dp, [.propertiesChanged address status])

def transportDevice : Option Text :=
  (a2dp.mInterface.bind devices.get_device).bind devices.findDeviceByObjectPath

def handlePropertyChanged : TransportChange → Bluez5ProfileA2dp × List A2dpReport
  | .state state =>
      let a2dp := { a2dp with mState := if state = activeState then .playing else .notPlaying }
      (a2dp, (a2dp.transportDevice devices).toList.map fun address =>
        .stateChanged (convertAddressToLowerCase address) a2dp.mState)
  | .volume volume =>
      (a2dp, (a2dp.transportDevice devices).toList.map fun address =>
        .updateAvrcpVolume address volume)
  | .delay delay =>
      (a2dp, (a2dp.transportDevice devices).toList.map fun address =>
        .delayReportChanged (convertAddressToLowerCase address) delay)
  | .other => (a2dp, [])

end Operations

def handlePropertiesChanged (a2dp : Bluez5ProfileA2dp) (devices : DeviceLookup) :
    List TransportChange → Bluez5ProfileA2dp × List A2dpReport
  | [] => (a2dp, [])
  | change :: changes =>
      let (a2dp, reports) := a2dp.handlePropertyChanged devices change
      let (a2dp, later) := a2dp.handlePropertiesChanged devices changes
      (a2dp, later ++ reports)

end Bluez5ProfileA2dp

inductive A2dpEvent
  | transport (e : TransportEvent)
  | updateConnectionStatus (address : Text) (status : Bool)
  | propertiesChanged (devices : DeviceLookup) (changes : List TransportChange)

structure A2dpRun where
  a2dp : Bluez5ProfileA2dp := {}
  log : List A2dpReport := []

def LastConnected (log : List A2dpReport) (address : Text) : Prop :=
  last A2dpReport.topic log (.connected address) = some (.propertiesChanged address true)

def LastPlaying (log : List A2dpReport) (address : Text) : Prop :=
  last A2dpReport.topic log (.state address) = some (.stateChanged address .playing)

instance (log : List A2dpReport) (address : Text) : Decidable (LastPlaying log address) := by
  unfold LastPlaying
  infer_instance

/-- A device is told to have stopped playing only when it was told last to be playing. -/
def StopsPlaying (log : List A2dpReport) : Prop :=
  ∀ earlier address, (.stateChanged address .notPlaying :: earlier) <:+ log →
    LastPlaying earlier address

namespace A2dpRun

def step (adapterPath : Text) (s : A2dpRun) : A2dpEvent → Option A2dpRun
  | .transport (.objectAdded object made) =>
      some { s with a2dp := s.a2dp.handleObjectAdded adapterPath object made }
  | .transport (.objectRemoved object) =>
      some { s with a2dp := (s.a2dp.handleObjectRemoved adapterPath object).1 }
  | .updateConnectionStatus address status =>
      some {
        a2dp := (s.a2dp.updateConnectionStatus address status).1
        log := (s.a2dp.updateConnectionStatus address status).2 ++ s.log }
  | .propertiesChanged devices changes =>
      some {
        a2dp := (s.a2dp.handlePropertiesChanged devices changes).1
        log := (s.a2dp.handlePropertiesChanged devices changes).2 ++ s.log }

/-- The connected flag says whether a device was last told to be connected, which is when a
connect is refused, and playing is told to have stopped only of a device that played. -/
structure Truthful (s : A2dpRun) : Prop where
  connected : s.a2dp.mConnected = true ↔ ∃ address, LastConnected s.log address
  refused : s.a2dp.connect = .alreadyConnected ↔ ∃ address, LastConnected s.log address
  stops : StopsPlaying s.log

/-- In turn, each State that is not active comes when the device was told last to be
playing. -/
def stopsTold (playing : Bool) : List TransportChange → Bool
  | [] => true
  | .state state :: changes =>
      (state = activeState || playing) && stopsTold (state = activeState) changes
  | _ :: changes => stopsTold playing changes

/-- A device is disconnected only when no other one is connected, and when it is the device told
to be playing if the play state says so; and a State that is not active comes only when the device
it is told of was told last to be playing. -/
def OneDevice (s : A2dpRun) : A2dpEvent → Prop
  | .transport _ => True
  | .updateConnectionStatus address status => status = false →
      (∀ other, LastConnected s.log other → other = convertAddressToLowerCase address) ∧
      (s.a2dp.mState = .playing → LastPlaying s.log (convertAddressToLowerCase address))
  | .propertiesChanged devices changes => ∀ address, s.a2dp.transportDevice devices = some address →
      stopsTold (LastPlaying s.log (convertAddressToLowerCase address)) changes = true

end A2dpRun

section Reports

variable {log reports : List A2dpReport} {r : A2dpReport} {address other : Text}

@[simp] theorem lastConnected_cons_state {state : BluetoothA2dpProfileState} :
    LastConnected (.stateChanged other state :: log) address ↔ LastConnected log address := by
  unfold LastConnected
  rw [last_cons, if_neg (fun h => nomatch h)]

theorem lastConnected_cons_connected {connected : Bool} :
    LastConnected (.propertiesChanged other connected :: log) address ↔
      if address = other then connected = true else LastConnected log address := by
  unfold LastConnected
  rw [last_cons]
  by_cases h : address = other
  · subst h
    simp [A2dpReport.topic]
  · simp [A2dpReport.topic, h, Ne.symm h]

theorem lastPlaying_cons_state {state : BluetoothA2dpProfileState} :
    LastPlaying (.stateChanged address state :: log) address ↔ state = .playing := by
  simp [LastPlaying, last_cons, A2dpReport.topic]

theorem lastPlaying_cons_other (h : ∀ state, r ≠ .stateChanged address state) :
    LastPlaying (r :: log) address ↔ LastPlaying log address := by
  unfold LastPlaying
  rw [last_cons, if_neg]
  intro htopic
  cases r with
  | stateChanged other state =>
      cases htopic
      exact h state rfl
  | propertiesChanged | updateAvrcpVolume | delayReportChanged => cases htopic

theorem stopsPlaying_cons : StopsPlaying (r :: log) ↔
    (∀ address, r = .stateChanged address .notPlaying → LastPlaying log address) ∧
      StopsPlaying log := by
  constructor
  · intro h
    constructor
    · rintro address rfl
      exact h log address List.suffix_rfl
    · intro earlier address hsuffix
      exact h earlier address (hsuffix.trans (List.suffix_cons r log))
  · rintro ⟨hr, hlog⟩ earlier address hsuffix
    rcases List.suffix_cons_iff.mp hsuffix with heq | hsuffix
    · cases heq
      exact hr address rfl
    · exact hlog earlier address hsuffix

end Reports

section Changes

variable {a2dp : Bluez5ProfileA2dp} {devices : DeviceLookup} {log : List A2dpReport}
  {address : Text}

theorem transportDevice_propertyChanged (change : TransportChange) :
    (a2dp.handlePropertyChanged devices change).1.transportDevice devices =
      a2dp.transportDevice devices := by
  cases change <;> rfl

theorem mConnected_propertyChanged (change : TransportChange) :
    (a2dp.handlePropertyChanged devices change).1.mConnected = a2dp.mConnected := by
  cases change <;> rfl

theorem mConnected_propertiesChanged (changes : List TransportChange) :
    (a2dp.handlePropertiesChanged devices changes).1.mConnected = a2dp.mConnected := by
  induction changes generalizing a2dp with
  | nil => rfl
  | cons change changes ih => exact ih.trans (mConnected_propertyChanged change)

theorem topic_propertyChanged {r : A2dpReport} {change : TransportChange}
    (h : r ∈ (a2dp.handlePropertyChanged devices change).2) : r.topic ≠ .connected address := by
  cases change with
  | state | volume | delay =>
      obtain ⟨device, _, rfl⟩ := List.mem_map.mp h
      exact fun h => nomatch h
  | other => cases h

theorem topic_propertiesChanged {r : A2dpReport} {changes : List TransportChange}
    (h : r ∈ (a2dp.handlePropertiesChanged devices changes).2) :
    r.topic ≠ .connected address := by
  induction changes generalizing a2dp with
  | nil => cases h
  | cons change changes ih =>
      rcases List.mem_append.mp h with h | h
      · exact ih h
      · exact topic_propertyChanged h

theorem lastConnected_propertiesChanged (changes : List TransportChange) :
    LastConnected ((a2dp.handlePropertiesChanged devices changes).2 ++ log) address ↔
      LastConnected log address := by
  unfold LastConnected
  rw [last_append, last_eq_none.mpr fun r hr => topic_propertiesChanged hr, Option.none_or]

theorem propertyChanged_reports {address : Text}
    (h : a2dp.transportDevice devices = some address) (change : TransportChange) :
    (a2dp.handlePropertyChanged devices change).2 = match change with
      | .state state => [.stateChanged (convertAddressToLowerCase address)
          (if state = activeState then .playing else .notPlaying)]
      | .volume volume => [.updateAvrcpVolume address volume]
      | .delay delay => [.delayReportChanged (convertAddressToLowerCase address) delay]
      | .other => [] := by
  cases change with
  | state state =>
      have hsame : Bluez5ProfileA2dp.transportDevice { a2dp with
          mState := if state = activeState then .playing else .notPlaying } devices =
          some address := h
      simp only [Bluez5ProfileA2dp.handlePropertyChanged, hsame, Option.toList, List.map]
  | volume | delay => simp [Bluez5ProfileA2dp.handlePropertyChanged, h]
  | other => rfl

theorem propertyChanged_silent (h : a2dp.transportDevice devices = none)
    (change : TransportChange) : (a2dp.handlePropertyChanged devices change).2 = [] := by
  cases change with
  | state state =>
      have hsame : Bluez5ProfileA2dp.transportDevice { a2dp with
          mState := if state = activeState then .playing else .notPlaying } devices = none := h
      simp only [Bluez5ProfileA2dp.handlePropertyChanged, hsame, Option.toList, List.map]
  | volume | delay => simp [Bluez5ProfileA2dp.handlePropertyChanged, h]
  | other => rfl

theorem stopsPlaying_propertiesChanged (changes : List TransportChange) :
    StopsPlaying ((a2dp.handlePropertiesChanged devices changes).2 ++ log) ↔
      StopsPlaying log ∧ ∀ address, a2dp.transportDevice devices = some address →
        A2dpRun.stopsTold (LastPlaying log (convertAddressToLowerCase address)) changes = true := by
  induction changes generalizing a2dp log with
  | nil => simp [Bluez5ProfileA2dp.handlePropertiesChanged, A2dpRun.stopsTold]
  | cons change changes ih =>
      simp only [Bluez5ProfileA2dp.handlePropertiesChanged, List.append_assoc]
      refine ih.trans ?_
      rw [transportDevice_propertyChanged]
      cases hdevice : a2dp.transportDevice devices with
      | none => simp [propertyChanged_silent hdevice]
      | some address =>
          simp only [Option.some.injEq, forall_eq', propertyChanged_reports hdevice]
          cases change with
          | state state =>
              simp only [List.singleton_append, lastPlaying_cons_state, stopsPlaying_cons,
                A2dpRun.stopsTold]
              by_cases hactive : state = activeState
              · simp [hactive]
              · simp [hactive, and_assoc, and_left_comm]
          | volume | delay =>
              simp [stopsPlaying_cons, lastPlaying_cons_other, A2dpRun.stopsTold]
          | other => rfl

end Changes

section Updates

variable {a2dp : Bluez5ProfileA2dp} {log : List A2dpReport} {address other : Text} {status : Bool}

theorem mConnected_updated :
    (a2dp.updateConnectionStatus address status).1.mConnected = status := by
  simp only [Bluez5ProfileA2dp.updateConnectionStatus]
  split_ifs <;> rfl

theorem lastConnected_updated :
    LastConnected ((a2dp.updateConnectionStatus address status).2 ++ log) other ↔
      if other = convertAddressToLowerCase address then status = true
      else LastConnected log other := by
  simp only [Bluez5ProfileA2dp.updateConnectionStatus]
  split_ifs <;> simp [lastConnected_cons_connected, *]

theorem stopsPlaying_updated :
    StopsPlaying ((a2dp.updateConnectionStatus address status).2 ++ log) ↔
      (status = false → a2dp.mState = .playing →
        LastPlaying log (convertAddressToLowerCase address)) ∧ StopsPlaying log := by
  simp only [Bluez5ProfileA2dp.updateConnectionStatus]
  cases status with
  | false =>
      by_cases hplaying : a2dp.mState = .playing
      · simp [hplaying, stopsPlaying_cons]
      · simp [hplaying, stopsPlaying_cons]
  | true => simp [stopsPlaying_cons]

end Updates

namespace A2dpRun

variable {adapterPath : Text} {s t : A2dpRun}

theorem truthful_iff : s.Truthful ↔
    (s.a2dp.mConnected = true ↔ ∃ address, LastConnected s.log address) ∧
      StopsPlaying s.log := by
  constructor
  · exact fun h => ⟨h.connected, h.stops⟩
  · rintro ⟨hconnected, hstops⟩
    refine ⟨hconnected, ?_, hstops⟩
    rw [← hconnected, Bluez5ProfileA2dp.connect]
    cases s.a2dp.mConnected <;> simp

theorem transport_frame {e : TransportEvent} (hstep : s.step adapterPath (.transport e) = some t) :
    t.a2dp.mConnected = s.a2dp.mConnected ∧ t.log = s.log := by
  cases e with
  | objectAdded object made =>
      cases hstep
      unfold Bluez5ProfileA2dp.handleObjectAdded
      split_ifs <;> exact ⟨rfl, rfl⟩
  | objectRemoved object =>
      cases hstep
      unfold Bluez5ProfileA2dp.handleObjectRemoved
      split_ifs <;> exact ⟨rfl, rfl⟩

theorem truthful_updated_iff {address : Text} {status : Bool} (h : s.Truthful)
    (hstep : s.step adapterPath (.updateConnectionStatus address status) = some t) :
    t.Truthful ↔ s.OneDevice (.updateConnectionStatus address status) := by
  cases hstep
  rw [truthful_iff, stopsPlaying_updated, and_iff_left h.stops, mConnected_updated]
  simp only [lastConnected_updated, OneDevice]
  cases status with
  | true =>
      refine iff_of_true ⟨iff_of_true rfl ⟨convertAddressToLowerCase address, ?_⟩, ?_⟩ ?_
      · rw [if_pos rfl]
      · exact fun hstatus => nomatch hstatus
      · exact fun hstatus => nomatch hstatus
  | false =>
      simp only [Bool.false_eq_true, false_iff, forall_const, not_exists]
      refine and_congr_left fun _ => forall_congr' fun other => ?_
      by_cases heq : other = convertAddressToLowerCase address
      · simp [heq]
      · simp [heq]

theorem truthful_changed_iff {devices : DeviceLookup} {changes : List TransportChange}
    (h : s.Truthful)
    (hstep : s.step adapterPath (.propertiesChanged devices changes) = some t) :
    t.Truthful ↔ s.OneDevice (.propertiesChanged devices changes) := by
  cases hstep
  rw [truthful_iff, stopsPlaying_propertiesChanged, and_iff_right h.stops]
  simp only [lastConnected_propertiesChanged, mConnected_propertiesChanged, OneDevice]
  exact and_iff_right h.connected

theorem step_truthful_iff {e : A2dpEvent} (h : s.Truthful) (hstep : s.step adapterPath e = some t) :
    t.Truthful ↔ s.OneDevice e := by
  cases e with
  | transport e =>
      obtain ⟨hconnected, hlog⟩ := transport_frame hstep
      refine iff_of_true (truthful_iff.mpr ?_) trivial
      rw [hconnected, hlog]
      exact truthful_iff.mp h
  | updateConnectionStatus address status => exact truthful_updated_iff h hstep
  | propertiesChanged devices changes => exact truthful_changed_iff h hstep

theorem truthful_init : Truthful {} := by
  refine truthful_iff.mpr ⟨iff_of_false Bool.false_ne_true ?_, ?_⟩
  · exact fun ⟨address, h⟩ => nomatch h
  · exact fun earlier address h => absurd (List.suffix_nil.mp h) (List.cons_ne_nil _ _)

end A2dpRun

def a2dpMachine (adapterPath : Text) : Machine A2dpRun A2dpEvent :=
  ⟨{}, A2dpRun.step adapterPath⟩

/-- In a run whose events one flag and one play state can follow the profile tells the truth, and an
event from there leaves it so if and only if they can follow it. -/
theorem a2dp_truthful_iff {adapterPath : Text} {s : A2dpRun}
    (hs : (a2dpMachine adapterPath).ReachWith A2dpRun.OneDevice s) :
    s.Truthful ∧ ∀ e t, s.step adapterPath e = some t → (t.Truthful ↔ s.OneDevice e) :=
  hs.invariant_iff A2dpRun.truthful_init
    fun _ _ _ h hstep => A2dpRun.step_truthful_iff h hstep

/-- A device connects, plays and is disconnected, and another one comes after it. -/
theorem a2dp_truthful_two : ∃ s : A2dpRun,
    (a2dpMachine "/hci0".toList).ReachWith A2dpRun.OneDevice s ∧
    s.log = [.propertiesChanged ['b'] true, .propertiesChanged ['a'] false,
      .stateChanged ['a'] .notPlaying, .stateChanged ['a'] .playing,
      .propertiesChanged ['a'] true] ∧ s.Truthful := by
  let transport := "/hci0/dev/fd0".toList
  let devices : DeviceLookup := ⟨fun _ => some "/hci0/dev".toList, fun _ => some ['A']⟩
  let connected : A2dpRun := ⟨⟨true, .notPlaying, none, none⟩, [.propertiesChanged ['a'] true]⟩
  let added : A2dpRun := ⟨⟨true, .notPlaying, some transport, some transport⟩, connected.log⟩
  let playing : A2dpRun := ⟨⟨true, .playing, some transport, some transport⟩,
    .stateChanged ['a'] .playing :: added.log⟩
  let gone : A2dpRun := ⟨⟨false, .notPlaying, some transport, some transport⟩,
    .propertiesChanged ['a'] false :: .stateChanged ['a'] .notPlaying :: playing.log⟩
  let second : A2dpRun := ⟨⟨true, .notPlaying, some transport, some transport⟩,
    .propertiesChanged ['b'] true :: gone.log⟩
  have hconnected : (a2dpMachine "/hci0".toList).ReachWith A2dpRun.OneDevice connected :=
    .step (e := .updateConnectionStatus ['A'] true) .init (fun h => nomatch h) rfl
  have hadded : (a2dpMachine "/hci0".toList).ReachWith A2dpRun.OneDevice added :=
    .step (e := .transport (.objectAdded ⟨transport, true⟩ ⟨true, true⟩)) hconnected trivial rfl
  have hplaying : (a2dpMachine "/hci0".toList).ReachWith A2dpRun.OneDevice playing :=
    .step (e := .propertiesChanged devices [.state activeState]) hadded (fun _ _ => rfl) rfl
  have hgone : (a2dpMachine "/hci0".toList).ReachWith A2dpRun.OneDevice gone := by
    refine .step (e := .updateConnectionStatus ['a'] false) hplaying (fun _ => ⟨?_, ?_⟩) rfl
    · intro other hother
      rw [lastConnected_cons_state, lastConnected_cons_connected] at hother
      by_contra hne
      have hnot : other ≠ ['a'] := hne
      rw [if_neg hnot] at hother
      cases hother
    · decide
  have hsecond : (a2dpMachine "/hci0".toList).ReachWith A2dpRun.OneDevice second :=
    .step (e := .updateConnectionStatus ['B'] true) hgone (fun h => nomatch h) rfl
  exact ⟨second, hsecond, rfl, (a2dp_truthful_iff hsecond).1⟩

/-- Of two devices that are connected one is disconnected. -/
theorem a2dp_untruthful :
    ¬ ∀ adapterPath s, (a2dpMachine adapterPath).Reach s → s.Truthful := by
  intro h
  obtain ⟨s, hrun, hconnected, hlast⟩ : ∃ s, (a2dpMachine "/hci0".toList).run {}
      [.updateConnectionStatus ['A'] true, .updateConnectionStatus ['B'] true,
        .updateConnectionStatus ['B'] false] = some s ∧
      s.a2dp.mConnected = false ∧ LastConnected s.log ['a'] := ⟨_, rfl, rfl, rfl⟩
  have htrue := (h _ s (Machine.reach_of_run _ hrun)).connected.mpr ⟨['a'], hlast⟩
  rw [hconnected] at htrue
  cases htrue

end BluezSil.A2dp
