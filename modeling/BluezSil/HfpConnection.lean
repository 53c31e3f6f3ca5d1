import Mathlib.Data.List.Nodup
import BluezSil.ReportLog
import BluezSil.SilApi
import BluezSil.TransitionRun

/-!
# HFP connections of several devices

The HFP profile lists the devices that are connected, each by its address in lower case.
An update that changes nothing is dropped, so each report about a device tells of a
change, and the list has the devices reported connected last.
-/

namespace BluezSil.Hfp

open ReportLog TransitionRun

/-- What `connect` does: it answers, or the device is asked to connect and answers. -/
inductive ConnectOutcome (Device : Type*)
  | paramInvalid
  | alreadyConnected
  | requested (device : Device) (uuid : Text)

def remoteHfpAgUuid : Text := "0000111f-0000-1000-8000-00805f9b34fb".toList

structure Bluez5ProfileHfp where
  mConnectedDevices : List Text := []
  deriving DecidableEq

namespace Bluez5ProfileHfp

section Readers

variable {Device : Type*} (hfp : Bluez5ProfileHfp) (findDevice : Text → Option Device)

/-- The error with the value of CONNECTED, if one has been set. -/
def getProperty (address : Text) : BluetoothError × Option Bool :=
  match findDevice address with
  | none => (.paramInvalid, none)
  | some _ =>
    (.none, some (decide (convertAddressToLowerCase address ∈ hfp.mConnectedDevices)))

/-- `Bluez5ProfileBase::connect`. -/
def connectBase (uuid address : Text) : ConnectOutcome Device :=
  match findDevice address with
  | none => .paramInvalid
  | some device => .requested device uuid

def connect (address : Text) : ConnectOutcome Device :=
  if convertAddressToLowerCase address ∉ hfp.mConnectedDevices then
    connectBase findDevice remoteHfpAgUuid address
  else .alreadyConnected

end Readers

def updateConnectionStatus (hfp : Bluez5ProfileHfp) (address : Text) (isConnected : Bool) :
    Bluez5ProfileHfp × List ConnectedReport :=
  let address := convertAddressToLowerCase address
  let report : ConnectedReport := ⟨address, isConnected⟩
  if isConnected then
    if address ∉ hfp.mConnectedDevices then
      ({ hfp with mConnectedDevices := hfp.mConnectedDevices ++ [address] }, [report])
    else (hfp, [])
  else if address ∈ hfp.mConnectedDevices then
    ({ hfp with mConnectedDevices := hfp.mConnectedDevices.erase address }, [report])
  else (hfp, [])

end Bluez5ProfileHfp

structure ConnectionUpdate where
  address : Text
  isConnected : Bool
  deriving DecidableEq

/-- The profile with the reports made so far, latest first. -/
structure HfpRun where
  hfp : Bluez5ProfileHfp := {}
  log : List ConnectedReport := []

namespace HfpRun

def step (s : HfpRun) (e : ConnectionUpdate) : Option HfpRun :=
  let o := s.hfp.updateConnectionStatus e.address e.isConnected
  some { hfp := o.1, log := o.2 ++ s.log }

def LastConnected (s : HfpRun) (address : Text) : Prop :=
  (last ConnectedReport.address s.log address).map ConnectedReport.connected = some true

/-- The list has each device once, and those that were reported connected last. -/
structure Listed (s : HfpRun) : Prop where
  alternating : ∀ address,
    Alternating ConnectedReport.address ConnectedReport.connected s.log address
  nodup : s.hfp.mConnectedDevices.Nodup
  mem_iff : ∀ address, address ∈ s.hfp.mConnectedDevices ↔ s.LastConnected address

variable {s t : HfpRun} {e : ConnectionUpdate}

/-- An update enters the device, erases it, or finds it as it should be. -/
theorem step_cases (hstep : s.step e = some t) :
    let address := convertAddressToLowerCase e.address
    (e.isConnected = true ∧ address ∉ s.hfp.mConnectedDevices ∧
      t.hfp.mConnectedDevices = s.hfp.mConnectedDevices ++ [address] ∧
      t.log = ⟨address, true⟩ :: s.log) ∨
    (e.isConnected = false ∧ address ∈ s.hfp.mConnectedDevices ∧
      t.hfp.mConnectedDevices = s.hfp.mConnectedDevices.erase address ∧
      t.log = ⟨address, false⟩ :: s.log) ∨
    ((e.isConnected = true ↔ address ∈ s.hfp.mConnectedDevices) ∧ t = s) := by
  unfold step at hstep
  cases hstep
  unfold Bluez5ProfileHfp.updateConnectionStatus
  cases hconnected : e.isConnected with
  | true =>
      by_cases hmem : convertAddressToLowerCase e.address ∈ s.hfp.mConnectedDevices
      · exact .inr (.inr (by simp [hmem]))
      · exact .inl (by simp [hmem])
  | false =>
      by_cases hmem : convertAddressToLowerCase e.address ∈ s.hfp.mConnectedDevices
      · exact .inr (.inl (by simp [hmem]))
      · exact .inr (.inr (by simp [hmem]))

theorem lastConnected_cons_self {address : Text} {connected : Bool}
    (hlog : t.log = ⟨address, connected⟩ :: s.log) :
    t.LastConnected address ↔ connected = true := by
  unfold LastConnected
  rw [hlog, last_cons, if_pos rfl, Option.map_some, Option.some.injEq]

theorem lastConnected_cons_ne {a address : Text} {connected : Bool}
    (hlog : t.log = ⟨address, connected⟩ :: s.log) (hne : a ≠ address) :
    t.LastConnected a ↔ s.LastConnected a := by
  unfold LastConnected
  rw [hlog, last_cons, if_neg (Ne.symm hne)]

theorem alternating_cons {a address : Text} {connected : Bool} (h : s.Listed)
    (hlog : t.log = ⟨address, connected⟩ :: s.log)
    (hchange : address ∈ s.hfp.mConnectedDevices ↔ connected = false) :
    Alternating ConnectedReport.address ConnectedReport.connected t.log a := by
  rw [hlog]
  refine (h.alternating a).cons ?_
  intro ha
  have haddress : address = a := ha
  subst haddress
  exact (h.mem_iff address).symm.trans hchange

theorem Listed.step (h : s.Listed) (hstep : s.step e = some t) : t.Listed := by
  rcases step_cases hstep with ⟨_, hnew, hdevices, hlog⟩ | ⟨_, hmem, hdevices, hlog⟩ | ⟨_, rfl⟩
  · constructor
    · exact fun a => alternating_cons h hlog (by simp [hnew])
    · rw [hdevices]
      exact List.Nodup.append h.nodup (List.nodup_singleton _) (by simpa using hnew)
    · intro a
      rw [hdevices, List.mem_append, List.mem_singleton]
      by_cases ha : a = convertAddressToLowerCase e.address
      · rw [ha, lastConnected_cons_self hlog]
        simp
      · rw [lastConnected_cons_ne hlog ha, ← h.mem_iff a]
        simp [ha]
  · constructor
    · exact fun a => alternating_cons h hlog (by simp [hmem])
    · rw [hdevices]
      exact h.nodup.erase _
    · intro a
      -- no second occurrence is left behind
      rw [hdevices, h.nodup.mem_erase_iff]
      by_cases ha : a = convertAddressToLowerCase e.address
      · rw [ha, lastConnected_cons_self hlog]
        simp
      · rw [lastConnected_cons_ne hlog ha, ← h.mem_iff a]
        simp [ha]
  · exact h

theorem Listed.log_step (h : s.Listed) (hstep : s.step e = some t) :
    ((e.isConnected = true ↔ s.LastConnected (convertAddressToLowerCase e.address)) →
      t.log = s.log) ∧
    (¬ (e.isConnected = true ↔ s.LastConnected (convertAddressToLowerCase e.address)) →
      t.log = ⟨convertAddressToLowerCase e.address, e.isConnected⟩ :: s.log) := by
  rw [← h.mem_iff]
  rcases step_cases hstep with ⟨htrue, hnew, -, hlog⟩ | ⟨hfalse, hmem, -, hlog⟩ | ⟨hsame, rfl⟩
  · rw [htrue]
    exact ⟨fun hsame => absurd (hsame.mp rfl) hnew, fun _ => hlog⟩
  · rw [hfalse]
    exact ⟨fun hsame => absurd (hsame.mpr hmem) Bool.false_ne_true, fun _ => hlog⟩
  · exact ⟨fun _ => rfl, fun hother => absurd hsame hother⟩

theorem listed_init : ({} : HfpRun).Listed := by
  constructor
  · exact fun _ => alternating_nil
  · exact List.nodup_nil
  · intro a
    simp [LastConnected]

end HfpRun

def hfpMachine : Machine HfpRun ConnectionUpdate := ⟨{}, HfpRun.step⟩

open HfpRun in
/-- In every run the reports about each device say connected and disconnected in turn, the list
has each device once, and a device is in it, by which the profile answers, if and only if it was
reported connected last. The next update is reported if it says something else, and only then. -/
theorem connected_reports_alternate {Device : Type*} {s : HfpRun} (hs : hfpMachine.Reach s) :
    s.Listed ∧
    (∀ (findDevice : Text → Option Device) (address : Text),
      (s.hfp.getProperty findDevice address = (.none, some true) ↔
        findDevice address ≠ none ∧ s.LastConnected (convertAddressToLowerCase address)) ∧
      (s.hfp.connect findDevice address = .alreadyConnected ↔
        s.LastConnected (convertAddressToLowerCase address))) ∧
    ∀ e t, s.step e = some t →
      ((e.isConnected = true ↔ s.LastConnected (convertAddressToLowerCase e.address)) →
        t.log = s.log) ∧
      (¬ (e.isConnected = true ↔ s.LastConnected (convertAddressToLowerCase e.address)) →
        t.log = ⟨convertAddressToLowerCase e.address, e.isConnected⟩ :: s.log) := by
  have hlisted : s.Listed := hs.invariant listed_init fun _ _ _ h _ hstep => h.step hstep
  refine ⟨hlisted, ?_, fun e t hstep => hlisted.log_step hstep⟩
  intro findDevice address
  constructor
  · rw [← hlisted.mem_iff]
    unfold Bluez5ProfileHfp.getProperty
    cases findDevice address <;> simp
  · rw [← hlisted.mem_iff]
    unfold Bluez5ProfileHfp.connect Bluez5ProfileHfp.connectBase
    by_cases hmem : convertAddressToLowerCase address ∈ s.hfp.mConnectedDevices
    · simp [hmem]
    · cases findDevice address <;> simp [hmem]

/-- Two devices connect, one of them twice in different letter case, and disconnects. -/
theorem connected_reports_alternate_two :
    ∃ s : HfpRun, hfpMachine.Reach s ∧ s.log = [⟨['a'], false⟩, ⟨['b'], true⟩, ⟨['a'], true⟩] ∧
      s.hfp.mConnectedDevices = [['b']] ∧ s.Listed := by
  have hrun : ∃ s, hfpMachine.run hfpMachine.init
      [⟨['A'], true⟩, ⟨['a'], true⟩, ⟨['b'], true⟩, ⟨['A'], false⟩] = some s ∧
      s.log = [⟨['a'], false⟩, ⟨['b'], true⟩, ⟨['a'], true⟩] ∧
      s.hfp.mConnectedDevices = [['b']] := ⟨_, rfl, rfl, rfl⟩
  obtain ⟨s, hrun, hlog, hdevices⟩ := hrun
  have hreach := Machine.reach_of_run _ hrun
  exact ⟨s, hreach, hlog, hdevices, (@connected_reports_alternate Unit s hreach).1⟩

end BluezSil.Hfp
