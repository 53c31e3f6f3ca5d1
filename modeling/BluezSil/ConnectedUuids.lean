import BluezSil.ReportLog
import BluezSil.SilApi
import BluezSil.TransitionRun

/-!
# Profile connections from ConnectedUUIDS

BlueZ lists the UUIDs a device is connected on. The device compares a new list to the
one before by their sizes: a longer list is searched for UUIDs that are new, a
shorter one for UUIDs that are gone, and a list of the same size for neither. So
what comes and goes together is told in part or not at all.
-/

namespace BluezSil.Device

open ReportLog TransitionRun

inductive ProfileId
  | hfp
  | a2dp
  | avrcp
  | unnamed
  deriving DecidableEq, Repr

/-- The last entry of the initializer is empty, so the empty UUID is mapped as well. -/
def profileIdUuidMap : List (Text × ProfileId) :=
  [("0000111e-0000-1000-8000-00805f9b34fb".toList, .hfp),
   ("0000111f-0000-1000-8000-00805f9b34fb".toList, .hfp),
   ("0000110a-0000-1000-8000-00805f9b34fb".toList, .a2dp),
   ("0000110b-0000-1000-8000-00805f9b34fb".toList, .a2dp),
   ("0000110e-0000-1000-8000-00805f9b34fb".toList, .avrcp),
   ("0000110c-0000-1000-8000-00805f9b34fb".toList, .avrcp),
   ([], .unnamed)]

def Mapped (uuid : Text) : Prop := (profileIdUuidMap.lookup uuid).isSome = true

/-- A call of `updateProfileConnectionStatus` on the adapter. -/
structure ConnectionReport where
  profileId : ProfileId
  address : Text
  isConnected : Bool
  uuid : Text
  deriving DecidableEq

structure Bluez5Device where
  mAddress : Text
  mConnectedUuids : List Text := []

namespace Bluez5Device

/-- The loop over the UUIDs of one list that are not in the other. -/
def reportMissing (device : Bluez5Device) (isConnected : Bool) (uuids others : List Text) :
    List ConnectionReport :=
  uuids.filterMap fun uuid =>
    if uuid ∈ others then none
    else (profileIdUuidMap.lookup uuid).map fun profileId =>
      { profileId, address := device.mAddress, isConnected, uuid }

def updateProfileConnectionStatus (device : Bluez5Device) (prevConnectedUuids : List Text) :
    List ConnectionReport :=
  if prevConnectedUuids.length < device.mConnectedUuids.length then
    device.reportMissing true device.mConnectedUuids prevConnectedUuids
  else if prevConnectedUuids.length > device.mConnectedUuids.length then
    device.reportMissing false prevConnectedUuids device.mConnectedUuids
  else []

/-- `parsePropertyFromVariant` for ConnectedUUIDS. -/
def setConnectedUuids (device : Bluez5Device) (uuids : List Text) :
    Bluez5Device × List ConnectionReport :=
  let prevConnectedUuids := device.mConnectedUuids
  let device := { device with mConnectedUuids := uuids }
  (device, device.updateProfileConnectionStatus prevConnectedUuids)

end Bluez5Device

def IsChange (address : Text) (prev uuids : List Text) (r : ConnectionReport) : Prop :=
  profileIdUuidMap.lookup r.uuid = some r.profileId ∧ r.address = address ∧
  (r.isConnected = true ∧ r.uuid ∈ uuids ∧ r.uuid ∉ prev ∨
    r.isConnected = false ∧ r.uuid ∈ prev ∧ r.uuid ∉ uuids)

instance (address : Text) (prev uuids : List Text) (r : ConnectionReport) :
    Decidable (IsChange address prev uuids r) := by
  unfold IsChange
  infer_instance

/-- An update reports each change once, and nothing else. -/
def Bluez5Device.ReportsChanges (device : Bluez5Device) (uuids : List Text) : Prop :=
  ∀ r, (device.setConnectedUuids uuids).2.count r =
    if IsChange device.mAddress device.mConnectedUuids uuids r then 1 else 0

/-- Mapped UUIDs only come when the list grows, only go when it shrinks, and stay when it
keeps its size. -/
def OneWay (prev uuids : List Text) : Prop :=
  (prev.length < uuids.length → ∀ uuid, Mapped uuid → uuid ∈ prev → uuid ∈ uuids) ∧
  (prev.length > uuids.length → ∀ uuid, Mapped uuid → uuid ∈ uuids → uuid ∈ prev) ∧
  (prev.length = uuids.length → ∀ uuid, Mapped uuid → (uuid ∈ uuids ↔ uuid ∈ prev))

structure DeviceRun where
  device : Bluez5Device
  log : List ConnectionReport := []

def DeviceRun.step (s : DeviceRun) (uuids : List Text) : Option DeviceRun :=
  if uuids.Nodup then
    let (device, reports) := s.device.setConnectedUuids uuids
    some { device := device, log := reports.reverse ++ s.log }
  else none

def deviceMachine (address : Text) : Machine DeviceRun (List Text) :=
  ⟨{ device := { mAddress := address } }, DeviceRun.step⟩

/-- What was reported last of a UUID says whether it is in the list. -/
def DeviceRun.LastSays (s : DeviceRun) : Prop :=
  ∀ uuid, Mapped uuid →
    ((last ConnectionReport.uuid s.log uuid).map ConnectionReport.isConnected = some true ↔
      uuid ∈ s.device.mConnectedUuids)

theorem mem_reportMissing {device : Bluez5Device} {isConnected : Bool} {uuids others : List Text}
    {r : ConnectionReport} :
    r ∈ device.reportMissing isConnected uuids others ↔
      profileIdUuidMap.lookup r.uuid = some r.profileId ∧ r.address = device.mAddress ∧
      r.isConnected = isConnected ∧ r.uuid ∈ uuids ∧ r.uuid ∉ others := by
  unfold Bluez5Device.reportMissing
  rw [List.mem_filterMap]
  constructor
  · rintro ⟨uuid, hmem, hr⟩
    split_ifs at hr with hother
    obtain ⟨profileId, hlookup, rfl⟩ := Option.map_eq_some_iff.mp hr
    exact ⟨hlookup, rfl, rfl, hmem, hother⟩
  · rintro ⟨hlookup, haddress, hstatus, hmem, hother⟩
    refine ⟨r.uuid, hmem, ?_⟩
    rw [if_neg hother, hlookup, ← haddress, ← hstatus]
    rfl

theorem reportMissing_nodup {device : Bluez5Device} {isConnected : Bool}
    {uuids others : List Text} (h : uuids.Nodup) :
    (device.reportMissing isConnected uuids others).Nodup := by
  apply List.Pairwise.filterMap _ _ h
  intro uuid uuid' hne r hr r' hr'
  split_ifs at hr hr'
  obtain ⟨_, _, rfl⟩ := Option.map_eq_some_iff.mp hr
  obtain ⟨_, _, rfl⟩ := Option.map_eq_some_iff.mp hr'
  exact fun heq => hne (congrArg ConnectionReport.uuid heq)

section Update

variable {device : Bluez5Device} {uuids : List Text}

theorem setConnectedUuids_nodup (hprev : device.mConnectedUuids.Nodup) (huuids : uuids.Nodup) :
    (device.setConnectedUuids uuids).2.Nodup := by
  unfold Bluez5Device.setConnectedUuids Bluez5Device.updateProfileConnectionStatus
  dsimp only
  split_ifs
  · exact reportMissing_nodup huuids
  · exact reportMissing_nodup hprev
  · exact List.nodup_nil

theorem reportsChanges_iff_mem (hprev : device.mConnectedUuids.Nodup) (huuids : uuids.Nodup) :
    device.ReportsChanges uuids ↔
      ∀ r, r ∈ (device.setConnectedUuids uuids).2 ↔
        IsChange device.mAddress device.mConnectedUuids uuids r := by
  apply forall_congr'
  intro r
  rw [(setConnectedUuids_nodup hprev huuids).count]
  by_cases hmem : r ∈ (device.setConnectedUuids uuids).2
  · by_cases hchange : IsChange device.mAddress device.mConnectedUuids uuids r
    · simp [hmem, hchange]
    · simp [hmem, hchange]
  · by_cases hchange : IsChange device.mAddress device.mConnectedUuids uuids r
    · simp [hmem, hchange]
    · simp [hmem, hchange]

theorem exists_isChange (device : Bluez5Device) {uuid : Text} (hmapped : Mapped uuid)
    (prev : List Text) (h : uuid ∈ uuids ∧ uuid ∉ prev ∨ uuid ∈ prev ∧ uuid ∉ uuids) :
    ∃ r, IsChange device.mAddress prev uuids r ∧ r.uuid = uuid ∧
      (r.isConnected = true ↔ uuid ∈ uuids) := by
  obtain ⟨profileId, hlookup⟩ := Option.isSome_iff_exists.mp hmapped
  rcases h with ⟨hnew, hold⟩ | ⟨hold, hgone⟩
  · exact ⟨⟨profileId, device.mAddress, true, uuid⟩,
      ⟨hlookup, rfl, .inl ⟨rfl, hnew, hold⟩⟩, rfl, iff_of_true rfl hnew⟩
  · exact ⟨⟨profileId, device.mAddress, false, uuid⟩,
      ⟨hlookup, rfl, .inr ⟨rfl, hold, hgone⟩⟩, rfl, iff_of_false Bool.false_ne_true hgone⟩

theorem IsChange.mapped {address : Text} {prev : List Text} {r : ConnectionReport}
    (h : IsChange address prev uuids r) : Mapped r.uuid := by
  rw [Mapped, h.1]
  rfl

theorem oneWay_of_mem
    (h : ∀ r, r ∈ (device.setConnectedUuids uuids).2 ↔
      IsChange device.mAddress device.mConnectedUuids uuids r) :
    OneWay device.mConnectedUuids uuids := by
  unfold Bluez5Device.setConnectedUuids Bluez5Device.updateProfileConnectionStatus at h
  dsimp only at h
  refine ⟨fun hlonger uuid hmapped hold => ?_, fun hshorter uuid hmapped hnew => ?_,
    fun hsame uuid hmapped => ?_⟩
  · by_contra hgone
    obtain ⟨r, hchange, rfl, hstatus⟩ := exists_isChange device hmapped
      device.mConnectedUuids (.inr ⟨hold, hgone⟩)
    have hmem := (h r).mpr hchange
    rw [if_pos hlonger] at hmem
    exact hgone (mem_reportMissing.mp hmem).2.2.2.1
  · by_contra hold
    obtain ⟨r, hchange, rfl, hstatus⟩ := exists_isChange device hmapped
      device.mConnectedUuids (.inl ⟨hnew, hold⟩)
    have hmem := (h r).mpr hchange
    rw [if_neg (by omega), if_pos hshorter] at hmem
    exact hold (mem_reportMissing.mp hmem).2.2.2.1
  · by_contra hdiffers
    have hone : uuid ∈ uuids ∧ uuid ∉ device.mConnectedUuids ∨
        uuid ∈ device.mConnectedUuids ∧ uuid ∉ uuids := by
      tauto
    obtain ⟨r, hchange, _, _⟩ := exists_isChange device hmapped
      device.mConnectedUuids hone
    have hmem := (h r).mpr hchange
    rw [if_neg (by omega), if_neg (by omega)] at hmem
    exact List.not_mem_nil hmem

theorem mem_of_oneWay (h : OneWay device.mConnectedUuids uuids) (r : ConnectionReport) :
    r ∈ (device.setConnectedUuids uuids).2 ↔
      IsChange device.mAddress device.mConnectedUuids uuids r := by
  obtain ⟨hlonger, hshorter, hsame⟩ := h
  unfold Bluez5Device.setConnectedUuids Bluez5Device.updateProfileConnectionStatus
  dsimp only
  rcases Nat.lt_trichotomy device.mConnectedUuids.length uuids.length with hlt | heq | hgt
  · rw [if_pos hlt, mem_reportMissing]
    constructor
    · rintro ⟨hlookup, haddress, hstatus, hnew, hold⟩
      exact ⟨hlookup, haddress, .inl ⟨hstatus, hnew, hold⟩⟩
    · intro hchange
      have hmapped := hchange.mapped
      obtain ⟨hlookup, haddress, ⟨hstatus, hnew, hold⟩ | ⟨_, hold, hgone⟩⟩ := hchange
      · exact ⟨hlookup, haddress, hstatus, hnew, hold⟩
      · exact absurd (hlonger hlt _ hmapped hold) hgone
  · rw [if_neg (by omega), if_neg (by omega)]
    refine iff_of_false List.not_mem_nil fun hchange => ?_
    have hkept := hsame heq _ hchange.mapped
    obtain ⟨_, _, ⟨_, hnew, hold⟩ | ⟨_, hold, hgone⟩⟩ := hchange
    · exact hold (hkept.mp hnew)
    · exact hgone (hkept.mpr hold)
  · rw [if_neg (by omega), if_pos hgt, mem_reportMissing]
    constructor
    · rintro ⟨hlookup, haddress, hstatus, hold, hgone⟩
      exact ⟨hlookup, haddress, .inr ⟨hstatus, hold, hgone⟩⟩
    · intro hchange
      have hmapped := hchange.mapped
      obtain ⟨hlookup, haddress, ⟨_, hnew, hold⟩ | ⟨hstatus, hold, hgone⟩⟩ := hchange
      · exact absurd (hshorter hgt _ hmapped hnew) hold
      · exact ⟨hlookup, haddress, hstatus, hold, hgone⟩

/-- An update reports the changes if and only if mapped UUIDs change one way. -/
theorem reportsChanges_iff (hprev : device.mConnectedUuids.Nodup) (huuids : uuids.Nodup) :
    device.ReportsChanges uuids ↔ OneWay device.mConnectedUuids uuids := by
  rw [reportsChanges_iff_mem hprev huuids]
  exact ⟨oneWay_of_mem, mem_of_oneWay⟩

end Update

namespace DeviceRun

variable {s t : DeviceRun} {uuids : List Text}

theorem LastSays.step (h : s.LastSays) (hone : OneWay s.device.mConnectedUuids uuids)
    (hstep : s.step uuids = some t) : t.LastSays := by
  unfold DeviceRun.step at hstep
  obtain ⟨_, heq⟩ := Option.ite_none_right_eq_some.mp hstep
  cases heq
  have hmem := mem_of_oneWay hone
  intro uuid hmapped
  show (last ConnectionReport.uuid ((s.device.setConnectedUuids uuids).2.reverse ++ s.log)
    uuid).map ConnectionReport.isConnected = some true ↔ uuid ∈ uuids
  rw [last_append]
  cases hlast : last ConnectionReport.uuid (s.device.setConnectedUuids uuids).2.reverse uuid with
  | some r =>
      obtain ⟨hr, rfl⟩ := last_eq_some hlast
      obtain ⟨_, _, ⟨hstatus, hnew, _⟩ | ⟨hstatus, _, hgone⟩⟩ :=
        (hmem r).mp (List.mem_reverse.mp hr)
      · simpa [hstatus] using hnew
      · simpa [hstatus] using hgone
  | none =>
      rw [Option.none_or, h uuid hmapped]
      by_contra hdiffers
      have hchanged : uuid ∈ uuids ∧ uuid ∉ s.device.mConnectedUuids ∨
          uuid ∈ s.device.mConnectedUuids ∧ uuid ∉ uuids := by
        have hne : ¬ (uuid ∈ s.device.mConnectedUuids ↔ uuid ∈ uuids) := hdiffers
        tauto
      obtain ⟨r, hchange, hr, _⟩ := exists_isChange s.device hmapped _ hchanged
      exact last_eq_none.mp hlast r (List.mem_reverse.mpr ((hmem r).mpr hchange)) hr

theorem step_nodup (hstep : s.step uuids = some t) :
    uuids.Nodup ∧ t.device.mConnectedUuids = uuids := by
  unfold DeviceRun.step at hstep
  obtain ⟨huuids, heq⟩ := Option.ite_none_right_eq_some.mp hstep
  cases heq
  exact ⟨huuids, rfl⟩

end DeviceRun

/-- In a run in which mapped UUIDs change one way at a time the last report of each says whether
it is connected, and an update from there reports its changes once each and nothing else if and
only if mapped UUIDs change one way in it. -/
theorem connectedUuids_reported {address : Text} {s : DeviceRun}
    (hs : (deviceMachine address).ReachWith
      (fun s uuids => OneWay s.device.mConnectedUuids uuids) s) :
    s.LastSays ∧
    ∀ uuids t, s.step uuids = some t →
      (s.device.ReportsChanges uuids ↔ OneWay s.device.mConnectedUuids uuids) := by
  have h : s.LastSays ∧ s.device.mConnectedUuids.Nodup := by
    refine hs.invariant (P := fun s => s.LastSays ∧ s.device.mConnectedUuids.Nodup)
      ⟨fun uuid _ => ?_, List.nodup_nil⟩ ?_
    · exact iff_of_false (fun h => nomatch h) List.not_mem_nil
    · rintro s uuids t ⟨hreported, _⟩ hone hstep
      obtain ⟨huuids, heq⟩ := DeviceRun.step_nodup hstep
      exact ⟨hreported.step hone hstep, heq ▸ huuids⟩
  exact ⟨h.1, fun uuids t hstep => reportsChanges_iff h.2 (DeviceRun.step_nodup hstep).1⟩

def a2dpSource : Text := "0000110a-0000-1000-8000-00805f9b34fb".toList

def avrcpRemote : Text := "0000110e-0000-1000-8000-00805f9b34fb".toList

/-- Both come, then one of them goes. -/
theorem connectedUuids_reported_removed :
    ∃ s : DeviceRun, s.device.mConnectedUuids = [avrcpRemote] ∧ s.log.length = 3 ∧
      s.LastSays := by
  have hcome : OneWay [] [a2dpSource, avrcpRemote] := by
    exact ⟨fun _ _ _ h => absurd h List.not_mem_nil, fun h => absurd h (by decide),
      fun h => absurd h (by decide)⟩
  have hgo : OneWay [a2dpSource, avrcpRemote] [avrcpRemote] :=
    ⟨fun h => absurd h (by decide), fun _ _ _ h => List.mem_cons_of_mem _ h,
      fun h => absurd h (by decide)⟩
  exact ⟨_, rfl, by decide, (@connectedUuids_reported [] _
    (.step (e := [avrcpRemote]) (.step (e := [a2dpSource, avrcpRemote]) .init hcome rfl) hgo
      rfl)).1⟩

/-- A list of the same size with another UUID is reported in no part. -/
theorem connectedUuids_replaced :
    ¬ ∀ s, (deviceMachine []).Reach s → s.LastSays ∧ ∀ uuids t, s.step uuids = some t →
      s.device.ReportsChanges uuids := by
  intro h
  have hrun : ∃ t, (deviceMachine []).run (deviceMachine []).init
      [[a2dpSource], [avrcpRemote]] = some t ∧ t.device.mConnectedUuids = [avrcpRemote] ∧
      last ConnectionReport.uuid t.log avrcpRemote = none :=
    ⟨_, rfl, rfl, by decide⟩
  obtain ⟨t, hrun, huuids, hlast⟩ := hrun
  have hmapped : Mapped avrcpRemote := by
    unfold Mapped
    decide
  have hreported := (h t (Machine.reach_of_run _ hrun)).1 avrcpRemote hmapped
  rw [hlast, huuids] at hreported
  exact absurd (hreported.mpr List.mem_cons_self) (fun h => nomatch h)

end BluezSil.Device
