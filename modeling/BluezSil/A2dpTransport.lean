import BluezSil.SilApi
import BluezSil.TransitionRun

/-!
# The A2DP transport proxies

The profile keeps one proxy of a transport and one of its properties, while BlueZ has a transport
for each device that is connected. The proxies of a new transport take the place of those before,
and the removal of any transport drops the ones that are kept.
-/

namespace BluezSil.A2dp

open TransitionRun

inductive BluetoothA2dpProfileState
  | notPlaying
  | playing
  deriving DecidableEq, Repr

/-- An object of BlueZ, and whether it has the interface `org.bluez.MediaTransport1`. -/
structure GDBusObject where
  path : Text
  mediaTransport : Bool

/-- The profile. A proxy is given by the path of the object it is for. -/
structure Bluez5ProfileA2dp where
  mConnected : Bool := false
  mState : BluetoothA2dpProfileState := .notPlaying
  mPropertiesProxy : Option Text := none
  mInterface : Option Text := none
  deriving DecidableEq

/-- Whether each of the two proxies can be made; without one an error is set. -/
structure ProxiesMade where
  interface : Bool
  properties : Bool

/-- A proxy that is released when an object is removed, `none` for a null proxy. -/
structure Release where
  removed : Text
  proxy : Option Text
  deriving DecidableEq

def IsTransport (adapterPath : Text) (object : GDBusObject) : Prop :=
  object.mediaTransport = true ∧ adapterPath.isPrefixOf object.path = true

instance (adapterPath : Text) (object : GDBusObject) :
    Decidable (IsTransport adapterPath object) := by
  unfold IsTransport
  infer_instance

namespace Bluez5ProfileA2dp

variable (a2dp : Bluez5ProfileA2dp) (adapterPath : Text) (object : GDBusObject)

def handleObjectAdded (made : ProxiesMade) : Bluez5ProfileA2dp :=
  if object.mediaTransport then
    if ¬ adapterPath.isPrefixOf object.path then a2dp
    else if ¬ made.interface then { a2dp with mInterface := none }
    else if ¬ made.properties then
      { a2dp with mInterface := some object.path, mPropertiesProxy := none }
    else { a2dp with mInterface := some object.path, mPropertiesProxy := some object.path }
  else a2dp

def handleObjectRemoved : Bluez5ProfileA2dp × List Release :=
  if object.mediaTransport then
    if ¬ adapterPath.isPrefixOf object.path then (a2dp, [])
    else
      ({ a2dp with mInterface := none, mPropertiesProxy := none },
        -- `mInterface` is released unasked, the other proxy only if there is one
        ⟨object.path, a2dp.mInterface⟩ ::
          a2dp.mPropertiesProxy.toList.map fun proxy => ⟨object.path, some proxy⟩)
  else (a2dp, [])

variable {adapterPath object}

theorem handleObjectAdded_of_not {made : ProxiesMade} (h : ¬ IsTransport adapterPath object) :
    a2dp.handleObjectAdded adapterPath object made = a2dp := by
  unfold handleObjectAdded
  by_cases hinterface : object.mediaTransport = true
  · rw [if_pos hinterface, if_pos fun hbegins => h ⟨hinterface, hbegins⟩]
  · rw [if_neg hinterface]

theorem handleObjectAdded_of_transport (made : ProxiesMade) (h : IsTransport adapterPath object) :
    (a2dp.handleObjectAdded adapterPath object made).mInterface =
      (if made.interface then some object.path else none) ∧
    (a2dp.handleObjectAdded adapterPath object made).mPropertiesProxy =
      if made.interface then if made.properties then some object.path else none
      else a2dp.mPropertiesProxy := by
  obtain ⟨hinterface, hbegins⟩ := h
  unfold handleObjectAdded
  rw [if_pos hinterface, if_neg (not_not_intro hbegins)]
  cases made.interface <;> cases made.properties <;> simp

theorem handleObjectRemoved_of_not (h : ¬ IsTransport adapterPath object) :
    a2dp.handleObjectRemoved adapterPath object = (a2dp, []) := by
  unfold handleObjectRemoved
  by_cases hinterface : object.mediaTransport = true
  · rw [if_pos hinterface, if_pos fun hbegins => h ⟨hinterface, hbegins⟩]
  · rw [if_neg hinterface]

theorem handleObjectRemoved_of_transport (h : IsTransport adapterPath object) :
    a2dp.handleObjectRemoved adapterPath object =
      ({ a2dp with mInterface := none, mPropertiesProxy := none },
        ⟨object.path, a2dp.mInterface⟩ ::
          a2dp.mPropertiesProxy.toList.map fun proxy => ⟨object.path, some proxy⟩) := by
  obtain ⟨hinterface, hbegins⟩ := h
  unfold handleObjectRemoved
  rw [if_pos hinterface, if_neg (not_not_intro hbegins)]

end Bluez5ProfileA2dp

inductive TransportEvent
  | objectAdded (object : GDBusObject) (made : ProxiesMade)
  | objectRemoved (object : GDBusObject)

/-- The profile with the transports that are present, the one added last first, and the proxies
released so far. -/
structure TransportRun where
  a2dp : Bluez5ProfileA2dp := {}
  present : List Text := []
  released : List Release := []

namespace TransportRun

/-- An object is added under a path that is free, and is removed as it was added. -/
def step (adapterPath : Text) (s : TransportRun) : TransportEvent → Option TransportRun
  | .objectAdded object made =>
      if object.path ∈ s.present then none
      else some { s with
        a2dp := s.a2dp.handleObjectAdded adapterPath object made
        present := if IsTransport adapterPath object then object.path :: s.present else s.present }
  | .objectRemoved object =>
      if IsTransport adapterPath object ↔ object.path ∈ s.present then
        some {
          a2dp := (s.a2dp.handleObjectRemoved adapterPath object).1
          present := s.present.erase object.path
          released := (s.a2dp.handleObjectRemoved adapterPath object).2 ++ s.released }
      else none

/-- The proxies are those of the transport added last of the ones present, null exactly when none
is; and a removal has only ever released the proxies of the transport removed. -/
structure Tracks (s : TransportRun) : Prop where
  interface : s.a2dp.mInterface = s.present.head?
  properties : s.a2dp.mPropertiesProxy = s.present.head?
  null : s.a2dp.mInterface = none ∧ s.a2dp.mPropertiesProxy = none ↔ s.present = []
  own : ∀ r ∈ s.released, r.proxy = some r.removed

/-- Both proxies of a transport that is added are made, and a transport that is removed is the
only one. -/
def OneTransport (adapterPath : Text) (s : TransportRun) : TransportEvent → Prop
  | .objectAdded object made =>
      IsTransport adapterPath object → made.interface = true ∧ made.properties = true
  | .objectRemoved object => IsTransport adapterPath object → s.present = [object.path]

instance (adapterPath : Text) : DecidableRel (OneTransport adapterPath)
  | _, .objectAdded object made => inferInstanceAs <| Decidable
      (IsTransport adapterPath object → made.interface = true ∧ made.properties = true)
  | s, .objectRemoved object => inferInstanceAs <| Decidable
      (IsTransport adapterPath object → s.present = [object.path])

variable {adapterPath : Text} {s t : TransportRun} {object : GDBusObject}

theorem tracks_iff : s.Tracks ↔ s.a2dp.mInterface = s.present.head? ∧
    s.a2dp.mPropertiesProxy = s.present.head? ∧
    ∀ r ∈ s.released, r.proxy = some r.removed := by
  constructor
  · exact fun h => ⟨h.interface, h.properties, h.own⟩
  · rintro ⟨hinterface, hproperties, hown⟩
    refine ⟨hinterface, hproperties, ?_, hown⟩
    rw [hinterface, hproperties, and_self, List.head?_eq_none_iff]

theorem tracks_added_iff {made : ProxiesMade} (h : s.Tracks)
    (hstep : s.step adapterPath (.objectAdded object made) = some t) :
    t.Tracks ↔ s.OneTransport adapterPath (.objectAdded object made) := by
  obtain ⟨_, heq⟩ := Option.ite_none_left_eq_some.mp hstep
  cases heq
  simp only [OneTransport]
  by_cases htransport : IsTransport adapterPath object
  · obtain ⟨hinterface, hproperties⟩ :=
      s.a2dp.handleObjectAdded_of_transport made htransport
    rw [tracks_iff, if_pos htransport, hinterface, hproperties]
    cases made.interface with
    | false => simp [htransport]
    | true =>
        cases made.properties with
        | false => simp [htransport]
        | true => simpa [htransport] using h.own
  · rw [if_neg htransport, s.a2dp.handleObjectAdded_of_not htransport]
    exact iff_of_true h fun ht => absurd ht htransport

theorem tracks_removed_iff (h : s.Tracks)
    (hstep : s.step adapterPath (.objectRemoved object) = some t) :
    t.Tracks ↔ s.OneTransport adapterPath (.objectRemoved object) := by
  obtain ⟨hpresent, heq⟩ := Option.ite_none_right_eq_some.mp hstep
  cases heq
  simp only [OneTransport]
  by_cases htransport : IsTransport adapterPath object
  · have hmem := hpresent.mp htransport
    rw [s.a2dp.handleObjectRemoved_of_transport htransport, tracks_iff]
    constructor
    · rintro ⟨hinterface, _⟩ _
      have hempty : s.present.erase object.path = [] := List.head?_eq_none_iff.mp hinterface.symm
      rcases List.erase_eq_nil_iff.mp hempty with hnone | hone
      · rw [hnone] at hmem
        cases hmem
      · exact hone
    · intro honly
      have hall := honly htransport
      simp only [hall, h.interface, h.properties]
      refine ⟨by simp, by simp, ?_⟩
      have hown := h.own
      simpa using hown
  · rw [s.a2dp.handleObjectRemoved_of_not htransport,
      List.erase_of_not_mem (fun hmem => htransport (hpresent.mpr hmem))]
    exact iff_of_true h fun ht => absurd ht htransport

theorem step_tracks_iff {e : TransportEvent} (h : s.Tracks)
    (hstep : s.step adapterPath e = some t) : t.Tracks ↔ s.OneTransport adapterPath e := by
  cases e with
  | objectAdded object made => exact tracks_added_iff h hstep
  | objectRemoved object => exact tracks_removed_iff h hstep

theorem tracks_init : Tracks {} := tracks_iff.mpr ⟨rfl, rfl, fun _ h => nomatch h⟩

end TransportRun

def transportMachine (adapterPath : Text) : Machine TransportRun TransportEvent :=
  ⟨{}, TransportRun.step adapterPath⟩

/-- As long as a transport is removed only when it is the only one, the proxies are those of the
transport added last; and a step from there leaves them so if and only if it is of this kind. -/
theorem transport_tracks_iff {adapterPath : Text} {s : TransportRun}
    (hs : (transportMachine adapterPath).ReachWith (TransportRun.OneTransport adapterPath) s) :
    s.Tracks ∧ ∀ e t, s.step adapterPath e = some t →
      (t.Tracks ↔ s.OneTransport adapterPath e) :=
  hs.invariant_iff TransportRun.tracks_init
    fun _ _ _ h hstep => TransportRun.step_tracks_iff h hstep

/-- A transport is added and removed, and then another one is added. -/
theorem transport_tracks_again :
    ∃ s : TransportRun, s.a2dp.mInterface = some "/hci0/2".toList ∧
      s.released.length = 2 ∧ s.Tracks := by
  obtain ⟨s, hrun, hinterface, hreleased⟩ : ∃ s,
      (transportMachine "/hci0".toList).runWith (TransportRun.OneTransport "/hci0".toList) {}
        [.objectAdded ⟨"/hci0/1".toList, true⟩ ⟨true, true⟩,
          .objectRemoved ⟨"/hci0/1".toList, true⟩,
          .objectAdded ⟨"/hci0/2".toList, true⟩ ⟨true, true⟩] = some s ∧
      s.a2dp.mInterface = some "/hci0/2".toList ∧ s.released.length = 2 :=
    ⟨_, rfl, by decide, by decide⟩
  exact ⟨s, hinterface, hreleased,
    (transport_tracks_iff (Machine.reachWith_of_runWith _ Machine.ReachWith.init hrun)).1⟩

/-- The transport of a device that connects is added before the old one is removed. -/
theorem transport_dropped :
    ¬ ∀ adapterPath s, (transportMachine adapterPath).Reach s → s.Tracks := by
  intro h
  obtain ⟨s, hrun, hinterface, hpresent⟩ : ∃ s, (transportMachine "/hci0".toList).run {}
      [.objectAdded ⟨"/hci0/1".toList, true⟩ ⟨true, true⟩,
        .objectAdded ⟨"/hci0/2".toList, true⟩ ⟨true, true⟩,
        .objectRemoved ⟨"/hci0/1".toList, true⟩] = some s ∧
      s.a2dp.mInterface = none ∧ s.present = ["/hci0/2".toList] := ⟨_, rfl, by decide, by decide⟩
  have htracks := h _ s (Machine.reach_of_run _ hrun)
  rw [htracks.interface, hpresent] at hinterface
  cases hinterface

end BluezSil.A2dp
