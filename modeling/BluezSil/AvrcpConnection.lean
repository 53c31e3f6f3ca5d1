import Mathlib.Logic.Function.Basic
import BluezSil.ReportLog
import BluezSil.SilApi
import BluezSil.TransitionRun

/-!
# AVRCP connections of several devices

The AVRCP profile keeps one flag for each of its roles, one for being connected and
one address, while the updates are about a role of a device. A device is reported
connected only if none was before, and disconnected when both flags are clear, of
which each shows the last update of its role from any device.
-/

namespace BluezSil.Avrcp

open ReportLog TransitionRun

/-- The UUID of the target role: a device that is a target makes this side the controller. -/
def avrcpTargetUuid : Text := "0000110c-0000-1000-8000-00805f9b34fb".toList

inductive Role
  | controller
  | target
  deriving DecidableEq

def roleOf (uuid : Text) : Role := if uuid = avrcpTargetUuid then .controller else .target

structure Bluez5ProfileAvcrp where
  mConnectedController : Bool := false
  mConnectedTarget : Bool := false
  mConnected : Bool := false
  mConnectedDeviceAddress : Text := []
  deriving DecidableEq

/-- CONNECTED as it is told to the observer, with the address in lower case. -/
structure ConnectedReport where
  address : Text
  connected : Bool
  deriving DecidableEq

namespace Bluez5ProfileAvcrp

def flag (s : Bluez5ProfileAvcrp) : Role → Bool
  | .controller => s.mConnectedController
  | .target => s.mConnectedTarget

def updateConnectionStatus (s : Bluez5ProfileAvcrp) (address : Text) (status : Bool)
    (uuid : Text) : Bluez5ProfileAvcrp × List ConnectedReport :=
  let s :=
    if uuid = avrcpTargetUuid then { s with mConnectedController := status }
    else { s with mConnectedTarget := status }
  if status then
    if ¬ s.mConnected then
      ({ s with mConnected := status, mConnectedDeviceAddress := address },
        [⟨convertAddressToLowerCase address, status⟩])
    else (s, [])
  else if s.mConnected ∧ ¬ s.mConnectedController ∧ ¬ s.mConnectedTarget then
    ({ s with mConnectedDeviceAddress := [], mConnected := status },
      [⟨convertAddressToLowerCase address, status⟩])
  else (s, [])

end Bluez5ProfileAvcrp

structure RoleUpdate where
  address : Text
  status : Bool
  uuid : Text

/-- The profile with the roles of each device as last updated, and the reports, latest
first. Devices are told apart by their address in lower case. -/
structure AvrcpRun where
  profile : Bluez5ProfileAvcrp := {}
  roles : Text → Role → Bool := fun _ _ => false
  log : List ConnectedReport := []

namespace AvrcpRun

def HasRole (s : AvrcpRun) (address : Text) : Prop :=
  ∃ role, s.roles (convertAddressToLowerCase address) role = true

def rolesAfter (s : AvrcpRun) (e : RoleUpdate) : Text → Role → Bool :=
  let address := convertAddressToLowerCase e.address
  Function.update s.roles address
    (Function.update (s.roles address) (roleOf e.uuid) e.status)

theorem rolesAfter_of_ne (s : AvrcpRun) {e : RoleUpdate} {address : Text}
    (h : address ≠ convertAddressToLowerCase e.address) :
    s.rolesAfter e address = s.roles address :=
  Function.update_of_ne h _ _

/-- An update of a device, which has an address. -/
def step (s : AvrcpRun) (e : RoleUpdate) : Option AvrcpRun :=
  if e.address ≠ [] then
    let (profile, reports) := s.profile.updateConnectionStatus e.address e.status e.uuid
    some { profile := profile, roles := s.rolesAfter e, log := reports ++ s.log }
  else none

/-- What the profile says and has reported of its connections is so. -/
structure Truthful (s : AvrcpRun) : Prop where
  reported : ∀ address, (last ConnectedReport.address s.log
    (convertAddressToLowerCase address)).map ConnectedReport.connected = some true ↔
      s.HasRole address
  connected : s.profile.mConnected = true ↔ ∃ address, s.HasRole address
  address : s.profile.mConnectedDeviceAddress ≠ [] ↔ s.profile.mConnected = true
  named : s.profile.mConnectedDeviceAddress ≠ [] → s.HasRole s.profile.mConnectedDeviceAddress

def otherRole : Role → Role
  | .controller => .target
  | .target => .controller

/-- The updates that one set of flags can follow. A role is connected only by a device that has
one while any is connected; and when a role is disconnected, either the other role is marked
and the device keeps it unless it had none, or no device has a role left. -/
def OneDevice (s : AvrcpRun) (e : RoleUpdate) : Prop :=
  if e.status = true then s.profile.mConnected = true → s.HasRole e.address
  else if s.profile.flag (otherRole (roleOf e.uuid)) = true then
    s.HasRole e.address →
      s.roles (convertAddressToLowerCase e.address) (otherRole (roleOf e.uuid)) = true
  else ∀ address role, s.roles (convertAddressToLowerCase address) role = true →
    convertAddressToLowerCase address = convertAddressToLowerCase e.address ∧
    role = roleOf e.uuid

variable {s t : AvrcpRun} {e : RoleUpdate}

theorem updateConnectionStatus_cases (p : Bluez5ProfileAvcrp) (address : Text) (status : Bool)
    (uuid : Text) :
    let after := p.updateConnectionStatus address status uuid
    (status = true ∧ p.mConnected = false) ∧ after.1.mConnected = true ∧
      after.1.mConnectedDeviceAddress = address ∧
      after.2 = [⟨convertAddressToLowerCase address, true⟩] ∨
    (status = false ∧ p.mConnected = true ∧ p.flag (otherRole (roleOf uuid)) = false) ∧
      after.1.mConnected = false ∧ after.1.mConnectedDeviceAddress = [] ∧
      after.2 = [⟨convertAddressToLowerCase address, false⟩] ∨
    (status = true ∧ p.mConnected = true ∨ status = false ∧
      (p.mConnected = false ∨ p.flag (otherRole (roleOf uuid)) = true)) ∧
      after.1.mConnected = p.mConnected ∧
      after.1.mConnectedDeviceAddress = p.mConnectedDeviceAddress ∧ after.2 = [] := by
  obtain ⟨controller, target, connected, name⟩ := p
  unfold Bluez5ProfileAvcrp.updateConnectionStatus roleOf
  by_cases huuid : uuid = avrcpTargetUuid
  · cases status <;> cases connected <;> cases target <;>
      simp [huuid, otherRole, Bluez5ProfileAvcrp.flag]
  · cases status <;> cases connected <;> cases controller <;>
      simp [huuid, otherRole, Bluez5ProfileAvcrp.flag]

theorem step_eq (hstep : s.step e = some t) :
    e.address ≠ [] ∧
    t.profile = (s.profile.updateConnectionStatus e.address e.status e.uuid).1 ∧
    t.roles = s.rolesAfter e ∧
    t.log = (s.profile.updateConnectionStatus e.address e.status e.uuid).2 ++ s.log := by
  unfold step at hstep
  obtain ⟨haddress, heq⟩ := Option.ite_none_right_eq_some.mp hstep
  cases heq
  exact ⟨haddress, rfl, rfl, rfl⟩

theorem hasRole_ne {address : Text} (hroles : t.roles = s.rolesAfter e)
    (hne : convertAddressToLowerCase address ≠ convertAddressToLowerCase e.address) :
    t.HasRole address ↔ s.HasRole address := by
  unfold HasRole
  rw [hroles, s.rolesAfter_of_ne hne]

theorem hasRole_eq {address : Text} (hroles : t.roles = s.rolesAfter e)
    (heq : convertAddressToLowerCase address = convertAddressToLowerCase e.address) :
    t.HasRole address ↔ e.status = true ∨
      s.roles (convertAddressToLowerCase e.address) (otherRole (roleOf e.uuid)) = true := by
  unfold HasRole
  rw [hroles, rolesAfter, heq]
  simp only [Function.update_self]
  constructor
  · rintro ⟨role, hrole⟩
    by_cases hsame : role = roleOf e.uuid
    · rw [hsame, Function.update_self] at hrole
      exact .inl hrole
    · rw [Function.update_of_ne hsame] at hrole
      have hother : role = otherRole (roleOf e.uuid) := by
        cases role <;> cases hr : roleOf e.uuid <;> simp_all [otherRole]
      exact .inr (hother ▸ hrole)
  · rintro (hstatus | hother)
    · exact ⟨roleOf e.uuid, by rw [Function.update_self, hstatus]⟩
    · refine ⟨otherRole (roleOf e.uuid), ?_⟩
      have hne : otherRole (roleOf e.uuid) ≠ roleOf e.uuid := by
        cases roleOf e.uuid <;> simp [otherRole]
      rw [Function.update_of_ne hne, hother]

theorem Truthful.no_role (h : s.Truthful) (hnot : s.profile.mConnected = false)
    (address : Text) : ¬ s.HasRole address := by
  intro hrole
  have hconnected := h.connected.mpr ⟨address, hrole⟩
  rw [hnot] at hconnected
  cases hconnected

theorem truthful_iff_of_silent (h : s.Truthful) (hroles : t.roles = s.rolesAfter e)
    (hlog : t.log = s.log) (hconnected : t.profile.mConnected = s.profile.mConnected)
    (haddress : t.profile.mConnectedDeviceAddress = s.profile.mConnectedDeviceAddress) :
    t.Truthful ↔ (t.HasRole e.address ↔ s.HasRole e.address) := by
  constructor
  · intro h'
    rw [← h'.reported, ← h.reported, hlog]
  · intro hsame
    have hall : ∀ address, t.HasRole address ↔ s.HasRole address := by
      intro address
      by_cases heq : convertAddressToLowerCase address = convertAddressToLowerCase e.address
      · unfold HasRole at hsame ⊢
        rw [heq]
        exact hsame
      · exact hasRole_ne hroles heq
    refine ⟨fun address => ?_, ?_, ?_, ?_⟩
    · rw [hlog, hall]
      exact h.reported address
    · rw [hconnected, h.connected]
      exact exists_congr fun address => (hall address).symm
    · rw [haddress, hconnected]
      exact h.address
    · rw [haddress, hall]
      exact h.named

theorem truthful_of_first (h : s.Truthful) (hroles : t.roles = s.rolesAfter e)
    (hnonempty : e.address ≠ []) (hstatus : e.status = true)
    (hconnected : t.profile.mConnected = true)
    (haddress : t.profile.mConnectedDeviceAddress = e.address)
    (hlog : t.log = ⟨convertAddressToLowerCase e.address, true⟩ :: s.log) : t.Truthful := by
  have hrole : t.HasRole e.address := (hasRole_eq hroles rfl).mpr (.inl hstatus)
  refine ⟨fun address => ?_, iff_of_true hconnected ⟨e.address, hrole⟩, ?_, ?_⟩
  · rw [hlog]
    by_cases heq : convertAddressToLowerCase address = convertAddressToLowerCase e.address
    · rw [last_cons, if_pos heq.symm]
      exact iff_of_true rfl ((hasRole_eq hroles heq).mpr (.inl hstatus))
    · rw [last_cons, if_neg (Ne.symm heq), hasRole_ne hroles heq]
      exact h.reported address
  · rw [haddress]
    exact iff_of_true hnonempty hconnected
  · rw [haddress]
    exact fun _ => hrole

theorem truthful_iff_of_last (h : s.Truthful) (hroles : t.roles = s.rolesAfter e)
    (hstatus : e.status = false) (hconnected : t.profile.mConnected = false)
    (haddress : t.profile.mConnectedDeviceAddress = [])
    (hlog : t.log = ⟨convertAddressToLowerCase e.address, false⟩ :: s.log) :
    t.Truthful ↔ ∀ address role, s.roles (convertAddressToLowerCase address) role = true →
      convertAddressToLowerCase address = convertAddressToLowerCase e.address ∧
      role = roleOf e.uuid := by
  constructor
  · intro h' address role hrole
    have hnone := h'.no_role hconnected
    have heq : convertAddressToLowerCase address = convertAddressToLowerCase e.address := by
      by_contra hne
      exact hnone address ((hasRole_ne hroles hne).mpr ⟨role, hrole⟩)
    refine ⟨heq, ?_⟩
    by_contra hne
    have hother : role = otherRole (roleOf e.uuid) := by
      cases role <;> cases hr : roleOf e.uuid <;> simp_all [otherRole]
    rw [heq, hother] at hrole
    exact hnone e.address ((hasRole_eq hroles rfl).mpr (.inr hrole))
  · intro honly
    have hnone : ∀ address, ¬ t.HasRole address := by
      intro address hrole
      by_cases heq : convertAddressToLowerCase address = convertAddressToLowerCase e.address
      · rcases (hasRole_eq hroles heq).mp hrole with hon | hother
        · rw [hstatus] at hon
          cases hon
        · have hsame := (honly e.address _ hother).2
          cases hr : roleOf e.uuid <;> simp [hr, otherRole] at hsame
      · obtain ⟨role, hold⟩ := (hasRole_ne hroles heq).mp hrole
        exact heq (honly address role hold).1
    refine ⟨fun address => iff_of_false ?_ (hnone address), ?_, ?_, ?_⟩
    · rw [hlog]
      by_cases heq : convertAddressToLowerCase address = convertAddressToLowerCase e.address
      · rw [last_cons, if_pos heq.symm]
        exact fun h => nomatch h
      · rw [last_cons, if_neg (Ne.symm heq), h.reported, ← hasRole_ne hroles heq]
        exact hnone address
    · rw [hconnected]
      exact iff_of_false Bool.false_ne_true fun ⟨address, hrole⟩ => hnone address hrole
    · rw [haddress, hconnected]
      exact iff_of_false (fun h => h rfl) Bool.false_ne_true
    · rw [haddress]
      exact fun h => absurd rfl h

theorem step_truthful_iff (h : s.Truthful) (hstep : s.step e = some t) :
    t.Truthful ↔ s.OneDevice e := by
  obtain ⟨hnonempty, hprofile, hroles, hlog⟩ := step_eq hstep
  rcases updateConnectionStatus_cases s.profile e.address e.status e.uuid with
    ⟨⟨hstatus, hnot⟩, hconnected, haddress, hreports⟩ |
    ⟨⟨hstatus, _, hflag⟩, hconnected, haddress, hreports⟩ |
    ⟨hsilent, hconnected, haddress, hreports⟩
  · rw [← hprofile] at hconnected haddress
    rw [hreports] at hlog
    refine iff_of_true
      (truthful_of_first h hroles hnonempty hstatus hconnected haddress hlog) ?_
    rw [OneDevice, if_pos hstatus, hnot]
    exact fun h => nomatch h
  · rw [← hprofile] at hconnected haddress
    rw [hreports] at hlog
    rw [OneDevice, if_neg (by rw [hstatus]; exact Bool.false_ne_true),
      if_neg (by rw [hflag]; exact Bool.false_ne_true)]
    exact truthful_iff_of_last h hroles hstatus hconnected haddress hlog
  · rw [← hprofile] at hconnected haddress
    rw [hreports] at hlog
    rw [truthful_iff_of_silent h hroles hlog hconnected haddress, hasRole_eq hroles rfl]
    rcases hsilent with ⟨hstatus, hon⟩ | ⟨hstatus, hnot | hflag⟩
    · rw [OneDevice, if_pos hstatus]
      simp [hstatus, hon]
    · have hnone := h.no_role hnot
      have hother : ¬ s.roles (convertAddressToLowerCase e.address)
          (otherRole (roleOf e.uuid)) = true := fun hr => hnone e.address ⟨_, hr⟩
      refine iff_of_true (by simp [hstatus, hother, hnone e.address]) ?_
      rw [OneDevice, if_neg (by rw [hstatus]; exact Bool.false_ne_true)]
      split_ifs
      · exact fun hr => absurd hr (hnone e.address)
      · exact fun address role hr => absurd ⟨role, hr⟩ (hnone address)
    · have hkept : s.roles (convertAddressToLowerCase e.address)
          (otherRole (roleOf e.uuid)) = true → s.HasRole e.address := fun hr => ⟨_, hr⟩
      rw [OneDevice, if_neg (by rw [hstatus]; exact Bool.false_ne_true), if_pos hflag]
      simp only [hstatus, Bool.false_eq_true, false_or]
      exact ⟨fun hsame => hsame.mpr, fun hkeeps => ⟨hkept, hkeeps⟩⟩

theorem truthful_init : Truthful {} := by
  have hnone : ∀ address, ¬ HasRole {} address := fun address ⟨role, hrole⟩ => nomatch hrole
  refine ⟨fun address => iff_of_false (fun h => nomatch h) (hnone address), ?_, ?_, ?_⟩
  · exact iff_of_false Bool.false_ne_true fun ⟨address, hrole⟩ => hnone address hrole
  · exact iff_of_false (fun h => h rfl) Bool.false_ne_true
  · exact fun h => absurd rfl h

end AvrcpRun

def avrcpMachine : Machine AvrcpRun RoleUpdate := ⟨{}, AvrcpRun.step⟩

/-- In a run whose updates one set of flags can follow the profile is right about its
connections, and an update from there leaves it so if and only if the flags can follow it. -/
theorem avrcp_truthful_iff {s : AvrcpRun} (hs : avrcpMachine.ReachWith AvrcpRun.OneDevice s) :
    s.Truthful ∧ ∀ e t, s.step e = some t → (t.Truthful ↔ s.OneDevice e) :=
  hs.invariant_iff AvrcpRun.truthful_init
    fun _ _ _ h hstep => AvrcpRun.step_truthful_iff h hstep

/-- A device connects both roles and disconnects them, and another one comes after it. -/
theorem avrcp_truthful_two :
    ∃ s : AvrcpRun, avrcpMachine.ReachWith AvrcpRun.OneDevice s ∧
      s.log = [⟨['b'], true⟩, ⟨['a'], false⟩, ⟨['a'], true⟩] ∧ s.Truthful := by
  let s₁ : AvrcpRun := ⟨⟨true, false, true, ['A']⟩,
    AvrcpRun.rolesAfter {} ⟨['A'], true, avrcpTargetUuid⟩, [⟨['a'], true⟩]⟩
  let s₂ : AvrcpRun := ⟨⟨true, true, true, ['A']⟩, s₁.rolesAfter ⟨['A'], true, []⟩, s₁.log⟩
  let s₃ : AvrcpRun := ⟨⟨false, true, true, ['A']⟩,
    s₂.rolesAfter ⟨['a'], false, avrcpTargetUuid⟩, s₁.log⟩
  let s₄ : AvrcpRun := ⟨⟨false, false, false, []⟩, s₃.rolesAfter ⟨['A'], false, []⟩,
    ⟨['a'], false⟩ :: s₁.log⟩
  let s₅ : AvrcpRun := ⟨⟨true, false, true, ['B']⟩,
    s₄.rolesAfter ⟨['B'], true, avrcpTargetUuid⟩, ⟨['b'], true⟩ :: s₄.log⟩
  have hlast : ∀ address role, s₃.roles (convertAddressToLowerCase address) role = true →
      convertAddressToLowerCase address = ['a'] ∧ role = .target := by
    intro address role hrole
    by_cases heq : convertAddressToLowerCase address = ['a']
    · refine ⟨heq, ?_⟩
      rw [heq] at hrole
      cases role with
      | controller => exact absurd hrole (by decide)
      | target => rfl
    · have hother : s₃.roles (convertAddressToLowerCase address) = fun _ => false :=
        (s₂.rolesAfter_of_ne heq).trans
          ((s₁.rolesAfter_of_ne heq).trans (AvrcpRun.rolesAfter_of_ne {} heq))
      rw [hother] at hrole
      cases hrole
  have h₁ : avrcpMachine.ReachWith AvrcpRun.OneDevice s₁ :=
    .step (e := ⟨['A'], true, avrcpTargetUuid⟩) .init (fun h => nomatch h) rfl
  have h₂ : avrcpMachine.ReachWith AvrcpRun.OneDevice s₂ :=
    .step (e := ⟨['A'], true, []⟩) h₁ (fun _ => ⟨.controller, rfl⟩) rfl
  have h₃ : avrcpMachine.ReachWith AvrcpRun.OneDevice s₃ :=
    .step (e := ⟨['a'], false, avrcpTargetUuid⟩) h₂ (fun _ => rfl) rfl
  have h₄ : avrcpMachine.ReachWith AvrcpRun.OneDevice s₄ :=
    .step (e := ⟨['A'], false, []⟩) h₃ hlast rfl
  have h₅ : avrcpMachine.ReachWith AvrcpRun.OneDevice s₅ :=
    .step (e := ⟨['B'], true, avrcpTargetUuid⟩) h₄ (fun h => nomatch h) rfl
  exact ⟨s₅, h₅, rfl, (avrcp_truthful_iff h₅).1⟩

/-- A second device connects, of which nothing is told. -/
theorem avrcp_untold :
    ¬ ∀ s, avrcpMachine.Reach s → s.Truthful := by
  intro h
  have hrun : ∃ t, avrcpMachine.run avrcpMachine.init
      [⟨['A'], true, avrcpTargetUuid⟩, ⟨['B'], true, avrcpTargetUuid⟩] = some t ∧
      t.log = [⟨['a'], true⟩] ∧ t.roles ['b'] .controller = true :=
    ⟨_, rfl, rfl, by decide⟩
  obtain ⟨t, hrun, hlog, hrole⟩ := hrun
  have hreported := ((h t (Machine.reach_of_run _ hrun)).reported ['B']).mpr ⟨.controller, hrole⟩
  rw [hlog] at hreported
  exact absurd hreported (by decide)

end BluezSil.Avrcp
