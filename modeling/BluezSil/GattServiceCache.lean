import BluezSil.GattRemoteServices
import BluezSil.TransitionRun

/-!
# The services given to clients

The map read by `getServices` is rebuilt when a service is added to a device that has one,
and `discoverServices` empties it before it fills in the device asked for. A removal
leaves it alone.
-/

namespace BluezSil.Gatt

open FirstMatch TransitionRun

inductive CacheEvent
  | serviceAdded (devices : Devices) (objectPath : Text) (interface : ServiceProxy)
  | serviceRemoved (devices : Devices) (objectPath : Text)
  | discoverServices (address : Text)

namespace RemoteServices

variable (s : RemoteServices)

def apply : CacheEvent → RemoteServices
  | .serviceAdded devices objectPath interface =>
    s.addRemoteServiceToDevice devices (createRemoteGattService objectPath interface)
  | .serviceRemoved devices objectPath => s.removeRemoteGattService devices objectPath
  | .discoverServices address => (s.discoverServices address).1

/-- An entry of the second map lists the services of the live list. -/
def Cached : Prop :=
  ∀ a services, s.mRemoteDeviceServicesMap.find a = some services →
    ∃ servicesList, s.mDeviceServicesMap.find a = some servicesList ∧
      services = servicesList.map (·.service)

/-- Other addresses are given the same services after `discoverServices`. -/
def FramesOthers (address : Text) : Prop :=
  ∀ b, convertAddressToLowerCase b ≠ convertAddressToLowerCase address →
    (s.discoverServices address).1.getServices b = s.getServices b

/-- An event leaves the entries right, and a discovery leaves other addresses alone. -/
def Keeps (e : CacheEvent) : Prop :=
  (s.apply e).Cached ∧ ∀ address, e = .discoverServices address → s.FramesOthers address

def OthersEmpty (address : Text) : Prop :=
  ∀ b services, s.mRemoteDeviceServicesMap.find b = some services →
    b ≠ convertAddressToLowerCase address → services = []

/-- A service is removed from a device that has no entry, and a discovery finds no entry
of another device. -/
def Uncached : CacheEvent → Prop
  | .serviceAdded _ _ _ => True
  | .serviceRemoved devices objectPath =>
    ∀ deviceAddress, devices (splitInPathAndName objectPath).1 = some deviceAddress →
      s.getRemoteGattService devices objectPath ≠ none →
      s.mRemoteDeviceServicesMap.find (convertAddressToLowerCase deviceAddress) = none
  | .discoverServices address => s.OthersEmpty address

structure CacheInv : Prop where
  cached : s.Cached
  nonempty : ∀ a servicesList, s.mDeviceServicesMap.find a = some servicesList → servicesList ≠ []

end RemoteServices

def cacheMachine : Machine RemoteServices CacheEvent where
  init := {}
  step s e := some (s.apply e)

namespace RemoteServices

variable {s : RemoteServices} {devices : Devices} {address objectPath : Text}

theorem cached_updateRemoteDeviceServices (s : RemoteServices) :
    s.updateRemoteDeviceServices.Cached := by
  intro a services ha
  have hmap : (s.mDeviceServicesMap.find a).map (fun l => l.map (·.service)) = some services := by
    rw [← AddressMap.find_mapValues]
    exact ha
  obtain ⟨servicesList, hlist, rfl⟩ := Option.map_eq_some_iff.mp hmap
  exact ⟨servicesList, hlist, rfl⟩

theorem cached_insert_first {servicesList : List GattRemoteService} (h : s.Cached)
    (hnone : s.mDeviceServicesMap.find (convertAddressToLowerCase address) = none) :
    Cached { s with mDeviceServicesMap := s.mDeviceServicesMap.insert address servicesList } := by
  intro a services ha
  obtain ⟨old, hold, heq⟩ := h a services ha
  have hne : a ≠ convertAddressToLowerCase address := by
    rintro rfl
    rw [hnone] at hold
    cases hold
  exact ⟨old, (AddressMap.find_insert_ne hne).trans hold, heq⟩

theorem nonempty_insert {servicesList : List GattRemoteService}
    (h : ∀ a old, s.mDeviceServicesMap.find a = some old → old ≠ []) (hnew : servicesList ≠ []) :
    ∀ a old, (s.mDeviceServicesMap.insert address servicesList).find a = some old →
      old ≠ [] := by
  intro a old ha
  by_cases heq : a = convertAddressToLowerCase address
  · subst heq
    rw [AddressMap.find_insert_self] at ha
    cases ha
    exact hnew
  · rw [AddressMap.find_insert_ne heq] at ha
    exact h a old ha

theorem cacheInv_addRemoteServiceToDevice (h : s.CacheInv) (gattService : GattRemoteService) :
    (s.addRemoteServiceToDevice devices gattService).CacheInv := by
  unfold addRemoteServiceToDevice
  cases devices gattService.parentObjectPath with
  | none => exact h
  | some deviceAddress =>
      dsimp only
      cases hlist : s.mDeviceServicesMap.find (convertAddressToLowerCase deviceAddress) with
      | none =>
          exact ⟨cached_insert_first h.cached hlist,
            nonempty_insert h.nonempty (List.cons_ne_nil _ _)⟩
      | some servicesList =>
          dsimp only
          split_ifs
          · exact h
          · exact ⟨cached_updateRemoteDeviceServices _,
              nonempty_insert h.nonempty (by simp)⟩

theorem cacheInv_discoverServices (h : s.CacheInv) (address : Text) :
    (s.discoverServices address).1.CacheInv := by
  unfold discoverServices
  cases hlist : s.mDeviceServicesMap.find address with
  | none =>
      refine ⟨?_, h.nonempty⟩
      intro a services ha
      cases ha
  | some servicesList =>
      refine ⟨?_, h.nonempty⟩
      intro a services ha
      dsimp only at ha ⊢
      have hlower := AddressMap.lower_of_find hlist
      by_cases heq : a = convertAddressToLowerCase address
      · subst heq
        rw [AddressMap.find_insert_self] at ha
        cases ha
        exact ⟨servicesList, by rw [hlower, hlist], rfl⟩
      · rw [AddressMap.find_insert_ne heq] at ha
        cases ha

theorem cached_removeRemoteGattService_iff (h : s.CacheInv) :
    (s.removeRemoteGattService devices objectPath).Cached ↔
      s.Uncached (.serviceRemoved devices objectPath) := by
  unfold removeRemoteGattService Uncached getRemoteGattService
  dsimp only
  cases devices (splitInPathAndName objectPath).1 with
  | none => exact iff_of_true h.cached nofun
  | some deviceAddress =>
      simp only [Option.bind_some, Option.some.injEq, forall_eq']
      cases hlist : s.mDeviceServicesMap.find (convertAddressToLowerCase deviceAddress) with
      | none => exact iff_of_true h.cached fun hne => absurd rfl hne
      | some servicesList =>
          dsimp only
          rw [Option.bind_some]
          cases hfind : servicesList.find? (·.objectPath == objectPath) with
          | none =>
              apply iff_of_true _ fun hne => absurd rfl hne
              have hpos : servicesList.length ≠ 0 := by
                rw [ne_eq, List.length_eq_zero_iff]
                exact h.nonempty _ _ hlist
              rw [eraseP_of_find_none hfind, if_neg hpos]
              intro a services ha
              obtain ⟨old, hold, heq⟩ := h.cached a services ha
              refine ⟨old, ?_, heq⟩
              by_cases hlower : a = convertAddressToLowerCase deviceAddress
              · subst hlower
                rw [AddressMap.find_insert_self, ← hold, hlist]
              · rw [AddressMap.find_insert_ne hlower, hold]
          | some sv =>
              rw [imp_iff_right (Option.some_ne_none sv)]
              have hshort := length_eraseP_of_find hfind
              constructor
              · intro hcached
                rw [Option.eq_none_iff_forall_ne_some]
                intro services hservices
                obtain ⟨old, hold, rfl⟩ := h.cached _ _ hservices
                obtain ⟨new, hnew, heq⟩ := hcached _ _ hservices
                rw [hlist, Option.some.injEq] at hold
                subst hold
                split_ifs at hnew with hempty
                · rw [AddressMap.find_erase_self] at hnew
                  cases hnew
                · rw [AddressMap.find_insert_self, Option.some.injEq] at hnew
                  have hlength := congrArg List.length heq
                  rw [List.length_map, List.length_map, ← hnew] at hlength
                  omega
              · intro hnone a services ha
                obtain ⟨old, hold, heq⟩ := h.cached a services ha
                have hne : a ≠ convertAddressToLowerCase deviceAddress := by
                  rintro rfl
                  rw [hnone] at ha
                  cases ha
                refine ⟨old, ?_, heq⟩
                split_ifs
                · rw [AddressMap.find_erase_ne hne, hold]
                · rw [AddressMap.find_insert_ne hne, hold]

theorem nonempty_removeRemoteGattService (h : s.CacheInv) :
    ∀ a servicesList,
      (s.removeRemoteGattService devices objectPath).mDeviceServicesMap.find a =
        some servicesList → servicesList ≠ [] := by
  unfold removeRemoteGattService
  cases devices (splitInPathAndName objectPath).1 with
  | none => exact h.nonempty
  | some deviceAddress =>
      dsimp only
      cases s.mDeviceServicesMap.find (convertAddressToLowerCase deviceAddress) with
      | none => exact h.nonempty
      | some servicesList =>
          dsimp only
          split_ifs with hempty
          · intro a old ha
            have hne : a ≠ convertAddressToLowerCase deviceAddress := by
              rintro rfl
              rw [AddressMap.find_erase_self] at ha
              cases ha
            rw [AddressMap.find_erase_ne hne] at ha
            exact h.nonempty a old ha
          · rw [List.length_eq_zero_iff] at hempty
            exact nonempty_insert h.nonempty hempty

theorem getServices_discoverServices {b : Text}
    (hb : convertAddressToLowerCase b ≠ convertAddressToLowerCase address) :
    (s.discoverServices address).1.getServices b = [] := by
  unfold discoverServices
  cases s.mDeviceServicesMap.find address with
  | none => rfl
  | some servicesList =>
      unfold getServices
      dsimp only
      rw [AddressMap.find_insert_ne hb]
      rfl

theorem framesOthers_iff (s : RemoteServices) (address : Text) :
    s.FramesOthers address ↔ s.OthersEmpty address := by
  constructor
  · intro h b services hb hne
    have hlower := AddressMap.lower_of_find hb
    have hframe := h b (hlower.symm ▸ hne)
    rw [getServices_discoverServices (hlower.symm ▸ hne), getServices, hlower, hb] at hframe
    exact hframe.symm
  · intro h b hne
    rw [getServices_discoverServices hne]
    unfold getServices
    cases hb : s.mRemoteDeviceServicesMap.find (convertAddressToLowerCase b) with
    | none => rfl
    | some services =>
        rw [h _ services hb hne]
        rfl

theorem keeps_iff (h : s.CacheInv) (e : CacheEvent) : s.Keeps e ↔ s.Uncached e := by
  cases e with
  | serviceAdded devices objectPath interface =>
      exact iff_of_true ⟨(cacheInv_addRemoteServiceToDevice h _).cached, nofun⟩ trivial
  | serviceRemoved devices objectPath =>
      rw [← cached_removeRemoteGattService_iff h]
      exact and_iff_left nofun
  | discoverServices address =>
      have hcached := (cacheInv_discoverServices h address).cached
      constructor
      · intro hkeeps
        exact (framesOthers_iff s address).mp (hkeeps.2 address rfl)
      · intro hempty
        refine ⟨hcached, ?_⟩
        intro b hb
        cases hb
        exact (framesOthers_iff s address).mpr hempty

theorem cacheInv_apply (h : s.CacheInv) {e : CacheEvent} (he : s.Uncached e) :
    (s.apply e).CacheInv := by
  refine ⟨((keeps_iff h e).mpr he).1, ?_⟩
  cases e with
  | serviceAdded devices objectPath interface =>
      exact (cacheInv_addRemoteServiceToDevice h _).nonempty
  | serviceRemoved devices objectPath => exact nonempty_removeRemoteGattService h
  | discoverServices address => exact (cacheInv_discoverServices h address).nonempty

end RemoteServices

/-- The entries are right in every run whose removals and discoveries find no entry of the
wrong device, and an event outside the condition leaves a wrong entry or changes what
another address is given. -/
theorem serviceCache_coherent {s : RemoteServices}
    (hs : cacheMachine.ReachWith RemoteServices.Uncached s) :
    s.Cached ∧ ∀ e, s.Keeps e ↔ s.Uncached e := by
  have hinv : s.CacheInv := by
    apply hs.invariant
    · constructor
      · intro a services ha
        cases ha
      · intro a servicesList ha
        cases ha
    · intro s e t h he hstep
      cases hstep
      exact RemoteServices.cacheInv_apply h he
  exact ⟨hinv.cached, RemoteServices.keeps_iff hinv⟩

def twoDevices : Devices := fun path =>
  if path = "/d".toList then some "AA".toList
  else if path = "/e".toList then some "BB".toList
  else none

def firstService (device : Text) : CacheEvent :=
  .serviceAdded twoDevices (device ++ "/s".toList) ⟨some ['u'], true, some device⟩

/-- One device is discovered while another one has a service that clients do not see. -/
theorem serviceCache_coherent_discovered : ∃ s : RemoteServices,
    s.getServices "aa".toList = [⟨['u'], .primary, []⟩] ∧ s.Cached := by
  have hadded : cacheMachine.ReachWith RemoteServices.Uncached _ :=
    .step (e := firstService "/e".toList)
      (.step (e := firstService "/d".toList) .init trivial rfl) trivial rfl
  refine ⟨_, ?_, (serviceCache_coherent
    (hadded.step (e := .discoverServices "aa".toList) nofun rfl)).1⟩
  rfl

/-- A discovered device is given a service that has been removed. -/
theorem serviceCache_removed : ¬ ∀ s, cacheMachine.Reach s → s.Cached ∧ ∀ e, s.Keeps e := by
  intro h
  have hrun := Machine.reach_of_run (M := cacheMachine)
    [firstService "/d".toList, .discoverServices "aa".toList,
      .serviceRemoved twoDevices "/d/s".toList] rfl
  obtain ⟨servicesList, hlist, _⟩ := (h _ hrun).1 "aa".toList _ rfl
  cases hlist

end BluezSil.Gatt
