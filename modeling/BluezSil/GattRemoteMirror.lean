import BluezSil.GattRemoteServices
import BluezSil.TransitionRun

/-!
# The value of a remote service and its live objects

The value of a service lists the live characteristics in the order in which they were
added, each with its live descriptors, until a live characteristic or descriptor is
removed, or a descriptor is added to a characteristic that is not the first of its UUID.
-/

namespace BluezSil.Gatt

open FirstMatch TransitionRun

inductive RemoteEvent
  | serviceAdded (objectPath : Text) (interface : ServiceProxy)
  | serviceRemoved (objectPath : Text)
  | characteristicAdded (objectPath : Text) (interface : CharacteristicProxy)
  | characteristicRemoved (objectPath : Text)
  | descriptorAdded (objectPath : Text) (interface : DescriptorProxy)
  | descriptorRemoved (objectPath : Text)
  deriving DecidableEq, Repr

/-- `handleObjectAdded` and `handleObjectRemoved`. -/
def RemoteServices.handle (s : RemoteServices) (devices : Devices) : RemoteEvent → RemoteServices
  | .serviceAdded objectPath interface =>
    s.addRemoteServiceToDevice devices (createRemoteGattService objectPath interface)
  | .serviceRemoved objectPath => s.removeRemoteGattService devices objectPath
  | .characteristicAdded objectPath interface =>
    s.addRemoteCharacteristicToService devices
      (createRemoteGattCharacteristic objectPath interface)
  | .characteristicRemoved objectPath => s.removeRemoteGattCharacteristic devices objectPath
  | .descriptorAdded objectPath interface =>
    s.addRemoteDescriptorToCharacteristic devices
      (createRemoteGattDescriptor objectPath interface) interface.value
  | .descriptorRemoved objectPath => s.removeRemoteGattDescriptor devices objectPath

def remoteMachine : Machine RemoteServices (Devices × RemoteEvent) where
  init := {}
  step s e := some (s.handle e.1 e.2)

/-- What the value of a service should say of a live characteristic. -/
def GattRemoteCharacteristic.listing (c : GattRemoteCharacteristic) :
    BluetoothGattCharacteristic :=
  { c.characteristic with descriptors := c.gattRemoteDescriptors.map (·.descriptor) }

/-- One entry for each live characteristic, with its live descriptors. -/
def GattRemoteService.Mirrors (sv : GattRemoteService) : Prop :=
  sv.service.characteristics = sv.gattRemoteCharacteristics.map GattRemoteCharacteristic.listing

def RemoteServices.Coherent (s : RemoteServices) : Prop :=
  ∀ a servicesList, s.mDeviceServicesMap.find a = some servicesList →
    ∀ sv ∈ servicesList, sv.Mirrors

/-- A removal finds nothing to remove, and the characteristic a descriptor is added to is
the first of its UUID. -/
def RemoteServices.Mirrorable (s : RemoteServices) : Devices × RemoteEvent → Prop
  | (devices, .characteristicRemoved objectPath) =>
    ∀ sv, s.getRemoteGattService devices (splitInPathAndName objectPath).1 = some sv →
      sv.gattRemoteCharacteristics.find? (·.objectPath == objectPath) = none
  | (devices, .descriptorAdded _ interface) =>
    let characteristicObjectPath := interface.characteristic.getD []
    ∀ sv, s.getRemoteGattService devices (splitInPathAndName characteristicObjectPath).1 =
      some sv → ∀ c, sv.gattRemoteCharacteristics.find? (·.objectPath == characteristicObjectPath)
        = some c →
      sv.gattRemoteCharacteristics.findIdx (·.characteristic.uuid == c.characteristic.uuid) =
        sv.gattRemoteCharacteristics.findIdx (·.objectPath == characteristicObjectPath)
  | (devices, .descriptorRemoved objectPath) =>
    let characteristicObjectPath := (splitInPathAndName objectPath).1
    ∀ sv, s.getRemoteGattService devices (splitInPathAndName characteristicObjectPath).1 =
      some sv → ∀ c, sv.gattRemoteCharacteristics.find? (·.objectPath == characteristicObjectPath)
        = some c → c.gattRemoteDescriptors.find? (·.objectPath == objectPath) = none
  | _ => True

namespace GattRemoteService

variable {sv : GattRemoteService} {objectPath : Text}

theorem listing_createRemoteGattCharacteristic (interface : CharacteristicProxy) :
    (createRemoteGattCharacteristic objectPath interface).listing =
      (createRemoteGattCharacteristic objectPath interface).characteristic := by
  unfold createRemoteGattCharacteristic GattRemoteCharacteristic.listing
  dsimp only
  split_ifs
  · rfl
  · rfl

theorem mirrors_addRemoteCharacteristic {c : GattRemoteCharacteristic} (h : sv.Mirrors)
    (hc : c.listing = c.characteristic) : (sv.addRemoteCharacteristic c).Mirrors := by
  unfold Mirrors addRemoteCharacteristic BluetoothGattService.addCharacteristic at *
  dsimp only
  rw [List.map_append, List.map_singleton, hc, h]

theorem mirrors_removeCharacteristic_iff (h : sv.Mirrors) :
    (sv.removeCharacteristic objectPath).Mirrors ↔
      sv.gattRemoteCharacteristics.find? (·.objectPath == objectPath) = none := by
  unfold Mirrors removeCharacteristic at *
  dsimp only
  rw [h]
  constructor
  · intro heq
    rw [Option.eq_none_iff_forall_ne_some]
    intro c hc
    have hlength := congrArg List.length heq
    rw [List.length_map, List.length_map, ← length_eraseP_of_find hc] at hlength
    omega
  · intro hnone
    rw [eraseP_of_find_none hnone]

theorem mirrors_removeDescriptor_iff {characteristicObjectPath : Text} (h : sv.Mirrors) :
    (sv.removeDescriptor characteristicObjectPath objectPath).Mirrors ↔
      ∀ c, sv.gattRemoteCharacteristics.find? (·.objectPath == characteristicObjectPath) =
        some c → c.gattRemoteDescriptors.find? (·.objectPath == objectPath) = none := by
  unfold Mirrors removeDescriptor at *
  dsimp only
  rw [h, eq_comm, map_modifyFirst_eq_iff]
  apply forall_congr'
  intro c
  apply imp_congr_right
  intro _
  unfold GattRemoteCharacteristic.listing
  dsimp only
  constructor
  · intro heq
    rw [Option.eq_none_iff_forall_ne_some]
    intro d hd
    have hlength := congrArg (fun c => c.descriptors.length) heq
    dsimp only at hlength
    rw [List.length_map, List.length_map, ← length_eraseP_of_find hd] at hlength
    omega
  · intro hnone
    rw [eraseP_of_find_none hnone]

theorem addDescriptor_ne (c : BluetoothGattCharacteristic) (d : BluetoothGattDescriptor) :
    c.addDescriptor d ≠ c := by
  intro heq
  have hlength := congrArg (fun c => c.descriptors.length) heq
  simp [BluetoothGattCharacteristic.addDescriptor] at hlength

theorem mirrors_addRemoteDescriptor_iff {d : GattRemoteDescriptor} {descValue : List UInt8}
    (h : sv.Mirrors) :
    (sv.addRemoteDescriptor d descValue).Mirrors ↔
      ∀ c, sv.gattRemoteCharacteristics.find? (·.objectPath == d.parentObjectPath) = some c →
        sv.gattRemoteCharacteristics.findIdx (·.characteristic.uuid == c.characteristic.uuid) =
          sv.gattRemoteCharacteristics.findIdx (·.objectPath == d.parentObjectPath) := by
  unfold addRemoteDescriptor
  cases hfind : sv.gattRemoteCharacteristics.find? (·.objectPath == d.parentObjectPath) with
  | none => exact iff_of_true h nofun
  | some c =>
      unfold Mirrors at h ⊢
      dsimp only
      generalize hdesc : (if c.characteristic.isPropertySet .read then
        { d.descriptor with value := descValue } else d.descriptor) = descriptor
      have hlisting : ∀ c : GattRemoteCharacteristic, GattRemoteCharacteristic.listing
          { c with
            gattRemoteDescriptors := c.gattRemoteDescriptors ++ [{ d with descriptor }]
            characteristic := c.characteristic.addDescriptor descriptor } =
          c.listing.addDescriptor descriptor := by
        intro c
        unfold GattRemoteCharacteristic.listing BluetoothGattCharacteristic.addDescriptor
        rw [List.map_append]
        rfl
      have hlt := findIdx_lt_of_find hfind
      unfold modifyFirst
      rw [map_modify (h := (·.addDescriptor descriptor)) hlisting, h, List.findIdx_map, eq_comm,
        modify_eq_modify_iff (fun c => addDescriptor_ne c descriptor)
          (by rw [List.length_map]; exact hlt)]
      constructor
      · intro heq c' hc'
        cases hc'
        exact heq.symm
      · intro heq
        exact (heq c rfl).symm

end GattRemoteService

namespace RemoteServices

variable {s t : RemoteServices} {devices : Devices} {objectPath : Text}

theorem coherent_updateService_iff {f : GattRemoteService → GattRemoteService}
    (h : s.Coherent) :
    (s.updateService devices objectPath f).Coherent ↔
      ∀ sv, s.getRemoteGattService devices objectPath = some sv → (f sv).Mirrors := by
  unfold updateService getRemoteGattService
  cases devices (splitInPathAndName objectPath).1 with
  | none => exact iff_of_true h nofun
  | some deviceAddress =>
      rw [Option.bind_some]
      constructor
      · intro hcoherent sv hsv
        obtain ⟨servicesList, hlist, hfind⟩ := Option.bind_eq_some_iff.mp hsv
        apply hcoherent (convertAddressToLowerCase deviceAddress)
          (modifyFirst (·.objectPath == objectPath) f servicesList) ?_ (f sv)
          (mem_modifyFirst_of_find hfind)
        dsimp only
        rw [AddressMap.find_modify_self, hlist, Option.map_some]
      · intro hmirrors a servicesList hlist sv hsv
        dsimp only at hlist
        by_cases ha : a = convertAddressToLowerCase deviceAddress
        · subst ha
          rw [AddressMap.find_modify_self, Option.map_eq_some_iff] at hlist
          obtain ⟨old, hold, rfl⟩ := hlist
          rcases mem_modifyFirst hsv with hmem | ⟨b, hfind, rfl⟩
          · exact h _ old hold sv hmem
          · exact hmirrors b (Option.bind_eq_some_iff.mpr ⟨old, hold, hfind⟩)
        · rw [AddressMap.find_modify_ne ha] at hlist
          exact h a servicesList hlist sv hsv

theorem coherent_insert {address : Text} {servicesList : List GattRemoteService}
    {cache : AddressMap (List BluetoothGattService)} (h : s.Coherent)
    (hlist : ∀ sv ∈ servicesList, sv.Mirrors) :
    Coherent ⟨s.mDeviceServicesMap.insert address servicesList, cache⟩ := by
  intro a services ha sv hsv
  dsimp only at ha
  by_cases heq : a = convertAddressToLowerCase address
  · subst heq
    rw [AddressMap.find_insert_self] at ha
    cases ha
    exact hlist sv hsv
  · rw [AddressMap.find_insert_ne heq] at ha
    exact h a services ha sv hsv

theorem coherent_addRemoteServiceToDevice {gattService : GattRemoteService} (h : s.Coherent)
    (hnew : gattService.Mirrors) : (s.addRemoteServiceToDevice devices gattService).Coherent := by
  unfold addRemoteServiceToDevice
  cases devices gattService.parentObjectPath with
  | none => exact h
  | some deviceAddress =>
      dsimp only
      cases hlist : s.mDeviceServicesMap.find (convertAddressToLowerCase deviceAddress) with
      | none =>
          apply coherent_insert h
          intro sv hsv
          rw [List.mem_singleton.mp hsv]
          exact hnew
      | some servicesList =>
          dsimp only
          split_ifs
          · exact h
          · apply coherent_insert h
            intro sv hsv
            rcases List.mem_append.mp hsv with hsv | hsv
            · exact h _ servicesList hlist sv hsv
            · rw [List.mem_singleton.mp hsv]
              exact hnew

theorem coherent_removeRemoteGattService (h : s.Coherent) :
    (s.removeRemoteGattService devices objectPath).Coherent := by
  unfold removeRemoteGattService
  cases devices (splitInPathAndName objectPath).1 with
  | none => exact h
  | some deviceAddress =>
      dsimp only
      cases hlist : s.mDeviceServicesMap.find (convertAddressToLowerCase deviceAddress) with
      | none => exact h
      | some servicesList =>
          dsimp only
          split_ifs
          · intro a services ha
            have hne : a ≠ convertAddressToLowerCase deviceAddress := by
              rintro rfl
              rw [AddressMap.find_erase_self] at ha
              cases ha
            rw [AddressMap.find_erase_ne hne] at ha
            exact h a services ha
          · apply coherent_insert h
            intro sv hsv
            exact h _ servicesList hlist sv (List.mem_of_mem_eraseP hsv)

theorem handle_coherent_iff (h : s.Coherent) (devices : Devices) (e : RemoteEvent) :
    (s.handle devices e).Coherent ↔ s.Mirrorable (devices, e) := by
  have found : ∀ {path : Text} {sv : GattRemoteService},
      s.getRemoteGattService devices path = some sv → sv.Mirrors := by
    intro path sv hsv
    obtain ⟨deviceAddress, _, hsv⟩ := Option.bind_eq_some_iff.mp hsv
    obtain ⟨servicesList, hlist, hfind⟩ := Option.bind_eq_some_iff.mp hsv
    exact h _ servicesList hlist sv (List.mem_of_find?_eq_some hfind)
  cases e with
  | serviceAdded objectPath interface =>
      exact iff_of_true (coherent_addRemoteServiceToDevice h rfl) trivial
  | serviceRemoved objectPath => exact iff_of_true (coherent_removeRemoteGattService h) trivial
  | characteristicAdded objectPath interface =>
      apply iff_of_true _ trivial
      apply (coherent_updateService_iff h).mpr
      intro sv hsv
      exact GattRemoteService.mirrors_addRemoteCharacteristic (found hsv)
        (GattRemoteService.listing_createRemoteGattCharacteristic interface)
  | characteristicRemoved objectPath =>
      apply (coherent_updateService_iff h).trans
      exact forall_congr' fun sv => imp_congr_ctx Iff.rfl fun hsv =>
        GattRemoteService.mirrors_removeCharacteristic_iff (found hsv)
  | descriptorAdded objectPath interface =>
      apply (coherent_updateService_iff h).trans
      exact forall_congr' fun sv => imp_congr_ctx Iff.rfl fun hsv =>
        GattRemoteService.mirrors_addRemoteDescriptor_iff (found hsv)
  | descriptorRemoved objectPath =>
      apply (coherent_updateService_iff h).trans
      exact forall_congr' fun sv => imp_congr_ctx Iff.rfl fun hsv =>
        GattRemoteService.mirrors_removeDescriptor_iff (found hsv)

end RemoteServices

/-- The values of the services mirror the live objects in every run whose events keep the
mirror, and an event outside the condition breaks it. -/
theorem remoteServices_mirror {s : RemoteServices}
    (hs : remoteMachine.ReachWith RemoteServices.Mirrorable s) :
    s.Coherent ∧ ∀ devices e, (s.handle devices e).Coherent ↔ s.Mirrorable (devices, e) := by
  have hcoherent : s.Coherent := by
    apply hs.invariant
    · intro a servicesList ha
      cases ha
    · intro s e t h hg hstep
      cases hstep
      exact (RemoteServices.handle_coherent_iff h e.1 e.2).mpr hg
  exact ⟨hcoherent, RemoteServices.handle_coherent_iff hcoherent⟩

def oneDevice : Devices := fun path => if path = "/d".toList then some "AA".toList else none

def serviceAndCharacteristic : List (Devices × RemoteEvent) :=
  [(oneDevice, .serviceAdded "/d/s".toList ⟨some ['u'], true, some "/d".toList⟩),
    (oneDevice, .characteristicAdded "/d/s/c".toList ⟨some ['v'], some "/d/s".toList, [], []⟩)]

/-- A descriptor is added to the only characteristic of a service. -/
theorem remoteServices_mirror_descriptor : ∃ s : RemoteServices,
    s.getRemoteGattService oneDevice "/d/s".toList =
      some
        { parentObjectPath := "/d".toList
          objectPath := "/d/s".toList
          service := ⟨['u'], .primary, [⟨['v'], [], [], [⟨['w'], []⟩]⟩]⟩
          gattRemoteCharacteristics :=
            [{ parentObjectPath := "/d/s".toList
               objectPath := "/d/s/c".toList
               characteristic := ⟨['v'], [], [], [⟨['w'], []⟩]⟩
               gattRemoteDescriptors := [⟨"/d/s/c".toList, "/d/s/c/e".toList, ⟨['w'], []⟩⟩] }] } ∧
    s.Coherent := by
  have hadded : remoteMachine.ReachWith RemoteServices.Mirrorable _ :=
    .step (e := serviceAndCharacteristic[1]) (.step (e := serviceAndCharacteristic[0]) .init
      trivial rfl) trivial rfl
  refine ⟨_, ?_, (remoteServices_mirror (hadded.step (e := (oneDevice,
    .descriptorAdded "/d/s/c/e".toList ⟨some ['w'], some "/d/s/c".toList, []⟩)) ?_ rfl)).1⟩
  · rfl
  · intro sv hsv c hc
    cases hsv
    cases hc
    rfl

/-- The value of a service lists a characteristic that has been removed. -/
theorem remoteServices_mirror_removed : ¬ ∀ s, remoteMachine.Reach s → s.Coherent := by
  intro h
  have hrun := Machine.reach_of_run (M := remoteMachine)
    (serviceAndCharacteristic ++ [(oneDevice, .characteristicRemoved "/d/s/c".toList)]) rfl
  have hmirrors := h _ hrun "aa".toList _ rfl _ List.mem_cons_self
  exact absurd (congrArg List.length hmirrors) (by decide)

end BluezSil.Gatt
