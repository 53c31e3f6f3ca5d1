import BluezSil.GattAddressCase
import BluezSil.RequestLoop

/-!
# Reading several characteristics or descriptors

A request for several UUIDs is served one UUID after the other. A UUID is read once for each
time that the value of the service lists it, and always through the first characteristic or
descriptor with the UUID.
-/

namespace BluezSil.Gatt

open RequestLoop

/-- How a client names the device: by its address or by a connection. -/
inductive GattTarget
  | address (address : Text)
  | connection (connId : UInt16)

/-- An address that is not converted, and none for a connection that there is not. -/
def GattProfile.targetAddress (p : GattProfile) : GattTarget → Option Text
  | .address address => some address
  | .connection connId =>
    if (p.connections.getAddress connId).isEmpty then none
    else some (p.connections.getAddress connId)

def GattProfile.readCharacteristicsAt (p : GattProfile) (env : GattEnv) (target : GattTarget)
    (service : BluetoothUuid) (characteristics : List BluetoothUuid) : GattAnswer :=
  match p.targetAddress target with
  | none => .characteristics .fail []
  | some address => (p.perform env address (.readCharacteristics service characteristics)).answer

def GattProfile.readDescriptorsAt (p : GattProfile) (env : GattEnv) (target : GattTarget)
    (service characteristic : BluetoothUuid) (descriptors : List BluetoothUuid) : GattAnswer :=
  match p.targetAddress target with
  | none => .descriptors .fail []
  | some address =>
    (p.perform env address (.readDescriptors service characteristic descriptors)).answer

def GattAnswer.multiRead : GattAnswer → BluetoothError × List BluetoothUuid
  | .characteristics error result => (error, result.map BluetoothGattCharacteristic.uuid)
  | .descriptors error result => (error, result.map BluetoothGattDescriptor.uuid)
  | _ => (.fail, [])

/-- There is no error if and only if something is requested and everything requested is
named, and then the result has an entry for each request. -/
def GattAnswer.AnswersRequests (answer : GattAnswer) (requests : List BluetoothUuid)
    (Named : BluetoothUuid → Prop) : Prop :=
  (answer.multiRead.1 = .none ↔ requests ≠ [] ∧ ∀ uuid ∈ requests, Named uuid) ∧
  (answer.multiRead.1 = .none → answer.multiRead.2 = requests)

def GattRemoteService.NamesReadable (service : GattRemoteService) (uuid : BluetoothUuid) : Prop :=
  ∃ c ∈ service.gattRemoteCharacteristics,
    c.characteristic.uuid = uuid ∧ c.characteristic.isPropertySet .read = true

def GattRemoteCharacteristic.NamesDescriptor (c : GattRemoteCharacteristic)
    (uuid : BluetoothUuid) : Prop :=
  ∃ d ∈ c.gattRemoteDescriptors, d.descriptor.uuid = uuid

/-- How often the value of the service lists the UUID, if the first characteristic with the
UUID can be read. -/
def GattRemoteService.timesListed (service : GattRemoteService) (uuid : BluetoothUuid) : ℕ :=
  match service.findCharacteristic uuid with
  | some c =>
    if c.characteristic.isPropertySet .read then
      (service.service.characteristics.filter (·.uuid == uuid)).length
    else 0
  | none => 0

/-- How often the value of the characteristic lists the UUID, if it has a descriptor with the
UUID. -/
def GattRemoteCharacteristic.timesListed (c : GattRemoteCharacteristic) (uuid : BluetoothUuid) :
    ℕ :=
  if (c.findDescriptor uuid).isSome then
    (c.characteristic.descriptors.filter (·.uuid == uuid)).length
  else 0

/-- The descriptors listed by the first characteristic with the UUID, if it can be read. -/
def GattRemoteService.timesDescribed (service : GattRemoteService)
    (characteristic uuid : BluetoothUuid) : ℕ :=
  match service.findCharacteristic characteristic with
  | some c => if c.characteristic.isPropertySet .read then c.timesListed uuid else 0
  | none => 0

theorem GattRemoteService.namesReadable_of_timesListed {service : GattRemoteService}
    {uuid : BluetoothUuid} (h : service.timesListed uuid ≠ 0) : service.NamesReadable uuid := by
  unfold timesListed at h
  cases hfind : service.findCharacteristic uuid with
  | none => simp [hfind] at h
  | some c =>
      simp only [hfind] at h
      split_ifs at h with hread
      · exact ⟨c, List.mem_of_find?_eq_some hfind, by simpa using List.find?_some hfind, hread⟩
      · exact absurd rfl h

namespace RemoteServices

variable (env : GattEnv) (address : Text) (service characteristic : BluetoothUuid)
  (remoteService : GattRemoteService) (remoteChar : GattRemoteCharacteristic)

def serveCharacteristic (currentCharacteristic : BluetoothUuid) (r : ReadCharacteristics) :
    ReadCharacteristics :=
  readCharacteristicsLoop env address service remoteService [currentCharacteristic] r

def serveDescriptor (currentDescriptor : BluetoothUuid) (r : ReadDescriptors) :
    ReadDescriptors :=
  readDescriptorsLoop env address service characteristic remoteChar [currentDescriptor] r

theorem readCharacteristicsLoop_eq_serve (requests : List BluetoothUuid)
    (r : ReadCharacteristics) :
    readCharacteristicsLoop env address service remoteService requests r =
      serve ReadCharacteristics.found (serveCharacteristic env address service remoteService)
        requests r := by
  induction requests generalizing r with
  | nil => rfl
  | cons uuid requests ih =>
      simp only [serve, serveCharacteristic, readCharacteristicsLoop, ite_self]
      simp only [ih]

theorem readDescriptorsLoop_eq_serve (requests : List BluetoothUuid) (r : ReadDescriptors) :
    readDescriptorsLoop env address service characteristic remoteChar requests r =
      serve ReadDescriptors.found
        (serveDescriptor env address service characteristic remoteChar) requests r := by
  induction requests generalizing r with
  | nil => rfl
  | cons uuid requests ih =>
      simp only [serve, serveDescriptor, readDescriptorsLoop, ite_self]
      simp only [ih]

theorem serves_characteristic :
    Serves (fun r => r.result.map BluetoothGattCharacteristic.uuid) ReadCharacteristics.found
      (serveCharacteristic env address service remoteService) remoteService.timesListed := by
  have hserve : ∀ uuid r,
      ((serveCharacteristic env address service remoteService uuid r).result.map
          BluetoothGattCharacteristic.uuid =
        r.result.map BluetoothGattCharacteristic.uuid ++
          List.replicate (remoteService.timesListed uuid) uuid) ∧
      ((serveCharacteristic env address service remoteService uuid r).found = true ↔
        remoteService.timesListed uuid ≠ 0) := by
    intro uuid r
    unfold serveCharacteristic GattRemoteService.timesListed
    simp only [readCharacteristicsLoop, ite_self]
    cases hfind : remoteService.findCharacteristic uuid with
    | none => simp
    | some c =>
        by_cases hread : c.characteristic.isPropertySet .read = true
        · simp only [hread, if_true]
          obtain ⟨hkeys, hfound⟩ :=
            @foldl_answers _ _ _
              (fun r : ReadCharacteristics => r.result.map BluetoothGattCharacteristic.uuid)
              ReadCharacteristics.found uuid
              (fun r =>
                let o := r.state.readCharValue env address service c uuid
                ⟨o.1, r.result ++ [o.2], true⟩)
              (fun r => by simp [readCharValue]) (fun _ => rfl)
              (remoteService.service.characteristics.filter (·.uuid == uuid))
              { r with found := false }
          exact ⟨hkeys, hfound.trans (by simp)⟩
        · simp [hread]
  exact ⟨fun uuid r => (hserve uuid r).1, fun uuid r => (hserve uuid r).2⟩

theorem serves_descriptor :
    Serves (fun r => r.result.map BluetoothGattDescriptor.uuid) ReadDescriptors.found
      (serveDescriptor env address service characteristic remoteChar) remoteChar.timesListed := by
  have hserve : ∀ uuid r,
      ((serveDescriptor env address service characteristic remoteChar uuid r).result.map
          BluetoothGattDescriptor.uuid =
        r.result.map BluetoothGattDescriptor.uuid ++
          List.replicate (remoteChar.timesListed uuid) uuid) ∧
      ((serveDescriptor env address service characteristic remoteChar uuid r).found = true ↔
        remoteChar.timesListed uuid ≠ 0) := by
    intro uuid r
    unfold serveDescriptor GattRemoteCharacteristic.timesListed
    simp only [readDescriptorsLoop, ite_self]
    cases hfind : remoteChar.findDescriptor uuid with
    | none => simp
    | some d =>
        obtain ⟨hkeys, hfound⟩ :=
          @foldl_answers _ _ _
            (fun r : ReadDescriptors => r.result.map BluetoothGattDescriptor.uuid)
            ReadDescriptors.found uuid
            (fun r =>
              let o := r.state.readDescValue env address service characteristic d uuid
              ⟨o.1, r.result ++ [o.2], true⟩)
            (fun r => by simp [readDescValue]) (fun _ => rfl)
            (remoteChar.characteristic.descriptors.filter (·.uuid == uuid))
            { r with found := false }
        exact ⟨hkeys, hfound.trans (by simp)⟩
  exact ⟨fun uuid r => (hserve uuid r).1, fun uuid r => (hserve uuid r).2⟩

end RemoteServices

section Answers

variable {env : GattEnv} {p : GattProfile} {target : GattTarget} {address : Text}
  {service characteristic : BluetoothUuid} {remoteService : GattRemoteService}

theorem error_none_iff {found : Bool} :
    (if found then BluetoothError.none else .fail) = .none ↔ found = true := by
  cases found <;> simp

/-- A multiple read of characteristics answers its requests exactly when each of them is
listed once and the first with its UUID can be read, or one of them names nothing to read. -/
theorem readCharacteristics_answers_iff (htarget : p.targetAddress target = some address)
    (hservice : p.remote.findService address service = some remoteService)
    (requests : List BluetoothUuid) :
    (p.readCharacteristicsAt env target service requests).AnswersRequests requests
        remoteService.NamesReadable ↔
      ((∀ uuid ∈ requests, remoteService.NamesReadable uuid) →
        ∀ uuid ∈ requests, remoteService.timesListed uuid = 1) := by
  have hread : p.remote.readCharacteristics env address service requests =
      serve RemoteServices.ReadCharacteristics.found
        (RemoteServices.serveCharacteristic env address service remoteService) requests
        { state := p.remote } := by
    unfold RemoteServices.readCharacteristics
    rw [hservice, ← RemoteServices.readCharacteristicsLoop_eq_serve]
  unfold GattAnswer.AnswersRequests GattProfile.readCharacteristicsAt
  simp only [htarget, GattProfile.perform, GattAnswer.multiRead, hread, error_none_iff]
  refine ((RemoteServices.serves_characteristic env address service
    remoteService).answers_iff rfl rfl).trans (and_iff_left fun _ hall uuid huuid => ?_)
  exact GattRemoteService.namesReadable_of_timesListed (hall uuid huuid)

theorem readDescriptors_answers_iff (htarget : p.targetAddress target = some address)
    (hservice : p.remote.findService address service = some remoteService)
    (remoteChar : GattRemoteCharacteristic) (requests : List BluetoothUuid) :
    (p.readDescriptorsAt env target service characteristic requests).AnswersRequests requests
        remoteChar.NamesDescriptor ↔
      ((∀ uuid ∈ requests, remoteChar.NamesDescriptor uuid) →
        ∀ uuid ∈ requests, remoteService.timesDescribed characteristic uuid = 1) ∧
      (requests ≠ [] →
        (∀ uuid ∈ requests, remoteService.timesDescribed characteristic uuid ≠ 0) →
        ∀ uuid ∈ requests, remoteChar.NamesDescriptor uuid) := by
  unfold GattAnswer.AnswersRequests GattProfile.readDescriptorsAt GattRemoteService.timesDescribed
  simp only [htarget, GattProfile.perform, GattAnswer.multiRead, error_none_iff,
    RemoteServices.readDescriptors, hservice]
  cases hfind : remoteService.findCharacteristic characteristic with
  | none =>
      simp only [Bool.false_eq_true]
      exact unserved_answers_iff
  | some c =>
      by_cases hread : c.characteristic.isPropertySet .read = true
      · simp only [hread, if_true, RemoteServices.readDescriptorsLoop_eq_serve]
        exact (RemoteServices.serves_descriptor env address service characteristic
          c).answers_iff rfl rfl
      · simp only [hread, if_false, Bool.false_eq_true]
        exact unserved_answers_iff

end Answers

theorem multiRead_answers_iff {env : GattEnv} {p : GattProfile} {target : GattTarget}
    {address : Text} {service : BluetoothUuid} {remoteService : GattRemoteService}
    (htarget : p.targetAddress target = some address)
    (hservice : p.remote.findService address service = some remoteService) :
    (∀ requests,
      (p.readCharacteristicsAt env target service requests).AnswersRequests requests
          remoteService.NamesReadable ↔
        ((∀ uuid ∈ requests, remoteService.NamesReadable uuid) →
          ∀ uuid ∈ requests, remoteService.timesListed uuid = 1)) ∧
    ∀ remoteChar ∈ remoteService.gattRemoteCharacteristics, ∀ characteristic,
      remoteChar.characteristic.uuid = characteristic →
      remoteChar.characteristic.isPropertySet .read = true → ∀ requests,
        (p.readDescriptorsAt env target service characteristic requests).AnswersRequests requests
            remoteChar.NamesDescriptor ↔
          ((∀ uuid ∈ requests, remoteChar.NamesDescriptor uuid) →
            ∀ uuid ∈ requests, remoteService.timesDescribed characteristic uuid = 1) ∧
          (requests ≠ [] →
            (∀ uuid ∈ requests, remoteService.timesDescribed characteristic uuid ≠ 0) →
            ∀ uuid ∈ requests, remoteChar.NamesDescriptor uuid) :=
  ⟨readCharacteristics_answers_iff htarget hservice, fun remoteChar _ _ _ _ requests =>
    readDescriptors_answers_iff htarget hservice remoteChar requests⟩

def serviceOf (uuids : List BluetoothUuid) : GattRemoteService where
  objectPath := "/d/s".toList
  service := { characteristics := uuids.map fun uuid => { uuid, properties := [.read] } }
  gattRemoteCharacteristics := uuids.map fun uuid =>
    { objectPath := "/d/s/c".toList, characteristic := { uuid, properties := [.read] } }

def profileOf (uuids : List BluetoothUuid) : GattProfile where
  remote := { mDeviceServicesMap := AddressMap.empty.insert [] [serviceOf uuids] }

/-- Two of three characteristics are read, in another order than the service lists them. -/
theorem multiRead_answers_iff_two :
    ((profileOf ["2a00".toList, "2a01".toList, "2a04".toList]).readCharacteristicsAt emptyBus
      (.address []) [] ["2a04".toList, "2a00".toList]).AnswersRequests
        ["2a04".toList, "2a00".toList]
        (serviceOf ["2a00".toList, "2a01".toList, "2a04".toList]).NamesReadable :=
  have hservice :
      (profileOf ["2a00".toList, "2a01".toList, "2a04".toList]).remote.findService [] [] =
        some (serviceOf ["2a00".toList, "2a01".toList, "2a04".toList]) := rfl
  ((multiRead_answers_iff rfl hservice).1 _).mpr fun _ => by decide

/-- A characteristic whose UUID the service lists twice is read twice. -/
theorem multiRead_repeats_answer :
    ¬ ∀ env p target address service remoteService,
      GattProfile.targetAddress p target = some address →
      p.remote.findService address service = some remoteService →
      ∀ requests, (p.readCharacteristicsAt env target service requests).AnswersRequests requests
        remoteService.NamesReadable := by
  intro h
  obtain ⟨-, hentries⟩ := h emptyBus (profileOf ["2a00".toList, "2a00".toList]) (.address []) []
    [] (serviceOf ["2a00".toList, "2a00".toList]) rfl rfl ["2a00".toList]
  exact absurd (hentries (by decide)) (by decide)

end BluezSil.Gatt
