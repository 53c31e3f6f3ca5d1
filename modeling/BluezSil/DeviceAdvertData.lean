import BluezSil.DeviceProperties
import BluezSil.UpdateHistory

/-!
# Advertised data kept by a device

ManufacturerData and ServiceData are read into vectors that no update clears. So a
device holds the bytes of every update so far, one after the other, where the lists of
UUIDs and of MAP instances are cleared before they are filled.
-/

namespace BluezSil.Device

open UpdateHistory

namespace DeviceFields

def getManufactureData (device : DeviceFields) : List UInt8 := device.mManufacturerData

def getServiceDataUuid (device : DeviceFields) : Text := device.mServiceData.mServiceDataUuid

def getScanRecord (device : DeviceFields) : List UInt8 := device.mServiceData.mScanRecord

/-- The fields after a history of dictionaries, the first of which the constructor reads. -/
def afterDictionaries (platform : Platform) (dictionaries : List (List DeviceProperty)) :
    DeviceFields :=
  dictionaries.foldl (fun device properties =>
    (device.handlePropertiesChanged platform properties).1) (initial platform)

end DeviceFields

namespace DeviceProperty

def manufacturerEntries : DeviceProperty → Option (List (UInt16 × List UInt8))
  | manufacturerData entries => some entries
  | _ => none

def serviceEntries : DeviceProperty → Option (List (Text × List UInt8))
  | serviceData entries => some entries
  | _ => none

def serviceUuid (property : DeviceProperty) : Option Text :=
  (property.serviceEntries.bind List.head?).map Prod.fst

/-- A repetition of the property adds no bytes. -/
def CarriesNoBytes : DeviceProperty → Prop
  | manufacturerData entries => entries = []
  | serviceData entries => ∀ entry ∈ entries.head?, entry.2 = []
  | _ => True

end DeviceProperty

def manufacturerUpdates (dictionaries : List (List DeviceProperty)) :
    List (List (UInt16 × List UInt8)) :=
  dictionaries.flatten.filterMap DeviceProperty.manufacturerEntries

def serviceUpdates (dictionaries : List (List DeviceProperty)) :
    List (List (Text × List UInt8)) :=
  dictionaries.flatten.filterMap DeviceProperty.serviceEntries

def serviceUuids (dictionaries : List (List DeviceProperty)) : List Text :=
  dictionaries.flatten.filterMap DeviceProperty.serviceUuid

def serviceBytes (entries : List (Text × List UInt8)) : List UInt8 := entries.head?.elim [] Prod.snd

/-- The device holds the first entry of the latest update of each property. -/
def LatestWins (platform : Platform) (dictionaries : List (List DeviceProperty)) : Prop :=
  let device := DeviceFields.afterDictionaries platform dictionaries
  device.getManufactureData =
    latest platform.manufacturerBytes (manufacturerUpdates dictionaries) ∧
  device.getServiceDataUuid =
    ((serviceUpdates dictionaries).getLast?.bind List.head?).elim [] Prod.fst ∧
  device.getScanRecord = latest serviceBytes (serviceUpdates dictionaries)

def RepeatsAlike (platform : Platform) (dictionaries : List (List DeviceProperty))
    (update : DeviceProperty) : Prop :=
  let once := DeviceFields.afterDictionaries platform (dictionaries ++ [[update]])
  let twice := DeviceFields.afterDictionaries platform (dictionaries ++ [[update], [update]])
  twice.getManufactureData = once.getManufactureData ∧
  twice.getServiceDataUuid = once.getServiceDataUuid ∧
  twice.getScanRecord = once.getScanRecord

section Histories

variable {platform : Platform} {dictionaries : List (List DeviceProperty)}

theorem getManufactureData_afterProperty (device : DeviceFields) (property : DeviceProperty) :
    (device.afterProperty platform property).getManufactureData =
      device.getManufactureData ++
        property.manufacturerEntries.elim [] platform.manufacturerBytes := by
  cases property with
  | name value => rw [afterProperty_name]; exact (List.append_nil _).symm
  | manufacturerData entries => rfl
  | _ => exact (List.append_nil _).symm

theorem getScanRecord_afterProperty (device : DeviceFields) (property : DeviceProperty) :
    (device.afterProperty platform property).getScanRecord =
      device.getScanRecord ++ property.serviceEntries.elim [] serviceBytes := by
  cases property with
  | name value => rw [afterProperty_name]; exact (List.append_nil _).symm
  | serviceData entries =>
      cases entries with
      | nil => exact (List.append_nil _).symm
      | cons entry rest => rfl
  | _ => exact (List.append_nil _).symm

theorem getServiceDataUuid_afterProperty (device : DeviceFields) (property : DeviceProperty) :
    (device.afterProperty platform property).getServiceDataUuid =
      property.serviceUuid.getD device.getServiceDataUuid := by
  cases property with
  | name value => rw [afterProperty_name]; rfl
  | serviceData entries =>
      cases entries with
      | nil => rfl
      | cons entry rest => rfl
  | _ => rfl

theorem afterDictionaries_eq :
    DeviceFields.afterDictionaries platform dictionaries =
      dictionaries.flatten.foldl (DeviceFields.afterProperty platform)
        (DeviceFields.initial platform) := by
  unfold DeviceFields.afterDictionaries
  simp only [handlePropertiesChanged_fst, List.foldl_flatten]

/-- The device holds what every update of its history carried. -/
theorem getManufactureData_history :
    (DeviceFields.afterDictionaries platform dictionaries).getManufactureData =
      (manufacturerUpdates dictionaries).flatMap platform.manufacturerBytes := by
  rw [afterDictionaries_eq]
  exact foldl_appended _ getManufactureData_afterProperty _ _

theorem getScanRecord_history :
    (DeviceFields.afterDictionaries platform dictionaries).getScanRecord =
      (serviceUpdates dictionaries).flatMap serviceBytes := by
  rw [afterDictionaries_eq]
  exact foldl_appended _ getScanRecord_afterProperty _ _

theorem getServiceDataUuid_history :
    (DeviceFields.afterDictionaries platform dictionaries).getServiceDataUuid =
      (serviceUuids dictionaries).getLast?.getD [] := by
  rw [afterDictionaries_eq]
  exact foldl_replaced _ getServiceDataUuid_afterProperty _ _

theorem manufacturerBytes_eq_nil {entries : List (UInt16 × List UInt8)} :
    platform.manufacturerBytes entries = [] ↔ entries = [] := by
  cases entries with
  | nil => exact iff_of_true rfl rfl
  | cons entry rest =>
      refine iff_of_false (fun h => ?_) (List.cons_ne_nil _ _)
      have hid := (List.append_eq_nil_iff.mp h).1
      unfold Platform.companyIdBytes at hid
      split_ifs at hid

theorem serviceBytes_eq_nil {entries : List (Text × List UInt8)} :
    serviceBytes entries = [] ↔ ∀ entry ∈ entries.head?, entry.2 = [] := by
  cases entries with
  | nil => exact iff_of_true rfl fun _ h => nomatch h
  | cons entry rest =>
      refine ⟨fun h e he => ?_, fun h => h entry rfl⟩
      cases he
      exact h

theorem serviceUuids_eq :
    serviceUuids dictionaries =
      (serviceUpdates dictionaries).filterMap fun entries => entries.head?.map Prod.fst := by
  unfold serviceUuids serviceUpdates
  rw [List.filterMap_filterMap]
  congr 1
  funext property
  unfold DeviceProperty.serviceUuid
  cases property.serviceEntries with
  | none => rfl
  | some entries => rfl

theorem getServiceDataUuid_latest_iff :
    (serviceUuids dictionaries).getLast?.getD [] =
        ((serviceUpdates dictionaries).getLast?.bind List.head?).elim [] Prod.fst ↔
      ∀ uuid, (serviceUuids dictionaries).getLast? = some uuid → uuid = [] ∨
        ∃ entries, (serviceUpdates dictionaries).getLast? = some entries ∧ entries ≠ [] := by
  rw [serviceUuids_eq]
  rcases List.eq_nil_or_concat (serviceUpdates dictionaries) with hnone | ⟨earlier, entries, heq⟩
  · rw [hnone]
    exact iff_of_true rfl fun _ h => nomatch h
  · rw [heq, List.concat_eq_append, List.getLast?_concat, List.filterMap_append]
    cases entries with
    | cons entry rest =>
        have hlast : (earlier.filterMap (fun entries => entries.head?.map Prod.fst) ++
            [entry.1]).getLast? = some entry.1 := List.getLast?_concat
        refine iff_of_true ?_ fun _ _ => .inr ⟨_, rfl, List.cons_ne_nil _ _⟩
        exact congrArg (Option.getD · []) hlast
    | nil =>
        have hempty : ([[]] : List (List (Text × List UInt8))).filterMap
            (fun entries => entries.head?.map Prod.fst) = [] := rfl
        rw [hempty, List.append_nil]
        cases (earlier.filterMap fun entries => entries.head?.map Prod.fst).getLast? with
        | none => exact iff_of_true rfl fun _ h => nomatch h
        | some uuid =>
            refine ⟨fun h other hother => .inl ?_, fun h => ?_⟩
            · cases hother
              exact h
            · obtain hnil | ⟨_, hlatest, hne⟩ := h uuid rfl
              · exact hnil
              · cases hlatest
                exact absurd rfl hne

theorem latestWins_iff :
    LatestWins platform dictionaries ↔
      (∀ entries ∈ (manufacturerUpdates dictionaries).dropLast, entries = []) ∧
      (∀ uuid, (serviceUuids dictionaries).getLast? = some uuid → uuid = [] ∨
        ∃ entries, (serviceUpdates dictionaries).getLast? = some entries ∧ entries ≠ []) ∧
      ∀ entries ∈ (serviceUpdates dictionaries).dropLast, ∀ entry ∈ entries.head?,
        entry.2 = [] := by
  unfold LatestWins
  dsimp only
  rw [getManufactureData_history, getScanRecord_history, getServiceDataUuid_history,
    flatMap_eq_latest_iff, flatMap_eq_latest_iff, getServiceDataUuid_latest_iff]
  simp only [manufacturerBytes_eq_nil, serviceBytes_eq_nil]

theorem afterDictionaries_concat (update : DeviceProperty) :
    DeviceFields.afterDictionaries platform (dictionaries ++ [[update]]) =
      (DeviceFields.afterDictionaries platform dictionaries).afterProperty platform update := by
  unfold DeviceFields.afterDictionaries
  rw [List.foldl_append]
  exact handlePropertiesChanged_fst

theorem repeatsAlike_iff (update : DeviceProperty) :
    RepeatsAlike platform dictionaries update ↔ update.CarriesNoBytes := by
  unfold RepeatsAlike
  dsimp only
  have htwice : dictionaries ++ [[update], [update]] =
      (dictionaries ++ [[update]]) ++ [[update]] := by
    rw [List.append_assoc]
    rfl
  rw [htwice, afterDictionaries_concat]
  generalize honce :
    DeviceFields.afterDictionaries platform (dictionaries ++ [[update]]) = once
  have huuid : (once.afterProperty platform update).getServiceDataUuid =
      once.getServiceDataUuid := by
    rw [← honce, afterDictionaries_concat, getServiceDataUuid_afterProperty,
      getServiceDataUuid_afterProperty]
    cases update.serviceUuid with
    | none => rfl
    | some uuid => rfl
  rw [getManufactureData_afterProperty, getScanRecord_afterProperty, List.append_right_eq_self,
    List.append_right_eq_self]
  cases update with
  | manufacturerData entries =>
      exact ⟨fun h => manufacturerBytes_eq_nil.mp h.1,
        fun h => ⟨manufacturerBytes_eq_nil.mpr h, huuid, rfl⟩⟩
  | serviceData entries =>
      exact ⟨fun h => serviceBytes_eq_nil.mp h.2.2,
        fun h => ⟨rfl, huuid, serviceBytes_eq_nil.mpr h⟩⟩
  | _ => exact iff_of_true ⟨rfl, huuid, rfl⟩ trivial

end Histories

/-- After a history the device holds the latest advertisement if and only if the updates before
the latest one of each property carried no bytes, and the UUID is of that update or empty. An
update that comes twice is held once if and only if it carries no bytes. -/
theorem latest_advertisement_iff (platform : Platform)
    (dictionaries : List (List DeviceProperty)) :
    (LatestWins platform dictionaries ↔
      (∀ entries ∈ (manufacturerUpdates dictionaries).dropLast, entries = []) ∧
      (∀ uuid, (serviceUuids dictionaries).getLast? = some uuid → uuid = [] ∨
        ∃ entries, (serviceUpdates dictionaries).getLast? = some entries ∧ entries ≠ []) ∧
      ∀ entries ∈ (serviceUpdates dictionaries).dropLast, ∀ entry ∈ entries.head?,
        entry.2 = []) ∧
    ∀ update, (RepeatsAlike platform dictionaries update ↔ update.CarriesNoBytes) :=
  ⟨latestWins_iff, repeatsAlike_iff⟩

/-- The same manufacturer data twice: the device holds eight bytes where the advertisement
has four. -/
theorem advertisement_accumulates :
    ¬ ∀ (platform : Platform) (dictionaries : List (List DeviceProperty)),
      LatestWins platform dictionaries ∧
        ∀ update, RepeatsAlike platform dictionaries update := by
  intro h
  have hlatest := (h littleEndianPlatform [[.manufacturerData [(0x004C, [2, 21])]],
    [.manufacturerData [(0x004C, [2, 21])]]]).1.1
  exact absurd hlatest (by decide)

end BluezSil.Device
