import BluezSil.LeFilterMatch

/-!
# Reads of advertised data by a discovery filter

The loops over the bytes of a filter index the advertised data of a device by the
length of the filter's data. Validation compares the lengths of the filter's own
vectors, so these reads stay inside the mask and the data of the filter. Nothing
bounds the reads of the device's data, and a loop over data that ends early leaves
the vector unless a byte before the end differs.
-/

namespace BluezSil.Adapter

open ByteAccess

/-- The bytes a comparison asks about: all without a mask, else those marked by a one. -/
def IsSignificant (mask : List UInt8) (j : ℕ) : Prop := mask = [] ∨ mask[j]? = some 1

def DiffersAt (data deviceData : List UInt8) (offset j : ℕ) : Prop :=
  ∃ d, deviceData[j + offset]? = some d ∧ data[j]? ≠ some d

def Lacks (mask data deviceData : List UInt8) (offset : ℕ) : Prop :=
  ∃ j < data.length, IsSignificant mask j ∧ deviceData.length ≤ j + offset

/-- From position `start` on, a significant byte without counterpart comes after one that
differs. -/
def DiffersFirst (sig : ℕ → Prop) (data deviceData : List UInt8) (offset start : ℕ) : Prop :=
  ∀ j, start ≤ j → j < data.length → sig j → deviceData.length ≤ j + offset →
    ∃ i, start ≤ i ∧ i < j ∧ sig i ∧ DiffersAt data deviceData offset i

section Loop

variable {isMarked : ℕ → Access Bool} {sig : ℕ → Prop} {data deviceData : List UInt8}
variable {offset start : ℕ}

theorem differsFirst_end (h : data.length ≤ start) :
    DiffersFirst sig data deviceData offset start := by
  intro j hge hj
  omega

theorem differsFirst_skip (hpresent : sig start → start + offset < deviceData.length)
    (hequal : sig start → ¬ DiffersAt data deviceData offset start) :
    DiffersFirst sig data deviceData offset start ↔
      DiffersFirst sig data deviceData offset (start + 1) := by
  constructor
  · intro h j hge hj hsig hmissing
    obtain ⟨i, hi, hij, hisig, hdiffers⟩ := h j (by omega) hj hsig hmissing
    have hne : i ≠ start := by
      rintro rfl
      exact hequal hisig hdiffers
    exact ⟨i, by omega, hij, hisig, hdiffers⟩
  · intro h j hge hj hsig hmissing
    have hne : j ≠ start := by
      rintro rfl
      have hlt := hpresent hsig
      omega
    obtain ⟨i, hi, hij, hisig, hdiffers⟩ := h j (by omega) hj hsig hmissing
    exact ⟨i, by omega, hij, hisig, hdiffers⟩

theorem differsFirst_of_differs (hsig : sig start)
    (hdiffers : DiffersAt data deviceData offset start) :
    DiffersFirst sig data deviceData offset start := by
  intro j hge _ _ hmissing
  obtain ⟨d, hd, _⟩ := hdiffers
  have hlt := (List.getElem?_eq_some_iff.mp hd).1
  exact ⟨start, le_refl _, by omega, hsig, ⟨d, hd, by assumption⟩⟩

theorem not_differsFirst (hlt : start < data.length) (hsig : sig start)
    (hmissing : deviceData.length ≤ start + offset) :
    ¬ DiffersFirst sig data deviceData offset start := by
  intro h
  obtain ⟨i, hi, hij, _⟩ := h start (le_refl _) hlt hsig hmissing
  omega

/-- The loop stays in bounds if and only if a byte differs before the device's data ends. -/
theorem checkBytes_inBounds_iff (hmark : ∀ j < data.length, Decides (isMarked j) (sig j))
    (left : ℕ) (hleft : left ≤ data.length) :
    InBounds (checkBytes isMarked data deviceData offset left) ↔
      DiffersFirst sig data deviceData offset (data.length - left) := by
  induction left with
  | zero => exact iff_of_true (inBounds_ok _) (differsFirst_end (by omega))
  | succ left ih =>
      set here := data.length - (left + 1) with hhere
      have hlt : here < data.length := by omega
      have hnext : data.length - left = here + 1 := by omega
      have ih := ih (by omega)
      rw [hnext] at ih
      obtain ⟨marked, hb, hiff⟩ := hmark here hlt
      rw [checkBytes, ← hhere, hb, bind_ok]
      cases marked with
      | false =>
          have hsig : ¬ sig here := fun hsig => absurd (hiff.mpr hsig) Bool.false_ne_true
          rw [if_neg Bool.false_ne_true, ih]
          exact (differsFirst_skip (fun h => absurd h hsig) (fun h => absurd h hsig)).symm
      | true =>
          have hsig : sig here := hiff.mp rfl
          have hbyte := List.getElem?_eq_getElem hlt
          rw [if_pos rfl, readAt_of_getElem? hbyte, bind_ok]
          by_cases hdev : here + offset < deviceData.length
          · have hdevByte := List.getElem?_eq_getElem hdev
            rw [readAt_of_getElem? hdevByte, bind_ok]
            by_cases heq : data[here] = deviceData[here + offset]
            · rw [if_pos heq, ih]
              refine (differsFirst_skip (fun _ => hdev) fun _ => ?_).symm
              rintro ⟨d, hd, hne⟩
              rw [hdevByte] at hd
              rw [hbyte, heq] at hne
              exact hne hd
            · rw [if_neg heq]
              refine iff_of_true (inBounds_ok _) (differsFirst_of_differs hsig ⟨_, hdevByte, ?_⟩)
              rw [hbyte]
              exact fun h => heq (Option.some.inj h)
          · have hnone : readAt deviceData (here + offset) = .error .outOfBounds := by
              unfold readAt
              rw [List.getElem?_eq_none (by omega)]
            rw [hnone]
            exact iff_of_false (not_inBounds_error _) (not_differsFirst hlt hsig (by omega))

theorem checkBytes_present (hmark : ∀ j < data.length, Decides (isMarked j) (sig j))
    (left : ℕ) (hleft : left ≤ data.length)
    (hmatch : checkBytes isMarked data deviceData offset left = .ok true) :
    ∀ j, data.length - left ≤ j → j < data.length → sig j → j + offset < deviceData.length := by
  induction left with
  | zero =>
      intro j hge hj
      omega
  | succ left ih =>
      set here := data.length - (left + 1) with hhere
      have hlt : here < data.length := by omega
      obtain ⟨marked, hb, hiff⟩ := hmark here hlt
      rw [checkBytes, ← hhere, hb, bind_ok] at hmatch
      intro j hge hj hsig
      by_cases hjh : j = here
      · subst hjh
        rw [hiff.mpr hsig, if_pos rfl] at hmatch
        obtain ⟨_, _, hrest⟩ := bind_eq_ok.mp hmatch
        obtain ⟨d, hd, _⟩ := bind_eq_ok.mp hrest
        unfold readAt at hd
        by_contra hend
        rw [List.getElem?_eq_none (by omega)] at hd
        cases hd
      · have hrest : checkBytes isMarked data deviceData offset left = .ok true := by
          cases marked with
          | false => rwa [if_neg Bool.false_ne_true] at hmatch
          | true =>
              rw [if_pos rfl] at hmatch
              obtain ⟨b, _, hafter⟩ := bind_eq_ok.mp hmatch
              obtain ⟨d, _, hcompared⟩ := bind_eq_ok.mp hafter
              split_ifs at hcompared
              · exact hcompared
              · cases hcompared
        exact ih (by omega) hrest j (by omega) hj hsig

end Loop

/-- The loop over the service data runs: the device advertises data under the UUID of the
filter, and the filter masks its data. -/
def ComparesServiceData (filter : BluetoothLeDiscoveryFilter) (device : Bluez5Device) : Prop :=
  convertToLowerCase device.serviceDataUuid = convertToLowerCase filter.serviceData.uuid ∧
  filter.serviceData.mask ≠ []

/-- The loops over the manufacturer data run: the device advertises a byte or more under the
id of the filter. -/
def ComparesManufacturerData (filter : BluetoothLeDiscoveryFilter) (device : Bluez5Device) :
    Prop :=
  ∃ high low first rest, device.manufactureData = high :: low :: first :: rest ∧
    UInt16.ofInt filter.manufacturerData.id = word16 low high

/-- Each comparison that runs meets a byte that differs before the device's data ends. -/
structure DiffersBeforeEnd (filter : BluetoothLeDiscoveryFilter) (device : Bluez5Device) :
    Prop where
  serviceData : ComparesServiceData filter device →
    DiffersFirst (IsSignificant filter.serviceData.mask) filter.serviceData.data
      device.scanRecord 0 0
  manufacturerData : ComparesManufacturerData filter device →
    DiffersFirst (IsSignificant filter.manufacturerData.mask) filter.manufacturerData.data
      device.manufactureData 2 0

/-- The byte vectors are read in bounds only, and there is no match where a significant byte
has no counterpart. -/
structure BytesInBounds (filter : BluetoothLeDiscoveryFilter) (device : Bluez5Device) :
    Prop where
  serviceData : InBounds (matchServiceData filter device)
  manufacturerData : InBounds (matchManufacturerData filter device)
  noMatch : Lacks filter.serviceData.mask filter.serviceData.data device.scanRecord 0 ∨
    Lacks filter.manufacturerData.mask filter.manufacturerData.data device.manufactureData 2 →
    ∀ answer, filterMatchCriteria filter device = .ok answer → answer = false

/-- What validation promises of the byte vectors of a filter. -/
structure MeasuredData (filter : BluetoothLeDiscoveryFilter) : Prop where
  serviceData : filter.serviceData.data ≠ [] → filter.serviceData.uuid ≠ []
  serviceMask : filter.serviceData.mask = [] ∨
    filter.serviceData.data.length = filter.serviceData.mask.length
  manufacturerData : filter.manufacturerData.data ≠ [] → filter.manufacturerData.id > 0
  manufacturerMask : filter.manufacturerData.mask = [] ∨
    filter.manufacturerData.data.length = filter.manufacturerData.mask.length

section Validated

variable {api : FilterApi} {filter accepted : BluetoothLeDiscoveryFilter} {type : UInt8}

theorem isServiceDataValid_measured {serviceData valid : ServiceData}
    (hset : serviceData.uuid ≠ []) (h : api.isServiceDataValid serviceData = some valid) :
    valid.uuid ≠ [] ∧ (valid.mask = [] ∨ valid.data.length = valid.mask.length) := by
  unfold FilterApi.isServiceDataValid at h
  by_cases hmask : serviceData.mask.isEmpty ∨ serviceData.data.length = serviceData.mask.length
  · rw [if_pos hmask] at h
    rw [List.isEmpty_iff] at hmask
    cases htype : api.getType serviceData.uuid with
    | unknown => simp [htype] at h
    | uuid16 =>
        simp only [htype, Option.some.injEq] at h
        subst h
        exact ⟨List.append_ne_nil_of_right_ne_nil _ (by decide), hmask⟩
    | uuid32 =>
        simp only [htype, Option.some.injEq] at h
        subst h
        exact ⟨List.append_ne_nil_of_right_ne_nil _ (by decide), hmask⟩
    | uuid128 =>
        simp only [htype, Option.some.injEq] at h
        subst h
        exact ⟨hset, hmask⟩
  · rw [if_neg hmask] at h
    cases h

theorem serviceDataType_measured {serviceData valid : ServiceData}
    (h : api.serviceDataType serviceData = some (valid, type)) :
    (valid.data ≠ [] → valid.uuid ≠ []) ∧
      (valid.mask = [] ∨ valid.data.length = valid.mask.length) := by
  unfold FilterApi.serviceDataType at h
  by_cases hset : ¬ serviceData.uuid.isEmpty = true ∧ serviceData.data.length > 0
  · simp only [if_pos hset, Option.map_eq_some_iff] at h
    obtain ⟨_, hvalid, heq⟩ := h
    cases heq
    have hne : serviceData.uuid ≠ [] := mt List.isEmpty_iff.mpr hset.1
    obtain ⟨huuid, hmask⟩ := isServiceDataValid_measured hne hvalid
    exact ⟨fun _ => huuid, hmask⟩
  · simp only [if_neg hset] at h
    split_ifs at h with hbad
    cases h
    simp only [not_or, not_and, not_not, List.isEmpty_iff] at hbad
    obtain ⟨_, hlong, hmask⟩ := hbad
    refine ⟨fun hdata huuid => hlong huuid (List.length_pos_of_ne_nil hdata), .inl hmask⟩

theorem manufacturerDataType_measured {manufacturerData : ManufacturerData}
    (h : manufacturerDataType manufacturerData = some type) :
    (manufacturerData.data ≠ [] → manufacturerData.id > 0) ∧
      (manufacturerData.mask = [] ∨
        manufacturerData.data.length = manufacturerData.mask.length) := by
  unfold manufacturerDataType at h
  simp only at h
  split_ifs at h with hset hmask hbad
  · rw [not_and, not_not, List.isEmpty_iff] at hmask
    exact ⟨fun _ => hset.1, or_iff_not_imp_left.mpr hmask⟩
  · simp only [not_or, not_and, not_not, List.isEmpty_iff] at hset hbad
    obtain ⟨_, hlong, hmask⟩ := hbad
    refine ⟨fun hdata => ?_, .inl hmask⟩
    have hpos := List.length_pos_of_ne_nil hdata
    by_contra hid
    exact hlong (by omega) hpos

theorem measured_of_isFilterValid (hapi : api.Documented)
    (hvalid : api.isFilterValid filter = some (accepted, type)) : MeasuredData accepted := by
  rcases isFilterValid_cases hvalid with
    ⟨hempty, rfl, _⟩ | ⟨_, _, _, _, _, _, _, hdata, hmanufacturer, rfl, _⟩
  · obtain ⟨_, _, _, hservice, _, hdata, hmask⟩ := (hapi.empty accepted).mp hempty
    exact ⟨fun h => absurd (by rw [hservice]) h, .inl (by rw [hservice]), fun h => absurd hdata h,
      .inl hmask⟩
  · obtain ⟨hservice, hserviceMask⟩ := serviceDataType_measured hdata
    obtain ⟨hmanufacturer, hmanufacturerMask⟩ := manufacturerDataType_measured hmanufacturer
    exact ⟨hservice, hserviceMask, hmanufacturer, hmanufacturerMask⟩

end Validated

section Marks

variable {mask data deviceData : List UInt8}

theorem isMarkedBy_decides (hmask : mask ≠ []) (hlen : data.length = mask.length) :
    ∀ j < data.length, Decides (isMarkedBy mask j) (IsSignificant mask j) := by
  intro j hj
  have hbyte := List.getElem?_eq_getElem (hlen ▸ hj)
  unfold isMarkedBy
  rw [readAt_of_getElem? hbyte, bind_ok]
  apply decides_ok
  rw [IsSignificant, hbyte, beq_iff_eq, Option.some_inj, or_iff_right hmask]

theorem marks_decide (hmask : mask = [] ∨ data.length = mask.length) :
    ∀ j < data.length, Decides
      ((if ¬ mask.isEmpty = true then isMarkedBy mask else fun _ => .ok true) j)
      (IsSignificant mask j) := by
  by_cases hempty : mask = []
  · intro j _
    rw [if_neg (not_not.mpr (List.isEmpty_iff.mpr hempty))]
    exact decides_ok (iff_of_true rfl (.inl hempty))
  · rw [if_pos (mt List.isEmpty_iff.mp hempty)]
    exact isMarkedBy_decides hempty (hmask.resolve_left hempty)

theorem Lacks.absurd {offset : ℕ} (h : Lacks mask data deviceData offset)
    (hpresent : ∀ j, 0 ≤ j → j < data.length → IsSignificant mask j →
      j + offset < deviceData.length) : False := by
  obtain ⟨j, hj, hsig, hmissing⟩ := h
  have hlt := hpresent j (Nat.zero_le j) hj hsig
  omega

theorem Lacks.data_ne_nil {offset : ℕ} (h : Lacks mask data deviceData offset) : data ≠ [] := by
  obtain ⟨j, hj, _⟩ := h
  exact List.ne_nil_of_length_pos (by omega)

end Marks

section Matching

variable {api : FilterApi} {filter accepted : BluetoothLeDiscoveryFilter} {type : UInt8}
variable {device : Bluez5Device}

theorem checkServiceData_inBounds_iff (h : MeasuredData accepted) :
    InBounds (checkServiceData accepted device) ↔
      (ComparesServiceData accepted device →
        DiffersFirst (IsSignificant accepted.serviceData.mask) accepted.serviceData.data
          device.scanRecord 0 0) := by
  unfold checkServiceData
  by_cases huuid : convertToLowerCase device.serviceDataUuid =
      convertToLowerCase accepted.serviceData.uuid
  · by_cases hmask : accepted.serviceData.mask = []
    · rw [if_pos huuid, if_neg (not_not.mpr (List.isEmpty_iff.mpr hmask))]
      exact iff_of_true (inBounds_ok _) fun hruns => absurd hmask hruns.2
    · rw [if_pos huuid, if_pos (mt List.isEmpty_iff.mp hmask),
        checkBytes_inBounds_iff (isMarkedBy_decides hmask (h.serviceMask.resolve_left hmask)) _
          (le_refl _), Nat.sub_self]
      exact ⟨fun hfirst _ => hfirst, fun hfirst => hfirst ⟨huuid, hmask⟩⟩
  · rw [if_neg huuid]
    exact iff_of_true (inBounds_ok _) fun hruns => absurd hruns.1 huuid

theorem checkServiceData_present (h : MeasuredData accepted)
    (hmatch : checkServiceData accepted device = .ok true) :
    ¬ Lacks accepted.serviceData.mask accepted.serviceData.data device.scanRecord 0 := by
  intro hlacks
  unfold checkServiceData at hmatch
  by_cases huuid : convertToLowerCase device.serviceDataUuid =
      convertToLowerCase accepted.serviceData.uuid
  · by_cases hmask : accepted.serviceData.mask = []
    · rw [if_pos huuid, if_neg (not_not.mpr (List.isEmpty_iff.mpr hmask))] at hmatch
      have heq : accepted.serviceData.data = device.scanRecord := by simpa using hmatch
      obtain ⟨j, hj, _, hmissing⟩ := hlacks
      rw [heq] at hj
      omega
    · rw [if_pos huuid, if_pos (mt List.isEmpty_iff.mp hmask)] at hmatch
      apply hlacks.absurd
      intro j _ hj hsig
      exact checkBytes_present (isMarkedBy_decides hmask (h.serviceMask.resolve_left hmask)) _
        (le_refl _) hmatch j (by omega) hj hsig
  · rw [if_neg huuid] at hmatch
    cases hmatch

/-- Data of two bytes or less is not compared, longer data if its first two are the id. -/
theorem checkManufacturerData_cases (filter : BluetoothLeDiscoveryFilter)
    (device : Bluez5Device) :
    ¬ ComparesManufacturerData filter device ∧ checkManufacturerData filter device = .ok false ∨
    ComparesManufacturerData filter device ∧
      checkManufacturerData filter device =
        checkBytes
          (if ¬ filter.manufacturerData.mask.isEmpty = true then
            isMarkedBy filter.manufacturerData.mask else fun _ => .ok true)
          filter.manufacturerData.data device.manufactureData 2
          filter.manufacturerData.data.length := by
  unfold ComparesManufacturerData checkManufacturerData
  rcases hdata : device.manufactureData with _ | ⟨high, _ | ⟨low, _ | ⟨first, rest⟩⟩⟩
  · left
    simp
  · left
    simp
  · left
    simp
  · have hlong : (high :: low :: first :: rest).length > 2 := by
      simp only [List.length_cons]
      omega
    dsimp only
    rw [if_pos hlong, readAt_of_getElem? (a := high) rfl, bind_ok,
      readAt_of_getElem? (a := low) rfl, bind_ok]
    by_cases hid : UInt16.ofInt filter.manufacturerData.id = word16 low high
    · rw [if_pos hid]
      exact .inr ⟨⟨high, low, first, rest, rfl, hid⟩, rfl⟩
    · rw [if_neg hid]
      refine .inl ⟨?_, rfl⟩
      rintro ⟨_, _, _, _, heq, hid'⟩
      cases heq
      exact hid hid'

theorem checkManufacturerData_inBounds_iff (h : MeasuredData accepted) :
    InBounds (checkManufacturerData accepted device) ↔
      (ComparesManufacturerData accepted device →
        DiffersFirst (IsSignificant accepted.manufacturerData.mask)
          accepted.manufacturerData.data device.manufactureData 2 0) := by
  rcases checkManufacturerData_cases accepted device with ⟨hskip, heq⟩ | ⟨hruns, heq⟩
  · rw [heq]
    exact iff_of_true (inBounds_ok _) fun hruns => absurd hruns hskip
  · rw [heq, checkBytes_inBounds_iff (marks_decide h.manufacturerMask) _ (le_refl _),
      Nat.sub_self]
    exact ⟨fun hfirst _ => hfirst, fun hfirst => hfirst hruns⟩

theorem checkManufacturerData_present (h : MeasuredData accepted)
    (hmatch : checkManufacturerData accepted device = .ok true) :
    ¬ Lacks accepted.manufacturerData.mask accepted.manufacturerData.data
      device.manufactureData 2 := by
  intro hlacks
  rcases checkManufacturerData_cases accepted device with ⟨_, heq⟩ | ⟨_, heq⟩
  · rw [heq] at hmatch
    cases hmatch
  · rw [heq] at hmatch
    apply hlacks.absurd
    intro j _ hj hsig
    exact checkBytes_present (marks_decide h.manufacturerMask) _ (le_refl _) hmatch j (by omega)
      hj hsig

theorem matchServiceData_inBounds_iff (h : MeasuredData accepted) :
    InBounds (matchServiceData accepted device) ↔
      (ComparesServiceData accepted device →
        DiffersFirst (IsSignificant accepted.serviceData.mask) accepted.serviceData.data
          device.scanRecord 0 0) := by
  unfold matchServiceData
  by_cases hdata : accepted.serviceData.data = []
  · rw [if_neg fun hset => hset.2 (List.isEmpty_iff.mpr hdata)]
    refine iff_of_true (inBounds_ok _) fun _ => ?_
    rw [hdata]
    exact differsFirst_end (Nat.le_refl 0)
  · rw [if_pos ⟨mt List.isEmpty_iff.mp (h.serviceData hdata), mt List.isEmpty_iff.mp hdata⟩]
    exact checkServiceData_inBounds_iff h

theorem matchManufacturerData_inBounds_iff (h : MeasuredData accepted) :
    InBounds (matchManufacturerData accepted device) ↔
      (ComparesManufacturerData accepted device →
        DiffersFirst (IsSignificant accepted.manufacturerData.mask)
          accepted.manufacturerData.data device.manufactureData 2 0) := by
  unfold matchManufacturerData
  by_cases hdata : accepted.manufacturerData.data = []
  · rw [if_neg fun hset => hset.2 (List.isEmpty_iff.mpr hdata)]
    refine iff_of_true (inBounds_ok _) fun _ => ?_
    rw [hdata]
    exact differsFirst_end (Nat.le_refl 0)
  · rw [if_pos ⟨h.manufacturerData hdata, mt List.isEmpty_iff.mp hdata⟩]
    exact checkManufacturerData_inBounds_iff h

theorem filterMatchCriteria_present (h : MeasuredData accepted)
    (hmatch : filterMatchCriteria accepted device = .ok true) :
    ¬ Lacks accepted.serviceData.mask accepted.serviceData.data device.scanRecord 0 ∧
    ¬ Lacks accepted.manufacturerData.mask accepted.manufacturerData.data
      device.manufactureData 2 := by
  simp only [filterMatchCriteria, bind_eq_ok, Except.ok.injEq, Bool.and_eq_true] at hmatch
  obtain ⟨_, _, _, hservice, _, hmanufacturer, ⟨⟨⟨_, _⟩, _⟩, rfl⟩, rfl⟩ := hmatch
  constructor
  · intro hlacks
    have hdata := hlacks.data_ne_nil
    rw [matchServiceData, if_pos ⟨mt List.isEmpty_iff.mp (h.serviceData hdata),
      mt List.isEmpty_iff.mp hdata⟩] at hservice
    exact checkServiceData_present h hservice hlacks
  · intro hlacks
    have hdata := hlacks.data_ne_nil
    rw [matchManufacturerData, if_pos ⟨h.manufacturerData hdata,
      mt List.isEmpty_iff.mp hdata⟩] at hmanufacturer
    exact checkManufacturerData_present h hmanufacturer hlacks

theorem matchServiceUuid_inBounds (hapi : api.Documented)
    (hvalid : api.isFilterValid filter = some (accepted, type))
    (hdev : ∀ uuid ∈ device.uuids, IsUuid128 uuid) :
    InBounds (matchServiceUuid accepted device) := by
  by_cases hset : accepted.serviceUuid.uuid = []
  · rw [matchServiceUuid, if_neg (not_not.mpr (List.isEmpty_iff.mpr hset))]
    exact inBounds_ok _
  · have hwritten : filter.serviceUuid.uuid ≠ [] := by
      intro hempty
      rcases isFilterValid_cases hvalid with
        ⟨_, rfl, _⟩ | ⟨_, _, _, _, _, _, huuid, _, _, rfl, _⟩
      · exact hset hempty
      · rw [FilterApi.serviceUuidType,
          if_neg (not_not.mpr (List.isEmpty_iff.mpr hempty))] at huuid
        split_ifs at huuid
        cases huuid
        exact hset hempty
    have h := validated_of_isFilterValid hapi hvalid hwritten
    by_cases hmask : filter.serviceUuid.mask = []
    · have hdecides : Decides (matchServiceUuid accepted device) _ :=
        matchServiceUuid_unmasked hapi h hmask
      obtain ⟨b, hb, _⟩ := hdecides
      exact ⟨b, hb⟩
    · obtain ⟨b, hb, _⟩ := matchServiceUuid_masked hapi h hmask hdev
      exact ⟨b, hb⟩

theorem filterMatchCriteria_inBounds_iff (hapi : api.Documented)
    (hvalid : api.isFilterValid filter = some (accepted, type))
    (hdev : ∀ uuid ∈ device.uuids, IsUuid128 uuid) :
    InBounds (filterMatchCriteria accepted device) ↔ DiffersBeforeEnd accepted device := by
  have h := measured_of_isFilterValid hapi hvalid
  obtain ⟨b, hb⟩ := matchServiceUuid_inBounds hapi hvalid hdev
  unfold filterMatchCriteria
  dsimp only
  rw [hb, bind_ok, inBounds_bind]
  constructor
  · rintro ⟨c, hc, hrest⟩
    obtain ⟨d, hd, _⟩ := (inBounds_bind _ _).mp hrest
    exact ⟨(matchServiceData_inBounds_iff h).mp ⟨c, hc⟩,
      (matchManufacturerData_inBounds_iff h).mp ⟨d, hd⟩⟩
  · intro hfirst
    obtain ⟨c, hc⟩ := (matchServiceData_inBounds_iff h).mpr hfirst.serviceData
    obtain ⟨d, hd⟩ := (matchManufacturerData_inBounds_iff h).mpr hfirst.manufacturerData
    refine ⟨c, hc, ?_⟩
    rw [hd, bind_ok]
    exact inBounds_ok _

/-- The match reads inside the byte vectors if and only if each comparison that runs meets a
difference before the device's data ends. On a device whose service UUIDs are full ones this
decides whether the whole match stays in bounds. -/
theorem bytesInBounds_iff (hapi : api.Documented)
    (hvalid : api.isFilterValid filter = some (accepted, type)) (device : Bluez5Device) :
    (BytesInBounds accepted device ↔ DiffersBeforeEnd accepted device) ∧
      ((∀ uuid ∈ device.uuids, IsUuid128 uuid) →
        (InBounds (filterMatchCriteria accepted device) ↔ DiffersBeforeEnd accepted device)) := by
  have h := measured_of_isFilterValid hapi hvalid
  refine ⟨?_, filterMatchCriteria_inBounds_iff hapi hvalid⟩
  constructor
  · intro hin
    exact ⟨(matchServiceData_inBounds_iff h).mp hin.serviceData,
      (matchManufacturerData_inBounds_iff h).mp hin.manufacturerData⟩
  · intro hfirst
    refine ⟨(matchServiceData_inBounds_iff h).mpr hfirst.serviceData,
      (matchManufacturerData_inBounds_iff h).mpr hfirst.manufacturerData, ?_⟩
    intro hlacks answer hanswer
    cases answer with
    | false => rfl
    | true =>
        obtain ⟨hservice, hmanufacturer⟩ := filterMatchCriteria_present h hanswer
        exact absurd hlacks (not_or.mpr ⟨hservice, hmanufacturer⟩)

end Matching

def manufacturerFilter (data : List UInt8) : BluetoothLeDiscoveryFilter :=
  { manufacturerData := ⟨76, data, []⟩ }

theorem manufacturerFilter_valid :
    formApi.isFilterValid (manufacturerFilter [2, 21, 7]) =
      some (manufacturerFilter [2, 21, 7], filterManufacturerData) := by
  decide

/-- An advertisement that ends early but differs before its end. -/
theorem bytesInBounds_short :
    BytesInBounds (manufacturerFilter [2, 21, 7]) { manufactureData := [0, 76, 9] } := by
  apply (bytesInBounds_iff formApi_documented manufacturerFilter_valid _).1.mpr
  constructor
  · intro hruns
    exact absurd rfl hruns.2
  · intro _ j _ _ _ hmissing
    refine ⟨0, le_refl 0, ?_, .inl rfl, 9, rfl, by decide⟩
    simp only [List.length_cons, List.length_nil] at hmissing
    omega

/-- An advertisement that agrees with the filter up to its end. -/
theorem not_bytesInBounds :
    ¬ ∀ filter accepted type device,
      formApi.isFilterValid filter = some (accepted, type) → BytesInBounds accepted device := by
  intro h
  have hin := h _ _ _ { manufactureData := [0, 76, 2] } manufacturerFilter_valid
  have hread : matchManufacturerData (manufacturerFilter [2, 21, 7])
      { manufactureData := [0, 76, 2] } = .error .outOfBounds := by
    decide
  exact not_inBounds_error .outOfBounds (hread ▸ hin.manufacturerData)

end BluezSil.Adapter
