import BluezSil.GattLocalOperations

/-!
# The objects stored under the ids of the local GATT server

Each place in the maps of the server has the number of the object stored there. A completion
that reports an id enters its object at one place, where it stays only if there was none. A
removal takes away what is below the application or the service and leaves the other places
alone.
-/

namespace BluezSil.Gatt

namespace LocalPath

def serviceId : LocalPath → UInt16
  | service _ serviceId => serviceId
  | characteristic _ serviceId _ => serviceId
  | descriptor _ serviceId _ _ => serviceId

def ownId : LocalPath → UInt16
  | service _ serviceId => serviceId
  | characteristic _ _ charId => charId
  | descriptor _ _ _ descId => descId

end LocalPath

def Registration.place : Registration → Option (LocalPath × ℕ)
  | .addService object appId serviceId => some (.service appId serviceId, object.number)
  | .addCharacteristic object chars charId =>
    some (.characteristic chars.appId chars.serviceId charId, object.number)
  | .addDescriptor object (some descs) descId =>
    some (.descriptor descs.appId descs.serviceId descs.charId descId, object.number)
  | _ => none

namespace LocalServer

variable {s t : LocalServer}

def storedNumber (s : LocalServer) : LocalPath → Option ℕ
  | .service a v => (s.findService a v).map LocalService.number
  | .characteristic a v c =>
    (s.findCharacteristic a v c).map fun characteristic => characteristic.mCharObject.number
  | .descriptor a v c d =>
    (s.findCharacteristic a v c).bind fun characteristic =>
      (characteristic.mDescriptors.lookup d).map fun descriptor => descriptor.mDescObject.number

@[simp] theorem storedNumber_service (s : LocalServer) (a v : UInt16) :
    s.storedNumber (.service a v) = (s.findService a v).map LocalService.number := rfl

@[simp] theorem storedNumber_characteristic (s : LocalServer) (a v c : UInt16) :
    s.storedNumber (.characteristic a v c) =
      (s.findCharacteristic a v c).map fun characteristic =>
        characteristic.mCharObject.number := rfl

@[simp] theorem storedNumber_descriptor (s : LocalServer) (a v c d : UInt16) :
    s.storedNumber (.descriptor a v c d) =
      (s.findCharacteristic a v c).bind fun characteristic =>
        (characteristic.mDescriptors.lookup d).map fun descriptor =>
          descriptor.mDescObject.number := rfl

/-- What is stored at a place depends on what is found under the ids of its service only. -/
theorem storedNumber_congr {q : LocalPath}
    (h : t.findService q.appId q.serviceId = s.findService q.appId q.serviceId) :
    t.storedNumber q = s.storedNumber q := by
  have hchar : ∀ c, t.findCharacteristic q.appId q.serviceId c =
      s.findCharacteristic q.appId q.serviceId c := by
    intro c
    unfold findCharacteristic
    rw [h]
  cases q with
  | service a v => exact congrArg (Option.map _) h
  | characteristic a v c => exact congrArg (Option.map _) (hchar c)
  | descriptor a v c d => exact congrArg (Option.bind · _) (hchar c)

/-! ### Completions -/

/-- An object is entered at a place unless there is one. -/
def Emplaced (s t : LocalServer) (p : LocalPath) (n : ℕ) : Prop :=
  ∀ q, t.storedNumber q = if q = p then some ((s.storedNumber p).getD n) else s.storedNumber q

variable {done : LocalServer × List Answer} {object : ObjectSkeleton} {a v c d : UInt16}

theorem complete_addService_emplaced (h : s.complete (.addService object a v) none = some done)
    (ha : a ∈ s.mGattLocalApplications) :
    Emplaced s done.1 (.service a v) object.number ∧ done.2 = [.added .none v] := by
  have hchars := findCharacteristic_complete_addService h
  obtain ⟨app, happ⟩ := KeyedMap.exists_lookup ha
  unfold complete at h
  simp only [happ] at h
  cases h
  refine ⟨?_, rfl⟩
  intro q
  cases q with
  | service a' v' =>
      simp only [storedNumber_service]
      rw [findService_insert (s := s) rfl]
      by_cases ha' : a' = a
      · subst ha'
        have hfind : ∀ v, s.findService a' v = app.mGattLocalServices.lookup v := by
          intro v
          unfold findService
          rw [happ, Option.bind_some]
        rw [if_pos rfl, KeyedMap.lookup_emplace, hfind, hfind]
        by_cases hv : v' = v
        · subst hv
          cases app.mGattLocalServices.lookup v' <;> simp
        · simp [hv]
      · simp [ha']
  | characteristic a' v' c' =>
      rw [if_neg (by simp)]
      exact congrArg (Option.map _) (hchars a' v' c')
  | descriptor a' v' c' d' =>
      rw [if_neg (by simp)]
      exact congrArg (Option.bind · _) (hchars a' v' c')

theorem findService_modifyService_number (s : LocalServer) (a v a' v' : UInt16)
    {f : LocalService → LocalService} (hf : ∀ service, (f service).number = service.number) :
    ((s.modifyService a v f).findService a' v').map LocalService.number =
      (s.findService a' v').map LocalService.number := by
  by_cases hplace : a' = a ∧ v' = v
  · obtain ⟨rfl, rfl⟩ := hplace
    rw [findService_modifyService_self, Option.map_map]
    exact congrArg (Option.map · _) (funext hf)
  · rw [findService_modifyService_ne hplace]

theorem complete_addCharacteristic_emplaced {chars : CharsRef}
    (h : s.complete (.addCharacteristic object chars c) none = some done) :
    Emplaced s done.1 (.characteristic chars.appId chars.serviceId c) object.number ∧
      done.2 = [.added .none c] := by
  unfold complete at h
  dsimp only at h
  split_ifs at h with hchars
  cases h
  obtain ⟨service, hservice, _⟩ := hchars
  refine ⟨?_, rfl⟩
  have hfind := findCharacteristic_insert hservice c ⟨object, ∅⟩
  intro q
  cases q with
  | service a' v' =>
      rw [if_neg (by simp)]
      exact findService_modifyService_number s _ _ _ _ fun _ => rfl
  | characteristic a' v' c' =>
      refine (congrArg (Option.map _) (hfind a' v' c')).trans ?_
      by_cases hplace : a' = chars.appId ∧ v' = chars.serviceId ∧ c' = c
      · obtain ⟨rfl, rfl, rfl⟩ := hplace
        cases hold : s.findCharacteristic chars.appId chars.serviceId c' <;> simp [hold]
      · simp [hplace]
  | descriptor a' v' c' d' =>
      rw [if_neg (by simp)]
      refine (congrArg (Option.bind · _) (hfind a' v' c')).trans ?_
      by_cases hplace : a' = chars.appId ∧ v' = chars.serviceId ∧ c' = c
      · obtain ⟨rfl, rfl, rfl⟩ := hplace
        cases hold : s.findCharacteristic chars.appId chars.serviceId c' <;> simp [hold]
      · simp [hplace]

theorem complete_addDescriptor_emplaced {descs : DescsRef}
    (h : s.complete (.addDescriptor object (some descs) d) none = some done) :
    Emplaced s done.1 (.descriptor descs.appId descs.serviceId descs.charId d) object.number ∧
      done.2 = [.added .none d] := by
  unfold complete at h
  dsimp only at h
  split_ifs at h with hdescs
  cases h
  obtain ⟨characteristic, hchar, _⟩ := hdescs
  refine ⟨?_, rfl⟩
  intro q
  cases q with
  | service a' v' =>
      rw [if_neg (by simp)]
      exact findService_modifyService_number s _ _ _ _ fun _ => rfl
  | characteristic a' v' c' =>
      rw [if_neg (by simp)]
      simp only [storedNumber_characteristic]
      by_cases hplace : a' = descs.appId ∧ v' = descs.serviceId ∧ c' = descs.charId
      · obtain ⟨rfl, rfl, rfl⟩ := hplace
        rw [findCharacteristic_modifyCharacteristic_self, Option.map_map]
        rfl
      · rw [findCharacteristic_modifyCharacteristic_ne hplace]
  | descriptor a' v' c' d' =>
      simp only [storedNumber_descriptor]
      by_cases hplace : a' = descs.appId ∧ v' = descs.serviceId ∧ c' = descs.charId
      · obtain ⟨rfl, rfl, rfl⟩ := hplace
        rw [findCharacteristic_modifyCharacteristic_self, hchar, Option.map_some,
          Option.bind_some, Option.bind_some]
        dsimp only
        rw [KeyedMap.lookup_emplace]
        by_cases hd : d' = d
        · subst hd
          cases characteristic.mDescriptors.lookup d' <;> simp
        · simp [hd]
      · rw [findCharacteristic_modifyCharacteristic_ne hplace]
        have hne : LocalPath.descriptor a' v' c' d' ≠
            .descriptor descs.appId descs.serviceId descs.charId d := by
          rintro heq
          cases heq
          exact hplace ⟨rfl, rfl, rfl⟩
        rw [if_neg hne]

/-! ### Applications and removals -/

theorem findService_eq {app : LocalApplication} (h : s.mGattLocalApplications.lookup a = some app)
    (v : UInt16) : s.findService a v = app.mGattLocalServices.lookup v := by
  unfold findService
  rw [h, Option.bind_some]

theorem storedNumber_addApplication (s : LocalServer) (type : ApplicationType) (q : LocalPath) :
    (s.addApplication type).1.storedNumber q = s.storedNumber q := by
  apply storedNumber_congr
  cases type with
  | client => rfl
  | server =>
      by_cases hmem : s.nextAppId ∈ s.mGattLocalApplications
      · exact findService_congr (if_pos hmem)
      · rw [findService_insert (s := s) (if_neg hmem)]
        split_ifs with ha
        · unfold findService
          rw [ha, AList.lookup_eq_none.mpr hmem]
          rfl
        · rfl

theorem storedNumber_removeService {app : LocalApplication}
    (happ : s.mGattLocalApplications.lookup a = some app)
    (h : t.mGattLocalApplications = s.mGattLocalApplications.insert a
      { app with mGattLocalServices := app.mGattLocalServices.erase v }) (q : LocalPath) :
    t.storedNumber q =
      if q.appId = a ∧ q.serviceId = v then none else s.storedNumber q := by
  have hfind := findService_insert h
  split_ifs with hq
  · obtain ⟨hqa, hqv⟩ := hq
    have hnone : t.findService q.appId q.serviceId = none := by
      rw [hfind, if_pos hqa, hqv, AList.lookup_erase]
    cases q <;> simp_all [LocalPath.appId, LocalPath.serviceId, findCharacteristic]
  · apply storedNumber_congr
    rw [hfind]
    split_ifs with hqa
    · have hqv : q.serviceId ≠ v := fun hv => hq ⟨hqa, hv⟩
      rw [AList.lookup_erase_ne hqv, hqa, findService_eq happ]
    · rfl

theorem cleared_cases (service : LocalService) :
    service.cleared.number = service.number ∧
      (service.cleared.mCharacteristics = service.mCharacteristics ∨
        service.cleared.mCharacteristics = ∅) := by
  unfold LocalService.cleared
  cases service.mServiceObject with
  | none => exact ⟨rfl, .inl rfl⟩
  | some object => exact ⟨rfl, .inr rfl⟩

theorem storedNumber_removeApplication {app : LocalApplication}
    (happ : s.mGattLocalApplications.lookup a = some app)
    (h : t.mGattLocalApplications = s.mGattLocalApplications.insert a
      { app with mGattLocalServices := app.mGattLocalServices.mapValues LocalService.cleared })
    (q : LocalPath) :
    (q.appId ≠ a → t.storedNumber q = s.storedNumber q) ∧
      ∀ n, t.storedNumber q = some n → s.storedNumber q = some n := by
  have hfind := findService_insert h
  have hother : q.appId ≠ a → t.storedNumber q = s.storedNumber q := by
    intro hqa
    apply storedNumber_congr
    rw [hfind, if_neg hqa]
  refine ⟨hother, ?_⟩
  intro n hn
  by_cases hqa : q.appId = a
  · have hcleared : ∀ v, t.findService a v = (s.findService a v).map LocalService.cleared := by
      intro v
      rw [hfind, if_pos rfl, findService_eq happ]
      exact KeyedMap.lookup_mapValues _ _ _
    have hchar : ∀ v c characteristic, t.findCharacteristic a v c = some characteristic →
        s.findCharacteristic a v c = some characteristic := by
      intro v c characteristic hc
      unfold findCharacteristic at hc ⊢
      rw [hcleared] at hc
      obtain ⟨service, hservice, hlookup⟩ := Option.bind_eq_some_iff.mp hc
      obtain ⟨old, hold, rfl⟩ := Option.map_eq_some_iff.mp hservice
      rw [hold, Option.bind_some]
      rcases (cleared_cases old).2 with hsame | hempty
      · rwa [hsame] at hlookup
      · rw [hempty] at hlookup
        cases hlookup
    cases q with
    | service a' v' =>
        obtain rfl : a' = a := hqa
        simp only [storedNumber_service] at hn ⊢
        rw [hcleared, Option.map_map] at hn
        rw [← hn]
        exact congrArg (Option.map · _) (funext fun service => (cleared_cases service).1.symm)
    | characteristic a' v' c' =>
        obtain rfl : a' = a := hqa
        obtain ⟨characteristic, hc, hnumber⟩ := Option.map_eq_some_iff.mp hn
        exact Option.map_eq_some_iff.mpr ⟨characteristic, hchar _ _ _ hc, hnumber⟩
    | descriptor a' v' c' d' =>
        obtain rfl : a' = a := hqa
        obtain ⟨characteristic, hc, hnumber⟩ := Option.bind_eq_some_iff.mp hn
        exact Option.bind_eq_some_iff.mpr ⟨characteristic, hchar _ _ _ hc, hnumber⟩
  · rw [← hother hqa, hn]

end LocalServer

end BluezSil.Gatt
