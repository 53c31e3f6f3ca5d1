import BluezSil.GattStoredObjects

/-!
# Where the stored objects of the local GATT server are exported

A stored object has the path of the place it is stored at. A removal withdraws the objects that
go with a service: those that are stored below it. So the objects at the paths of other
attributes stay, and what is withdrawn is not stored any more.
-/

namespace BluezSil.Gatt

/-- Services have an interface without a value. -/
def LocalPath.HasValue : LocalPath → Prop
  | .service _ _ => False
  | .characteristic _ _ _ => True
  | .descriptor _ _ _ _ => True

instance : DecidablePred LocalPath.HasValue
  | .service _ _ => inferInstanceAs (Decidable False)
  | .characteristic _ _ _ => inferInstanceAs (Decidable True)
  | .descriptor _ _ _ _ => inferInstanceAs (Decidable True)

section Paths

variable {K V : Type*} [DecidableEq K]

theorem lookup_foldl_erase (ks : List K) (m : KeyedMap K V) (k : K) :
    (ks.foldl (fun m k => m.erase k) m).lookup k = if k ∈ ks then none else m.lookup k := by
  induction ks generalizing m with
  | nil => rfl
  | cons a ks ih =>
      rw [List.foldl_cons, ih]
      by_cases hk : k ∈ ks
      · rw [if_pos hk, if_pos (List.mem_cons_of_mem a hk)]
      · rw [if_neg hk]
        by_cases ha : k = a
        · subst ha
          rw [if_pos List.mem_cons_self, AList.lookup_erase]
        · rw [if_neg (by simp [ha, hk]), AList.lookup_erase_ne ha]

end Paths

def LocalCharacteristic.paths (characteristic : LocalCharacteristic) : List LocalPath :=
  (characteristic.mDescriptors.values.map fun d => d.mDescObject.path) ++
    [characteristic.mCharObject.path]

def LocalService.paths (service : LocalService) : List LocalPath :=
  match service.mServiceObject with
  | some object =>
    service.mCharacteristics.values.flatMap LocalCharacteristic.paths ++ [object.path]
  | none => []

theorem removeLocalServices_eq (e : ExportedObjects) (service : LocalService) :
    removeLocalServices e service = service.paths.foldl (fun e path => e.erase path) e := by
  have hcharacteristic : ∀ (e : ExportedObjects) (c : LocalCharacteristic),
      (removeLocalDescriptors e c).erase c.mCharObject.path =
        c.paths.foldl (fun e path => e.erase path) e := by
    intro e c
    rw [LocalCharacteristic.paths, List.foldl_append, List.foldl_map]
    rfl
  unfold removeLocalServices LocalService.paths
  cases service.mServiceObject with
  | none => rfl
  | some object =>
      dsimp only
      rw [List.foldl_append, List.foldl_flatMap, removeLocalCharacteristics]
      simp only [hcharacteristic]
      rfl

namespace LocalServer

variable {s t : LocalServer} {a v c d : UInt16} {p : LocalPath}

/-- The stored objects have the paths they are stored under. -/
structure Placed (s : LocalServer) : Prop where
  service : ∀ a v service object, s.findService a v = some service →
    service.mServiceObject = some object → object.path = .service a v
  characteristic : ∀ a v c characteristic, s.findCharacteristic a v c = some characteristic →
    characteristic.mCharObject.path = .characteristic a v c
  descriptor : ∀ a v c characteristic d descriptor,
    s.findCharacteristic a v c = some characteristic →
    characteristic.mDescriptors.lookup d = some descriptor →
    descriptor.mDescObject.path = .descriptor a v c d

theorem Placed.paths (h : s.Placed) {service : LocalService}
    (hs : s.findService a v = some service) (hp : p ∈ service.paths) (hvalue : p.HasValue) :
    service.mServiceObject ≠ none ∧ p.appId = a ∧ p.serviceId = v ∧ s.storedNumber p ≠ none := by
  unfold LocalService.paths at hp
  cases hobject : service.mServiceObject with
  | none =>
      rw [hobject] at hp
      cases hp
  | some object =>
      rw [hobject] at hp
      refine ⟨Option.some_ne_none object, ?_⟩
      rcases List.mem_append.mp hp with hbelow | hown
      · obtain ⟨characteristic, hin, hpath⟩ := List.mem_flatMap.mp hbelow
        obtain ⟨c, hc⟩ := KeyedMap.mem_values_iff.mp hin
        have hfind : s.findCharacteristic a v c = some characteristic := by
          rw [findCharacteristic, hs, Option.bind_some, hc]
        rcases List.mem_append.mp hpath with hdesc | hchar
        · obtain ⟨descriptor, hin, rfl⟩ := List.mem_map.mp hdesc
          obtain ⟨d, hd⟩ := KeyedMap.mem_values_iff.mp hin
          rw [h.descriptor a v c characteristic d descriptor hfind hd]
          refine ⟨rfl, rfl, ?_⟩
          rw [storedNumber_descriptor, hfind, Option.bind_some, hd]
          exact Option.some_ne_none _
        · rw [List.mem_singleton.mp hchar, h.characteristic a v c characteristic hfind]
          refine ⟨rfl, rfl, ?_⟩
          rw [storedNumber_characteristic, hfind]
          exact Option.some_ne_none _
      · rw [List.mem_singleton.mp hown, h.service a v service object hs hobject] at hvalue
        exact hvalue.elim

theorem Placed.shrink (h : s.Placed)
    (hservice : ∀ a v service, t.findService a v = some service → ∃ old,
      s.findService a v = some old ∧
      (service = old ∨ service.mServiceObject = none ∧ service.mCharacteristics = ∅)) :
    t.Placed := by
  have hchar : ∀ a v c characteristic, t.findCharacteristic a v c = some characteristic →
      s.findCharacteristic a v c = some characteristic := by
    intro a v c characteristic hfind
    obtain ⟨service, hs, hlookup⟩ := Option.bind_eq_some_iff.mp hfind
    obtain ⟨old, hold, hcases⟩ := hservice a v service hs
    rcases hcases with rfl | ⟨-, hempty⟩
    · exact Option.bind_eq_some_iff.mpr ⟨service, hold, hlookup⟩
    · rw [hempty] at hlookup
      cases hlookup
  refine ⟨fun a v service object hs hobject => ?_, fun a v c characteristic hfind =>
    h.characteristic a v c characteristic (hchar a v c characteristic hfind),
    fun a v c characteristic d descriptor hfind =>
      h.descriptor a v c characteristic d descriptor (hchar a v c characteristic hfind)⟩
  obtain ⟨old, hold, hcases⟩ := hservice a v service hs
  rcases hcases with rfl | ⟨hnone, -⟩
  · exact h.service a v service object hold hobject
  · rw [hnone] at hobject
    cases hobject

theorem findService_addApplication (s : LocalServer) (type : ApplicationType) (a v : UInt16) :
    (s.addApplication type).1.findService a v = s.findService a v := by
  cases type with
  | client => rfl
  | server =>
      by_cases hmem : s.nextAppId ∈ s.mGattLocalApplications
      · exact findService_congr (if_pos hmem)
      · rw [findService_insert (s := s) (if_neg hmem)]
        split_ifs with ha
        · unfold findService
          rw [ha, AList.lookup_eq_none.mpr hmem]
          rfl
        · rfl

theorem Placed.congr (h : s.Placed) (hsame : ∀ a v, t.findService a v = s.findService a v) :
    t.Placed :=
  h.shrink fun a v service hs => ⟨service, (hsame a v).symm.trans hs, .inl rfl⟩

theorem Placed.removeService (h : s.Placed) {app : LocalApplication}
    (happ : s.mGattLocalApplications.lookup a = some app)
    (ht : t.mGattLocalApplications = s.mGattLocalApplications.insert a
      { app with mGattLocalServices := app.mGattLocalServices.erase v }) : t.Placed := by
  refine h.shrink fun a' v' service hs => ⟨service, ?_, .inl rfl⟩
  rw [findService_insert ht] at hs
  split_ifs at hs with ha
  · rw [ha, findService_eq happ]
    exact (KeyedMap.lookup_erase_some hs).2
  · exact hs

theorem findService_cleared {app : LocalApplication}
    (happ : s.mGattLocalApplications.lookup a = some app)
    (ht : t.mGattLocalApplications = s.mGattLocalApplications.insert a
      { app with mGattLocalServices := app.mGattLocalServices.mapValues LocalService.cleared })
    (v : UInt16) : t.findService a v = (s.findService a v).map LocalService.cleared := by
  rw [findService_insert ht, if_pos rfl, findService_eq happ]
  exact KeyedMap.lookup_mapValues _ _ _

theorem Placed.removeApplication (h : s.Placed) {app : LocalApplication}
    (happ : s.mGattLocalApplications.lookup a = some app)
    (ht : t.mGattLocalApplications = s.mGattLocalApplications.insert a
      { app with mGattLocalServices := app.mGattLocalServices.mapValues LocalService.cleared }) :
    t.Placed := by
  refine h.shrink fun a' v' service hs => ?_
  by_cases ha : a' = a
  · subst ha
    rw [findService_cleared happ ht] at hs
    obtain ⟨old, hold, rfl⟩ := Option.map_eq_some_iff.mp hs
    refine ⟨old, hold, ?_⟩
    unfold LocalService.cleared
    cases hobject : old.mServiceObject with
    | none => exact .inl rfl
    | some object => exact .inr ⟨rfl, rfl⟩
  · rw [findService_insert ht, if_neg ha] at hs
    exact ⟨service, hs, .inl rfl⟩

/-! ### Completions -/

variable {object : ObjectSkeleton} {done : LocalServer × List Answer}

theorem Placed.addService (h : s.Placed)
    (hdone : s.complete (.addService object a v) none = some done)
    (hpath : object.path = .service a v) : done.1.Placed := by
  have hchars := findCharacteristic_complete_addService hdone
  refine ⟨?_, fun a v c characteristic hfind =>
    h.characteristic a v c characteristic (by rwa [hchars] at hfind),
    fun a v c characteristic d descriptor hfind =>
      h.descriptor a v c characteristic d descriptor (by rwa [hchars] at hfind)⟩
  intro a' v' service object' hs hobject
  cases happ : s.mGattLocalApplications.lookup a with
  | none =>
      unfold complete at hdone
      simp only [happ] at hdone
      cases hdone
      exact h.service a' v' service object' hs hobject
  | some app =>
      unfold complete at hdone
      simp only [happ] at hdone
      cases hdone
      rw [findService_insert (s := s) rfl] at hs
      split_ifs at hs with ha
      · subst ha
        rcases KeyedMap.lookup_emplace_cases hs with hold | ⟨rfl, rfl⟩
        · exact h.service a' v' service object' ((findService_eq happ v').trans hold) hobject
        · cases hobject
          exact hpath
      · exact h.service a' v' service object' hs hobject

theorem service_modifyService {f : LocalService → LocalService} {a' v' : UInt16}
    {service : LocalService} (hf : ∀ service, (f service).mServiceObject = service.mServiceObject)
    (hs : (s.modifyService a v f).findService a' v' = some service) :
    ∃ old, s.findService a' v' = some old ∧ service.mServiceObject = old.mServiceObject := by
  by_cases hplace : a' = a ∧ v' = v
  · obtain ⟨rfl, rfl⟩ := hplace
    rw [findService_modifyService_self] at hs
    obtain ⟨old, hold, rfl⟩ := Option.map_eq_some_iff.mp hs
    exact ⟨old, hold, hf old⟩
  · rw [findService_modifyService_ne hplace] at hs
    exact ⟨service, hs, rfl⟩

theorem Placed.addCharacteristic (h : s.Placed) {chars : CharsRef}
    (hdone : s.complete (.addCharacteristic object chars c) none = some done)
    (hpath : object.path = .characteristic chars.appId chars.serviceId c) : done.1.Placed := by
  unfold complete at hdone
  dsimp only at hdone
  split_ifs at hdone with hchars
  cases hdone
  obtain ⟨service, hservice, -⟩ := hchars
  have hfind := findCharacteristic_insert hservice c ⟨object, ∅⟩
  have hcases : ∀ a' v' c' characteristic,
      (s.modifyService chars.appId chars.serviceId fun service =>
        { service with
          mCharacteristics := service.mCharacteristics.emplace c ⟨object, ∅⟩ }).findCharacteristic
        a' v' c' = some characteristic →
      s.findCharacteristic a' v' c' = some characteristic ∨
        (LocalPath.characteristic a' v' c' = object.path ∧ characteristic = ⟨object, ∅⟩) := by
    intro a' v' c' characteristic hs
    rw [hfind] at hs
    split_ifs at hs with hplace
    · obtain ⟨rfl, rfl, rfl⟩ := hplace
      cases hold : s.findCharacteristic chars.appId chars.serviceId c' with
      | none =>
          rw [hold] at hs
          cases hs
          exact .inr ⟨hpath.symm, rfl⟩
      | some old =>
          rw [hold] at hs
          cases hs
          exact .inl rfl
    · exact .inl hs
  refine ⟨?_, ?_, ?_⟩
  · intro a' v' service object' hs hobject
    obtain ⟨old, hold, hsame⟩ := service_modifyService (s := s) (f := fun service =>
      { service with mCharacteristics := service.mCharacteristics.emplace c ⟨object, ∅⟩ })
      (fun _ => rfl) hs
    exact h.service a' v' old object' hold (hsame ▸ hobject)
  · intro a' v' c' characteristic hs
    rcases hcases a' v' c' characteristic hs with hold | ⟨hplace, rfl⟩
    · exact h.characteristic a' v' c' characteristic hold
    · exact hplace.symm
  · intro a' v' c' characteristic d descriptor hs hd
    rcases hcases a' v' c' characteristic hs with hold | ⟨-, rfl⟩
    · exact h.descriptor a' v' c' characteristic d descriptor hold hd
    · cases hd

theorem Placed.addDescriptor (h : s.Placed) {descs : DescsRef}
    (hdone : s.complete (.addDescriptor object (some descs) d) none = some done)
    (hpath : object.path = .descriptor descs.appId descs.serviceId descs.charId d) :
    done.1.Placed := by
  unfold complete at hdone
  dsimp only at hdone
  split_ifs at hdone with hdescs
  cases hdone
  have hcases : ∀ a' v' c' characteristic,
      (s.modifyCharacteristic descs.appId descs.serviceId descs.charId fun characteristic =>
        { characteristic with
          mDescriptors := characteristic.mDescriptors.emplace d ⟨object⟩ }).findCharacteristic
        a' v' c' = some characteristic →
      ∃ old, s.findCharacteristic a' v' c' = some old ∧
        characteristic.mCharObject = old.mCharObject ∧
        ∀ d' descriptor, characteristic.mDescriptors.lookup d' = some descriptor →
          old.mDescriptors.lookup d' = some descriptor ∨
            LocalPath.descriptor a' v' c' d' = object.path ∧ descriptor = ⟨object⟩ := by
    intro a' v' c' characteristic hs
    by_cases hplace : a' = descs.appId ∧ v' = descs.serviceId ∧ c' = descs.charId
    · obtain ⟨rfl, rfl, rfl⟩ := hplace
      rw [findCharacteristic_modifyCharacteristic_self] at hs
      obtain ⟨old, hold, rfl⟩ := Option.map_eq_some_iff.mp hs
      refine ⟨old, hold, rfl, fun d' descriptor hd => ?_⟩
      rcases KeyedMap.lookup_emplace_cases hd with hold | ⟨rfl, rfl⟩
      · exact .inl hold
      · exact .inr ⟨hpath.symm, rfl⟩
    · rw [findCharacteristic_modifyCharacteristic_ne hplace] at hs
      exact ⟨characteristic, hs, rfl, fun _ _ => .inl⟩
  refine ⟨?_, ?_, ?_⟩
  · intro a' v' service object' hs hobject
    obtain ⟨old, hold, hsame⟩ := service_modifyService (s := s) (f := fun service =>
      { service with
        mCharacteristics := service.mCharacteristics.modify descs.charId fun characteristic =>
          { characteristic with
            mDescriptors := characteristic.mDescriptors.emplace d ⟨object⟩ } })
      (fun _ => rfl) hs
    exact h.service a' v' old object' hold (hsame ▸ hobject)
  · intro a' v' c' characteristic hs
    obtain ⟨old, hold, hsame, -⟩ := hcases a' v' c' characteristic hs
    rw [hsame]
    exact h.characteristic a' v' c' old hold
  · intro a' v' c' characteristic d' descriptor hs hd
    obtain ⟨old, hold, -, hdescs⟩ := hcases a' v' c' characteristic hs
    rcases hdescs d' descriptor hd with hkept | ⟨hplace, rfl⟩
    · exact h.descriptor a' v' c' old d' descriptor hold hkept
    · exact hplace.symm

/-! ### Removals -/

/-- Nothing is stored anew, and an attribute whose object is withdrawn has been taken away. -/
structure Withdraws (s t : LocalServer) : Prop where
  stored : ∀ q n, t.storedNumber q = some n → s.storedNumber q = some n
  exported : ∀ q, q.HasValue → t.exported.lookup q = s.exported.lookup q ∨
    t.exported.lookup q = none ∧ s.storedNumber q ≠ none ∧ t.storedNumber q = none

theorem storedNumber_of_gone (hvalue : p.HasValue)
    (h : ∀ service, s.findService p.appId p.serviceId = some service →
      service.mCharacteristics = ∅) : s.storedNumber p = none := by
  have hchar : ∀ c, s.findCharacteristic p.appId p.serviceId c = none := by
    intro c
    unfold findCharacteristic
    cases hs : s.findService p.appId p.serviceId with
    | none => rfl
    | some service =>
        rw [Option.bind_some, h service hs]
        rfl
  cases p with
  | service a v => exact hvalue.elim
  | characteristic a v c => exact congrArg (Option.map _) (hchar c)
  | descriptor a v c d => exact congrArg (Option.bind · _) (hchar c)

theorem Placed.withdraws_removeService (h : s.Placed) {app : LocalApplication}
    {service : LocalService} (happ : s.mGattLocalApplications.lookup a = some app)
    (hservice : app.mGattLocalServices.lookup v = some service)
    (ht : t.mGattLocalApplications = s.mGattLocalApplications.insert a
      { app with mGattLocalServices := app.mGattLocalServices.erase v })
    (hexported : t.exported = removeLocalServices s.exported service) : s.Withdraws t where
  stored := fun q n hq => by
    rw [storedNumber_removeService happ ht] at hq
    split_ifs at hq
    exact hq
  exported := fun q hvalue => by
    rw [hexported, removeLocalServices_eq, lookup_foldl_erase]
    split_ifs with hq
    · obtain ⟨-, ha, hv, hstored⟩ := h.paths ((findService_eq happ v).trans hservice) hq hvalue
      refine .inr ⟨rfl, hstored, ?_⟩
      rw [storedNumber_removeService happ ht, if_pos ⟨ha, hv⟩]
    · exact .inl rfl

theorem Placed.withdraws_removeApplication (h : s.Placed) {app : LocalApplication}
    (happ : s.mGattLocalApplications.lookup a = some app)
    (ht : t.mGattLocalApplications = s.mGattLocalApplications.insert a
      { app with mGattLocalServices := app.mGattLocalServices.mapValues LocalService.cleared })
    (hexported : t.exported = app.mGattLocalServices.values.foldl removeLocalServices s.exported) :
    s.Withdraws t where
  stored := fun q => (storedNumber_removeApplication happ ht q).2
  exported := fun q hvalue => by
    have hfold : app.mGattLocalServices.values.foldl removeLocalServices s.exported =
        (app.mGattLocalServices.values.flatMap LocalService.paths).foldl
          (fun e path => e.erase path) s.exported := by
      rw [List.foldl_flatMap, ← funext₂ removeLocalServices_eq]
    rw [hexported, hfold, lookup_foldl_erase]
    split_ifs with hq
    · obtain ⟨service, hin, hpath⟩ := List.mem_flatMap.mp hq
      obtain ⟨v, hv⟩ := KeyedMap.mem_values_iff.mp hin
      have hs := (findService_eq happ v).trans hv
      obtain ⟨hobject, ha, hv, hstored⟩ := h.paths hs hpath hvalue
      refine .inr ⟨rfl, hstored, storedNumber_of_gone hvalue fun cleared hcleared => ?_⟩
      rw [ha, hv, findService_cleared happ ht, hs] at hcleared
      cases hcleared
      unfold LocalService.cleared
      cases hnone : service.mServiceObject with
      | none => exact absurd hnone hobject
      | some object => rfl
    · exact .inl rfl

end LocalServer

end BluezSil.Gatt
