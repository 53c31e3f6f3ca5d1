import BluezSil.GattLocalServer

/-!
# What the operations of the local GATT server change

An add function refuses at once, or exports one object and stores nothing. A completion
stores one attribute and exports nothing. The events of a run are the calls of the server,
the completions of the registrations handed over, and writes of remote devices.
-/

namespace BluezSil.Gatt

open TransitionRun

namespace LocalServer

variable {s t : LocalServer} {a v c : UInt16}

theorem findService_insert {appId : UInt16} {app : LocalApplication}
    (h : t.mGattLocalApplications = s.mGattLocalApplications.insert appId app) (a v : UInt16) :
    t.findService a v =
      if a = appId then app.mGattLocalServices.lookup v else s.findService a v := by
  unfold findService
  rw [h]
  split_ifs with ha
  · rw [ha, AList.lookup_insert, Option.bind_some]
  · rw [AList.lookup_insert_ne ha]

theorem findService_modifyService_self (s : LocalServer) (a v : UInt16)
    (f : LocalService → LocalService) :
    (s.modifyService a v f).findService a v = (s.findService a v).map f := by
  unfold findService modifyService
  dsimp only
  rw [KeyedMap.lookup_modify_self]
  cases s.mGattLocalApplications.lookup a with
  | none => rfl
  | some app => exact KeyedMap.lookup_modify_self _ _ _

theorem findService_modifyService_ne {appId serviceId : UInt16}
    {f : LocalService → LocalService} (h : ¬ (a = appId ∧ v = serviceId)) :
    (s.modifyService appId serviceId f).findService a v = s.findService a v := by
  unfold findService modifyService
  dsimp only
  by_cases ha : a = appId
  · subst ha
    rw [KeyedMap.lookup_modify_self]
    cases s.mGattLocalApplications.lookup a with
    | none => rfl
    | some app => exact KeyedMap.lookup_modify_ne fun hv => h ⟨rfl, hv⟩
  · rw [KeyedMap.lookup_modify_ne ha]

theorem findCharacteristic_insert {service : LocalService} (h : s.findService a v = some service)
    (c : UInt16) (new : LocalCharacteristic) (a' v' c' : UInt16) :
    (s.modifyService a v fun service => { service with
      mCharacteristics := service.mCharacteristics.emplace c new }).findCharacteristic a' v' c' =
      if a' = a ∧ v' = v ∧ c' = c then some ((s.findCharacteristic a v c).getD new)
      else s.findCharacteristic a' v' c' := by
  unfold findCharacteristic
  by_cases hplace : a' = a ∧ v' = v
  · obtain ⟨rfl, rfl⟩ := hplace
    rw [findService_modifyService_self, h, Option.map_some, Option.bind_some, Option.bind_some]
    dsimp only
    rw [KeyedMap.lookup_emplace]
    simp
  · rw [findService_modifyService_ne hplace, if_neg fun hall => hplace ⟨hall.1, hall.2.1⟩]

theorem findCharacteristic_modifyCharacteristic_self (s : LocalServer) (a v c : UInt16)
    (f : LocalCharacteristic → LocalCharacteristic) :
    (s.modifyCharacteristic a v c f).findCharacteristic a v c =
      (s.findCharacteristic a v c).map f := by
  unfold findCharacteristic modifyCharacteristic
  rw [findService_modifyService_self]
  cases s.findService a v with
  | none => rfl
  | some service => exact KeyedMap.lookup_modify_self _ _ _

theorem findCharacteristic_modifyCharacteristic_some {characteristic : LocalCharacteristic}
    {f : LocalCharacteristic → LocalCharacteristic}
    (h : s.findCharacteristic a v c = some characteristic) :
    (s.modifyCharacteristic a v c f).findCharacteristic a v c = some (f characteristic) := by
  rw [findCharacteristic_modifyCharacteristic_self, h, Option.map_some]

theorem findCharacteristic_modifyCharacteristic_ne {appId serviceId charId : UInt16}
    {f : LocalCharacteristic → LocalCharacteristic}
    (h : ¬ (a = appId ∧ v = serviceId ∧ c = charId)) :
    (s.modifyCharacteristic appId serviceId charId f).findCharacteristic a v c =
      s.findCharacteristic a v c := by
  unfold findCharacteristic modifyCharacteristic
  by_cases hplace : a = appId ∧ v = serviceId
  · obtain ⟨rfl, rfl⟩ := hplace
    rw [findService_modifyService_self]
    cases s.findService a v with
    | none => rfl
    | some service => exact KeyedMap.lookup_modify_ne fun hc => h ⟨rfl, rfl, hc⟩
  · rw [findService_modifyService_ne hplace]

/-- The operation leaves the registered applications and the object manager as they are. -/
structure Keeps (s t : LocalServer) : Prop where
  applications : ∀ a, a ∈ t.mGattLocalApplications ↔ a ∈ s.mGattLocalApplications
  manager : t.mObjectManagerGattServer = s.mObjectManagerGattServer

theorem Keeps.of_insert {appId : UInt16} {app : LocalApplication}
    (happ : appId ∈ s.mGattLocalApplications)
    (h : t.mGattLocalApplications = s.mGattLocalApplications.insert appId app)
    (hmanager : t.mObjectManagerGattServer = s.mObjectManagerGattServer) : Keeps s t := by
  constructor
  · intro a
    rw [h, AList.mem_insert]
    constructor
    · rintro (rfl | ha)
      · exact happ
      · exact ha
    · exact Or.inr
  · exact hmanager

theorem mem_of_findService {service : LocalService} (h : s.findService a v = some service) :
    a ∈ s.mGattLocalApplications := by
  unfold findService at h
  obtain ⟨app, happ, _⟩ := Option.bind_eq_some_iff.mp h
  exact KeyedMap.mem_of_lookup happ

structure Unchanged (s t : LocalServer) : Prop where
  applications : t.mGattLocalApplications = s.mGattLocalApplications
  exported : t.exported = s.exported
  manager : t.mObjectManagerGattServer = s.mObjectManagerGattServer
  nextNumber : t.nextNumber = s.nextNumber

structure Exports (s t : LocalServer) (object : ObjectSkeleton) : Prop where
  applications : t.mGattLocalApplications = s.mGattLocalApplications
  exported : t.exported = s.exported.insert object.path object
  manager : t.mObjectManagerGattServer = s.mObjectManagerGattServer
  managed : s.mObjectManagerGattServer ≠ none
  number : object.number = s.nextNumber
  nextNumber : t.nextNumber = s.nextNumber + 1

theorem Keeps.refl (s : LocalServer) : Keeps s s := ⟨fun _ => Iff.rfl, rfl⟩

theorem Unchanged.refl (s : LocalServer) : Unchanged s s := ⟨rfl, rfl, rfl, rfl⟩

theorem Unchanged.keeps (h : Unchanged s t) : Keeps s t :=
  ⟨fun a => by rw [h.applications], h.manager⟩

theorem Exports.keeps {object : ObjectSkeleton} (h : Exports s t object) : Keeps s t :=
  ⟨fun a => by rw [h.applications], h.manager⟩

theorem findService_congr (h : t.mGattLocalApplications = s.mGattLocalApplications) :
    t.findService a v = s.findService a v := by
  unfold findService
  rw [h]

theorem findCharacteristic_congr (h : t.mGattLocalApplications = s.mGattLocalApplications) :
    t.findCharacteristic a v c = s.findCharacteristic a v c := by
  unfold findCharacteristic
  rw [findService_congr h]

end LocalServer

/-- The call has reported errors only, and at least one. -/
def Issued.ReportsError (o : Issued) : Prop :=
  o.answers ≠ [] ∧ ∀ answer ∈ o.answers, answer.error ≠ .none

namespace LocalServer

variable {s t : LocalServer} {o : Issued} {appId serviceId : UInt16} {alloc : Allocation}

theorem addService_cases (s : LocalServer) (appId : UInt16) (service : BluetoothGattService) :
    s.addService appId service = ⟨s, [notAdded .fail], none⟩ ∨
    ∃ object : ObjectSkeleton, object.path = .service appId s.nextServiceId ∧
      Exports s (s.addService appId service).server object ∧
      (s.addService appId service).answers = [] ∧
      (s.addService appId service).registration =
        some (.addService object appId s.nextServiceId) := by
  unfold addService
  cases hmanager : s.mObjectManagerGattServer with
  | none => exact .inl rfl
  | some objPath =>
      exact .inr ⟨⟨s.nextNumber, .service appId s.nextServiceId, service.uuid, []⟩, rfl,
        ⟨rfl, rfl, hmanager.symm, by simp [hmanager], rfl, rfl⟩, rfl, rfl⟩

theorem addCharacteristic_cases {characteristic : BluetoothGattCharacteristic}
    (h : s.addCharacteristic alloc appId serviceId characteristic = some o) :
    (∃ error, error ≠ .none ∧ o.answers = [notAdded error] ∧ o.registration = none ∧
      Unchanged s o.server) ∨
    ∃ (service : LocalService) (object : ObjectSkeleton),
      s.findService appId serviceId = some service ∧
      object.path = .characteristic appId serviceId s.nextCharId ∧
      Exports s o.server object ∧ o.answers = [] ∧
      o.registration =
        some (.addCharacteristic object ⟨appId, serviceId, service.number⟩ s.nextCharId) := by
  unfold addCharacteristic at h
  cases hservice : s.findService appId serviceId with
  | none =>
      rw [hservice] at h
      cases h
      exact .inl ⟨.paramInvalid, by decide, rfl, rfl, .refl s⟩
  | some service =>
      rw [hservice] at h
      dsimp only at h
      cases hmanager : s.mObjectManagerGattServer with
      | none =>
          rw [hmanager] at h
          split_ifs at h with hinterface
          cases h
          exact .inl ⟨.noMem, by decide, rfl, rfl, .refl s⟩
      | some objPath =>
          rw [hmanager] at h
          split_ifs at h with hinterface halloc
          · cases h
            exact .inr ⟨service, _, rfl, rfl,
              ⟨rfl, rfl, hmanager.symm, by simp [hmanager], rfl, rfl⟩, rfl, rfl⟩
          · cases h
            exact .inl ⟨.noMem, by decide, rfl, rfl, rfl, rfl, hmanager.symm, rfl⟩
          · cases h
            exact .inl ⟨.noMem, by decide, rfl, rfl, .refl s⟩

theorem addDescriptor_cases {descriptor : BluetoothGattDescriptor}
    (h : s.addDescriptor alloc appId serviceId descriptor = some o) :
    (∃ error, error ≠ .none ∧ o.answers =
        listAnswers (s.getLocalDescriptorList appId serviceId s.mLastCharId) ++
          [notAdded error] ∧
      o.registration = none ∧ Unchanged s o.server) ∨
    ∃ object : ObjectSkeleton,
      object.path = .descriptor appId serviceId s.mLastCharId s.nextDescId ∧
      Exports s o.server object ∧
      o.answers = listAnswers (s.getLocalDescriptorList appId serviceId s.mLastCharId) ∧
      o.registration = some (.addDescriptor object
        (s.getLocalDescriptorList appId serviceId s.mLastCharId) s.nextDescId) := by
  unfold addDescriptor at h
  dsimp only at h
  cases hmanager : s.mObjectManagerGattServer with
  | none =>
      rw [hmanager] at h
      split_ifs at h with hinterface
      cases h
      exact .inl ⟨.noMem, by decide, rfl, rfl, .refl s⟩
  | some objPath =>
      rw [hmanager] at h
      split_ifs at h with hinterface hobject hflags
      · cases h
        exact .inr ⟨_, rfl, ⟨rfl, rfl, hmanager.symm, by simp [hmanager], rfl, rfl⟩, rfl, rfl⟩
      · cases h
        exact .inl ⟨.noMem, by decide, rfl, rfl, rfl, rfl, hmanager.symm, rfl⟩
      · cases h
        exact .inl ⟨.fail, by decide, rfl, rfl, rfl, rfl, hmanager.symm, rfl⟩
      · cases h
        exact .inl ⟨.noMem, by decide, rfl, rfl, .refl s⟩

section Removal

variable {e : ExportedObjects} {path : LocalPath} {object : ObjectSkeleton}

theorem lookup_removeLocalServices_some {service : LocalService}
    (h : (removeLocalServices e service).lookup path = some object) :
    e.lookup path = some object := by
  have hdescriptors : ∀ (e : ExportedObjects) (c : LocalCharacteristic),
      (removeLocalDescriptors e c).lookup path = some object → e.lookup path = some object := by
    intro e c hc
    exact KeyedMap.lookup_foldl_some (fun _ _ hd => (KeyedMap.lookup_erase_some hd).2) _ hc
  unfold removeLocalServices at h
  cases hobject : service.mServiceObject with
  | none =>
      rw [hobject] at h
      exact h
  | some serviceObject =>
      rw [hobject] at h
      exact KeyedMap.lookup_foldl_some
        (fun _ _ hc => hdescriptors _ _ (KeyedMap.lookup_erase_some hc).2) _
        (KeyedMap.lookup_erase_some h).2

theorem removeService_cases (s : LocalServer) (appId serviceId : UInt16) :
    (s.removeService appId serviceId = ⟨s, [.result .fail], none⟩) ∨
    ∃ app service, s.mGattLocalApplications.lookup appId = some app ∧
      app.mGattLocalServices.lookup serviceId = some service ∧
      s.removeService appId serviceId =
        ⟨{ s with
          exported := removeLocalServices s.exported service
          mGattLocalApplications := s.mGattLocalApplications.insert appId
            { app with mGattLocalServices := app.mGattLocalServices.erase serviceId } },
          [], some .removeService⟩ := by
  unfold removeService
  cases hmanager : s.mObjectManagerGattServer with
  | none => exact .inl rfl
  | some objPath =>
      cases happ : s.mGattLocalApplications.lookup appId with
      | none => exact .inl rfl
      | some app =>
          dsimp only
          cases hservice : app.mGattLocalServices.lookup serviceId with
          | none => exact .inl rfl
          | some service => exact .inr ⟨app, service, rfl, hservice, rfl⟩

theorem removeApplication_cases (h : s.removeApplication .server appId = some o) :
    appId ∉ s.mGattLocalApplications ∧ o = ⟨s, [], none⟩ ∨
    ∃ app, s.mGattLocalApplications.lookup appId = some app ∧
      o = ⟨{ s with
        exported := app.mGattLocalServices.values.foldl removeLocalServices s.exported
        mGattLocalApplications := s.mGattLocalApplications.insert appId
          { app with mGattLocalServices :=
              app.mGattLocalServices.mapValues LocalService.cleared } },
        [], some .removeApplication⟩ := by
  unfold removeApplication at h
  cases hmanager : s.mObjectManagerGattServer with
  | none =>
      rw [hmanager] at h
      cases h
  | some objPath =>
      rw [hmanager] at h
      cases happ : s.mGattLocalApplications.lookup appId with
      | none =>
          rw [happ] at h
          cases h
          exact .inl ⟨AList.lookup_eq_none.mp happ, rfl⟩
      | some app =>
          rw [happ] at h
          cases h
          exact .inr ⟨app, rfl, rfl⟩

end Removal

section Completion

variable {registration : Registration} {reply : Reply} {done : LocalServer × List Answer}

theorem modifyService_keeps (s : LocalServer) (a v : UInt16) (f : LocalService → LocalService) :
    Keeps s (s.modifyService a v f) :=
  ⟨fun _ => KeyedMap.mem_modify, rfl⟩

theorem complete_error {message : String}
    (h : s.complete registration (some message) = some done) : done.1 = s := by
  cases registration with
  | addService object appId serviceId =>
      cases h
      rfl
  | addCharacteristic object chars charId =>
      cases h
      rfl
  | addDescriptor object descs descId =>
      cases descs with
      | none =>
          cases h
          rfl
      | some descs =>
          cases h
          rfl
  | removeService =>
      cases h
      rfl
  | removeApplication =>
      cases h
      rfl

theorem complete_keeps (h : s.complete registration reply = some done) :
    Keeps s done.1 ∧ done.1.exported = s.exported ∧ done.1.nextNumber = s.nextNumber := by
  cases reply with
  | some message =>
      rw [complete_error h]
      exact ⟨.refl s, rfl, rfl⟩
  | none =>
      unfold complete at h
      cases registration with
      | addService object appId serviceId =>
          cases happ : s.mGattLocalApplications.lookup appId with
          | none =>
              simp only [happ] at h
              cases h
              exact ⟨.refl s, rfl, rfl⟩
          | some app =>
              simp only [happ] at h
              cases h
              exact ⟨Keeps.of_insert (KeyedMap.mem_of_lookup happ) rfl rfl, rfl, rfl⟩
      | addCharacteristic object chars charId =>
          dsimp only at h
          split_ifs at h
          cases h
          exact ⟨⟨fun _ => KeyedMap.mem_modify, rfl⟩, rfl, rfl⟩
      | addDescriptor object descs descId =>
          cases descs with
          | none => cases h
          | some descs =>
              dsimp only at h
              split_ifs at h
              cases h
              exact ⟨modifyService_keeps _ _ _ _, rfl, rfl⟩
      | removeService =>
          cases h
          exact ⟨.refl s, rfl, rfl⟩
      | removeApplication =>
          cases h
          exact ⟨.refl s, rfl, rfl⟩

theorem findCharacteristic_addApplication (s : LocalServer) (type : ApplicationType)
    (a v c : UInt16) :
    (s.addApplication type).1.findCharacteristic a v c = s.findCharacteristic a v c := by
  cases type with
  | client => rfl
  | server =>
      by_cases hmem : s.nextAppId ∈ s.mGattLocalApplications
      · exact findCharacteristic_congr (if_pos hmem)
      · unfold findCharacteristic
        rw [findService_insert (s := s) (if_neg hmem)]
        split_ifs with ha
        · have hnone : s.findService a v = none := by
            unfold findService
            rw [ha, AList.lookup_eq_none.mpr hmem]
            rfl
          rw [hnone]
          rfl
        · rfl

theorem findCharacteristic_complete_addService {object : ObjectSkeleton}
    {appId serviceId : UInt16}
    (h : s.complete (.addService object appId serviceId) none = some done) (a v c : UInt16) :
    done.1.findCharacteristic a v c = s.findCharacteristic a v c := by
  unfold complete at h
  cases happ : s.mGattLocalApplications.lookup appId with
  | none =>
      simp only [happ] at h
      cases h
      rfl
  | some app =>
      simp only [happ] at h
      cases h
      unfold findCharacteristic
      rw [findService_insert rfl]
      split_ifs with ha
      · have hfind : s.findService a v = app.mGattLocalServices.lookup v := by
          unfold findService
          rw [ha, happ]
          rfl
        rw [hfind]
        unfold KeyedMap.emplace
        split_ifs with hmem
        · rfl
        · by_cases hv : v = serviceId
          · rw [hv, AList.lookup_insert, AList.lookup_eq_none.mpr hmem]
            rfl
          · rw [AList.lookup_insert_ne hv]
      · rfl

end Completion

end LocalServer

inductive ServerEvent
  | busAcquired (objPath : Text)
  | addApplication (type : ApplicationType)
  | removeApplication (type : ApplicationType) (appId : UInt16)
  | addService (appId : UInt16) (service : BluetoothGattService)
  | removeService (appId serviceId : UInt16)
  | addCharacteristic (alloc : Allocation) (appId serviceId : UInt16)
      (characteristic : BluetoothGattCharacteristic)
  | addDescriptor (alloc : Allocation) (appId serviceId : UInt16)
      (descriptor : BluetoothGattDescriptor)
  | registered (i : ℕ) (reply : Reply)
  | write (path : LocalPath) (value : List UInt8)

def ServerEvent.Exports (s : LocalServer) (path : LocalPath) : ServerEvent → Prop
  | .addService appId _ => path = .service appId s.nextServiceId
  | .addCharacteristic _ appId serviceId _ =>
    path = .characteristic appId serviceId s.nextCharId ∧ s.findService appId serviceId ≠ none
  | .addDescriptor _ appId serviceId _ =>
    path = .descriptor appId serviceId s.mLastCharId s.nextDescId
  | _ => False

/-- The server and the registrations the daemon has not answered, oldest first. -/
structure ServerRun where
  server : LocalServer := {}
  pending : List Registration := []

namespace ServerRun

def issued (r : ServerRun) (o : Issued) : ServerRun :=
  ⟨o.server, r.pending ++ o.registration.toList⟩

/-- The bus is acquired once. Any registration may be the next that is answered. -/
def step (r : ServerRun) : ServerEvent → Option ServerRun
  | .busAcquired objPath =>
    if r.server.mObjectManagerGattServer = none then
      some ⟨r.server.createObjectManagers objPath, r.pending⟩
    else none
  | .addApplication type => some ⟨(r.server.addApplication type).1, r.pending⟩
  | .removeApplication type appId => (r.server.removeApplication type appId).map r.issued
  | .addService appId service => some (r.issued (r.server.addService appId service))
  | .removeService appId serviceId => some (r.issued (r.server.removeService appId serviceId))
  | .addCharacteristic alloc appId serviceId characteristic =>
    (r.server.addCharacteristic alloc appId serviceId characteristic).map r.issued
  | .addDescriptor alloc appId serviceId descriptor =>
    (r.server.addDescriptor alloc appId serviceId descriptor).map r.issued
  | .registered i reply =>
    r.pending[i]?.bind fun registration =>
      (r.server.complete registration reply).map fun done =>
        ⟨done.1, r.pending.eraseIdx i⟩
  | .write path value => (r.server.write path value).map fun _ => r

theorem addService_keeps (s : LocalServer) (appId : UInt16) (service : BluetoothGattService) :
    s.Keeps (s.addService appId service).server := by
  rcases s.addService_cases appId service with hfail | ⟨object, _, hexports, _, _⟩
  · rw [hfail]
    exact .refl _
  · exact hexports.keeps

theorem removeService_keeps (s : LocalServer) (appId serviceId : UInt16) :
    s.Keeps (s.removeService appId serviceId).server := by
  rcases s.removeService_cases appId serviceId with hfail | ⟨app, service, happ, _, hdone⟩
  · rw [hfail]
    exact .refl _
  · rw [hdone]
    exact LocalServer.Keeps.of_insert (KeyedMap.mem_of_lookup happ) rfl rfl

theorem removeApplication_keeps {s : LocalServer} {type : ApplicationType} {appId : UInt16}
    {o : Issued} (h : s.removeApplication type appId = some o) : s.Keeps o.server := by
  cases type with
  | client =>
      cases h
      exact .refl _
  | server =>
      rcases LocalServer.removeApplication_cases h with ⟨_, rfl⟩ | ⟨app, happ, rfl⟩
      · exact .refl _
      · exact LocalServer.Keeps.of_insert (KeyedMap.mem_of_lookup happ) rfl rfl

variable {r t : ServerRun} {e : ServerEvent}

/-- Only two events touch the registered ids or the object manager. -/
theorem step_keeps (h : r.step e = some t) (hbus : ∀ objPath, e ≠ .busAcquired objPath)
    (happ : ∀ type, e ≠ .addApplication type) : r.server.Keeps t.server := by
  unfold step at h
  cases e with
  | busAcquired objPath => exact absurd rfl (hbus objPath)
  | addApplication type => exact absurd rfl (happ type)
  | removeApplication type appId =>
      obtain ⟨o, ho, rfl⟩ := Option.map_eq_some_iff.mp h
      exact removeApplication_keeps ho
  | addService appId service =>
      cases h
      exact addService_keeps _ _ _
  | removeService appId serviceId =>
      cases h
      exact removeService_keeps _ _ _
  | addCharacteristic alloc appId serviceId characteristic =>
      obtain ⟨o, ho, rfl⟩ := Option.map_eq_some_iff.mp h
      rcases LocalServer.addCharacteristic_cases ho with
        ⟨_, _, _, _, hsame⟩ | ⟨_, _, _, _, hexports, _⟩
      · exact hsame.keeps
      · exact hexports.keeps
  | addDescriptor alloc appId serviceId descriptor =>
      obtain ⟨o, ho, rfl⟩ := Option.map_eq_some_iff.mp h
      rcases LocalServer.addDescriptor_cases ho with ⟨_, _, _, _, hsame⟩ | ⟨_, _, hexports, _⟩
      · exact hsame.keeps
      · exact hexports.keeps
  | registered i reply =>
      obtain ⟨registration, _, hdone⟩ := Option.bind_eq_some_iff.mp h
      obtain ⟨done, hcomplete, rfl⟩ := Option.map_eq_some_iff.mp hdone
      exact (LocalServer.complete_keeps hcomplete).1
  | write path value =>
      obtain ⟨_, _, rfl⟩ := Option.map_eq_some_iff.mp h
      exact .refl _

theorem step_busAcquired {objPath : Text} (h : r.step (.busAcquired objPath) = some t) :
    r.server.mObjectManagerGattServer = none ∧
      t = ⟨r.server.createObjectManagers objPath, r.pending⟩ := by
  unfold step at h
  dsimp only at h
  split_ifs at h with hmanager
  exact ⟨hmanager, (Option.some.inj h).symm⟩

theorem step_exports (h : r.step e = some t) :
    (t.server.nextNumber = r.server.nextNumber ∧ ∀ path object,
      t.server.exported.lookup path = some object →
      r.server.exported.lookup path = some object) ∨
    ∃ object, r.server.Exports t.server object ∧ e.Exports r.server object.path := by
  unfold step at h
  cases e with
  | busAcquired objPath =>
      obtain ⟨_, rfl⟩ := step_busAcquired h
      exact .inl ⟨rfl, fun _ _ => id⟩
  | addApplication type =>
      cases h
      cases type <;> exact .inl ⟨rfl, fun _ _ => id⟩
  | removeApplication type appId =>
      obtain ⟨o, ho, rfl⟩ := Option.map_eq_some_iff.mp h
      cases type with
      | client =>
          cases ho
          exact .inl ⟨rfl, fun _ _ => id⟩
      | server =>
          rcases LocalServer.removeApplication_cases ho with ⟨_, rfl⟩ | ⟨app, _, rfl⟩
          · exact .inl ⟨rfl, fun _ _ => id⟩
          · exact .inl ⟨rfl, fun _ _ hobject => KeyedMap.lookup_foldl_some
              (fun _ _ => LocalServer.lookup_removeLocalServices_some) _ hobject⟩
  | addService appId service =>
      cases h
      rcases r.server.addService_cases appId service with hfail | ⟨object, hpath, hexports, _⟩
      · rw [issued, hfail]
        exact .inl ⟨rfl, fun _ _ => id⟩
      · exact .inr ⟨object, hexports, hpath⟩
  | removeService appId serviceId =>
      cases h
      rcases r.server.removeService_cases appId serviceId with hfail | ⟨app, service, _, _, hdone⟩
      · rw [issued, hfail]
        exact .inl ⟨rfl, fun _ _ => id⟩
      · rw [issued, hdone]
        exact .inl ⟨rfl, fun _ _ => LocalServer.lookup_removeLocalServices_some⟩
  | addCharacteristic alloc appId serviceId characteristic =>
      obtain ⟨o, ho, rfl⟩ := Option.map_eq_some_iff.mp h
      rcases LocalServer.addCharacteristic_cases ho with
        ⟨_, _, _, _, hsame⟩ | ⟨_, object, hservice, hpath, hexports, _⟩
      · refine .inl ⟨hsame.nextNumber, fun path object hobject => ?_⟩
        rw [← hsame.exported]
        exact hobject
      · exact .inr ⟨object, hexports, hpath, by simp [hservice]⟩
  | addDescriptor alloc appId serviceId descriptor =>
      obtain ⟨o, ho, rfl⟩ := Option.map_eq_some_iff.mp h
      rcases LocalServer.addDescriptor_cases ho with
        ⟨_, _, _, _, hsame⟩ | ⟨object, hpath, hexports, _⟩
      · refine .inl ⟨hsame.nextNumber, fun path object hobject => ?_⟩
        rw [← hsame.exported]
        exact hobject
      · exact .inr ⟨object, hexports, hpath⟩
  | registered i reply =>
      obtain ⟨registration, _, hdone⟩ := Option.bind_eq_some_iff.mp h
      obtain ⟨done, hcomplete, rfl⟩ := Option.map_eq_some_iff.mp hdone
      obtain ⟨_, hexported, hnumber⟩ := LocalServer.complete_keeps hcomplete
      refine .inl ⟨hnumber, fun path object hobject => ?_⟩
      rw [← hexported]
      exact hobject
  | write path value =>
      obtain ⟨_, _, rfl⟩ := Option.map_eq_some_iff.mp h
      exact .inl ⟨rfl, fun _ _ => id⟩

end ServerRun

def serverMachine : Machine ServerRun ServerEvent := ⟨{}, ServerRun.step⟩

def serverSetup : List ServerEvent :=
  [.busAcquired [], .addApplication .server, .addService 1 {}, .registered 0 none]

end BluezSil.Gatt
