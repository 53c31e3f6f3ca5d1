import BluezSil.GattLocalOperations

/-!
# Removing applications and services of the local GATT server

A service loses its object and its interface as it is removed. `removeService` erases it,
`removeApplication` leaves it in the map of an application that stays registered. Ids that
were removed and not handed out again are remembered beside the run.
-/

namespace BluezSil.Gatt

open TransitionRun

def LocalService.Present (service : LocalService) : Prop :=
  service.mServiceObject ≠ none ∧ service.mServiceInterface ≠ none

namespace LocalServer

def NoNull (s : LocalServer) : Prop :=
  ∀ a v service, s.findService a v = some service → service.Present

/-- The id is unknown to every operation. A write is one for the application whose object
is written, and for the one the handler reads from the path. -/
structure Unknown (s : LocalServer) (appId : UInt16) : Prop where
  absent : appId ∉ s.mGattLocalApplications
  addCharacteristic : ∀ alloc serviceId characteristic, ∃ o,
    s.addCharacteristic alloc appId serviceId characteristic = some o ∧ o.ReportsError
  addDescriptor : ∀ alloc serviceId descriptor, ∃ o,
    s.addDescriptor alloc appId serviceId descriptor = some o ∧ o.ReportsError
  removeService : ∀ serviceId, (s.removeService appId serviceId).ReportsError
  write : ∀ (path : LocalPath) value, path.appId = appId ∨ path.appId % 10 = appId →
    s.write path value = some []

/-- The exported objects whose writes are read as writes to a registered application, or
to their own. -/
def Owns (s : LocalServer) : LocalPath → Prop
  | .service _ _ => True
  | .characteristic appId _ _ => appId ∈ s.mGattLocalApplications
  | .descriptor appId _ _ _ => appId ∈ s.mGattLocalApplications ∨ appId < 10

end LocalServer

namespace ServerEvent

def registers (s : LocalServer) : ServerEvent → Option UInt16
  | .addApplication .server => some s.nextAppId
  | _ => none

def removes : ServerEvent → List UInt16
  | .removeApplication .server appId => [appId]
  | _ => []

end ServerEvent

structure TeardownRun where
  run : ServerRun := {}
  removed : List UInt16 := []

def TeardownRun.step (t : TeardownRun) (e : ServerEvent) : Option TeardownRun :=
  (t.run.step e).map fun run =>
    ⟨run, e.removes ++ t.removed.filter fun id => e.registers t.run.server ≠ some id⟩

def teardownMachine : Machine TeardownRun ServerEvent := ⟨{}, TeardownRun.step⟩

/-- Only unregistered ids are removed, and no descriptor is added for an unregistered id of
several digits. -/
def RemovesUnregistered (t : TeardownRun) : ServerEvent → Prop
  | .removeApplication .server appId => appId ∉ t.run.server.mGattLocalApplications
  | .addDescriptor _ appId _ _ => appId ∈ t.run.server.mGattLocalApplications ∨ appId < 10
  | _ => True

instance : DecidableRel RemovesUnregistered := fun _ e =>
  match e with
  | .removeApplication .server _ => inferInstanceAs (Decidable (¬ _))
  | .removeApplication .client _ => isTrue trivial
  | .addDescriptor _ appId _ _ =>
    @instDecidableOr _ _ (AList.instDecidableMem _ _) (UInt16.decLt appId 10)
  | .busAcquired _ => isTrue trivial
  | .addApplication _ => isTrue trivial
  | .addService _ _ => isTrue trivial
  | .removeService _ _ => isTrue trivial
  | .addCharacteristic _ _ _ _ => isTrue trivial
  | .registered _ _ => isTrue trivial
  | .write _ _ => isTrue trivial

namespace LocalServer

variable {s t : LocalServer} {a v : UInt16} {path : LocalPath}

theorem ofInt_digit (id : UInt16) : UInt16.ofInt ((id.toNat % 10 : ℕ) : ℤ) = id % 10 := by
  have hdigit : (((id.toNat % 10 : ℕ) : ℤ) % 2 ^ 16).toNat = id.toNat % 10 := by omega
  unfold UInt16.ofInt
  rw [hdigit]
  apply UInt16.toNat.inj
  rw [UInt16.toNat_mod, UInt16.toNat_ofNat']
  exact Nat.mod_eq_of_lt (by omega)

theorem mod_ten_of_lt {id : UInt16} (h : id < 10) : id % 10 = id := by
  apply UInt16.toNat.inj
  rw [UInt16.toNat_mod]
  exact Nat.mod_eq_of_lt (UInt16.lt_iff_toNat_lt.mp h)

theorem writtenServiceUuid_of_not_mem {ids : ℤ × ℤ}
    (h : UInt16.ofInt ids.1 ∉ s.mGattLocalApplications) :
    s.writtenServiceUuid ids = some none := by
  unfold writtenServiceUuid findService
  rw [AList.lookup_eq_none.mpr h]
  rfl

theorem write_of_not_mem (value : List UInt8)
    (h : path.appId % 10 ∉ s.mGattLocalApplications) : s.write path value = some [] := by
  rw [← ofInt_digit] at h
  unfold write
  cases s.mObjectManagerGattServer with
  | none => rfl
  | some objPath =>
      cases s.exported.lookup path with
      | none => rfl
      | some object =>
          cases path with
          | service appId serviceId => rfl
          | characteristic appId serviceId charId =>
              dsimp only
              unfold onHandleCharacteriscticWriteValue
              rw [writtenService_serviceObjPath, Option.bind_some,
                writtenServiceUuid_of_not_mem h, Option.map_some]
          | descriptor appId serviceId charId descId =>
              dsimp only
              unfold onHandleDescrptorWriteValue
              rw [writtenCharacteristic_charObjPath, Option.bind_some,
                writtenServiceUuid_of_not_mem h, Option.map_some]

theorem write_of_not_exported (value : List UInt8) (h : path ∉ s.exported) :
    s.write path value = some [] := by
  unfold write
  rw [AList.lookup_eq_none.mpr h]
  cases s.mObjectManagerGattServer <;> rfl

theorem write_service (s : LocalServer) (a v : UInt16) (value : List UInt8) :
    s.write (.service a v) value = some [] := by
  unfold write
  cases s.mObjectManagerGattServer with
  | none => rfl
  | some objPath => cases s.exported.lookup (.service a v) <;> rfl

theorem write_unknown (value : List UInt8) (hexported : ∀ path ∈ s.exported, s.Owns path)
    (ha : a ∉ s.mGattLocalApplications) (hpath : path.appId = a ∨ path.appId % 10 = a) :
    s.write path value = some [] := by
  rcases hpath with hown | hread
  · by_cases hmem : path ∈ s.exported
    · have howns := hexported path hmem
      cases path with
      | service appId serviceId => exact write_service s _ _ value
      | characteristic appId serviceId charId =>
          rw [← hown] at ha
          exact absurd howns ha
      | descriptor appId serviceId charId descId =>
          rw [← hown] at ha
          rcases howns with hknown | hdigit
          · exact absurd hknown ha
          · apply write_of_not_mem
            rw [LocalPath.appId, mod_ten_of_lt hdigit]
            exact ha
    · exact write_of_not_exported value hmem
  · apply write_of_not_mem
    rw [hread]
    exact ha

theorem findService_of_not_mem (h : a ∉ s.mGattLocalApplications) : s.findService a v = none := by
  unfold findService
  rw [AList.lookup_eq_none.mpr h]
  rfl

/-- Without the application no characteristic is found, whatever the last one was. -/
theorem getLocalDescriptorList_of_not_mem {c : UInt16} (h : a ∉ s.mGattLocalApplications) :
    s.getLocalDescriptorList a v c = none := by
  unfold getLocalDescriptorList findCharacteristic
  rw [findService_of_not_mem h]
  rfl

theorem addDescriptor_of_not_mem (alloc : Allocation) (serviceId : UInt16)
    (descriptor : BluetoothGattDescriptor) (hmanager : s.mObjectManagerGattServer ≠ none)
    (h : a ∉ s.mGattLocalApplications) :
    ∃ o, s.addDescriptor alloc a serviceId descriptor = some o ∧ o.ReportsError := by
  have hsome : (s.addDescriptor alloc a serviceId descriptor).isSome := by
    unfold addDescriptor
    cases hobjPath : s.mObjectManagerGattServer with
    | none => exact absurd hobjPath hmanager
    | some objPath =>
        dsimp only
        split_ifs <;> rfl
  obtain ⟨o, ho⟩ := Option.isSome_iff_exists.mp hsome
  have hlist := getLocalDescriptorList_of_not_mem (v := serviceId) (c := s.mLastCharId) h
  refine ⟨o, ho, ?_⟩
  rcases addDescriptor_cases ho with ⟨error, herror, hanswers, _, _⟩ | ⟨_, _, _, hanswers, _⟩
  · rw [hlist] at hanswers
    unfold Issued.ReportsError
    rw [hanswers]
    simp [listAnswers, notAdded, Answer.error, herror]
  · rw [hlist] at hanswers
    unfold Issued.ReportsError
    rw [hanswers]
    simp [listAnswers, notAdded, Answer.error]

theorem addCharacteristic_of_not_mem (alloc : Allocation) (serviceId : UInt16)
    (characteristic : BluetoothGattCharacteristic) (h : a ∉ s.mGattLocalApplications) :
    ∃ o, s.addCharacteristic alloc a serviceId characteristic = some o ∧ o.ReportsError := by
  refine ⟨⟨s, [notAdded .paramInvalid], none⟩, ?_, by simp, ?_⟩
  · unfold addCharacteristic
    rw [findService_of_not_mem h]
  · simp [notAdded, Answer.error]

theorem removeService_of_not_mem (serviceId : UInt16) (h : a ∉ s.mGattLocalApplications) :
    (s.removeService a serviceId).ReportsError := by
  rcases removeService_cases s a serviceId with hfail | ⟨app, service, happ, _, _⟩
  · rw [hfail]
    simp [Issued.ReportsError, Answer.error]
  · exact absurd (KeyedMap.mem_of_lookup happ) h

theorem unknown_of_not_mem (hmanager : s.mObjectManagerGattServer ≠ none)
    (hexported : ∀ path ∈ s.exported, s.Owns path) (ha : a ∉ s.mGattLocalApplications) :
    s.Unknown a where
  absent := ha
  addCharacteristic alloc serviceId c := addCharacteristic_of_not_mem alloc serviceId c ha
  addDescriptor alloc serviceId d := addDescriptor_of_not_mem alloc serviceId d hmanager ha
  removeService serviceId := removeService_of_not_mem serviceId ha
  write _ value hpath := write_unknown value hexported ha hpath

theorem Owns.mono (h : s.Owns path)
    (happs : ∀ a, a ∈ s.mGattLocalApplications → a ∈ t.mGattLocalApplications) :
    t.Owns path := by
  cases path with
  | service appId serviceId => trivial
  | characteristic appId serviceId charId => exact happs _ h
  | descriptor appId serviceId charId descId => exact h.imp (happs _) id

end LocalServer

section Present

variable {s t : LocalServer} {registration : Registration} {reply : Reply}
variable {done : LocalServer × List Answer}

theorem LocalServer.NoNull.congr (h : s.NoNull)
    (happs : t.mGattLocalApplications = s.mGattLocalApplications) : t.NoNull := by
  intro a v service hservice
  rw [LocalServer.findService_congr happs] at hservice
  exact h a v service hservice

theorem LocalServer.NoNull.insert {appId : UInt16} {app : LocalApplication} (h : s.NoNull)
    (happs : t.mGattLocalApplications = s.mGattLocalApplications.insert appId app)
    (happ : ∀ v service, app.mGattLocalServices.lookup v = some service → service.Present) :
    t.NoNull := by
  intro a v service hservice
  rw [LocalServer.findService_insert happs] at hservice
  split_ifs at hservice
  · exact happ v service hservice
  · exact h a v service hservice

theorem LocalServer.NoNull.services (h : s.NoNull) {appId : UInt16} {app : LocalApplication}
    (happ : s.mGattLocalApplications.lookup appId = some app) (v : UInt16)
    (service : LocalService) (hservice : app.mGattLocalServices.lookup v = some service) :
    service.Present := by
  apply h appId v service
  unfold LocalServer.findService
  rw [happ]
  exact hservice

theorem LocalServer.NoNull.modifyService (h : s.NoNull) (a v : UInt16)
    {f : LocalService → LocalService}
    (hf : ∀ service : LocalService, service.Present → (f service).Present) :
    (s.modifyService a v f).NoNull := by
  intro a' v' service hservice
  by_cases hplace : a' = a ∧ v' = v
  · obtain ⟨rfl, rfl⟩ := hplace
    rw [LocalServer.findService_modifyService_self] at hservice
    obtain ⟨old, hold, rfl⟩ := Option.map_eq_some_iff.mp hservice
    exact hf old (h _ _ old hold)
  · rw [LocalServer.findService_modifyService_ne hplace] at hservice
    exact h _ _ service hservice

theorem LocalServer.NoNull.complete (h : s.NoNull)
    (hdone : s.complete registration reply = some done) : done.1.NoNull := by
  cases reply with
  | some message =>
      rw [LocalServer.complete_error hdone]
      exact h
  | none =>
      unfold LocalServer.complete at hdone
      cases registration with
      | addService object appId serviceId =>
          cases happ : s.mGattLocalApplications.lookup appId with
          | none =>
              simp only [happ] at hdone
              cases hdone
              exact h
          | some app =>
              simp only [happ] at hdone
              cases hdone
              apply h.insert rfl
              intro v service hservice
              rcases KeyedMap.lookup_emplace_cases hservice with hold | ⟨_, rfl⟩
              · exact h.services happ v service hold
              · exact ⟨by simp, by simp⟩
      | addCharacteristic object chars charId =>
          dsimp only at hdone
          split_ifs at hdone
          cases hdone
          refine LocalServer.NoNull.congr (h.modifyService _ _ ?_) rfl
          exact fun _ hpresent => hpresent
      | addDescriptor object descs descId =>
          cases descs with
          | none => cases hdone
          | some descs =>
              dsimp only at hdone
              split_ifs at hdone
              cases hdone
              exact h.modifyService _ _ fun _ hpresent => hpresent
      | removeService =>
          cases hdone
          exact h
      | removeApplication =>
          cases hdone
          exact h

end Present

namespace ServerRun

variable {r t : ServerRun} {e : ServerEvent}

theorem step_applications (h : r.step e = some t) (a : UInt16) :
    a ∈ t.server.mGattLocalApplications ↔
      a ∈ r.server.mGattLocalApplications ∨ e.registers r.server = some a := by
  have hkeeps : r.server.Keeps t.server → e.registers r.server = none →
      (a ∈ t.server.mGattLocalApplications ↔
        a ∈ r.server.mGattLocalApplications ∨ e.registers r.server = some a) := by
    intro hkeeps hnone
    rw [hkeeps.applications, hnone]
    simp
  cases e with
  | busAcquired objPath =>
      obtain ⟨_, rfl⟩ := step_busAcquired h
      simp [ServerEvent.registers, LocalServer.createObjectManagers]
  | addApplication type =>
      cases h
      cases type with
      | client => simp [ServerEvent.registers, LocalServer.addApplication]
      | server =>
          change a ∈ r.server.mGattLocalApplications.emplace r.server.nextAppId {} ↔ _
          rw [KeyedMap.mem_emplace, ServerEvent.registers, Option.some.injEq, eq_comm]
  | _ => exact hkeeps (step_keeps h nofun nofun) rfl

theorem step_manager (h : r.step e = some t)
    (hmanager : r.server.mObjectManagerGattServer ≠ none) :
    t.server.mObjectManagerGattServer ≠ none := by
  cases e with
  | busAcquired objPath => exact absurd (step_busAcquired h).1 hmanager
  | addApplication type =>
      cases h
      cases type <;> exact hmanager
  | _ =>
      rw [(step_keeps h nofun nofun).manager]
      exact hmanager

theorem step_exported (h : r.step e = some t) {path : LocalPath}
    (hdesc : ∀ alloc a v d, e = .addDescriptor alloc a v d →
      a ∈ r.server.mGattLocalApplications ∨ a < 10) (hpath : path ∈ t.server.exported) :
    path ∈ r.server.exported ∨ r.server.Owns path := by
  rcases step_exports h with ⟨_, hold⟩ | ⟨object, hexports, hplace⟩
  · obtain ⟨object, hobject⟩ := KeyedMap.exists_lookup hpath
    exact .inl (KeyedMap.mem_of_lookup (hold path object hobject))
  · rw [hexports.exported, AList.mem_insert] at hpath
    rcases hpath with rfl | hmem
    · right
      cases e with
      | addService appId service =>
          rw [hplace]
          trivial
      | addCharacteristic alloc appId serviceId characteristic =>
          obtain ⟨service, hservice⟩ := Option.ne_none_iff_exists'.mp hplace.2
          rw [hplace.1]
          exact LocalServer.mem_of_findService hservice
      | addDescriptor alloc appId serviceId descriptor =>
          rw [hplace]
          exact hdesc _ _ _ _ rfl
      | _ => cases hplace
    · exact .inl hmem

/-- Only the removal of a registered application clears a service and keeps it. -/
theorem step_noNull (h : r.step e = some t) (hnull : r.server.NoNull)
    (happ : ∀ a, e = .removeApplication .server a → a ∉ r.server.mGattLocalApplications) :
    t.server.NoNull := by
  unfold step at h
  cases e with
  | busAcquired objPath =>
      obtain ⟨_, rfl⟩ := step_busAcquired h
      exact hnull.congr rfl
  | addApplication type =>
      cases h
      cases type with
      | client => exact hnull.congr rfl
      | server =>
          by_cases hmem : r.server.nextAppId ∈ r.server.mGattLocalApplications
          · exact hnull.congr (if_pos hmem)
          · exact hnull.insert (if_neg hmem) nofun
  | removeApplication type appId =>
      obtain ⟨o, ho, rfl⟩ := Option.map_eq_some_iff.mp h
      cases type with
      | client =>
          cases ho
          exact hnull
      | server =>
          rcases LocalServer.removeApplication_cases ho with ⟨_, rfl⟩ | ⟨app, hmem, _⟩
          · exact hnull
          · exact absurd (KeyedMap.mem_of_lookup hmem) (happ appId rfl)
  | addService appId service =>
      cases h
      rcases r.server.addService_cases appId service with hfail | ⟨object, _, hexports, _⟩
      · rw [issued, hfail]
        exact hnull
      · exact hnull.congr hexports.applications
  | removeService appId serviceId =>
      cases h
      rcases r.server.removeService_cases appId serviceId with
        hfail | ⟨app, service, hmem, _, hdone⟩
      · rw [issued, hfail]
        exact hnull
      · rw [issued, hdone]
        apply hnull.insert rfl
        intro v other hother
        exact hnull.services hmem v other (KeyedMap.lookup_erase_some hother).2
  | addCharacteristic alloc appId serviceId characteristic =>
      obtain ⟨o, ho, rfl⟩ := Option.map_eq_some_iff.mp h
      rcases LocalServer.addCharacteristic_cases ho with
        ⟨_, _, _, _, hsame⟩ | ⟨_, _, _, _, hexports, _⟩
      · exact hnull.congr hsame.applications
      · exact hnull.congr hexports.applications
  | addDescriptor alloc appId serviceId descriptor =>
      obtain ⟨o, ho, rfl⟩ := Option.map_eq_some_iff.mp h
      rcases LocalServer.addDescriptor_cases ho with ⟨_, _, _, _, hsame⟩ | ⟨_, _, hexports, _⟩
      · exact hnull.congr hsame.applications
      · exact hnull.congr hexports.applications
  | registered i reply =>
      obtain ⟨registration, _, hdone⟩ := Option.bind_eq_some_iff.mp h
      obtain ⟨done, hcomplete, rfl⟩ := Option.map_eq_some_iff.mp hdone
      exact hnull.complete hcomplete
  | write path value =>
      obtain ⟨_, _, rfl⟩ := Option.map_eq_some_iff.mp h
      exact hnull

theorem removes_manager (h : r.step e = some t) (hremoves : e.removes ≠ []) :
    t.server.mObjectManagerGattServer ≠ none := by
  cases e with
  | removeApplication type appId =>
      cases type with
      | client => exact absurd rfl hremoves
      | server =>
          apply step_manager h
          intro hmanager
          unfold step LocalServer.removeApplication at h
          rw [hmanager] at h
          cases h
  | _ => exact absurd rfl hremoves

end ServerRun

namespace TeardownRun

variable {r t : TeardownRun} {e : ServerEvent}

structure Clean (r : TeardownRun) : Prop where
  noNull : r.run.server.NoNull
  removed : ∀ id ∈ r.removed, id ∉ r.run.server.mGattLocalApplications
  manager : r.removed ≠ [] → r.run.server.mObjectManagerGattServer ≠ none
  exported : ∀ path ∈ r.run.server.exported, r.run.server.Owns path

theorem clean_step (hclean : r.Clean) (hguard : RemovesUnregistered r e)
    (h : r.step e = some t) : t.Clean := by
  obtain ⟨run, hrun, rfl⟩ := Option.map_eq_some_iff.mp h
  have happs := ServerRun.step_applications hrun
  constructor
  · apply ServerRun.step_noNull hrun hclean.noNull
    rintro a rfl
    exact hguard
  · intro id hid
    rw [happs]
    rcases List.mem_append.mp hid with hnew | hold
    · cases e with
      | removeApplication type appId =>
          cases type with
          | client => cases hnew
          | server =>
              rw [List.mem_singleton.mp hnew]
              exact not_or.mpr ⟨hguard, nofun⟩
      | _ => cases hnew
    · obtain ⟨hmem, hne⟩ := List.mem_filter.mp hold
      exact not_or.mpr ⟨hclean.removed id hmem, of_decide_eq_true hne⟩
  · intro hne
    by_cases hremoves : e.removes = []
    · apply ServerRun.step_manager hrun
      apply hclean.manager
      intro hnil
      rw [hremoves, hnil] at hne
      exact hne rfl
    · exact ServerRun.removes_manager hrun hremoves
  · intro path hpath
    have hmono : ∀ a, a ∈ r.run.server.mGattLocalApplications →
        a ∈ run.server.mGattLocalApplications := fun a ha => (happs a).mpr (.inl ha)
    have hold : path ∈ r.run.server.exported ∨ r.run.server.Owns path := by
      apply ServerRun.step_exported hrun _ hpath
      rintro alloc a v d rfl
      exact hguard
    rcases hold with hmem | howns
    · exact (hclean.exported path hmem).mono hmono
    · exact howns.mono hmono

theorem clean_of_reach (h : teardownMachine.ReachWith RemovesUnregistered r) : r.Clean :=
  h.invariant ⟨nofun, nofun, fun hne => absurd rfl hne, nofun⟩ fun _ _ _ => clean_step

theorem Clean.unknown (hclean : r.Clean) {id : UInt16} (hid : id ∈ r.removed) :
    r.run.server.Unknown id :=
  LocalServer.unknown_of_not_mem (hclean.manager (List.ne_nil_of_mem hid)) hclean.exported
    (hclean.removed id hid)

theorem step_removeApplication {appId : UInt16}
    (h : r.step (.removeApplication .server appId) = some t) :
    ∃ o, r.run.server.removeApplication .server appId = some o ∧ t.run.server = o.server := by
  obtain ⟨run, hrun, rfl⟩ := Option.map_eq_some_iff.mp h
  unfold ServerRun.step at hrun
  obtain ⟨o, ho, rfl⟩ := Option.map_eq_some_iff.mp hrun
  exact ⟨o, ho, rfl⟩

theorem unknown_iff (hreach : teardownMachine.ReachWith RemovesUnregistered r) {appId : UInt16}
    (h : r.step (.removeApplication .server appId) = some t) :
    t.run.server.Unknown appId ↔ appId ∉ r.run.server.mGattLocalApplications := by
  obtain ⟨run, hrun, ht⟩ := Option.map_eq_some_iff.mp h
  constructor
  · intro hunknown hmem
    apply hunknown.absent
    rw [← ht]
    exact (ServerRun.step_applications hrun appId).mpr (.inl hmem)
  · intro hmem
    have hguard : RemovesUnregistered r (.removeApplication .server appId) := hmem
    apply (clean_of_reach (.step hreach hguard h)).unknown
    rw [← ht]
    exact List.mem_cons_self

theorem noNull_iff (hclean : r.Clean) {appId : UInt16}
    (h : r.step (.removeApplication .server appId) = some t) :
    t.run.server.NoNull ↔ ∀ v, r.run.server.findService appId v = none := by
  obtain ⟨o, ho, hserver⟩ := step_removeApplication h
  rw [hserver]
  rcases LocalServer.removeApplication_cases ho with ⟨hmem, rfl⟩ | ⟨app, happ, rfl⟩
  · exact ⟨fun _ _ => LocalServer.findService_of_not_mem hmem, fun _ => hclean.noNull⟩
  · have hfind : ∀ v, r.run.server.findService appId v = app.mGattLocalServices.lookup v := by
      intro v
      unfold LocalServer.findService
      rw [happ]
      rfl
    constructor
    · intro hnull v
      rw [hfind]
      cases hservice : app.mGattLocalServices.lookup v with
      | none => rfl
      | some service =>
          have hpresent := hclean.noNull.services happ v service hservice
          have hcleared : service.cleared.Present := by
            apply hnull appId v
            rw [LocalServer.findService_insert rfl, if_pos rfl, KeyedMap.lookup_mapValues,
              hservice, Option.map_some]
          unfold LocalService.cleared at hcleared
          cases hobject : service.mServiceObject with
          | none => exact absurd hobject hpresent.1
          | some object =>
              rw [hobject] at hcleared
              exact absurd rfl hcleared.1
    · intro hnone
      apply hclean.noNull.insert rfl
      intro v service hservice
      rw [KeyedMap.lookup_mapValues, ← hfind, hnone] at hservice
      cases hservice

end TeardownRun

/-- As long as no registered application is removed, no service lacks its object and removed
ids are unknown. Removing a registered application leaves it registered, and each of its
services without object and interface. -/
theorem localServer_teardown {r : TeardownRun}
    (h : teardownMachine.ReachWith RemovesUnregistered r) :
    (r.run.server.NoNull ∧ ∀ id ∈ r.removed, r.run.server.Unknown id) ∧
    ∀ (t : TeardownRun) appId, r.step (.removeApplication .server appId) = some t →
      (t.run.server.Unknown appId ↔ appId ∉ r.run.server.mGattLocalApplications) ∧
      (t.run.server.NoNull ↔ ∀ v, r.run.server.findService appId v = none) := by
  have hclean := TeardownRun.clean_of_reach h
  constructor
  · exact ⟨hclean.noNull, fun _ => hclean.unknown⟩
  · intro t appId hstep
    exact ⟨TeardownRun.unknown_iff h hstep, TeardownRun.noNull_iff hclean hstep⟩

/-- A service is removed, and then an application that was never added. -/
theorem localServer_teardown_unregistered : ∃ r : TeardownRun,
    r.removed = [2] ∧ r.run.server.NoNull ∧ r.run.server.Unknown 2 := by
  have hclean := (localServer_teardown (Machine.reachWith_of_runWith
    (serverSetup ++ [.removeService 1 1, .removeApplication .server 2]) .init rfl)).1
  exact ⟨_, rfl, hclean.1, hclean.2 2 List.mem_cons_self⟩

/-- The application is removed with its service, and stays. -/
theorem localServer_teardown_registered : ¬ ∀ r : TeardownRun, teardownMachine.Reach r →
    r.run.server.NoNull ∧ ∀ id ∈ r.removed, r.run.server.Unknown id := by
  intro h
  have hrun : ∃ t, teardownMachine.run teardownMachine.init
      (serverSetup ++ [.removeApplication .server 1]) = some t ∧ t.removed = [1] ∧
      1 ∈ t.run.server.mGattLocalApplications :=
    ⟨_, rfl, rfl, by decide⟩
  obtain ⟨t, hrun, hremoved, hmem⟩ := hrun
  have hunknown := (h t (Machine.reach_of_run _ hrun)).2 1 (by rw [hremoved]; decide)
  exact hunknown.absent hmem

end BluezSil.Gatt
