import BluezSil.GattLocalOperations

/-!
# Registering local attributes as one step

A call of an add function exports its object before the daemon has registered it. The reply
comes when other calls may have changed the server, so the completion runs in a state of its
own. A registration is atomic if its callback is called once, and an error leaves no trace
of the call.
-/

namespace BluezSil.Gatt

open TransitionRun

/-- The call has one answer, and an error leaves the maps and the exported objects as they
were. What others have changed by the time of the completion stays changed. -/
def RegisteredAtomically (s : LocalServer) (issued : Option Issued) (mid : LocalServer)
    (reply : Reply) : Prop :=
  ∃ o, issued = some o ∧
    match o.registration with
    | none => ∃ answer, o.answers = [answer] ∧ (answer.error ≠ .none →
        o.server.mGattLocalApplications = s.mGattLocalApplications ∧
        o.server.exported = s.exported)
    | some registration => ∃ done answer, mid.complete registration reply = some done ∧
        o.answers ++ done.2 = [answer] ∧ (answer.error ≠ .none →
          o.server.mGattLocalApplications = s.mGattLocalApplications ∧
          done.1.mGattLocalApplications = mid.mGattLocalApplications ∧
          KeyedMap.Undone s.exported o.server.exported mid.exported done.1.exported)

/-- The registration succeeds and the attribute can be stored, or it fails and the object is
no longer exported. -/
def Settled (mid : LocalServer) (object : ObjectSkeleton) (stored : Prop) : Reply → Prop
  | none => stored
  | some _ => mid.exported.lookup object.path ≠ some object

namespace LocalServer

variable (s mid : LocalServer) (reply : Reply)

def serviceObject (appId : UInt16) (service : BluetoothGattService) : ObjectSkeleton :=
  ⟨s.nextNumber, .service appId s.nextServiceId, service.uuid, []⟩

def charObject (appId serviceId : UInt16) (characteristic : BluetoothGattCharacteristic) :
    ObjectSkeleton :=
  ⟨s.nextNumber, .characteristic appId serviceId s.nextCharId, characteristic.uuid,
    characteristic.properties⟩

def descObject (appId serviceId : UInt16) (descriptor : BluetoothGattDescriptor) :
    ObjectSkeleton :=
  ⟨s.nextNumber, .descriptor appId serviceId s.mLastCharId s.nextDescId, descriptor.uuid, []⟩

def ServiceSettles (appId : UInt16) (service : BluetoothGattService) : Prop :=
  s.mObjectManagerGattServer = none ∨
    Settled mid (s.serviceObject appId service) (appId ∈ mid.mGattLocalApplications) reply

def CharacteristicSettles (alloc : Allocation) (appId serviceId : UInt16)
    (characteristic : BluetoothGattCharacteristic) : Prop :=
  match s.findService appId serviceId with
  | none => True
  | some service => alloc.interface = false ∨ s.mObjectManagerGattServer ≠ none ∧
      ((alloc.object && alloc.dataBuilder && alloc.flagsBuilder) = false ∨
        Settled mid (s.charObject appId serviceId characteristic)
          (mid.HasChars ⟨appId, serviceId, service.number⟩) reply)

def DescriptorSettles (alloc : Allocation) (appId serviceId : UInt16)
    (descriptor : BluetoothGattDescriptor) : Prop :=
  match s.getLocalDescriptorList appId serviceId s.mLastCharId with
  | none => False
  | some descs => alloc.interface = false ∨ s.mObjectManagerGattServer ≠ none ∧
      ((alloc.object && alloc.flagsBuilder) = false ∨
        Settled mid (s.descObject appId serviceId descriptor) (mid.HasDescs descs) reply)

/-- The objects exported are older than the next one. -/
def Numbered : Prop :=
  ∀ path object, s.exported.lookup path = some object → object.number < s.nextNumber

end LocalServer

theorem numbered_of_reach {r : ServerRun} (h : serverMachine.Reach r) : r.server.Numbered := by
  apply h.invariant (P := fun r => r.server.Numbered) nofun
  intro r e t hnumbered _ hstep path object hobject
  rcases ServerRun.step_exports hstep with ⟨hnumber, hold⟩ | ⟨new, hexports, _⟩
  · rw [hnumber]
    exact hnumbered path object (hold path object hobject)
  · rw [hexports.exported] at hobject
    rw [hexports.nextNumber]
    rcases KeyedMap.lookup_insert_cases hobject with ⟨_, rfl⟩ | ⟨_, hold⟩
    · rw [hexports.number]
      exact Nat.lt_succ_self _
    · exact Nat.lt_succ_of_lt (hnumbered path object hold)

section Atomic

variable {s mid : LocalServer} {reply : Reply} {o : Issued} {object : ObjectSkeleton}
variable {registration : Registration} {error : BluetoothError}

/-- A refusal changes nothing, so all that matters is that it is the only answer. -/
theorem registeredAtomically_refused (hanswers : o.answers = [notAdded error])
    (hnone : o.registration = none) (hsame : s.Unchanged o.server) :
    RegisteredAtomically s (some o) mid reply := by
  refine ⟨o, rfl, ?_⟩
  rw [hnone]
  exact ⟨notAdded error, hanswers, fun _ => ⟨hsame.applications, hsame.exported⟩⟩

theorem not_registeredAtomically_none : ¬ RegisteredAtomically s none mid reply := by
  rintro ⟨_, ho, _⟩
  cases ho

theorem not_registeredAtomically_of_two {first second : Answer}
    (hanswers : o.answers = [first, second]) (hnone : o.registration = none) :
    ¬ RegisteredAtomically s (some o) mid reply := by
  rintro ⟨_, ho, h⟩
  cases ho
  rw [hnone] at h
  obtain ⟨answer, hanswer, _⟩ := h
  rw [hanswers] at hanswer
  cases hanswer

theorem registeredAtomically_failed (hnumbered : s.Numbered)
    (hexports : s.Exports o.server object) (hanswers : o.answers = [])
    (hregistration : o.registration = some registration)
    (hfail : mid.complete registration reply = some (mid, [notAdded .fail])) :
    RegisteredAtomically s (some o) mid reply ↔
      mid.exported.lookup object.path ≠ some object := by
  have hnew : s.exported.lookup object.path ≠ some object := by
    intro hold
    exact absurd hexports.number (Nat.ne_of_lt (hnumbered _ _ hold))
  rw [← KeyedMap.undone_insert_iff hnew, ← hexports.exported]
  constructor
  · rintro ⟨_, ho, h⟩
    cases ho
    rw [hregistration] at h
    obtain ⟨done, answer, hdone, hanswer, hundone⟩ := h
    rw [hfail] at hdone
    cases hdone
    rw [hanswers] at hanswer
    cases hanswer
    exact (hundone nofun).2.2
  · intro hundone
    refine ⟨o, rfl, ?_⟩
    rw [hregistration]
    refine ⟨_, notAdded .fail, hfail, ?_, fun _ => ⟨hexports.applications, rfl, hundone⟩⟩
    rw [hanswers]
    rfl

theorem registeredAtomically_succeeded {stored : Prop} (hanswers : o.answers = [])
    (hregistration : o.registration = some registration)
    (hstored : stored → ∃ t id, mid.complete registration none = some (t, [.added .none id]))
    (hlost : ¬ stored → ∀ done, mid.complete registration none = some done → done.2 = []) :
    RegisteredAtomically s (some o) mid none ↔ stored := by
  constructor
  · rintro ⟨_, ho, h⟩
    cases ho
    rw [hregistration] at h
    obtain ⟨done, answer, hdone, hanswer, _⟩ := h
    by_contra hnot
    rw [hanswers, hlost hnot done hdone] at hanswer
    cases hanswer
  · intro h
    obtain ⟨t, id, hdone⟩ := hstored h
    refine ⟨o, rfl, ?_⟩
    rw [hregistration]
    refine ⟨_, .added .none id, hdone, ?_, fun herror => absurd rfl herror⟩
    rw [hanswers]
    rfl

theorem registeredAtomically_iff_settled {stored : Prop} (hnumbered : s.Numbered)
    (hexports : s.Exports o.server object) (hanswers : o.answers = [])
    (hregistration : o.registration = some registration)
    (hfail : ∀ message, mid.complete registration (some message) = some (mid, [notAdded .fail]))
    (hstored : stored → ∃ t id, mid.complete registration none = some (t, [.added .none id]))
    (hlost : ¬ stored → ∀ done, mid.complete registration none = some done → done.2 = []) :
    RegisteredAtomically s (some o) mid reply ↔ Settled mid object stored reply := by
  cases reply with
  | none => exact registeredAtomically_succeeded hanswers hregistration hstored hlost
  | some message =>
      exact registeredAtomically_failed hnumbered hexports hanswers hregistration (hfail message)

end Atomic

namespace LocalServer

variable {s mid : LocalServer} {reply : Reply}

section Completion

variable {object : ObjectSkeleton} {appId id : UInt16} {chars : CharsRef} {descs : DescsRef}

theorem complete_addService_known (h : appId ∈ mid.mGattLocalApplications) :
    ∃ t v, mid.complete (.addService object appId id) none = some (t, [.added .none v]) := by
  obtain ⟨app, happ⟩ := KeyedMap.exists_lookup h
  simp only [complete, happ]
  exact ⟨_, _, rfl⟩

theorem complete_addService_unknown (h : appId ∉ mid.mGattLocalApplications)
    (done : LocalServer × List Answer)
    (hdone : mid.complete (.addService object appId id) none = some done) : done.2 = [] := by
  simp only [complete, AList.lookup_eq_none.mpr h] at hdone
  cases hdone
  rfl

theorem complete_addCharacteristic_present (h : mid.HasChars chars) :
    ∃ t c, mid.complete (.addCharacteristic object chars id) none =
      some (t, [.added .none c]) :=
  ⟨_, _, if_pos h⟩

theorem complete_addCharacteristic_gone (h : ¬ mid.HasChars chars)
    (done : LocalServer × List Answer)
    (hdone : mid.complete (.addCharacteristic object chars id) none = some done) :
    done.2 = [] := by
  cases (if_neg h).symm.trans hdone

theorem complete_addDescriptor_present (h : mid.HasDescs descs) :
    ∃ t d, mid.complete (.addDescriptor object (some descs) id) none =
      some (t, [.added .none d]) :=
  ⟨_, _, if_pos h⟩

theorem complete_addDescriptor_gone (h : ¬ mid.HasDescs descs)
    (done : LocalServer × List Answer)
    (hdone : mid.complete (.addDescriptor object (some descs) id) none = some done) :
    done.2 = [] := by
  cases (if_neg h).symm.trans hdone

end Completion

/-- Without a list the call has answered before it goes on, and nothing that follows is
right: another answer, or a completion that stores through a null pointer. -/
theorem addDescriptor_not_atomic {alloc : Allocation} {appId serviceId : UInt16}
    {descriptor : BluetoothGattDescriptor}
    (hlist : s.getLocalDescriptorList appId serviceId s.mLastCharId = none) :
    ¬ RegisteredAtomically s (s.addDescriptor alloc appId serviceId descriptor) mid reply := by
  cases hissued : s.addDescriptor alloc appId serviceId descriptor with
  | none => exact not_registeredAtomically_none
  | some o =>
      rcases addDescriptor_cases hissued with
        ⟨error, _, hanswers, hnone, _⟩ | ⟨object, _, _, hanswers, hregistration⟩
      · rw [hlist] at hanswers
        exact not_registeredAtomically_of_two hanswers hnone
      · rw [hlist] at hanswers hregistration
        rintro ⟨_, ho, h⟩
        cases ho
        rw [hregistration] at h
        obtain ⟨done, answer, hdone, hanswer, _⟩ := h
        cases reply with
        | none => cases hdone
        | some message =>
            cases hdone
            rw [hanswers] at hanswer
            cases hanswer

theorem addService_atomic_iff (hnumbered : s.Numbered) (appId : UInt16)
    (service : BluetoothGattService) :
    RegisteredAtomically s (some (s.addService appId service)) mid reply ↔
      s.ServiceSettles mid reply appId service := by
  unfold ServiceSettles addService
  cases hmanager : s.mObjectManagerGattServer with
  | none =>
      exact ⟨fun _ => .inl rfl, fun _ => registeredAtomically_refused rfl rfl (.refl s)⟩
  | some objPath =>
      rw [or_iff_right (by simp)]
      exact registeredAtomically_iff_settled hnumbered
        ⟨rfl, rfl, hmanager.symm, by simp [hmanager], rfl, rfl⟩ rfl rfl (fun _ => rfl)
        complete_addService_known complete_addService_unknown

theorem addCharacteristic_atomic_iff (hnumbered : s.Numbered) (alloc : Allocation)
    (appId serviceId : UInt16) (characteristic : BluetoothGattCharacteristic) :
    RegisteredAtomically s (s.addCharacteristic alloc appId serviceId characteristic) mid
        reply ↔
      s.CharacteristicSettles mid reply alloc appId serviceId characteristic := by
  unfold CharacteristicSettles addCharacteristic
  cases hservice : s.findService appId serviceId with
  | none =>
      exact ⟨fun _ => trivial, fun _ => registeredAtomically_refused rfl rfl (.refl s)⟩
  | some service =>
      dsimp only
      cases hinterface : alloc.interface with
      | false =>
          exact ⟨fun _ => .inl rfl, fun _ => registeredAtomically_refused rfl rfl (.refl s)⟩
      | true =>
          rw [if_pos rfl, or_iff_right (by simp)]
          cases hmanager : s.mObjectManagerGattServer with
          | none => exact ⟨fun h => absurd h not_registeredAtomically_none, fun h => absurd rfl h.1⟩
          | some objPath =>
              rw [and_iff_right (by simp)]
              dsimp only
              cases halloc : alloc.object && alloc.dataBuilder && alloc.flagsBuilder with
              | false =>
                  exact ⟨fun _ => .inl rfl, fun _ => registeredAtomically_refused rfl rfl
                    ⟨rfl, rfl, hmanager.symm, rfl⟩⟩
              | true =>
                  rw [if_pos rfl, or_iff_right (by simp)]
                  exact registeredAtomically_iff_settled hnumbered
                    ⟨rfl, rfl, hmanager.symm, by simp [hmanager], rfl, rfl⟩ rfl rfl
                    (fun _ => rfl) complete_addCharacteristic_present
                    complete_addCharacteristic_gone

theorem addDescriptor_atomic_iff (hnumbered : s.Numbered) (alloc : Allocation)
    (appId serviceId : UInt16) (descriptor : BluetoothGattDescriptor) :
    RegisteredAtomically s (s.addDescriptor alloc appId serviceId descriptor) mid reply ↔
      s.DescriptorSettles mid reply alloc appId serviceId descriptor := by
  unfold DescriptorSettles
  cases hlist : s.getLocalDescriptorList appId serviceId s.mLastCharId with
  | none => exact iff_of_false (addDescriptor_not_atomic hlist) id
  | some descs =>
      unfold addDescriptor
      rw [hlist]
      dsimp only
      cases hinterface : alloc.interface with
      | false =>
          exact ⟨fun _ => .inl rfl, fun _ => registeredAtomically_refused rfl rfl (.refl s)⟩
      | true =>
          rw [if_pos rfl, or_iff_right (by simp)]
          cases hmanager : s.mObjectManagerGattServer with
          | none => exact ⟨fun h => absurd h not_registeredAtomically_none, fun h => absurd rfl h.1⟩
          | some objPath =>
              rw [and_iff_right (by simp)]
              dsimp only
              cases hobject : alloc.object with
              | false =>
                  exact ⟨fun _ => .inl rfl, fun _ => registeredAtomically_refused rfl rfl
                    ⟨rfl, rfl, hmanager.symm, rfl⟩⟩
              | true =>
                  cases hflags : alloc.flagsBuilder with
                  | false =>
                      exact ⟨fun _ => .inl rfl, fun _ => registeredAtomically_refused rfl rfl
                        ⟨rfl, rfl, hmanager.symm, rfl⟩⟩
                  | true =>
                      rw [if_pos rfl, if_pos rfl, or_iff_right (by decide)]
                      exact registeredAtomically_iff_settled hnumbered
                        ⟨rfl, rfl, hmanager.symm, by simp [hmanager], rfl, rfl⟩ rfl rfl
                        (fun _ => rfl) complete_addDescriptor_present complete_addDescriptor_gone

end LocalServer

/-- When the three add functions are atomic, whatever happens between call and completion. -/
theorem registration_atomic_iff (r : ServerRun) (h : serverMachine.Reach r) (mid : LocalServer)
    (reply : Reply) :
    (∀ appId service,
      RegisteredAtomically r.server (some (r.server.addService appId service)) mid reply ↔
        r.server.ServiceSettles mid reply appId service) ∧
    (∀ alloc appId serviceId characteristic,
      RegisteredAtomically r.server
          (r.server.addCharacteristic alloc appId serviceId characteristic) mid reply ↔
        r.server.CharacteristicSettles mid reply alloc appId serviceId characteristic) ∧
    (∀ alloc appId serviceId descriptor,
      RegisteredAtomically r.server
          (r.server.addDescriptor alloc appId serviceId descriptor) mid reply ↔
        r.server.DescriptorSettles mid reply alloc appId serviceId descriptor) := by
  have hnumbered := numbered_of_reach h
  exact ⟨LocalServer.addService_atomic_iff hnumbered,
    LocalServer.addCharacteristic_atomic_iff hnumbered,
    LocalServer.addDescriptor_atomic_iff hnumbered⟩

/-- A characteristic is added to a registered service. The call is atomic if the daemon
accepts it, and not if the daemon refuses it. -/
theorem registration_atomic_characteristic : ∃ r : ServerRun,
    RegisteredAtomically r.server (r.server.addCharacteristic {} 1 1 {}) r.server none ∧
    ¬ RegisteredAtomically r.server (r.server.addCharacteristic {} 1 1 {})
      (r.server.exportObject (r.server.charObject 1 1 {})) (some "Failed") := by
  have hrun : ∃ r, serverMachine.run serverMachine.init serverSetup = some r ∧
      r.server.CharacteristicSettles r.server none {} 1 1 {} ∧
      ¬ r.server.CharacteristicSettles (r.server.exportObject (r.server.charObject 1 1 {}))
        (some "Failed") {} 1 1 {} := by
    refine ⟨_, rfl, .inr ⟨nofun, .inr ⟨_, rfl, rfl⟩⟩, ?_⟩
    rintro (hinterface | ⟨_, halloc | hgone⟩)
    · cases hinterface
    · cases halloc
    · exact hgone rfl
  obtain ⟨r, hrun, haccepted, hrefused⟩ := hrun
  have hreach := Machine.reach_of_run _ hrun
  exact ⟨r, ((registration_atomic_iff r hreach _ _).2.1 {} 1 1 {}).mpr haccepted,
    mt ((registration_atomic_iff r hreach _ _).2.1 {} 1 1 {}).mp hrefused⟩

/-- A service is added for an application that was never registered, and the daemon accepts
the registration: nobody is told. -/
theorem addService_unanswered : ¬ ∀ (r : ServerRun) (mid : LocalServer) (reply : Reply),
    serverMachine.Reach r → ∀ appId service,
      RegisteredAtomically r.server (some (r.server.addService appId service)) mid reply := by
  intro h
  have hrun : ∃ r, serverMachine.run serverMachine.init [.busAcquired []] = some r ∧
      ¬ r.server.ServiceSettles (r.server.addService 5 {}).server none 5 {} := by
    refine ⟨_, rfl, ?_⟩
    rintro (hmanager | hknown)
    · cases hmanager
    · exact AList.notMem_empty (5 : UInt16) hknown
  obtain ⟨r, hrun, hlost⟩ := hrun
  have hreach := Machine.reach_of_run _ hrun
  exact hlost ((LocalServer.addService_atomic_iff (numbered_of_reach hreach) 5 {}).mp
    (h r _ none hreach 5 {}))

end BluezSil.Gatt
