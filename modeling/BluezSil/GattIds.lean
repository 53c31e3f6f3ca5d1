import BluezSil.GattStoredObjects
import BluezSil.LiveObjects
import Mathlib.Data.List.Perm.Basic

/-!
# Ids of applications and attributes

Applications, services, characteristics and descriptors get the next values of four counters
of sixteen bits, which all adapters share. An id is returned at once for an application, and
reported as a registration is completed for an attribute. Insertions that find the id leave
the map as it is.
-/

namespace BluezSil.Gatt

open LiveObjects TransitionRun

inductive IdEvent
  | server (e : ServerEvent)
  | elsewhere (appIds serviceIds charIds descIds : UInt16)

/-- An id is shared among the attributes of one kind. -/
def attributeId (p : LocalPath) : Char × UInt16 := (p.kind, p.ownId)

def Registration.Storable (s : LocalServer) : Registration → Prop
  | .addService _ appId _ => appId ∈ s.mGattLocalApplications
  | _ => True

/-- An application that was entered is still in the map. Those of clients are not stored. -/
def ApplicationStored (server : LocalServer) (app : UInt16 × ApplicationType)
    (entered : Bool) : Prop :=
  app.2 = .server → entered = true ∧ app.1 ∈ server.mGattLocalApplications

def AttributeStored (server : LocalServer) (p : LocalPath) (n : ℕ) : Prop :=
  server.storedNumber p = some n

def ServerRun.reported (r : ServerRun) (i : ℕ) (reply : Reply) : Option (LocalPath × ℕ) :=
  r.pending[i]?.bind fun registration =>
    (r.server.complete registration reply).bind fun done =>
      registration.place.filter fun place => done.2 = [.added .none place.1.ownId]

/-- The server with the applications and the attributes whose ids have been handed out and
that have not been removed since. An application is marked if it was entered in the map. -/
structure IdRun where
  run : ServerRun := {}
  apps : List ((UInt16 × ApplicationType) × Bool) := []
  live : List (LocalPath × ℕ) := []

namespace IdRun

section Steps

variable (s : IdRun)

def appsAfter : ServerEvent → List ((UInt16 × ApplicationType) × Bool)
  | .addApplication type =>
    let appId := s.run.server.nextAppId
    ((appId, type), decide (appId ∉ s.run.server.mGattLocalApplications)) :: s.apps
  | .removeApplication type appId => s.apps.filter fun e => e.1 ≠ (appId, type)
  | _ => s.apps

def liveAfter : ServerEvent → List (LocalPath × ℕ)
  | .removeApplication .server appId => s.live.filter fun e => e.1.appId ≠ appId
  | .removeService appId serviceId =>
    if (s.run.server.removeService appId serviceId).registration = none then s.live
    else s.live.filter fun e => ¬ (e.1.appId = appId ∧ e.1.serviceId = serviceId)
  | .registered i reply => (s.run.reported i reply).toList ++ s.live
  | _ => s.live

def step : IdEvent → Option IdRun
  | .server e =>
    (s.run.step e).map fun run => { run, apps := s.appsAfter e, live := s.liveAfter e }
  | .elsewhere appIds serviceIds charIds descIds =>
    let server := { s.run.server with
      nextAppId := s.run.server.nextAppId + appIds
      nextServiceId := s.run.server.nextServiceId + serviceIds
      nextCharId := s.run.server.nextCharId + charIds
      nextDescId := s.run.server.nextDescId + descIds }
    some { s with run := { s.run with server } }

/-- No id is that of two live objects of its kind, and each object is the one stored under its
id. -/
structure OwnIds : Prop where
  applications : Apart Prod.fst (ApplicationStored s.run.server) s.apps
  attributes : Apart attributeId (AttributeStored s.run.server) s.live

/-- An id is handed out only if it is not in use and the map has nothing under it. -/
def HandsOutFree : IdEvent → Prop
  | .server (.addApplication type) =>
    s.run.server.nextAppId ∉ idents Prod.fst s.apps ∧
      (type = .server → s.run.server.nextAppId ∉ s.run.server.mGattLocalApplications)
  | .server (.registered i none) =>
    ∀ registration ∈ s.run.pending[i]?, registration.Storable s.run.server →
      ∀ place ∈ registration.place, attributeId place.1 ∉ idents attributeId s.live ∧
        s.run.server.storedNumber place.1 = none
  | _ => True

instance : DecidablePred (Registration.Storable s.run.server)
  | .addService _ appId _ =>
    inferInstanceAs (Decidable (appId ∈ s.run.server.mGattLocalApplications))
  | .addCharacteristic _ _ _ => inferInstanceAs (Decidable True)
  | .addDescriptor _ _ _ => inferInstanceAs (Decidable True)
  | .removeService => inferInstanceAs (Decidable True)
  | .removeApplication => inferInstanceAs (Decidable True)

instance : DecidableRel HandsOutFree := fun s e => by
  unfold HandsOutFree
  split <;> infer_instance

end Steps

end IdRun

namespace LocalServer

variable {s : LocalServer} {registration : Registration} {reply : Reply}
variable {done : LocalServer × List Answer}

/-- A completion reports the id of its attribute and enters its object, or it reports no id and
leaves the maps alone. -/
theorem complete_cases (h : s.complete registration reply = some done) :
    (∃ p n, registration.place = some (p, n) ∧ reply = none ∧ registration.Storable s ∧
      done.2 = [.added .none p.ownId] ∧ Emplaced s done.1 p n) ∨
    (reply = none → registration.Storable s → registration.place = none) ∧
      (∀ id, done.2 ≠ [.added .none id]) ∧
      done.1.mGattLocalApplications = s.mGattLocalApplications := by
  cases reply with
  | some message =>
      refine .inr ⟨nofun, ?_, congrArg mGattLocalApplications (complete_error h)⟩
      intro id
      cases registration with
      | addDescriptor object descs descId =>
          cases descs <;> cases h <;> simp [notAdded]
      | _ => cases h; simp [notAdded]
  | none =>
      cases registration with
      | addService object a v =>
          by_cases ha : a ∈ s.mGattLocalApplications
          · obtain ⟨hemplaced, hanswers⟩ := complete_addService_emplaced h ha
            exact .inl ⟨_, _, rfl, rfl, ha, hanswers, hemplaced⟩
          · refine .inr ⟨fun _ hstorable => absurd hstorable ha, ?_⟩
            unfold complete at h
            simp only [AList.lookup_eq_none.mpr ha] at h
            cases h
            exact ⟨by simp, rfl⟩
      | addCharacteristic object chars c =>
          obtain ⟨hemplaced, hanswers⟩ := complete_addCharacteristic_emplaced h
          exact .inl ⟨_, _, rfl, rfl, trivial, hanswers, hemplaced⟩
      | addDescriptor object descs d =>
          cases descs with
          | none => cases h
          | some descs =>
              obtain ⟨hemplaced, hanswers⟩ := complete_addDescriptor_emplaced h
              exact .inl ⟨_, _, rfl, rfl, trivial, hanswers, hemplaced⟩
      | removeService =>
          cases h
          exact .inr ⟨fun _ _ => rfl, by simp, rfl⟩
      | removeApplication =>
          cases h
          exact .inr ⟨fun _ _ => rfl, by simp, rfl⟩

end LocalServer

/-! ### The numbers of objects that are not stored yet -/

def numbers (pending : List Registration) : List ℕ :=
  pending.filterMap fun registration => registration.place.map Prod.snd

namespace ServerRun

/-- The objects that wait have numbers of their own, which no stored object has. -/
structure NumbersFresh (r : ServerRun) : Prop where
  nodup : (numbers r.pending).Nodup
  waiting : ∀ n ∈ numbers r.pending, n < r.server.nextNumber
  stored : ∀ q n, r.server.storedNumber q = some n →
    n < r.server.nextNumber ∧ n ∉ numbers r.pending

variable {r t : ServerRun} {e : ServerEvent}

theorem NumbersFresh.settle (h : r.NumbersFresh)
    (hnext : t.server.nextNumber = r.server.nextNumber)
    (hpending : (numbers t.pending).Sublist (numbers r.pending))
    (hstored : ∀ q n, t.server.storedNumber q = some n → r.server.storedNumber q = some n ∨
      n ∈ numbers r.pending ∧ n ∉ numbers t.pending) : t.NumbersFresh where
  nodup := hpending.nodup h.nodup
  waiting n hn := by
    rw [hnext]
    exact h.waiting n (hpending.subset hn)
  stored q n hq := by
    rw [hnext]
    rcases hstored q n hq with hold | ⟨hwaited, hgone⟩
    · obtain ⟨hlt, hnot⟩ := h.stored q n hold
      exact ⟨hlt, fun hn => hnot (hpending.subset hn)⟩
    · exact ⟨h.waiting n hwaited, hgone⟩

theorem NumbersFresh.exports (h : r.NumbersFresh) {o : Issued} {object : ObjectSkeleton}
    {registration : Registration} (hexports : r.server.Exports o.server object)
    (hregistration : o.registration = some registration)
    (hplace : registration.place = none ∨ ∃ p, registration.place = some (p, object.number)) :
    (r.issued o).NumbersFresh := by
  have hnext : o.server.nextNumber = r.server.nextNumber + 1 := hexports.nextNumber
  have hsame : ∀ q, o.server.storedNumber q = r.server.storedNumber q := fun q =>
    LocalServer.storedNumber_congr (LocalServer.findService_congr hexports.applications)
  have hnumbers : numbers (r.issued o).pending = numbers r.pending ∨
      numbers (r.issued o).pending = numbers r.pending ++ [r.server.nextNumber] := by
    unfold numbers issued
    rw [hregistration, Option.toList_some, List.filterMap_append]
    rcases hplace with hnone | ⟨p, hp⟩
    · exact .inl (by simp [hnone])
    · exact .inr (by simp [hp, hexports.number])
  have hlarge : r.server.nextNumber ∉ numbers r.pending :=
    fun hn => Nat.lt_irrefl _ (h.waiting _ hn)
  have hmem : ∀ n ∈ numbers (r.issued o).pending,
      n ∈ numbers r.pending ∨ n = r.server.nextNumber := by
    intro n hn
    rcases hnumbers with hold | hnew
    · exact .inl (hold ▸ hn)
    · simpa [hnew] using hn
  constructor
  · rcases hnumbers with hold | hnew
    · rw [hold]
      exact h.nodup
    · rw [hnew, ← List.concat_eq_append]
      exact h.nodup.concat hlarge
  · intro n hn
    change n < o.server.nextNumber
    rcases hmem n hn with hold | rfl
    · have hlt := h.waiting n hold
      omega
    · omega
  · intro q n hq
    change o.server.storedNumber q = some n at hq
    change n < o.server.nextNumber ∧ _
    rw [hsame] at hq
    obtain ⟨hlt, hnot⟩ := h.stored q n hq
    refine ⟨by omega, fun hn => ?_⟩
    rcases hmem n hn with hold | rfl
    · exact hnot hold
    · exact Nat.lt_irrefl _ hlt

theorem numbers_eraseIdx_sublist (pending : List Registration) (i : ℕ) :
    (numbers (pending.eraseIdx i)).Sublist (numbers pending) :=
  (List.eraseIdx_sublist _ _).filterMap _

theorem not_mem_numbers_eraseIdx {pending : List Registration} {i : ℕ}
    {registration : Registration} {p : LocalPath} {n : ℕ} (h : (numbers pending).Nodup)
    (hi : pending[i]? = some registration) (hplace : registration.place = some (p, n)) :
    n ∈ numbers pending ∧ n ∉ numbers (pending.eraseIdx i) := by
  obtain ⟨hlt, rfl⟩ := List.getElem?_eq_some_iff.mp hi
  have hperm : (numbers (pending[i] :: pending.eraseIdx i)).Perm (numbers pending) :=
    (List.getElem_cons_eraseIdx_perm hlt).filterMap _
  have hcons : numbers (pending[i] :: pending.eraseIdx i) =
      n :: numbers (pending.eraseIdx i) := by
    simp [numbers, hplace]
  rw [hcons] at hperm
  exact ⟨hperm.subset List.mem_cons_self, (List.nodup_cons.mp (hperm.nodup_iff.mpr h)).1⟩

theorem NumbersFresh.answer (h : r.NumbersFresh) {o : Issued}
    (hnext : o.server.nextNumber = r.server.nextNumber)
    (hregistration : ∀ registration ∈ o.registration, registration.place = none)
    (hstored : ∀ q n, o.server.storedNumber q = some n → r.server.storedNumber q = some n) :
    (r.issued o).NumbersFresh := by
  have hsame : numbers (r.issued o).pending = numbers r.pending := by
    unfold numbers issued
    rw [List.filterMap_append]
    cases hnone : o.registration with
    | none => simp
    | some registration => simp [hregistration registration hnone]
  refine h.settle hnext ?_ fun q n hq => .inl (hstored q n hq)
  rw [hsame]

theorem storedNumber_of_unchanged {s t : LocalServer} (h : s.Unchanged t) (q : LocalPath) :
    t.storedNumber q = s.storedNumber q :=
  LocalServer.storedNumber_congr (LocalServer.findService_congr h.applications)

theorem NumbersFresh.registered (h : r.NumbersFresh) {i : ℕ} {reply : Reply}
    {registration : Registration} {done : LocalServer × List Answer}
    (hi : r.pending[i]? = some registration)
    (hdone : r.server.complete registration reply = some done) :
    NumbersFresh ⟨done.1, r.pending.eraseIdx i⟩ := by
  obtain ⟨_, _, hnext⟩ := LocalServer.complete_keeps hdone
  refine h.settle hnext (numbers_eraseIdx_sublist _ _) ?_
  intro q n hq
  rcases LocalServer.complete_cases hdone with ⟨p, m, hplace, _, _, _, hemplaced⟩ | ⟨_, _, hsame⟩
  · change done.1.storedNumber q = some n at hq
    rw [hemplaced q] at hq
    split_ifs at hq with hqp
    · cases hold : r.server.storedNumber p with
      | none =>
          rw [hold] at hq
          cases hq
          exact .inr (not_mem_numbers_eraseIdx h.nodup hi hplace)
      | some k =>
          rw [hold] at hq
          cases hq
          exact .inl (hqp ▸ hold)
    · exact .inl hq
  · rw [LocalServer.storedNumber_congr (LocalServer.findService_congr hsame)] at hq
    exact .inl hq

theorem NumbersFresh.step (h : r.NumbersFresh) (hstep : r.step e = some t) :
    t.NumbersFresh := by
  unfold ServerRun.step at hstep
  cases e with
  | busAcquired objPath =>
      obtain ⟨_, rfl⟩ := step_busAcquired hstep
      exact ⟨h.nodup, h.waiting, h.stored⟩
  | addApplication type =>
      cases hstep
      refine h.settle (by cases type <;> rfl) (List.Sublist.refl _) ?_
      intro q n hq
      change (r.server.addApplication type).1.storedNumber q = some n at hq
      rw [LocalServer.storedNumber_addApplication] at hq
      exact .inl hq
  | removeApplication type appId =>
      obtain ⟨o, ho, rfl⟩ := Option.map_eq_some_iff.mp hstep
      cases type with
      | client =>
          cases ho
          exact h.answer rfl nofun fun _ _ => id
      | server =>
          rcases LocalServer.removeApplication_cases ho with ⟨_, rfl⟩ | ⟨app, happ, rfl⟩
          · exact h.answer rfl nofun fun _ _ => id
          · refine h.answer rfl (by simp [Registration.place]) ?_
            exact fun q => (LocalServer.storedNumber_removeApplication happ rfl q).2
  | addService appId service =>
      cases hstep
      rcases r.server.addService_cases appId service with
        hfail | ⟨object, _, hexports, _, hregistration⟩
      · rw [hfail]
        exact h.answer rfl nofun fun _ _ => id
      · exact h.exports hexports hregistration (.inr ⟨_, rfl⟩)
  | removeService appId serviceId =>
      cases hstep
      rcases r.server.removeService_cases appId serviceId with
        hfail | ⟨app, service, happ, _, hdone⟩
      · rw [hfail]
        exact h.answer rfl nofun fun _ _ => id
      · rw [hdone]
        refine h.answer rfl (by simp [Registration.place]) ?_
        intro q n hq
        rw [LocalServer.storedNumber_removeService happ rfl] at hq
        split_ifs at hq
        exact hq
  | addCharacteristic alloc appId serviceId characteristic =>
      obtain ⟨o, ho, rfl⟩ := Option.map_eq_some_iff.mp hstep
      rcases LocalServer.addCharacteristic_cases ho with
        ⟨_, _, _, hnone, hsame⟩ | ⟨_, object, _, _, hexports, _, hregistration⟩
      · refine h.answer hsame.nextNumber (by simp [hnone]) fun q n hq => ?_
        rwa [storedNumber_of_unchanged hsame] at hq
      · exact h.exports hexports hregistration (.inr ⟨_, rfl⟩)
  | addDescriptor alloc appId serviceId descriptor =>
      obtain ⟨o, ho, rfl⟩ := Option.map_eq_some_iff.mp hstep
      rcases LocalServer.addDescriptor_cases ho with
        ⟨_, _, _, hnone, hsame⟩ | ⟨object, _, hexports, _, hregistration⟩
      · refine h.answer hsame.nextNumber (by simp [hnone]) fun q n hq => ?_
        rwa [storedNumber_of_unchanged hsame] at hq
      · refine h.exports hexports hregistration ?_
        cases r.server.getLocalDescriptorList appId serviceId r.server.mLastCharId with
        | none => exact .inl rfl
        | some descs => exact .inr ⟨_, rfl⟩
  | registered i reply =>
      obtain ⟨registration, hi, hdone⟩ := Option.bind_eq_some_iff.mp hstep
      obtain ⟨done, hcomplete, rfl⟩ := Option.map_eq_some_iff.mp hdone
      exact h.registered hi hcomplete
  | write path value =>
      obtain ⟨_, _, rfl⟩ := Option.map_eq_some_iff.mp hstep
      exact h

theorem numbersFresh_init : NumbersFresh {} where
  nodup := List.nodup_nil
  waiting := nofun
  stored q n hq := by cases q <;> cases hq

end ServerRun

/-! ### Steps -/

namespace IdRun

variable {s t : IdRun} {e : IdEvent}

theorem applications_kept {server server' : LocalServer} (h : server.Keeps server')
    {apps rest : List ((UInt16 × ApplicationType) × Bool)}
    (happs : Apart Prod.fst (ApplicationStored server) apps) (hrest : rest.Sublist apps) :
    Apart Prod.fst (ApplicationStored server') rest := by
  refine happs.sublist hrest ?_
  intro e _ he htype
  obtain ⟨hentered, hmem⟩ := he htype
  exact ⟨hentered, (h.applications e.1.1).mpr hmem⟩

theorem OwnIds.still (h : s.OwnIds) (happs : t.apps = s.apps) (hlive : t.live = s.live)
    (hsame : t.run.server.mGattLocalApplications = s.run.server.mGattLocalApplications) :
    t.OwnIds where
  applications := by
    refine h.applications.sublist (by rw [happs]) ?_
    unfold ApplicationStored
    rw [hsame]
    exact fun _ _ => id
  attributes := by
    refine h.attributes.sublist (by rw [hlive]) ?_
    unfold AttributeStored
    intro e _ he
    rw [LocalServer.storedNumber_congr (LocalServer.findService_congr hsame)]
    exact he

theorem addApplication_ownIds_iff (h : s.OwnIds) {type : ApplicationType}
    (hstep : s.step (.server (.addApplication type)) = some t) :
    t.OwnIds ↔ s.HandsOutFree (.server (.addApplication type)) := by
  cases hstep
  have hattributes :
      Apart attributeId (AttributeStored (s.run.server.addApplication type).1) s.live := by
    refine h.attributes.sublist (List.Sublist.refl _) ?_
    intro e _ he
    exact (LocalServer.storedNumber_addApplication _ _ _).trans he
  have hkept : ∀ e ∈ s.apps, ApplicationStored s.run.server e.1 e.2 →
      ApplicationStored (s.run.server.addApplication type).1 e.1 e.2 := by
    intro e _ he htype
    obtain ⟨hentered, hmem⟩ := he htype
    cases type with
    | client => exact ⟨hentered, hmem⟩
    | server => exact ⟨hentered, KeyedMap.mem_emplace.mpr (.inl hmem)⟩
  have hself : ApplicationStored (s.run.server.addApplication type).1
      (s.run.server.nextAppId, type)
      (decide (s.run.server.nextAppId ∉ s.run.server.mGattLocalApplications)) ↔
      (type = .server → s.run.server.nextAppId ∉ s.run.server.mGattLocalApplications) := by
    unfold ApplicationStored
    refine forall_congr' ?_
    rintro rfl
    rw [decide_eq_true_iff]
    exact and_iff_left (KeyedMap.mem_emplace.mpr (.inr rfl))
  have happlications := apart_cons_iff (p := (s.run.server.nextAppId, type))
    (o := decide (s.run.server.nextAppId ∉ s.run.server.mGattLocalApplications))
    h.applications fun _ => hkept
  rw [hself] at happlications
  exact ⟨fun hown => happlications.mp hown.applications,
    fun hfree => ⟨happlications.mpr hfree, hattributes⟩⟩

theorem removeApplication_ownIds (h : s.OwnIds) {type : ApplicationType} {appId : UInt16}
    (hstep : s.step (.server (.removeApplication type appId)) = some t) : t.OwnIds := by
  unfold step at hstep
  obtain ⟨run, hrun, rfl⟩ := Option.map_eq_some_iff.mp hstep
  refine ⟨applications_kept (ServerRun.step_keeps hrun nofun nofun) h.applications
    List.filter_sublist, ?_⟩
  obtain ⟨o, ho, rfl⟩ := Option.map_eq_some_iff.mp hrun
  cases type with
  | client =>
      cases ho
      exact h.attributes
  | server =>
      refine h.attributes.sublist List.filter_sublist ?_
      intro e he hstored
      have hother : e.1.appId ≠ appId := by simpa using (List.mem_filter.mp he).2
      rcases LocalServer.removeApplication_cases ho with ⟨_, rfl⟩ | ⟨app, happ, rfl⟩
      · exact hstored
      · exact ((LocalServer.storedNumber_removeApplication happ rfl e.1).1 hother).trans hstored

theorem removeService_ownIds (h : s.OwnIds) {appId serviceId : UInt16}
    (hstep : s.step (.server (.removeService appId serviceId)) = some t) : t.OwnIds := by
  unfold step at hstep
  obtain ⟨run, hrun, rfl⟩ := Option.map_eq_some_iff.mp hstep
  refine ⟨applications_kept (ServerRun.step_keeps hrun nofun nofun) h.applications
    (List.Sublist.refl _), ?_⟩
  cases hrun
  unfold liveAfter
  rcases s.run.server.removeService_cases appId serviceId with
    hfail | ⟨app, service, happ, _, hdone⟩
  · simp only [hfail]
    exact h.attributes
  · simp only [hdone]
    refine h.attributes.sublist List.filter_sublist ?_
    intro e he hstored
    have hother : ¬ (e.1.appId = appId ∧ e.1.serviceId = serviceId) :=
      of_decide_eq_true (List.mem_filter.mp he).2
    refine (LocalServer.storedNumber_removeService happ rfl e.1).trans ?_
    rw [if_neg hother]
    exact hstored

theorem registered_ownIds_iff (h : s.OwnIds) (hfresh : s.run.NumbersFresh) {i : ℕ}
    {reply : Reply} (hstep : s.step (.server (.registered i reply)) = some t) :
    t.OwnIds ↔ s.HandsOutFree (.server (.registered i reply)) := by
  unfold step at hstep
  obtain ⟨run, hrun, rfl⟩ := Option.map_eq_some_iff.mp hstep
  have happlications := applications_kept (ServerRun.step_keeps hrun nofun nofun)
    h.applications (List.Sublist.refl _)
  obtain ⟨registration, hi, hdone⟩ := Option.bind_eq_some_iff.mp hrun
  obtain ⟨done, hcomplete, rfl⟩ := Option.map_eq_some_iff.mp hdone
  rcases LocalServer.complete_cases hcomplete with
    ⟨p, n, hplace, rfl, hstorable, hanswers, hemplaced⟩ | ⟨hnothing, hanswers, hsame⟩
  · have hreported : s.run.reported i none = some (p, n) := by
      simp [ServerRun.reported, hi, hcomplete, hplace, hanswers, Option.filter]
    have hkept : attributeId p ∉ idents attributeId s.live → ∀ e ∈ s.live,
        AttributeStored s.run.server e.1 e.2 → AttributeStored done.1 e.1 e.2 := by
      intro hnew e he hstored
      have hne : e.1 ≠ p := by
        rintro rfl
        exact hnew (mem_idents he)
      refine (hemplaced e.1).trans ?_
      rw [if_neg hne]
      exact hstored
    have hself : AttributeStored done.1 p n ↔ s.run.server.storedNumber p = none := by
      unfold AttributeStored
      rw [hemplaced, if_pos rfl]
      cases hold : s.run.server.storedNumber p with
      | none => simp
      | some m =>
          -- what was stored before is not the object that has waited
          have hwaited := (ServerRun.not_mem_numbers_eraseIdx hfresh.nodup hi hplace).1
          have hne : m ≠ n := by
            rintro rfl
            exact (hfresh.stored p m hold).2 hwaited
          simp [hne]
    have hattributes := apart_cons_iff (o := n) h.attributes hkept
    rw [hself] at hattributes
    have hfree : s.HandsOutFree (.server (.registered i none)) ↔
        attributeId p ∉ idents attributeId s.live ∧ s.run.server.storedNumber p = none := by
      simp [HandsOutFree, hi, hplace, hstorable]
    have hlive : s.liveAfter (.registered i none) = (p, n) :: s.live := by
      simp [liveAfter, hreported]
    rw [hfree, ← hattributes, ← hlive]
    exact ⟨fun hown => hown.attributes, fun hown => ⟨happlications, hown⟩⟩
  · have hreported : s.run.reported i reply = none := by
      unfold ServerRun.reported
      rw [hi, Option.bind_some, hcomplete, Option.bind_some]
      cases registration.place <;> simp [hanswers, Option.filter]
    refine iff_of_true (h.still rfl ?_ hsame) ?_
    · simp [liveAfter, hreported]
    · cases reply with
      | some message => trivial
      | none =>
          intro registration' hi' hstorable place hplace
          cases hi.symm.trans hi'
          rw [hnothing rfl hstorable] at hplace
          cases hplace

theorem step_ownIds_iff (h : s.OwnIds) (hfresh : s.run.NumbersFresh)
    (hstep : s.step e = some t) :
    (t.OwnIds ↔ s.HandsOutFree e) ∧ (t.OwnIds → t.run.NumbersFresh) := by
  cases e with
  | elsewhere appIds serviceIds charIds descIds =>
      cases hstep
      refine ⟨iff_of_true (h.still rfl rfl rfl) trivial, fun _ => ?_⟩
      exact hfresh.settle rfl (List.Sublist.refl _) fun _ _ hq => .inl hq
  | server e =>
      obtain ⟨run, hrun, ht⟩ := Option.map_eq_some_iff.mp hstep
      refine ⟨?_, fun _ => ?_⟩
      · cases e with
        | addApplication type => exact addApplication_ownIds_iff h hstep
        | removeApplication type appId =>
            exact iff_of_true (removeApplication_ownIds h hstep) trivial
        | removeService appId serviceId =>
            exact iff_of_true (removeService_ownIds h hstep) trivial
        | registered i reply => exact registered_ownIds_iff h hfresh hstep
        | busAcquired objPath =>
            obtain ⟨_, rfl⟩ := ServerRun.step_busAcquired hrun
            rw [← ht]
            exact iff_of_true (h.still rfl rfl rfl) trivial
        | addService appId service =>
            cases hrun
            rw [← ht]
            refine iff_of_true (h.still rfl rfl ?_) trivial
            rcases s.run.server.addService_cases appId service with
              hfail | ⟨object, _, hexports, _⟩
            · exact congrArg (fun o => o.server.mGattLocalApplications) hfail
            · exact hexports.applications
        | addCharacteristic alloc appId serviceId characteristic =>
            obtain ⟨o, ho, rfl⟩ := Option.map_eq_some_iff.mp hrun
            rw [← ht]
            refine iff_of_true (h.still rfl rfl ?_) trivial
            rcases LocalServer.addCharacteristic_cases ho with
              ⟨_, _, _, _, hsame⟩ | ⟨_, _, _, _, hexports, _⟩
            · exact hsame.applications
            · exact hexports.applications
        | addDescriptor alloc appId serviceId descriptor =>
            obtain ⟨o, ho, rfl⟩ := Option.map_eq_some_iff.mp hrun
            rw [← ht]
            refine iff_of_true (h.still rfl rfl ?_) trivial
            rcases LocalServer.addDescriptor_cases ho with
              ⟨_, _, _, _, hsame⟩ | ⟨_, _, hexports, _⟩
            · exact hsame.applications
            · exact hexports.applications
        | write path value =>
            obtain ⟨_, _, rfl⟩ := Option.map_eq_some_iff.mp hrun
            rw [← ht]
            exact iff_of_true (h.still rfl rfl rfl) trivial
      · rw [← ht]
        exact hfresh.step hrun

theorem ownIds_init : OwnIds {} := ⟨apart_nil, apart_nil⟩

end IdRun

def idMachine : Machine IdRun IdEvent := ⟨{}, IdRun.step⟩

/-- In a run that hands out only free ids, every live application and attribute has an id of its
own under which it is stored, and a step from there keeps it so if and only if the id it hands
out is free. -/
theorem gattIds_own_iff {s : IdRun} (hs : idMachine.ReachWith IdRun.HandsOutFree s) :
    s.OwnIds ∧ ∀ e t, s.step e = some t → (t.OwnIds ↔ s.HandsOutFree e) :=
  hs.invariant_iff_of (P := IdRun.OwnIds) (Q := fun s => s.run.NumbersFresh) IdRun.ownIds_init
    ServerRun.numbersFresh_init
    fun _ _ _ hown hfresh hstep => IdRun.step_ownIds_iff hown hfresh hstep

/-- Two applications, of which the first has a service. -/
theorem gattIds_own_service : ∃ s : IdRun, s.live = [(.service 1 1, 0)] ∧
    s.apps = [((2, .client), true), ((1, .server), true)] ∧ s.OwnIds := by
  have hrun : ∃ s, idMachine.runWith IdRun.HandsOutFree {}
      [.server (.busAcquired []), .server (.addApplication .server),
        .server (.addService 1 {}), .server (.registered 0 none),
        .server (.addApplication .client)] = some s ∧
      s.live = [(.service 1 1, 0)] ∧
      s.apps = [((2, .client), true), ((1, .server), true)] := ⟨_, rfl, rfl, rfl⟩
  obtain ⟨s, hrun, hlive, happs⟩ := hrun
  exact ⟨s, hlive, happs, (gattIds_own_iff (Machine.reachWith_of_runWith _ .init hrun)).1⟩

/-- The counter comes back to the id of the first application. -/
theorem gattIds_shared : ¬ ∀ s, idMachine.Reach s → s.OwnIds := by
  intro h
  let After (n : ℕ) (s : IdRun) : Prop :=
    s.run.server.nextAppId = 1 + UInt16.ofNat n ∧ (0 < n → 1 ∈ idents Prod.fst s.apps)
  have hinit : After 0 {} := ⟨rfl, fun hn => absurd hn (Nat.lt_irrefl 0)⟩
  have hstep : ∀ n s, After n s → ∃ e t, s.step e = some t ∧ After (n + 1) t := by
    rintro n s ⟨hnext, hfirst⟩
    refine ⟨.server (.addApplication .server), _, rfl, ?_, ?_⟩
    · change s.run.server.nextAppId + 1 = _
      rw [hnext, UInt16.ofNat_add, UInt16.add_assoc]
      rfl
    · intro _
      change 1 ∈ s.run.server.nextAppId :: idents Prod.fst s.apps
      rcases Nat.eq_zero_or_pos n with rfl | hn
      · rw [hnext]
        exact List.mem_cons_self
      · exact List.mem_cons_of_mem _ (hfirst hn)
  obtain ⟨s, hreach, hnext, hfirst⟩ := Machine.exists_reach (M := idMachine) hinit hstep 65536
  obtain ⟨t, ht⟩ : ∃ t, idMachine.step s (.server (.addApplication .server)) = some t :=
    ⟨_, rfl⟩
  have hown : t.OwnIds := h t (.step hreach trivial ht)
  cases ht
  have hnew : s.run.server.nextAppId ∉ idents Prod.fst s.apps :=
    (List.nodup_cons.mp hown.applications.nodup).1
  rw [hnext] at hnew
  exact hnew (hfirst (by decide))

end BluezSil.Gatt
