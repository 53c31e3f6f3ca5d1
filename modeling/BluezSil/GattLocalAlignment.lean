import BluezSil.GattIds
import BluezSil.GattStoredPlaces

/-!
# The two ways to an object of the local GATT server

An attribute is reached through the object exported at its path, and through the object stored
under its ids. As long as no object is exported where an attribute is stored or waits to be, the
two are one object, and no other path leads to it.
-/

namespace BluezSil.Gatt

def Registration.object : Registration → Option ObjectSkeleton
  | .addService object _ _ => some object
  | .addCharacteristic object _ _ => some object
  | .addDescriptor object _ _ => some object
  | _ => none

namespace ServerRun

/-- No attribute is stored at the path, and none waits to be. -/
def Free (r : ServerRun) (path : LocalPath) : Prop :=
  r.server.storedNumber path = none ∧
    ∀ registration ∈ r.pending, registration.place.map Prod.fst ≠ some path

instance (r : ServerRun) (path : LocalPath) : Decidable (r.Free path) :=
  inferInstanceAs (Decidable (_ ∧ _))

/-- The objects of stored and waiting attributes are those exported at their paths, and no two
exported objects have one number. -/
structure Aligned (r : ServerRun) : Prop where
  fresh : r.NumbersFresh
  placed : r.server.Placed
  stored : ∀ p n, p.HasValue → r.server.storedNumber p = some n →
    ∃ object, r.server.exported.lookup p = some object ∧ object.number = n
  waiting : ∀ registration ∈ r.pending, ∀ p n, registration.place = some (p, n) →
    ∃ object, registration.object = some object ∧ object.number = n ∧ object.path = p ∧
      (p.HasValue → r.server.exported.lookup p = some object)
  older : ∀ p object, r.server.exported.lookup p = some object →
    object.number < r.server.nextNumber
  apart : ∀ p q object other, r.server.exported.lookup p = some object →
    r.server.exported.lookup q = some other → object.number = other.number → p = q

variable {r t : ServerRun} {e : ServerEvent} {o : Issued} {object : ObjectSkeleton}

theorem mem_numbers {pending : List Registration} {registration : Registration} {p : LocalPath}
    {n : ℕ} (hin : registration ∈ pending) (hplace : registration.place = some (p, n)) :
    n ∈ numbers pending :=
  List.mem_filterMap.mpr ⟨registration, hin, by rw [hplace]; rfl⟩

theorem Aligned.withdraws (h : r.Aligned) (hfresh : t.NumbersFresh) (hplaced : t.server.Placed)
    (hwithdraws : r.server.Withdraws t.server)
    (hexported : ∀ p object, t.server.exported.lookup p = some object →
      r.server.exported.lookup p = some object)
    (hnext : t.server.nextNumber = r.server.nextNumber)
    (hpending : ∀ registration ∈ t.pending, registration.place ≠ none →
      registration ∈ r.pending) : t.Aligned where
  fresh := hfresh
  placed := hplaced
  stored := fun p n hvalue hn => by
    obtain ⟨object, hobject, hnumber⟩ := h.stored p n hvalue (hwithdraws.stored p n hn)
    rcases hwithdraws.exported p hvalue with hsame | ⟨-, -, hnone⟩
    · exact ⟨object, hsame.trans hobject, hnumber⟩
    · rw [hn] at hnone
      cases hnone
  waiting := fun registration hin p n hplace => by
    have hwaited := hpending registration hin (by rw [hplace]; exact Option.some_ne_none _)
    obtain ⟨object, hobject, hnumber, hpath, hat⟩ := h.waiting registration hwaited p n hplace
    refine ⟨object, hobject, hnumber, hpath, fun hvalue => ?_⟩
    rcases hwithdraws.exported p hvalue with hsame | ⟨-, hstored, -⟩
    · exact hsame.trans (hat hvalue)
    · -- what is withdrawn was stored, so it did not wait
      obtain ⟨m, hm⟩ := Option.ne_none_iff_exists'.mp hstored
      obtain ⟨object', hobject', hnumber'⟩ := h.stored p m hvalue hm
      rw [hat hvalue] at hobject'
      cases hobject'
      refine absurd ?_ (h.fresh.stored p m hm).2
      rw [← hnumber', hnumber]
      exact mem_numbers hwaited hplace
  older := fun p object hobject => by
    rw [hnext]
    exact h.older p object (hexported p object hobject)
  apart := fun p q object other hobject hother =>
    h.apart p q object other (hexported p object hobject) (hexported q other hother)

theorem Aligned.exports (h : r.Aligned) (hfresh : (r.issued o).NumbersFresh)
    (hexports : r.server.Exports o.server object)
    (hfree : r.Free object.path)
    {new : Registration} (hnew : o.registration = some new)
    (hplace : ∀ p n, new.place = some (p, n) → new.object = some object ∧ n = object.number ∧
      p = object.path) : (r.issued o).Aligned where
  fresh := hfresh
  placed := h.placed.congr fun _ _ => LocalServer.findService_congr hexports.applications
  stored := fun p n hvalue hn => by
    have hold : r.server.storedNumber p = some n := by
      rw [← LocalServer.storedNumber_congr (LocalServer.findService_congr hexports.applications)]
      exact hn
    have hne : p ≠ object.path := by
      rintro rfl
      rw [hfree.1] at hold
      cases hold
    obtain ⟨old, hobject, hnumber⟩ := h.stored p n hvalue hold
    refine ⟨old, ?_, hnumber⟩
    change o.server.exported.lookup p = some old
    rw [hexports.exported, AList.lookup_insert_ne hne]
    exact hobject
  waiting := fun registration hin p n hregistration => by
    change ∃ object, _ ∧ _ ∧ _ ∧ (_ → o.server.exported.lookup p = _)
    rw [hexports.exported]
    have hcases : registration ∈ r.pending ∨ registration = new := by
      simpa [issued, hnew] using hin
    rcases hcases with hold | rfl
    · obtain ⟨old, hobject, hnumber, hpath, hat⟩ := h.waiting registration hold p n hregistration
      refine ⟨old, hobject, hnumber, hpath, fun hvalue => ?_⟩
      have hne : p ≠ object.path := by
        rintro rfl
        exact hfree.2 registration hold (by rw [hregistration]; rfl)
      rw [AList.lookup_insert_ne hne]
      exact hat hvalue
    · obtain ⟨hobject, rfl, rfl⟩ := hplace p n hregistration
      exact ⟨object, hobject, rfl, rfl, fun _ => AList.lookup_insert _⟩
  older := fun p old hold => by
    change old.number < o.server.nextNumber
    rw [hexports.nextNumber]
    have hlookup : (r.server.exported.insert object.path object).lookup p = some old := by
      rw [← hexports.exported]
      exact hold
    rcases KeyedMap.lookup_insert_cases hlookup with ⟨-, rfl⟩ | ⟨-, hbefore⟩
    · rw [hexports.number]
      omega
    · have hlt := h.older p old hbefore
      omega
  apart := fun p q first second hfirst hsecond hnumber => by
    have hlookup (path : LocalPath) (entry : ObjectSkeleton)
        (hentry : (r.issued o).server.exported.lookup path = some entry) :
        (r.server.exported.insert object.path object).lookup path = some entry := by
      rw [← hexports.exported]
      exact hentry
    rcases KeyedMap.lookup_insert_cases (hlookup p first hfirst) with ⟨rfl, rfl⟩ | ⟨-, hp⟩
    · rcases KeyedMap.lookup_insert_cases (hlookup q second hsecond) with ⟨rfl, -⟩ | ⟨-, hq⟩
      · rfl
      · have hlt := h.older q second hq
        rw [← hnumber, hexports.number] at hlt
        omega
    · rcases KeyedMap.lookup_insert_cases (hlookup q second hsecond) with ⟨rfl, rfl⟩ | ⟨-, hq⟩
      · have hlt := h.older p first hp
        rw [hnumber, hexports.number] at hlt
        omega
      · exact h.apart p q first second hp hq hnumber

theorem Aligned.registered (h : r.Aligned) {i : ℕ} {reply : Reply} {registration : Registration}
    {done : LocalServer × List Answer} (hi : r.pending[i]? = some registration)
    (hdone : r.server.complete registration reply = some done) :
    Aligned ⟨done.1, r.pending.eraseIdx i⟩ := by
  have hin := List.mem_of_getElem? hi
  obtain ⟨-, hexported, hnext⟩ := LocalServer.complete_keeps hdone
  have hfresh := h.fresh.registered hi hdone
  have hpending : ∀ q ∈ r.pending.eraseIdx i, q ∈ r.pending :=
    fun q hq => List.mem_of_mem_eraseIdx hq
  refine ⟨hfresh, ?_, fun p n hvalue hn => ?_, fun q hq p n hplace => ?_, ?_, ?_⟩
  · cases reply with
    | some message =>
        change done.1.Placed
        rw [LocalServer.complete_error hdone]
        exact h.placed
    | none =>
        cases registration with
        | addService object a v =>
            obtain ⟨object', hobject, -, hpath, -⟩ := h.waiting _ hin _ _ rfl
            cases hobject
            exact h.placed.addService hdone hpath
        | addCharacteristic object chars c =>
            obtain ⟨object', hobject, -, hpath, -⟩ := h.waiting _ hin _ _ rfl
            cases hobject
            exact h.placed.addCharacteristic hdone hpath
        | addDescriptor object descs d =>
            cases descs with
            | none => cases hdone
            | some descs =>
                obtain ⟨object', hobject, -, hpath, -⟩ := h.waiting _ hin _ _ rfl
                cases hobject
                exact h.placed.addDescriptor hdone hpath
        | removeService =>
            cases hdone
            exact h.placed
        | removeApplication =>
            cases hdone
            exact h.placed
  · change ∃ object, done.1.exported.lookup p = some object ∧ _
    change done.1.storedNumber p = some n at hn
    rw [hexported]
    rcases LocalServer.complete_cases hdone with
      ⟨q, m, hplace, -, -, -, hemplaced⟩ | ⟨-, -, hsame⟩
    · rw [hemplaced p] at hn
      split_ifs at hn with hpq
      · subst hpq
        cases hold : r.server.storedNumber p with
        | some k =>
            rw [hold] at hn
            cases hn
            exact h.stored p _ hvalue hold
        | none =>
            rw [hold] at hn
            cases hn
            obtain ⟨object, -, hnumber, -, hat⟩ := h.waiting registration hin p _ hplace
            exact ⟨object, hat hvalue, hnumber⟩
      · exact h.stored p n hvalue hn
    · rw [LocalServer.storedNumber_congr (LocalServer.findService_congr hsame)] at hn
      exact h.stored p n hvalue hn
  · change ∃ object, _ ∧ _ ∧ _ ∧ (_ → done.1.exported.lookup p = _)
    rw [hexported]
    exact h.waiting q (hpending q hq) p n hplace
  · change ∀ p object, done.1.exported.lookup p = _ → _ < done.1.nextNumber
    rw [hexported, hnext]
    exact h.older
  · change ∀ p q object other, done.1.exported.lookup p = _ → done.1.exported.lookup q = _ → _
    rw [hexported]
    exact h.apart

theorem Aligned.answer (h : r.Aligned) (hfresh : (r.issued o).NumbersFresh)
    (hplaced : o.server.Placed) (hwithdraws : r.server.Withdraws o.server)
    (hexported : ∀ p object, o.server.exported.lookup p = some object →
      r.server.exported.lookup p = some object)
    (hnext : o.server.nextNumber = r.server.nextNumber)
    (hregistration : ∀ registration ∈ o.registration, registration.place = none) :
    (r.issued o).Aligned := by
  refine h.withdraws hfresh hplaced hwithdraws hexported hnext fun registration hin hplace => ?_
  rcases List.mem_append.mp hin with hold | hnew
  · exact hold
  · exact absurd (hregistration registration (Option.mem_toList.mp hnew)) hplace

theorem withdraws_unchanged {s t : LocalServer} (h : s.Unchanged t) : s.Withdraws t where
  stored := fun q n hq => by rwa [storedNumber_of_unchanged h] at hq
  exported := fun q _ => .inl (by rw [h.exported])

theorem Aligned.refused (h : r.Aligned) (hfresh : (r.issued o).NumbersFresh)
    (hsame : r.server.Unchanged o.server)
    (hregistration : ∀ registration ∈ o.registration, registration.place = none) :
    (r.issued o).Aligned :=
  h.answer hfresh (h.placed.congr fun _ _ => LocalServer.findService_congr hsame.applications)
    (withdraws_unchanged hsame) (fun p object hobject => by rwa [hsame.exported] at hobject)
    hsame.nextNumber hregistration

theorem Aligned.step (h : r.Aligned) (hstep : r.step e = some t)
    (hfree : ∀ path, e.Exports r.server path → r.Free path) : t.Aligned := by
  have hfresh := h.fresh.step hstep
  unfold ServerRun.step at hstep
  cases e with
  | busAcquired objPath =>
      obtain ⟨_, rfl⟩ := step_busAcquired hstep
      exact ⟨hfresh, ⟨h.placed.1, h.placed.2, h.placed.3⟩, h.stored, h.waiting, h.older, h.apart⟩
  | addApplication type =>
      cases hstep
      have hexported : (r.server.addApplication type).1.exported = r.server.exported := by
        cases type <;> rfl
      refine h.withdraws hfresh
        (h.placed.congr fun _ _ => LocalServer.findService_addApplication _ _ _ _)
        ⟨fun q n hq => ?_, fun q _ => .inl (by rw [hexported])⟩ (fun p object hobject => ?_)
        (by cases type <;> rfl) fun _ hin _ => hin
      · rwa [LocalServer.storedNumber_addApplication] at hq
      · change (r.server.addApplication type).1.exported.lookup p = some object at hobject
        rwa [hexported] at hobject
  | removeApplication type appId =>
      obtain ⟨o, ho, rfl⟩ := Option.map_eq_some_iff.mp hstep
      cases type with
      | client =>
          cases ho
          exact h.refused hfresh (.refl _) fun _ hnone => by cases hnone
      | server =>
          rcases LocalServer.removeApplication_cases ho with ⟨_, rfl⟩ | ⟨app, happ, rfl⟩
          · exact h.refused hfresh (.refl _) fun _ hnone => by cases hnone
          · exact h.answer hfresh (h.placed.removeApplication happ rfl)
              (h.placed.withdraws_removeApplication happ rfl rfl)
              (fun _ _ hobject => KeyedMap.lookup_foldl_some
                (fun _ _ => LocalServer.lookup_removeLocalServices_some) _ hobject) rfl
              (by simp [Registration.place])
  | addService appId service =>
      cases hstep
      rcases r.server.addService_cases appId service with
        hfail | ⟨object, hpath, hexports, _, hregistration⟩
      · rw [hfail] at hfresh ⊢
        exact h.refused hfresh (.refl _) fun _ hnone => by cases hnone
      · refine h.exports hfresh hexports (hpath ▸ hfree _ rfl) hregistration ?_
        rintro p n hplace
        cases hplace
        exact ⟨rfl, rfl, hpath.symm⟩
  | removeService appId serviceId =>
      cases hstep
      rcases r.server.removeService_cases appId serviceId with
        hfail | ⟨app, service, happ, hservice, hdone⟩
      · rw [hfail] at hfresh ⊢
        exact h.refused hfresh (.refl _) fun _ hnone => by cases hnone
      · rw [hdone] at hfresh ⊢
        exact h.answer hfresh (h.placed.removeService happ rfl)
          (h.placed.withdraws_removeService happ hservice rfl rfl)
          (fun _ _ => LocalServer.lookup_removeLocalServices_some) rfl
          (by simp [Registration.place])
  | addCharacteristic alloc appId serviceId characteristic =>
      obtain ⟨o, ho, rfl⟩ := Option.map_eq_some_iff.mp hstep
      rcases LocalServer.addCharacteristic_cases ho with
        ⟨_, _, _, hnone, hsame⟩ | ⟨service, object, hservice, hpath, hexports, _, hregistration⟩
      · exact h.refused hfresh hsame (by simp [hnone])
      · refine h.exports hfresh hexports (hpath ▸ hfree _ ⟨rfl, by simp [hservice]⟩)
          hregistration ?_
        rintro p n hplace
        cases hplace
        exact ⟨rfl, rfl, hpath.symm⟩
  | addDescriptor alloc appId serviceId descriptor =>
      obtain ⟨o, ho, rfl⟩ := Option.map_eq_some_iff.mp hstep
      rcases LocalServer.addDescriptor_cases ho with
        ⟨_, _, _, hnone, hsame⟩ | ⟨object, hpath, hexports, _, hregistration⟩
      · exact h.refused hfresh hsame (by simp [hnone])
      · refine h.exports hfresh hexports (hpath ▸ hfree _ rfl) hregistration ?_
        intro p n hplace
        cases hlist : r.server.getLocalDescriptorList appId serviceId r.server.mLastCharId with
        | none =>
            rw [hlist] at hplace
            cases hplace
        | some descs =>
            rw [hlist] at hplace
            cases hplace
            obtain ⟨characteristic, -, rfl⟩ := Option.map_eq_some_iff.mp hlist
            exact ⟨rfl, rfl, hpath.symm⟩
  | registered i reply =>
      obtain ⟨registration, hi, hdone⟩ := Option.bind_eq_some_iff.mp hstep
      obtain ⟨done, hcomplete, rfl⟩ := Option.map_eq_some_iff.mp hdone
      exact h.registered hi hcomplete
  | write path value =>
      obtain ⟨_, _, rfl⟩ := Option.map_eq_some_iff.mp hstep
      exact h

end ServerRun

end BluezSil.Gatt
