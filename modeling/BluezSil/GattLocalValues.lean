import BluezSil.GattLocalAlignment

/-!
# The values of the local GATT server

The value of a characteristic or a descriptor is kept by the interface of its object. A remote
device reads and writes the object exported at a path, and the application notifies the object
stored under its ids. The two are the same as long as no id is given that an attribute has or
waits for, so that every read returns what was last put in on either way.
-/

namespace BluezSil.Gatt

open TransitionRun TransitionRun.Machine

/-- The path of the object that `addCharacteristic` and `addDescriptor` make, and the value they
set before they export it. -/
def ServerEvent.creates (s : LocalServer) : ServerEvent → Option (LocalPath × List UInt8)
  | .addCharacteristic _ appId serviceId characteristic =>
    some (.characteristic appId serviceId s.nextCharId, characteristic.value)
  | .addDescriptor _ appId serviceId descriptor =>
    some (.descriptor appId serviceId s.mLastCharId s.nextDescId, descriptor.value)
  | _ => none

/-- The server with the values of its interfaces, by the numbers of their objects. `given` lists
the values put in, newest first, with the paths they were meant for. -/
structure ValueRun where
  run : ServerRun := {}
  values : KeyedMap ℕ (List UInt8) := ∅
  given : List (LocalPath × List UInt8) := []

inductive ValueEvent
  | server (event : ServerEvent)
  | notifyCharacteristicValueChanged (appId serviceId charId : UInt16) (value : List UInt8)
  | notifyDescriptorValueChanged (appId serviceId charId descId : UInt16) (value : List UInt8)

namespace ValueRun

variable (r : ValueRun)

/-- `onHandleReadValue` of the object at the path. -/
def read (path : LocalPath) : Option (List UInt8) :=
  (r.run.server.exported.lookup path).bind fun object => r.values.lookup object.number

def last (path : LocalPath) : Option (List UInt8) :=
  (r.given.find? fun given => given.1 = path).map Prod.snd

def setValue (path : LocalPath) (number : ℕ) (value : List UInt8) : ValueRun :=
  { r with values := r.values.insert number value, given := (path, value) :: r.given }

/-- `onHandleWriteValue` of the object at the path, if the event is a write. -/
def written : ServerEvent → ValueRun
  | .write path value =>
    match r.run.server.exported.lookup path with
    | some object => if path.HasValue then r.setValue path object.number value else r
    | none => r
  | _ => r

def notifyCharacteristicValueChanged (appId serviceId charId : UInt16) (value : List UInt8) :
    ValueRun :=
  match r.run.server.findCharacteristic appId serviceId charId with
  | some characteristic =>
    r.setValue (.characteristic appId serviceId charId) characteristic.mCharObject.number value
  | none => r

def notifyDescriptorValueChanged (appId serviceId charId descId : UInt16) (value : List UInt8) :
    ValueRun :=
  match (r.run.server.findCharacteristic appId serviceId charId).bind
    fun characteristic => characteristic.mDescriptors.lookup descId with
  | some descriptor =>
    r.setValue (.descriptor appId serviceId charId descId) descriptor.mDescObject.number value
  | none => r

/-- A call that exports an object takes the next number for it. -/
def created (run : ServerRun) (e : ServerEvent) : ValueRun :=
  if run.server.nextNumber = r.run.server.nextNumber then { r with run }
  else match e.creates r.run.server with
    | some (path, value) => { r with run }.setValue path r.run.server.nextNumber value
    | none => { r with run }

def step (r : ValueRun) : ValueEvent → Option ValueRun
  | .server e => (r.run.step e).map fun run => (r.created run e).written e
  | .notifyCharacteristicValueChanged appId serviceId charId value =>
    some (r.notifyCharacteristicValueChanged appId serviceId charId value)
  | .notifyDescriptorValueChanged appId serviceId charId descId value =>
    some (r.notifyDescriptorValueChanged appId serviceId charId descId value)

end ValueRun

/-- An event exports an object only where no attribute is stored and none waits to be. -/
def ExportsFree (r : ValueRun) : ValueEvent → Prop
  | .server e => ∀ path, e.Exports r.run.server path → r.run.Free path
  | _ => True

instance : DecidableRel ExportsFree
  | r, .server (.addService appId _) =>
    decidable_of_iff (r.run.Free (.service appId r.run.server.nextServiceId))
      ⟨fun h _ hpath => by cases hpath; exact h, fun h => h _ rfl⟩
  | r, .server (.addCharacteristic _ appId serviceId _) =>
    decidable_of_iff (r.run.server.findService appId serviceId ≠ none →
        r.run.Free (.characteristic appId serviceId r.run.server.nextCharId))
      ⟨fun h _ hpath => by obtain ⟨rfl, hservice⟩ := hpath; exact h hservice,
        fun h hservice => h _ ⟨rfl, hservice⟩⟩
  | r, .server (.addDescriptor _ appId serviceId _) =>
    decidable_of_iff
      (r.run.Free (.descriptor appId serviceId r.run.server.mLastCharId r.run.server.nextDescId))
      ⟨fun h _ hpath => by cases hpath; exact h, fun h => h _ rfl⟩
  | _, .server (.busAcquired _) => isTrue fun _ hpath => hpath.elim
  | _, .server (.addApplication _) => isTrue fun _ hpath => hpath.elim
  | _, .server (.removeApplication _ _) => isTrue fun _ hpath => hpath.elim
  | _, .server (.removeService _ _) => isTrue fun _ hpath => hpath.elim
  | _, .server (.registered _ _) => isTrue fun _ hpath => hpath.elim
  | _, .server (.write _ _) => isTrue fun _ hpath => hpath.elim
  | _, .notifyCharacteristicValueChanged _ _ _ _ => isTrue trivial
  | _, .notifyDescriptorValueChanged _ _ _ _ _ => isTrue trivial

def valueMachine : Machine ValueRun ValueEvent := ⟨{}, ValueRun.step⟩

namespace ValueRun

/-- Every exported value is the one last put in at its path. -/
structure Good (r : ValueRun) : Prop where
  aligned : r.run.Aligned
  values : ∀ p object, p.HasValue → r.run.server.exported.lookup p = some object →
    ∃ value, r.values.lookup object.number = some value ∧ r.last p = some value

variable {r t : ValueRun} {p q : LocalPath}

theorem last_setValue (r : ValueRun) (p q : LocalPath) (n : ℕ) (value : List UInt8) :
    (r.setValue p n value).last q = if p = q then some value else r.last q := by
  unfold last setValue
  rw [List.find?_cons]
  by_cases h : p = q <;> simp [h]

theorem Good.setValue (h : r.Good) {object : ObjectSkeleton} (value : List UInt8)
    (hobject : r.run.server.exported.lookup p = some object) :
    (r.setValue p object.number value).Good where
  aligned := h.aligned
  values := fun q other hvalue hother => by
    rw [last_setValue]
    by_cases hpq : p = q
    · subst hpq
      rw [show other = object from Option.some.inj (hother.symm.trans hobject), if_pos rfl]
      exact ⟨value, AList.lookup_insert _, rfl⟩
    · have hne : other.number ≠ object.number := fun hnumber =>
        hpq (h.aligned.apart p q object other hobject hother hnumber.symm)
      rw [if_neg hpq]
      obtain ⟨old, hold, hlast⟩ := h.values q other hvalue hother
      exact ⟨old, (AList.lookup_insert_ne hne).trans hold, hlast⟩

theorem Good.written (h : r.Good) (e : ServerEvent) : (r.written e).Good := by
  cases e with
  | write path value =>
      unfold ValueRun.written
      dsimp only
      cases hobject : r.run.server.exported.lookup path with
      | none => exact h
      | some object =>
          dsimp only
          split_ifs
          · exact h.setValue value hobject
          · exact h
  | _ => exact h

theorem Good.notified (h : r.Good) (hvalue : p.HasValue) {n : ℕ}
    (hstored : r.run.server.storedNumber p = some n) (value : List UInt8) :
    (r.setValue p n value).Good := by
  obtain ⟨object, hobject, rfl⟩ := h.aligned.stored p n hvalue hstored
  exact h.setValue value hobject

theorem Good.notifyCharacteristicValueChanged (h : r.Good) (a v c : UInt16) (value : List UInt8) :
    (r.notifyCharacteristicValueChanged a v c value).Good := by
  unfold ValueRun.notifyCharacteristicValueChanged
  cases hfind : r.run.server.findCharacteristic a v c with
  | none => exact h
  | some characteristic =>
      refine h.notified (p := .characteristic a v c) trivial ?_ value
      rw [LocalServer.storedNumber_characteristic, hfind, Option.map_some]

theorem Good.notifyDescriptorValueChanged (h : r.Good) (a v c d : UInt16) (value : List UInt8) :
    (r.notifyDescriptorValueChanged a v c d value).Good := by
  unfold ValueRun.notifyDescriptorValueChanged
  cases hfind : (r.run.server.findCharacteristic a v c).bind
      fun characteristic => characteristic.mDescriptors.lookup d with
  | none => exact h
  | some descriptor =>
      refine h.notified (p := .descriptor a v c d) trivial ?_ value
      obtain ⟨characteristic, hchar, hdesc⟩ := Option.bind_eq_some_iff.mp hfind
      rw [LocalServer.storedNumber_descriptor, hchar, Option.bind_some, hdesc, Option.map_some]

theorem Good.created (h : r.Good) {e : ServerEvent} {run : ServerRun}
    (hstep : r.run.step e = some run) (haligned : run.Aligned) : (r.created run e).Good := by
  unfold ValueRun.created
  rcases ServerRun.step_exports hstep with ⟨hsame, hexported⟩ | ⟨object, hexports, hpath⟩
  · rw [if_pos hsame]
    exact ⟨haligned, fun p object hvalue hobject =>
      h.values p object hvalue (hexported p object hobject)⟩
  · rw [if_neg (by rw [hexports.nextNumber]; omega)]
    have hlookup (p : LocalPath) (other : ObjectSkeleton)
        (hother : run.server.exported.lookup p = some other) :
        p = object.path ∧ other = object ∨ p ≠ object.path ∧
          r.run.server.exported.lookup p = some other := by
      rw [hexports.exported] at hother
      exact KeyedMap.lookup_insert_cases hother
    cases hcreates : e.creates r.run.server with
    | none =>
        refine ⟨haligned, fun p other hvalue hother => ?_⟩
        rcases hlookup p other hother with ⟨rfl, -⟩ | ⟨-, hold⟩
        · cases e with
          | addService a service =>
              rw [show object.path = _ from hpath] at hvalue
              exact hvalue.elim
          | addCharacteristic alloc a v characteristic => cases hcreates
          | addDescriptor alloc a v descriptor => cases hcreates
          | _ => exact hpath.elim
        · exact h.values p other hvalue hold
    | some created =>
        obtain ⟨path, value⟩ := created
        have hcreated : path = object.path := by
          cases e with
          | addCharacteristic alloc a v characteristic =>
              cases hcreates
              exact hpath.1.symm
          | addDescriptor alloc a v descriptor =>
              cases hcreates
              exact hpath.symm
          | _ => cases hcreates
        subst hcreated
        refine ⟨haligned, fun p other hvalue hother => ?_⟩
        dsimp only
        rw [last_setValue]
        rcases hlookup p other hother with ⟨rfl, rfl⟩ | ⟨hne, hold⟩
        · rw [if_pos rfl, hexports.number]
          exact ⟨value, AList.lookup_insert _, rfl⟩
        · have hlt := h.aligned.older p other hold
          rw [if_neg fun heq => hne heq.symm]
          obtain ⟨old, hvalues, hlast⟩ := h.values p other hvalue hold
          exact ⟨old, (AList.lookup_insert_ne (Nat.ne_of_lt hlt)).trans hvalues, hlast⟩

theorem good_init : Good {} where
  aligned := {
    fresh := ServerRun.numbersFresh_init
    placed := ⟨nofun, nofun, nofun⟩
    stored := fun p n _ hn => by cases p <;> cases hn
    waiting := nofun
    older := nofun
    apart := nofun }
  values := nofun

theorem good_of_reach (h : valueMachine.ReachWith ExportsFree r) : r.Good := by
  refine h.invariant good_init ?_
  intro s e t hgood hguard hstep
  cases e with
  | server e =>
      obtain ⟨run, hrun, rfl⟩ := Option.map_eq_some_iff.mp hstep
      exact (hgood.created hrun (hgood.aligned.step hrun hguard)).written e
  | notifyCharacteristicValueChanged a v c value =>
      cases hstep
      exact hgood.notifyCharacteristicValueChanged a v c value
  | notifyDescriptorValueChanged a v c d value =>
      cases hstep
      exact hgood.notifyDescriptorValueChanged a v c d value

end ValueRun

/-- In every run that gives no id which an attribute has or waits for, whatever is registered,
refused, removed or still pending, a remote device that reads an exported characteristic or
descriptor gets the value last put in there: by the call that made it, by a remote device at its
path, or by the application under its ids. -/
theorem read_last {r : ValueRun} (h : valueMachine.ReachWith ExportsFree r) {p : LocalPath}
    (hvalue : p.HasValue) (hp : p ∈ r.run.server.exported) :
    r.read p = r.last p ∧ r.read p ≠ none := by
  obtain ⟨object, hobject⟩ := KeyedMap.exists_lookup hp
  obtain ⟨value, hread, hlast⟩ := (ValueRun.good_of_reach h).values p object hvalue hobject
  have hsome : r.read p = some value := by
    rw [ValueRun.read, hobject, Option.bind_some, hread]
  rw [hsome, hlast]
  exact ⟨rfl, nofun⟩

/-- A characteristic is made with one value, written by a remote device and then notified. -/
theorem read_last_notified : ∃ r : ValueRun, r.last (.characteristic 1 1 1) = some [3] ∧
    r.read (.characteristic 1 1 1) = some [3] := by
  have hrun : ∃ r, valueMachine.runWith ExportsFree valueMachine.init
      (serverSetup.map ValueEvent.server ++
        [.server (.addCharacteristic {} 1 1 { value := [1] }), .server (.registered 0 none),
          .server (.write (.characteristic 1 1 1) [2]),
          .notifyCharacteristicValueChanged 1 1 1 [3]]) = some r ∧
      .characteristic 1 1 1 ∈ r.run.server.exported ∧ r.last (.characteristic 1 1 1) = some [3] :=
    ⟨_, rfl, by decide, rfl⟩
  obtain ⟨r, hrun, hexported, hlast⟩ := hrun
  have hread := (read_last (reachWith_of_runWith _ .init hrun) (p := .characteristic 1 1 1)
    trivial hexported).1
  exact ⟨r, hlast, hread.trans hlast⟩

end BluezSil.Gatt
