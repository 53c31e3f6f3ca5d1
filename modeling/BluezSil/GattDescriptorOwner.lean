import BluezSil.GattLocalOperations
import Mathlib.Data.List.Perm.Basic

/-!
# The characteristic a descriptor is added to

`addDescriptor` is not told the characteristic. It takes the one whose registration was
completed last in the whole process, while a descriptor belongs to the one completed last
in its own service. Runs add attributes only, and remember the last characteristic of each
service and, for each descriptor object, the one its call was meant for.
-/

namespace BluezSil.Gatt

open TransitionRun

namespace ServerEvent

def adds : ServerEvent → Bool
  | .removeApplication _ _ => false
  | .removeService _ _ => false
  | _ => true

end ServerEvent

def Registration.descPath : Registration → Option LocalPath
  | .addDescriptor object (some _) _ => some object.path
  | _ => none

abbrev CharPlace := UInt16 × UInt16 × UInt16

structure DescriptorRun where
  run : ServerRun := {}
  lastChar : UInt16 × UInt16 → Option UInt16 := fun _ => none
  meant : ℕ → Option CharPlace := fun _ => none

namespace DescriptorRun

variable (d : DescriptorRun)

def lastCharAfter : Registration → Reply → UInt16 × UInt16 → Option UInt16
  | .addCharacteristic _ chars charId, none =>
    Function.update d.lastChar (chars.appId, chars.serviceId) (some charId)
  | _, _ => d.lastChar

def target (appId serviceId : UInt16) : Option CharPlace :=
  (d.lastChar (appId, serviceId)).map fun charId => (appId, serviceId, charId)

def step (e : ServerEvent) : Option DescriptorRun :=
  if e.adds then
    (d.run.step e).map fun run =>
      match e with
      | .registered i reply =>
        ⟨run, d.run.pending[i]?.elim d.lastChar (d.lastCharAfter · reply), d.meant⟩
      | .addDescriptor _ appId serviceId _ =>
        ⟨run, d.lastChar,
          Function.update d.meant d.run.server.nextNumber (d.target appId serviceId)⟩
      | _ => ⟨run, d.lastChar, d.meant⟩
  else none

/-- The id the next descriptor is given is not in use at the last characteristic. -/
def IdFree (appId serviceId : UInt16) : Prop :=
  ((d.run.server.findCharacteristic appId serviceId d.run.server.mLastCharId).all
    fun characteristic => d.run.server.nextDescId ∉ characteristic.mDescriptors) = true ∧
  ∀ registration ∈ d.run.pending, registration.descPath ≠
    some (.descriptor appId serviceId d.run.server.mLastCharId d.run.server.nextDescId)

end DescriptorRun

def descriptorMachine : Machine DescriptorRun ServerEvent := ⟨{}, DescriptorRun.step⟩

/-- A descriptor is added to a service only while the characteristic completed last is the
last one of that service, or while the service has none. -/
def AddsToLast (d : DescriptorRun) : ServerEvent → Prop
  | .addDescriptor _ appId serviceId _ =>
    (d.lastChar (appId, serviceId) = none ∨
      d.lastChar (appId, serviceId) = some d.run.server.mLastCharId) ∧
    d.IdFree appId serviceId
  | _ => True

instance : DecidableRel AddsToLast := fun d e => by
  unfold AddsToLast DescriptorRun.IdFree
  cases e <;> infer_instance

/-- Two pending registrations do not store a descriptor at one path. -/
def Registration.Apart (p q : Registration) : Prop := p.descPath = q.descPath → p.descPath = none

theorem Registration.Apart.symm {p q : Registration} (h : p.Apart q) : q.Apart p :=
  fun heq => heq.trans (h heq.symm)

theorem apart_of_mem_eraseIdx {pending : List Registration} {p q : Registration} {i : ℕ}
    (h : pending.Pairwise Registration.Apart) (hp : pending[i]? = some p)
    (hq : q ∈ pending.eraseIdx i) : p.Apart q := by
  obtain ⟨hi, hget⟩ := List.getElem?_eq_some_iff.mp hp
  have hperm : (p :: pending.eraseIdx i).Perm pending := by
    rw [← hget]
    exact List.getElem_cons_eraseIdx_perm hi
  have hall := (hperm.pairwise_iff Registration.Apart.symm).mpr h
  exact (List.pairwise_cons.mp hall).1 q hq

namespace DescriptorRun

/-- A pending descriptor is exported where it belongs, and can be stored there. -/
structure Awaits (d : DescriptorRun) (object : ObjectSkeleton) (descs : DescsRef)
    (descId : UInt16) : Prop where
  path : object.path = .descriptor descs.appId descs.serviceId descs.charId descId
  meant : d.meant object.number = some (descs.appId, descs.serviceId, descs.charId)
  number : object.number < d.run.server.nextNumber
  exported : d.run.server.exported.lookup object.path = some object
  free : ∃ characteristic,
    d.run.server.findCharacteristic descs.appId descs.serviceId descs.charId =
      some characteristic ∧
    characteristic.mCharObject.number = descs.number ∧ descId ∉ characteristic.mDescriptors

structure Sound (d : DescriptorRun) : Prop where
  managed : d.run.pending ≠ [] ∨ (∃ place, d.lastChar place ≠ none) →
    d.run.server.mObjectManagerGattServer ≠ none
  stored : ∀ a v c, d.lastChar (a, v) = some c → d.run.server.findCharacteristic a v c ≠ none
  last : ∀ a v c, d.run.server.findCharacteristic a v c ≠ none → d.lastChar (a, v) ≠ none
  awaited : ∀ object descs descId,
    .addDescriptor object (some descs) descId ∈ d.run.pending → d.Awaits object descs descId
  apart : d.run.pending.Pairwise Registration.Apart

variable {d t : DescriptorRun} {object : ObjectSkeleton} {descs : DescsRef} {descId : UInt16}

theorem Awaits.frame (h : d.Awaits object descs descId)
    (hchars : ∀ characteristic,
      d.run.server.findCharacteristic descs.appId descs.serviceId descs.charId =
        some characteristic →
      t.run.server.findCharacteristic descs.appId descs.serviceId descs.charId =
        some characteristic)
    (hexported : t.run.server.exported.lookup object.path = some object)
    (hmeant : t.meant object.number = d.meant object.number)
    (hnumber : d.run.server.nextNumber ≤ t.run.server.nextNumber) :
    t.Awaits object descs descId where
  path := h.path
  meant := hmeant.trans h.meant
  number := Nat.lt_of_lt_of_le h.number hnumber
  exported := hexported
  free := by
    obtain ⟨characteristic, hfind, hfree⟩ := h.free
    exact ⟨characteristic, hchars characteristic hfind, hfree⟩

theorem Sound.still (h : d.Sound) (hmanager : d.run.server.mObjectManagerGattServer ≠ none →
      t.run.server.mObjectManagerGattServer ≠ none)
    (hchars : ∀ a v c,
      t.run.server.findCharacteristic a v c = d.run.server.findCharacteristic a v c)
    (hexported : t.run.server.exported = d.run.server.exported)
    (hnumber : t.run.server.nextNumber = d.run.server.nextNumber)
    (hpending : t.run.pending.Sublist d.run.pending) (hlast : t.lastChar = d.lastChar)
    (hmeant : ∀ n < d.run.server.nextNumber, t.meant n = d.meant n) : t.Sound where
  managed := by
    rw [hlast]
    rintro (hne | hplace)
    · apply hmanager
      apply h.managed
      left
      rintro hnil
      rw [hnil] at hpending
      exact hne (List.sublist_nil.mp hpending)
    · exact hmanager (h.managed (.inr hplace))
  stored a v c := by
    rw [hlast, hchars]
    exact h.stored a v c
  last a v c := by
    rw [hlast, hchars]
    exact h.last a v c
  awaited object descs descId hmem := by
    have hawaits := h.awaited object descs descId (hpending.subset hmem)
    apply hawaits.frame
    · intro characteristic hfind
      rw [hchars]
      exact hfind
    · rw [hexported]
      exact hawaits.exported
    · exact hmeant _ hawaits.number
    · exact Nat.le_of_eq hnumber.symm
  apart := h.apart.sublist hpending

theorem Sound.exports (h : d.Sound) {o : Issued} {new : Registration}
    (hexports : d.run.server.Exports o.server object) (hnew : o.registration = some new)
    {meant : ℕ → Option CharPlace} (hmeant : ∀ n < d.run.server.nextNumber,
      meant n = d.meant n)
    (hpath : ∀ other descs descId, .addDescriptor other (some descs) descId ∈ d.run.pending →
      other.path ≠ object.path)
    (hawaits : ∀ other descs descId, new = .addDescriptor other (some descs) descId →
      DescriptorRun.Awaits ⟨d.run.issued o, d.lastChar, meant⟩ other descs descId)
    (hapart : ∀ p ∈ d.run.pending, p.Apart new) :
    DescriptorRun.Sound ⟨d.run.issued o, d.lastChar, meant⟩ := by
  have hchars : ∀ a v c, o.server.findCharacteristic a v c =
      d.run.server.findCharacteristic a v c := fun _ _ _ =>
    LocalServer.findCharacteristic_congr hexports.applications
  have hpending : (d.run.issued o).pending = d.run.pending ++ [new] := by
    unfold ServerRun.issued
    rw [hnew]
    rfl
  constructor
  · intro _
    change o.server.mObjectManagerGattServer ≠ none
    rw [hexports.manager]
    exact hexports.managed
  · intro a v c
    change d.lastChar (a, v) = some c → o.server.findCharacteristic a v c ≠ none
    rw [hchars]
    exact h.stored a v c
  · intro a v c
    change o.server.findCharacteristic a v c ≠ none → d.lastChar (a, v) ≠ none
    rw [hchars]
    exact h.last a v c
  · intro other descs descId hmem
    change _ ∈ (d.run.issued o).pending at hmem
    rw [hpending, List.mem_append, List.mem_singleton] at hmem
    rcases hmem with hold | heq
    · have hother := h.awaited other descs descId hold
      apply hother.frame
      · intro characteristic hfind
        exact (hchars _ _ _).trans hfind
      · change o.server.exported.lookup other.path = some other
        rw [hexports.exported, AList.lookup_insert_ne (hpath other descs descId hold)]
        exact hother.exported
      · exact hmeant _ hother.number
      · change _ ≤ o.server.nextNumber
        rw [hexports.nextNumber]
        exact Nat.le_succ _
    · exact hawaits other descs descId heq.symm
  · change (d.run.issued o).pending.Pairwise Registration.Apart
    rw [hpending, List.pairwise_append]
    refine ⟨h.apart, List.pairwise_singleton _ _, fun p hp q hq => ?_⟩
    rw [List.mem_singleton.mp hq]
    exact hapart p hp

/-- The first characteristic with an id stays the one stored under it. -/
theorem findCharacteristic_insert_some {s : LocalServer} {chars : CharsRef}
    {charId a v c : UInt16} {new old : LocalCharacteristic} (hchars : s.HasChars chars)
    (h : s.findCharacteristic a v c = some old) :
    (s.modifyService chars.appId chars.serviceId fun service => { service with
      mCharacteristics := service.mCharacteristics.emplace charId new }).findCharacteristic
        a v c = some old := by
  obtain ⟨service, hservice, _⟩ := hchars
  rw [LocalServer.findCharacteristic_insert hservice]
  split_ifs with hplace
  · obtain ⟨rfl, rfl, rfl⟩ := hplace
    rw [h, Option.getD_some]
  · exact h

theorem Sound.characteristic_added (h : d.Sound) {i : ℕ} {chars : CharsRef} {charId : UInt16}
    {done : LocalServer × List Answer}
    (hpending : d.run.pending[i]? = some (.addCharacteristic object chars charId))
    (hdone : d.run.server.complete (.addCharacteristic object chars charId) none = some done) :
    DescriptorRun.Sound ⟨⟨done.1, d.run.pending.eraseIdx i⟩,
      Function.update d.lastChar (chars.appId, chars.serviceId) (some charId), d.meant⟩ := by
  have hmanager : d.run.server.mObjectManagerGattServer ≠ none :=
    h.managed (.inl (List.ne_nil_of_mem (List.mem_of_getElem? hpending)))
  unfold LocalServer.complete at hdone
  dsimp only at hdone
  split_ifs at hdone with hchars
  cases hdone
  constructor
  · exact fun _ => hmanager
  · intro a v c hlast
    change Function.update d.lastChar (chars.appId, chars.serviceId) (some charId) (a, v) =
      some c at hlast
    by_cases hplace : a = chars.appId ∧ v = chars.serviceId
    · obtain ⟨rfl, rfl⟩ := hplace
      rw [Function.update_self] at hlast
      cases hlast
      obtain ⟨service, hservice, _⟩ := hchars
      refine ne_of_eq_of_ne (LocalServer.findCharacteristic_insert hservice _ _ _ _ _) ?_
      rw [if_pos ⟨rfl, rfl, rfl⟩]
      exact Option.some_ne_none _
    · have hne : (a, v) ≠ (chars.appId, chars.serviceId) := fun heq =>
        hplace ⟨congrArg Prod.fst heq, congrArg Prod.snd heq⟩
      rw [Function.update_of_ne hne] at hlast
      obtain ⟨old, hold⟩ := Option.ne_none_iff_exists'.mp (h.stored a v c hlast)
      exact ne_of_eq_of_ne (findCharacteristic_insert_some hchars hold) (Option.some_ne_none old)
  · intro a v c hfind
    change Function.update d.lastChar (chars.appId, chars.serviceId) (some charId) (a, v) ≠ none
    by_cases hplace : a = chars.appId ∧ v = chars.serviceId
    · obtain ⟨rfl, rfl⟩ := hplace
      rw [Function.update_self]
      exact Option.some_ne_none charId
    · have hne : (a, v) ≠ (chars.appId, chars.serviceId) := fun heq =>
        hplace ⟨congrArg Prod.fst heq, congrArg Prod.snd heq⟩
      rw [Function.update_of_ne hne]
      apply h.last a v c
      intro hnone
      obtain ⟨service, hservice, _⟩ := hchars
      refine hfind ((LocalServer.findCharacteristic_insert hservice _ _ _ _ _).trans ?_)
      rw [if_neg fun hall => hplace ⟨hall.1, hall.2.1⟩]
      exact hnone
  · intro other descs descId hmem
    have hawaits := h.awaited other descs descId (List.mem_of_mem_eraseIdx hmem)
    exact hawaits.frame (fun _ => findCharacteristic_insert_some hchars) hawaits.exported rfl le_rfl
  · exact h.apart.sublist (List.eraseIdx_sublist _ _)

theorem Awaits.hasDescs (h : d.Awaits object descs descId) : d.run.server.HasDescs descs := by
  obtain ⟨characteristic, hfind, hnumber, _⟩ := h.free
  exact ⟨characteristic, hfind, hnumber⟩

theorem Sound.descriptor_added (h : d.Sound) {i : ℕ} {done : LocalServer × List Answer}
    (hpending : d.run.pending[i]? = some (.addDescriptor object (some descs) descId))
    (hdone : d.run.server.complete (.addDescriptor object (some descs) descId) none =
      some done) :
    DescriptorRun.Sound ⟨⟨done.1, d.run.pending.eraseIdx i⟩, d.lastChar, d.meant⟩ := by
  have hmem := List.mem_of_getElem? hpending
  have hmanager : d.run.server.mObjectManagerGattServer ≠ none :=
    h.managed (.inl (List.ne_nil_of_mem hmem))
  have hself := h.awaited object descs descId hmem
  unfold LocalServer.complete at hdone
  dsimp only at hdone
  split_ifs at hdone
  cases hdone
  have hsome : ∀ a v c, (d.run.server.modifyCharacteristic descs.appId descs.serviceId
      descs.charId fun characteristic => { characteristic with
        mDescriptors := characteristic.mDescriptors.emplace descId ⟨object⟩ }).findCharacteristic
          a v c ≠ none ↔ d.run.server.findCharacteristic a v c ≠ none := by
    intro a v c
    by_cases hplace : a = descs.appId ∧ v = descs.serviceId ∧ c = descs.charId
    · obtain ⟨rfl, rfl, rfl⟩ := hplace
      rw [LocalServer.findCharacteristic_modifyCharacteristic_self, Ne, Option.map_eq_none_iff]
    · rw [LocalServer.findCharacteristic_modifyCharacteristic_ne hplace]
  constructor
  · exact fun _ => hmanager
  · exact fun a v c hlast => (hsome a v c).mpr (h.stored a v c hlast)
  · exact fun a v c hfind => h.last a v c ((hsome a v c).mp hfind)
  · intro other otherDescs otherId hother
    have hawaits := h.awaited other otherDescs otherId (List.mem_of_mem_eraseIdx hother)
    have hpath : object.path ≠ other.path := by
      intro heq
      cases apart_of_mem_eraseIdx h.apart hpending hother (congrArg some heq)
    refine ⟨hawaits.path, hawaits.meant, hawaits.number, hawaits.exported, ?_⟩
    obtain ⟨characteristic, hfind, hnumber, hfree⟩ := hawaits.free
    by_cases hplace : otherDescs.appId = descs.appId ∧ otherDescs.serviceId = descs.serviceId ∧
        otherDescs.charId = descs.charId
    · obtain ⟨happ, hservice, hchar⟩ := hplace
      rw [happ, hservice, hchar] at hfind
      refine ⟨{ characteristic with
        mDescriptors := characteristic.mDescriptors.emplace descId ⟨object⟩ }, ?_, hnumber, ?_⟩
      · rw [happ, hservice, hchar]
        exact LocalServer.findCharacteristic_modifyCharacteristic_some hfind
      · rw [KeyedMap.mem_emplace]
        rintro (hold | rfl)
        · exact hfree hold
        · apply hpath
          rw [hself.path, hawaits.path, happ, hservice, hchar]
    · exact ⟨characteristic,
        (LocalServer.findCharacteristic_modifyCharacteristic_ne hplace).trans hfind,
        hnumber, hfree⟩
  · exact h.apart.sublist (List.eraseIdx_sublist _ _)

/-- The completion of a descriptor stores it at the characteristic it was meant for, below
which it is exported. -/
theorem Awaits.complete (h : d.Awaits object descs descId) :
    ∃ done, d.run.server.complete (.addDescriptor object (some descs) descId) none =
      some done ∧ done.2 = [.added .none descId] ∧
      done.1.exported.lookup object.path = some object ∧
      ∃ characteristic, done.1.findCharacteristic descs.appId descs.serviceId descs.charId =
        some characteristic ∧ characteristic.mDescriptors.lookup descId = some ⟨object⟩ := by
  obtain ⟨characteristic, hfind, _, hfree⟩ := h.free
  exact ⟨_, if_pos h.hasDescs, rfl, h.exported, _,
    LocalServer.findCharacteristic_modifyCharacteristic_some hfind,
    KeyedMap.lookup_emplace_self hfree⟩

theorem Sound.refused (h : d.Sound) {o : Issued} (hsame : d.run.server.Unchanged o.server)
    (hnone : o.registration = none) {meant : ℕ → Option CharPlace}
    (hmeant : ∀ n < d.run.server.nextNumber, meant n = d.meant n) :
    DescriptorRun.Sound ⟨d.run.issued o, d.lastChar, meant⟩ := by
  apply h.still
  · intro hmanager
    change o.server.mObjectManagerGattServer ≠ none
    rw [hsame.manager]
    exact hmanager
  · exact fun _ _ _ => LocalServer.findCharacteristic_congr hsame.applications
  · exact hsame.exported
  · exact hsame.nextNumber
  · change (d.run.pending ++ o.registration.toList).Sublist d.run.pending
    rw [hnone, Option.toList_none, List.append_nil]
  · rfl
  · exact hmeant

theorem Sound.exports_other (h : d.Sound) {o : Issued} {new : Registration}
    (hexports : d.run.server.Exports o.server object) (hnew : o.registration = some new)
    (hdesc : new.descPath = none)
    (hplace : ∀ a v c id, object.path ≠ .descriptor a v c id) :
    DescriptorRun.Sound ⟨d.run.issued o, d.lastChar, d.meant⟩ := by
  apply h.exports hexports hnew (fun _ _ => rfl)
  · intro other descs descId hmem heq
    exact hplace _ _ _ _ (heq.symm.trans (h.awaited other descs descId hmem).path)
  · rintro other descs descId rfl
    cases hdesc
  · exact fun p _ heq => heq.trans hdesc

theorem Sound.descriptor_issued (h : d.Sound) {alloc : Allocation} {appId serviceId : UInt16}
    {descriptor : BluetoothGattDescriptor} {o : Issued}
    (hguard : AddsToLast d (.addDescriptor alloc appId serviceId descriptor))
    (ho : d.run.server.addDescriptor alloc appId serviceId descriptor = some o) :
    DescriptorRun.Sound ⟨d.run.issued o, d.lastChar,
      Function.update d.meant d.run.server.nextNumber (d.target appId serviceId)⟩ := by
  obtain ⟨hlast, hfree, hpending⟩ := hguard
  have hmeant : ∀ n < d.run.server.nextNumber, Function.update d.meant
      d.run.server.nextNumber (d.target appId serviceId) n = d.meant n :=
    fun n hn => Function.update_of_ne (Nat.ne_of_lt hn) _ _
  rcases LocalServer.addDescriptor_cases ho with
    ⟨_, _, _, hnone, hsame⟩ | ⟨object, hpath, hexports, _, hnew⟩
  · exact h.refused hsame hnone hmeant
  · apply h.exports hexports hnew hmeant
    · intro other descs descId hmem heq
      apply hpending _ hmem
      rw [← hpath, ← heq]
      rfl
    · intro other descs descId hother
      injection hother with hobject hdescs hid
      subst hobject hid
      -- the list was found, so the service has a last characteristic, and it is this one
      obtain ⟨characteristic, hfind, rfl⟩ := Option.map_eq_some_iff.mp hdescs
      have hchar : d.lastChar (appId, serviceId) = some d.run.server.mLastCharId :=
        hlast.resolve_left (h.last _ _ _ (ne_of_eq_of_ne hfind (Option.some_ne_none _)))
      rw [hfind, Option.all_some, decide_eq_true_eq] at hfree
      refine ⟨hpath, ?_, ?_, ?_, characteristic, ?_, rfl, hfree⟩
      · change Function.update d.meant _ _ object.number = _
        rw [hexports.number, Function.update_self, target, hchar, Option.map_some]
      · change object.number < o.server.nextNumber
        rw [hexports.number, hexports.nextNumber]
        exact Nat.lt_succ_self _
      · change o.server.exported.lookup object.path = some object
        rw [hexports.exported, AList.lookup_insert]
      · exact (LocalServer.findCharacteristic_congr hexports.applications).trans hfind
    · intro p hp heq
      cases hlist : d.run.server.getLocalDescriptorList appId serviceId
          d.run.server.mLastCharId with
      | none =>
          rw [hlist] at heq
          exact heq
      | some descs =>
          rw [hlist] at heq
          apply absurd _ (hpending p hp)
          rw [heq, ← hpath]
          rfl

theorem Sound.registered (h : d.Sound) {i : ℕ} {reply : Reply} {registration : Registration}
    {done : LocalServer × List Answer} (hpending : d.run.pending[i]? = some registration)
    (hdone : d.run.server.complete registration reply = some done) :
    DescriptorRun.Sound ⟨⟨done.1, d.run.pending.eraseIdx i⟩,
      d.lastCharAfter registration reply, d.meant⟩ := by
  have hstill : (∀ a v c, done.1.findCharacteristic a v c =
        d.run.server.findCharacteristic a v c) →
      DescriptorRun.Sound ⟨⟨done.1, d.run.pending.eraseIdx i⟩, d.lastChar, d.meant⟩ := by
    intro hchars
    obtain ⟨hkeeps, hexported, hnumber⟩ := LocalServer.complete_keeps hdone
    refine h.still ?_ hchars hexported hnumber (List.eraseIdx_sublist _ _) rfl fun _ _ => rfl
    intro hmanager
    change done.1.mObjectManagerGattServer ≠ none
    rw [hkeeps.manager]
    exact hmanager
  cases reply with
  | some message =>
      have hlast : d.lastCharAfter registration (some message) = d.lastChar := by
        cases registration <;> rfl
      rw [hlast]
      apply hstill
      rw [LocalServer.complete_error hdone]
      exact fun _ _ _ => rfl
  | none =>
      cases registration with
      | addService object appId serviceId =>
          exact hstill (LocalServer.findCharacteristic_complete_addService hdone)
      | addCharacteristic object chars charId => exact h.characteristic_added hpending hdone
      | addDescriptor object descs descId =>
          cases descs with
          | none => cases hdone
          | some descs => exact h.descriptor_added hpending hdone
      | removeService =>
          cases hdone
          exact hstill fun _ _ _ => rfl
      | removeApplication =>
          cases hdone
          exact hstill fun _ _ _ => rfl

theorem sound_step {e : ServerEvent} (h : d.Sound) (hguard : AddsToLast d e)
    (hs : d.step e = some t) : t.Sound := by
  unfold step at hs
  split_ifs at hs with hadds
  obtain ⟨run, hrun, rfl⟩ := Option.map_eq_some_iff.mp hs
  cases e with
  | busAcquired objPath =>
      obtain ⟨_, rfl⟩ := ServerRun.step_busAcquired hrun
      exact h.still (fun _ => nofun) (fun _ _ _ => rfl) rfl rfl (List.Sublist.refl _) rfl
        fun _ _ => rfl
  | addApplication type =>
      cases hrun
      refine h.still ?_ (LocalServer.findCharacteristic_addApplication _ type) ?_ ?_
        (List.Sublist.refl _) rfl fun _ _ => rfl
      · cases type <;> exact id
      · cases type <;> rfl
      · cases type <;> rfl
  | removeApplication type appId => cases hadds
  | addService appId service =>
      cases hrun
      rcases d.run.server.addService_cases appId service with
        hfail | ⟨object, hpath, hexports, _, hnew⟩
      · rw [hfail]
        exact h.refused (.refl _) rfl fun _ _ => rfl
      · apply h.exports_other hexports hnew rfl
        rw [hpath]
        exact fun _ _ _ _ => nofun
  | removeService appId serviceId => cases hadds
  | addCharacteristic alloc appId serviceId characteristic =>
      obtain ⟨o, ho, rfl⟩ := Option.map_eq_some_iff.mp hrun
      rcases LocalServer.addCharacteristic_cases ho with
        ⟨_, _, _, hnone, hsame⟩ | ⟨_, object, _, hpath, hexports, _, hnew⟩
      · exact h.refused hsame hnone fun _ _ => rfl
      · apply h.exports_other hexports hnew rfl
        rw [hpath]
        exact fun _ _ _ _ => nofun
  | addDescriptor alloc appId serviceId descriptor =>
      obtain ⟨o, ho, rfl⟩ := Option.map_eq_some_iff.mp hrun
      exact h.descriptor_issued hguard ho
  | registered i reply =>
      obtain ⟨registration, hpending, hdone⟩ := Option.bind_eq_some_iff.mp hrun
      obtain ⟨done, hcomplete, rfl⟩ := Option.map_eq_some_iff.mp hdone
      have hsound := h.registered hpending hcomplete
      dsimp only
      rw [hpending]
      exact hsound
  | write path value =>
      obtain ⟨_, _, rfl⟩ := Option.map_eq_some_iff.mp hrun
      exact h

theorem sound_of_reach (h : descriptorMachine.ReachWith AddsToLast d) : d.Sound := by
  refine h.invariant ⟨?_, nofun, fun _ _ _ hne => absurd rfl hne, nofun, List.Pairwise.nil⟩
    fun _ _ _ => sound_step
  rintro (hpending | ⟨_, hlast⟩)
  · exact absurd rfl hpending
  · exact absurd rfl hlast

/-- The call hands over a descriptor of the characteristic and has reported nothing. -/
def AddsBelow (d : DescriptorRun) (appId serviceId charId : UInt16)
    (descriptor : BluetoothGattDescriptor) : Prop :=
  ∃ o object descs, d.run.server.addDescriptor {} appId serviceId descriptor = some o ∧
    o.answers = [] ∧
    o.registration = some (.addDescriptor object (some descs) d.run.server.nextDescId) ∧
    object.path = .descriptor appId serviceId charId d.run.server.nextDescId

/-- The completion reports the descriptor and has stored it below the characteristic its
call was meant for. -/
def ReportsBelow (d : DescriptorRun) (object : ObjectSkeleton) (descId : UInt16)
    (done : LocalServer × List Answer) : Prop :=
  ∃ a v c characteristic, d.meant object.number = some (a, v, c) ∧
    object.path = .descriptor a v c descId ∧ done.2 = [.added .none descId] ∧
    done.1.exported.lookup object.path = some object ∧
    done.1.findCharacteristic a v c = some characteristic ∧
    characteristic.mDescriptors.lookup descId = some ⟨object⟩

theorem Sound.addsBelow_iff (h : d.Sound) {appId serviceId charId : UInt16}
    (hlast : d.lastChar (appId, serviceId) = some charId) (descriptor : BluetoothGattDescriptor) :
    d.AddsBelow appId serviceId charId descriptor ↔ d.run.server.mLastCharId = charId := by
  constructor
  · rintro ⟨o, object, descs, ho, _, hnew, hpath⟩
    rcases LocalServer.addDescriptor_cases ho with ⟨_, _, _, hnone, _⟩ | ⟨_, hplace, _, _, hsame⟩
    · rw [hnew] at hnone
      cases hnone
    · rw [hnew] at hsame
      injection Option.some.inj hsame with hobject
      rw [← hobject, hpath] at hplace
      injection hplace with _ _ hchar
      exact hchar.symm
  · intro hchar
    obtain ⟨characteristic, hfind⟩ := Option.ne_none_iff_exists'.mp (h.stored _ _ _ hlast)
    have hmanager := h.managed
      (.inr ⟨_, ne_of_eq_of_ne hlast (Option.some_ne_none charId)⟩)
    obtain ⟨objPath, hobjPath⟩ := Option.ne_none_iff_exists'.mp hmanager
    have hlist : d.run.server.getLocalDescriptorList appId serviceId
        d.run.server.mLastCharId =
          some ⟨appId, serviceId, charId, characteristic.mCharObject.number⟩ := by
      unfold LocalServer.getLocalDescriptorList
      rw [hchar, hfind, Option.map_some]
    have hissued : ∃ server, d.run.server.addDescriptor {} appId serviceId descriptor =
        some ⟨server, [], some (.addDescriptor
          ⟨d.run.server.nextNumber,
            .descriptor appId serviceId d.run.server.mLastCharId d.run.server.nextDescId,
            descriptor.uuid, []⟩
          (some ⟨appId, serviceId, charId, characteristic.mCharObject.number⟩)
          d.run.server.nextDescId)⟩ := by
      unfold LocalServer.addDescriptor
      rw [hlist, hobjPath]
      exact ⟨_, rfl⟩
    obtain ⟨server, hissued⟩ := hissued
    refine ⟨_, _, _, hissued, rfl, rfl, ?_⟩
    rw [hchar]

theorem Sound.reportsBelow (h : d.Sound) {i : ℕ} (hpending :
      d.run.pending[i]? = some (.addDescriptor object (some descs) descId)) :
    ∃ done, d.run.server.complete (.addDescriptor object (some descs) descId) none =
      some done ∧ d.ReportsBelow object descId done := by
  have hawaits := h.awaited object descs descId (List.mem_of_getElem? hpending)
  obtain ⟨done, hdone, hanswer, hexported, characteristic, hfind, hstored⟩ := hawaits.complete
  exact ⟨done, hdone, _, _, _, characteristic, hawaits.meant, hawaits.path, hanswer, hexported,
    hfind, hstored⟩

end DescriptorRun

/-- As long as every call for a descriptor finds the last characteristic of its service, each
descriptor reported is stored and exported below the one that was last at the call. A call
for a service with a characteristic goes there if and only if that one was completed last. -/
theorem descriptors_own_characteristic (d : DescriptorRun)
    (h : descriptorMachine.ReachWith AddsToLast d) :
    (∀ (i : ℕ) (object : ObjectSkeleton) (descs : Option DescsRef) (descId : UInt16) done,
      d.run.pending[i]? = some (.addDescriptor object descs descId) →
      d.run.server.complete (.addDescriptor object descs descId) none = some done →
      d.ReportsBelow object descId done) ∧
    (∀ (i : ℕ) (object : ObjectSkeleton) (descs : DescsRef) (descId : UInt16),
      d.run.pending[i]? = some (.addDescriptor object (some descs) descId) →
      (d.run.server.complete (.addDescriptor object (some descs) descId) none).isSome) ∧
    (∀ appId serviceId charId descriptor, d.lastChar (appId, serviceId) = some charId →
      (d.AddsBelow appId serviceId charId descriptor ↔ d.run.server.mLastCharId = charId)) := by
  have hsound := DescriptorRun.sound_of_reach h
  refine ⟨?_, ?_, fun _ _ _ descriptor hlast => hsound.addsBelow_iff hlast descriptor⟩
  · intro i object descs descId done hpending hdone
    cases descs with
    | none => cases hdone
    | some descs =>
        obtain ⟨reported, hreported, hbelow⟩ := hsound.reportsBelow hpending
        cases hreported.symm.trans hdone
        exact hbelow
  · intro i object descs descId hpending
    obtain ⟨reported, hreported, _⟩ := hsound.reportsBelow hpending
    rw [hreported]
    rfl

/-- Two characteristics, each of which has a descriptor before the next one comes. -/
theorem descriptors_own_characteristic_two : ∃ d : DescriptorRun,
    d.lastChar (1, 1) = some 2 ∧ d.AddsBelow 1 1 2 {} ∧
    ∃ object descs done,
      d.run.server.complete (.addDescriptor object descs 2) none = some done ∧
      d.ReportsBelow object 2 done := by
  have hrun : ∃ d, descriptorMachine.runWith AddsToLast descriptorMachine.init
      (serverSetup ++ [.addCharacteristic {} 1 1 {}, .registered 0 none,
        .addDescriptor {} 1 1 {}, .registered 0 none, .addCharacteristic {} 1 1 {},
        .registered 0 none, .addDescriptor {} 1 1 {}]) = some d ∧
      d.lastChar (1, 1) = some 2 ∧ d.run.server.mLastCharId = 2 ∧
      ∃ object descs, d.run.pending[0]? = some (.addDescriptor object (some descs) 2) :=
    ⟨_, rfl, rfl, rfl, _, _, rfl⟩
  obtain ⟨d, hrun, hlast, hchar, object, descs, hpending⟩ := hrun
  have howned := descriptors_own_characteristic d (Machine.reachWith_of_runWith _ .init hrun)
  obtain ⟨done, hdone⟩ := Option.isSome_iff_exists.mp (howned.2.1 0 object descs 2 hpending)
  exact ⟨d, hlast, (howned.2.2 1 1 2 {} hlast).mpr hchar, object, some descs, done, hdone,
    howned.1 0 object (some descs) 2 done hpending hdone⟩

/-- A characteristic is added to another service in between: the call fails. -/
theorem addDescriptor_elsewhere : ¬ ∀ (d : DescriptorRun) (appId serviceId charId : UInt16),
    descriptorMachine.Reach d → d.lastChar (appId, serviceId) = some charId →
    d.AddsBelow appId serviceId charId {} := by
  intro h
  have hrun : ∃ d, descriptorMachine.run descriptorMachine.init
      (serverSetup ++ [.addService 1 {}, .registered 0 none,
        .addCharacteristic {} 1 1 {}, .registered 0 none,
        .addCharacteristic {} 1 2 {}, .registered 0 none]) = some d ∧
      d.lastChar (1, 1) = some 1 ∧
      (d.run.server.addDescriptor {} 1 1 {}).map Issued.answers =
        some [notAdded .paramInvalid] :=
    ⟨_, rfl, rfl, rfl⟩
  obtain ⟨d, hrun, hlast, hanswers⟩ := hrun
  obtain ⟨o, _, _, ho, hnone, _⟩ := h d 1 1 1 (Machine.reach_of_run _ hrun) hlast
  rw [ho, Option.map_some, hnone] at hanswers
  cases hanswers

end BluezSil.Gatt
