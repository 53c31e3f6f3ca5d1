import BluezSil.DecimalText
import BluezSil.KeyedMap
import BluezSil.LiveObjects
import BluezSil.SilApi
import BluezSil.TransitionRun

/-!
# Ids of the advertisers

An advertiser gets the next value of a counter of eight bits as its id, and the object made
for it is exported at a path of its own and entered under the id. The id is reported as good
whether or not an object was entered. The counter and the bus connection are shared by all
adapters, the map is not. A path that is still exported is not exported again, which is what
keeps the counter from replacing an advertiser when it comes back to its id.
-/

namespace BluezSil.Advertise

open DecimalText LiveObjects TransitionRun

/-- The number stands for the skeleton. -/
structure AdvertiseObject where
  mInterface : ℕ
  mPath : Text
  deriving DecidableEq

structure Bluez5Advertise where
  nextAdvId : UInt8 := 1
  nextInterface : ℕ := 0
  mAdvertiserMap : KeyedMap UInt8 AdvertiseObject := ∅

/-- Whether the skeleton can be exported, and the object that keeps it be allocated. -/
structure Creation where
  exported : Bool
  allocated : Bool
  deriving DecidableEq

def advertisePath (advId : UInt8) : Text := "/advetise/advId/".toList ++ decimal advId.toNat

namespace Bluez5Advertise

variable (a : Bluez5Advertise)

def nextObject : AdvertiseObject := ⟨a.nextInterface, advertisePath a.nextAdvId⟩

section Creation

variable (fromNull : Option Text) (c : Creation)

/-- Without an export a text is made from a null pointer. The library may refuse that by an
exception, which is `none`. -/
def createInterface (advId : UInt8) : Bluez5Advertise × Option Text :=
  let object : AdvertiseObject := ⟨a.nextInterface, advertisePath advId⟩
  let a := { a with nextInterface := a.nextInterface + 1 }
  if c.exported then
    if c.allocated then
      ({ a with mAdvertiserMap := a.mAdvertiserMap.insert advId object }, some object.mPath)
    else (a, some object.mPath)
  else (a, fromNull)

/-- The id that is reported without an error, unless an exception is thrown. -/
def createAdvertisementId : Bluez5Advertise × Option UInt8 :=
  let advId := a.nextAdvId
  let o := createInterface { a with nextAdvId := advId + 1 } fromNull c advId
  (o.1, o.2.map fun _ => advId)

end Creation

def getPath (advId : UInt8) : Text :=
  match a.mAdvertiserMap.lookup advId with
  | none => []
  | some object => object.mPath

def removeAdvertise (advId : UInt8) : Bluez5Advertise :=
  { a with mAdvertiserMap := a.mAdvertiserMap.erase advId }

def unRegisterAdvertisement (advId : UInt8) (accepted : Bool) : Bluez5Advertise × Bool :=
  if a.getPath advId = [] then (a, true) else (a.removeAdvertise advId, accepted)

def unregisterAdvertiser (advertiserId : UInt8) (accepted : Bool) :
    Bluez5Advertise × BluetoothError :=
  let o := a.unRegisterAdvertisement advertiserId accepted
  (o.1, if o.2 then .none else .fail)

end Bluez5Advertise

/-- The registrations elsewhere are those of other adapters. -/
inductive AdvertiserEvent
  | registerAdvertiser (c : Creation)
  | unregisterAdvertiser (advertiserId : UInt8) (accepted : Bool)
  | registeredElsewhere (exported : Bool)
  | unregisteredElsewhere (advertiserId : UInt8)
  deriving DecidableEq

/-- The advertisers of one adapter, with the ids that have been reported and not unregistered
since, each with the object made for it, and the ids whose paths are exported here and by other
adapters. -/
structure AdvertiserRun where
  advertise : Bluez5Advertise := {}
  live : List (UInt8 × AdvertiseObject) := []
  exported : List UInt8 := []
  elsewhere : List UInt8 := []

namespace AdvertiserRun

variable (fromNull : Option Text)

def PathFree (s : AdvertiserRun) : Prop := s.advertise.nextAdvId ∉ s.exported ++ s.elsewhere

instance (s : AdvertiserRun) : Decidable s.PathFree := by
  unfold PathFree
  infer_instance

/-- A skeleton that could not be kept stays exported, and the others go with their objects. -/
def step (s : AdvertiserRun) : AdvertiserEvent → Option AdvertiserRun
  | .registerAdvertiser c =>
    if c.exported = true ∧ ¬ s.PathFree then none
    else
      let o := s.advertise.createAdvertisementId fromNull c
      some
        { s with
          advertise := o.1
          live := o.2.toList.map (fun advId => (advId, s.advertise.nextObject)) ++ s.live
          exported := if c.exported then s.advertise.nextAdvId :: s.exported else s.exported }
  | .unregisterAdvertiser advertiserId accepted =>
    some
      { s with
        advertise := (s.advertise.unregisterAdvertiser advertiserId accepted).1
        live := s.live.filter fun e => e.1 ≠ advertiserId
        exported :=
          if s.advertise.getPath advertiserId = [] then s.exported
          else s.exported.filter (· ≠ advertiserId) }
  | .registeredElsewhere exported =>
    if exported = true ∧ ¬ s.PathFree then none
    else
      some
        { s with
          advertise := { s.advertise with nextAdvId := s.advertise.nextAdvId + 1 }
          elsewhere := if exported then s.advertise.nextAdvId :: s.elsewhere else s.elsewhere }
  | .unregisteredElsewhere advertiserId =>
    some { s with elsewhere := s.elsewhere.filter (· ≠ advertiserId) }

/-- No id is in use twice, and each has the object made for it in the map. -/
def OwnEntries (s : AdvertiserRun) : Prop :=
  Apart id (fun advId object => s.advertise.mAdvertiserMap.lookup advId = some object) s.live

/-- The object of an advertiser that is exported is entered, and an export that fails ends in an
exception. -/
def Enters (_ : AdvertiserRun) : AdvertiserEvent → Prop
  | .registerAdvertiser c => if c.exported then c.allocated = true else fromNull = none
  | _ => True

instance : DecidableRel (Enters fromNull)
  | _, .registerAdvertiser c => inferInstanceAs <| Decidable <|
    if c.exported then c.allocated = true else fromNull = none
  | _, .unregisterAdvertiser _ _ => inferInstanceAs (Decidable True)
  | _, .registeredElsewhere _ => inferInstanceAs (Decidable True)
  | _, .unregisteredElsewhere _ => inferInstanceAs (Decidable True)

def Numbered (s : AdvertiserRun) : Prop :=
  ∀ advId object, s.advertise.mAdvertiserMap.lookup advId = some object →
    object.mInterface < s.advertise.nextInterface ∧ advId ∈ s.exported

variable {s t : AdvertiserRun} {e : AdvertiserEvent} {c : Creation} {fromNull}

/-- The object made is entered, the id is reported without it, or nothing is reported. -/
theorem createAdvertisementId_cases (a : Bluez5Advertise) (fromNull : Option Text) (c : Creation) :
    let o := a.createAdvertisementId fromNull c
    o.1.nextAdvId = a.nextAdvId + 1 ∧ o.1.nextInterface = a.nextInterface + 1 ∧
    (c.exported = true ∧ c.allocated = true ∧ o.2 = some a.nextAdvId ∧
        o.1.mAdvertiserMap = a.mAdvertiserMap.insert a.nextAdvId a.nextObject ∨
      ¬ (c.exported = true ∧ c.allocated = true) ∧
        (c.exported = true ∨ fromNull ≠ none) ∧ o.2 = some a.nextAdvId ∧
        o.1.mAdvertiserMap = a.mAdvertiserMap ∨
      (c.exported = false ∧ fromNull = none) ∧ o.2 = none ∧
        o.1.mAdvertiserMap = a.mAdvertiserMap) := by
  unfold Bluez5Advertise.createAdvertisementId Bluez5Advertise.createInterface
  obtain ⟨exported, allocated⟩ := c
  cases exported with
  | true => cases allocated <;> simp [Bluez5Advertise.nextObject]
  | false => cases fromNull <;> simp

theorem lookup_unregisterAdvertiser {a : Bluez5Advertise} {advertiserId advId : UInt8}
    (accepted : Bool) (hne : advId ≠ advertiserId) :
    (a.unregisterAdvertiser advertiserId accepted).1.mAdvertiserMap.lookup advId =
      a.mAdvertiserMap.lookup advId := by
  unfold Bluez5Advertise.unregisterAdvertiser Bluez5Advertise.unRegisterAdvertisement
  split_ifs
  · rfl
  · exact AList.lookup_erase_ne hne

theorem OwnEntries.unregister (h : s.OwnEntries) {advertiserId : UInt8} {accepted : Bool}
    (hstep : s.step fromNull (.unregisterAdvertiser advertiserId accepted) = some t) :
    t.OwnEntries := by
  cases hstep
  refine Apart.sublist h List.filter_sublist ?_
  intro e he hentry
  have hne : e.1 ≠ advertiserId := by simpa using (List.mem_filter.mp he).2
  exact (lookup_unregisterAdvertiser accepted hne).trans hentry

theorem register_eq (hstep : s.step fromNull (.registerAdvertiser c) = some t) :
    (c.exported = true → s.PathFree) ∧
      let o := s.advertise.createAdvertisementId fromNull c
      t = { s with
        advertise := o.1
        live := o.2.toList.map (fun advId => (advId, s.advertise.nextObject)) ++ s.live
        exported := if c.exported then s.advertise.nextAdvId :: s.exported else s.exported } := by
  obtain ⟨hfree, heq⟩ := Option.ite_none_left_eq_some.mp hstep
  refine ⟨fun hexported => not_not.mp fun hnot => ?_, (Option.some.inj heq).symm⟩
  exact hfree ⟨hexported, hnot⟩

theorem OwnEntries.not_mem (h : s.OwnEntries) (hnumbered : s.Numbered) (hfree : s.PathFree) :
    s.advertise.nextAdvId ∉ idents id s.live := by
  intro hmem
  obtain ⟨⟨advId, object⟩, he, hid⟩ := List.mem_map.mp hmem
  have hexported := (hnumbered advId object (h.stored _ he)).2
  change advId = _ at hid
  rw [hid] at hexported
  exact hfree (List.mem_append_left _ hexported)

theorem register_ownEntries_iff (h : s.OwnEntries) (hnumbered : s.Numbered)
    (hstep : s.step fromNull (.registerAdvertiser c) = some t) :
    t.OwnEntries ↔ s.Enters fromNull (.registerAdvertiser c) := by
  obtain ⟨hfree, rfl⟩ := register_eq hstep
  unfold OwnEntries Enters
  obtain ⟨_, _, hcreated⟩ := createAdvertisementId_cases s.advertise fromNull c
  rcases hcreated with ⟨hexported, hallocated, hid, hmap⟩ | ⟨hnot, hreported, hid, hmap⟩ |
    ⟨⟨hexported, hthrown⟩, hid, hmap⟩
  · have hnew := h.not_mem hnumbered (hfree hexported)
    simp only [hid, hmap, Option.toList_some, List.map_cons, List.map_nil, List.singleton_append]
    rw [apart_cons_iff h, AList.lookup_insert, if_pos hexported]
    · exact iff_of_true ⟨hnew, rfl⟩ hallocated
    · intro _ e he hentry
      have hne : e.1 ≠ s.advertise.nextAdvId := fun heq => hnew (heq ▸ mem_idents he)
      exact (AList.lookup_insert_ne hne).trans hentry
  · simp only [hid, hmap, Option.toList_some, List.map_cons, List.map_nil, List.singleton_append]
    rw [apart_cons_iff h fun _ _ _ hentry => hentry]
    -- an older object may be there, but not the one just made
    have hother : s.advertise.mAdvertiserMap.lookup s.advertise.nextAdvId ≠
        some s.advertise.nextObject :=
      fun hentry => Nat.lt_irrefl _ (hnumbered _ _ hentry).1
    refine iff_of_false (fun hboth => hother hboth.2) ?_
    split_ifs with hexported
    · exact fun hallocated => hnot ⟨hexported, hallocated⟩
    · exact fun hthrown => hreported.elim hexported fun hnull => hnull hthrown
  · simp only [hid, hmap, Option.toList_none, List.map_nil, List.nil_append]
    rw [if_neg (by simp [hexported])]
    exact iff_of_true h hthrown

theorem Numbered.step (h : s.Numbered) (hstep : s.step fromNull e = some t) : t.Numbered := by
  unfold Numbered at h ⊢
  cases e with
  | registerAdvertiser c =>
      obtain ⟨_, rfl⟩ := register_eq hstep
      obtain ⟨_, hnext, hcreated⟩ :=
        createAdvertisementId_cases s.advertise fromNull c
      have hkept : ∀ advId object, s.advertise.mAdvertiserMap.lookup advId = some object →
          object.mInterface < s.advertise.nextInterface + 1 ∧
            advId ∈ if c.exported then s.advertise.nextAdvId :: s.exported else s.exported := by
        intro advId object hobject
        obtain ⟨hmade, hexported⟩ := h advId object hobject
        refine ⟨Nat.lt_succ_of_lt hmade, ?_⟩
        split_ifs
        · exact List.mem_cons_of_mem _ hexported
        · exact hexported
      intro advId object hobject
      dsimp only at hobject ⊢
      rw [hnext]
      rcases hcreated with ⟨hexported, _, _, hmap⟩ | ⟨_, _, _, hmap⟩ | ⟨_, _, hmap⟩
      · rw [hmap] at hobject
        rcases KeyedMap.lookup_insert_cases hobject with ⟨rfl, rfl⟩ | ⟨_, hold⟩
        · rw [if_pos hexported]
          exact ⟨Nat.lt_succ_self _, List.mem_cons_self⟩
        · exact hkept advId object hold
      · exact hkept advId object (hmap ▸ hobject)
      · exact hkept advId object (hmap ▸ hobject)
  | unregisterAdvertiser advertiserId accepted =>
      cases hstep
      unfold Bluez5Advertise.unregisterAdvertiser Bluez5Advertise.unRegisterAdvertisement
      intro advId object hobject
      dsimp only at hobject ⊢
      split_ifs at hobject ⊢
      · exact h advId object hobject
      · obtain ⟨hne, hold⟩ := KeyedMap.lookup_erase_some hobject
        obtain ⟨hmade, hexported⟩ := h advId object hold
        exact ⟨hmade, List.mem_filter.mpr ⟨hexported, by simpa using hne⟩⟩
  | registeredElsewhere exported =>
      obtain ⟨_, heq⟩ := Option.ite_none_left_eq_some.mp hstep
      cases heq
      exact h
  | unregisteredElsewhere advertiserId =>
      cases hstep
      exact h

theorem step_ownEntries_iff (h : s.OwnEntries) (hnumbered : s.Numbered)
    (hstep : s.step fromNull e = some t) :
    (t.OwnEntries ↔ s.Enters fromNull e) ∧ (t.OwnEntries → t.Numbered) := by
  refine ⟨?_, fun _ => hnumbered.step hstep⟩
  cases e with
  | registerAdvertiser c => exact register_ownEntries_iff h hnumbered hstep
  | unregisterAdvertiser advertiserId accepted => exact iff_of_true (h.unregister hstep) trivial
  | registeredElsewhere exported =>
      obtain ⟨_, heq⟩ := Option.ite_none_left_eq_some.mp hstep
      cases heq
      exact iff_of_true h trivial
  | unregisteredElsewhere advertiserId =>
      cases hstep
      exact iff_of_true h trivial

end AdvertiserRun

def advertiserMachine (fromNull : Option Text) : Machine AdvertiserRun AdvertiserEvent :=
  ⟨{}, AdvertiserRun.step fromNull⟩

/-- In a run in which every advertiser that is exported is entered, each id that is reported has
its own entry, and a step from there keeps it so if and only if it meets this. -/
theorem advertiser_ownEntries_iff {fromNull : Option Text} {s : AdvertiserRun}
    (hs : (advertiserMachine fromNull).ReachWith (AdvertiserRun.Enters fromNull) s) :
    s.OwnEntries ∧
      ∀ e t, s.step fromNull e = some t → (t.OwnEntries ↔ s.Enters fromNull e) := by
  refine hs.invariant_iff_of (Q := AdvertiserRun.Numbered) apart_nil ?_ ?_
  · intro advId object hobject
    cases hobject
  · exact fun s e t hown hnumbered hstep =>
      AdvertiserRun.step_ownEntries_iff hown hnumbered hstep

/-- Of three advertisers one cannot be exported, and one is unregistered. -/
theorem advertiser_ownEntries_two : ∃ s,
    (advertiserMachine none).ReachWith (AdvertiserRun.Enters none) s ∧
      s.live = [(3, ⟨2, advertisePath 3⟩)] ∧ s.OwnEntries := by
  have hrun : ∃ s, (advertiserMachine none).runWith (AdvertiserRun.Enters none) {}
      [.registerAdvertiser ⟨true, true⟩, .registerAdvertiser ⟨false, true⟩,
        .registerAdvertiser ⟨true, true⟩, .unregisterAdvertiser 1 true] = some s ∧
      s.live = [(3, ⟨2, advertisePath 3⟩)] := ⟨_, rfl, rfl⟩
  obtain ⟨s, hrun, hlive⟩ := hrun
  have hreach := Machine.reachWith_of_runWith _ .init hrun
  exact ⟨s, hreach, hlive, (advertiser_ownEntries_iff hreach).1⟩

/-- The object of the first advertiser cannot be allocated. -/
theorem advertiser_unentered :
    ¬ ∀ fromNull s, (advertiserMachine fromNull).Reach s → s.OwnEntries := by
  intro h
  have hrun : ∃ s, (advertiserMachine none).run {} [.registerAdvertiser ⟨true, false⟩] = some s ∧
      s.live = [(1, ⟨0, advertisePath 1⟩)] ∧ s.advertise.mAdvertiserMap.lookup 1 = none :=
    ⟨_, rfl, rfl, rfl⟩
  obtain ⟨s, hrun, hlive, hnone⟩ := hrun
  have hown := (h none s (Machine.reach_of_run _ hrun)).stored _ (hlive ▸ List.mem_cons_self)
  rw [hnone] at hown
  cases hown

end BluezSil.Advertise
