import BluezSil.DiscoveryCancel

/-!
# The discovery timer

`mDiscoveryTimeoutSource` is the source of the timer that is to end a scan. It is
cleared where discovery is stopped and, on a change of the adapter's properties,
where the adapter is no longer powered or discovering. The timer's own handler
leaves the clearing to `cancelDiscovery`, which may return before it, and a change
of Powered or Discovering alone does not count as a change. An answer to GetAll changes
the properties in the same way and leaves the timer alone.
-/

namespace BluezSil.Adapter

open TransitionRun

/-- A property in a signal of BlueZ, with its value where the adapter goes by it. -/
inductive AdapterProperty
  | name
  | alias (mAlias : Text)
  | address
  | deviceClass
  | deviceType
  | discoverable
  | discoverableTimeout
  | pairable
  | pairableTimeout
  | powered (powered : Bool)
  | discovering (discovering : Bool)
  | uuids
  | other
  deriving DecidableEq

structure PoweredAdapter where
  adapter : Bluez5Adapter := {}
  mPowered : Bool := false
  mAlias : Text := []

def DiscoveryTimer.isDiscoveryTimeoutRunning (t : DiscoveryTimer) : Bool :=
  t.mDiscoveryTimeoutSource ≠ 0

namespace PoweredAdapter

/-- The second component is whether the property is to be reported. -/
def addPropertyFromVariant (s : PoweredAdapter) : AdapterProperty → PoweredAdapter × Bool
  | .name => (s, s.mAlias.isEmpty)
  | .alias mAlias => ({ s with mAlias := mAlias }, true)
  | .powered powered => ({ s with mPowered := powered }, false)
  | .discovering discovering =>
    ({ s with adapter := (s.adapter.discoveringChanged discovering).1 }, false)
  | .other => (s, false)
  | _ => (s, true)

def addProperties (s : PoweredAdapter) : List AdapterProperty → PoweredAdapter × Bool
  | [] => (s, false)
  | property :: properties =>
    let (s, reported) := s.addPropertyFromVariant property
    let (s, changed) := addProperties s properties
    (s, reported || changed)

def handleAdapterPropertiesChanged (s : PoweredAdapter) (properties : List AdapterProperty) :
    PoweredAdapter :=
  let (s, changed) := s.addProperties properties
  if changed ∧ (¬ s.mPowered ∨ ¬ s.adapter.mDiscovering) ∧
      s.adapter.timer.isDiscoveryTimeoutRunning then
    { s with adapter := s.adapter.resetDiscoveryTimeout }
  else s

def getAdapterProperties (s : PoweredAdapter) (answer : List AdapterProperty) : PoweredAdapter :=
  (s.addProperties answer).1

end PoweredAdapter

/-- `aliasGot` is the answer to a Get of the alias. An answer that is an error does nothing. -/
inductive AdapterEvent
  | operation (e : DiscoveryEvent)
  | propertiesChanged (properties : List AdapterProperty)
  | propertiesGot (answer : List AdapterProperty)
  | aliasGot (mAlias : Text)

def PoweredAdapter.step (api : FilterApi) (s : PoweredAdapter) :
    AdapterEvent → Option PoweredAdapter
  | .operation (.discoveringChanged _) => none
  | .operation e => (s.adapter.step api e).map fun adapter => { s with adapter := adapter }
  | .propertiesChanged properties => some (s.handleAdapterPropertiesChanged properties)
  | .propertiesGot answer => some (s.getAdapterProperties answer)
  | .aliasGot mAlias => some { s with mAlias := mAlias }

def timerMachine (api : FilterApi) : Machine PoweredAdapter AdapterEvent :=
  ⟨{}, PoweredAdapter.step api⟩

def DiscoveryTimer.Tracked (t : DiscoveryTimer) : Prop :=
  t.mDiscoveryTimeoutSource ≠ 0 ↔ t.mDiscoveryTimeoutSource ∈ t.sources

def PoweredAdapter.Ended (s : PoweredAdapter) : Prop :=
  s.mPowered = false ∨ s.adapter.mDiscovering = false

/-- After a signal that leaves the adapter off or not discovering no timer is live, and neither
is one after an answer that changes Powered or Discovering and leaves it so. -/
def PoweredAdapter.Quiet (s t : PoweredAdapter) : AdapterEvent → Prop
  | .propertiesChanged _ => t.Ended → t.adapter.timer.sources = []
  | .propertiesGot _ =>
    t.mPowered ≠ s.mPowered ∨ t.adapter.mDiscovering ≠ s.adapter.mDiscovering →
      t.Ended → t.adapter.timer.sources = []
  | _ => True

def AdapterProperty.Reported (mAlias : Text) : AdapterProperty → Prop
  | .name => mAlias = []
  | .powered _ | .discovering _ | .other => False
  | _ => True

def AdapterProperty.poweredAfter (mPowered : Bool) : AdapterProperty → Bool
  | .powered isPowered => isPowered
  | _ => mPowered

def AdapterProperty.discoveringAfter (mDiscovering : Bool) : AdapterProperty → Bool
  | .discovering isDiscovering => isDiscovering
  | _ => mDiscovering

def PoweredAdapter.statesAfter (s : PoweredAdapter) (properties : List AdapterProperty) :
    Bool × Bool :=
  (properties.foldl AdapterProperty.poweredAfter s.mPowered,
    properties.foldl AdapterProperty.discoveringAfter s.adapter.mDiscovering)

/-- The steps that clear the source. The timer expires during a scan of its own, a signal that
leaves the adapter off or not discovering reports something besides, and an answer that changes
it to that comes while no timer is remembered. -/
def ClearsSource (s : PoweredAdapter) : AdapterEvent → Prop
  | .operation (.discoveryTimeout _ _) => s.adapter.Unused
  | .propertiesChanged properties =>
    (s.statesAfter properties).1 = false ∨ (s.statesAfter properties).2 = false →
    s.adapter.timer.mDiscoveryTimeoutSource ≠ 0 →
      ∃ property ∈ properties, property.Reported s.mAlias
  | .propertiesGot answer =>
    s.statesAfter answer ≠ (s.mPowered, s.adapter.mDiscovering) →
    (s.statesAfter answer).1 = false ∨ (s.statesAfter answer).2 = false →
      s.adapter.timer.mDiscoveryTimeoutSource = 0
  | _ => True

namespace DiscoveryTimer

/-- The source that is remembered is the live one, and new sources are new. -/
structure OneSource (t : DiscoveryTimer) : Prop where
  sources : t.sources =
    if t.mDiscoveryTimeoutSource = 0 then [] else [t.mDiscoveryTimeoutSource]
  next : 0 < t.nextSource

variable {t u : DiscoveryTimer}

theorem oneSource_init : OneSource {} := ⟨rfl, Nat.zero_lt_one⟩

theorem OneSource.sources_nil_iff (h : t.OneSource) :
    t.sources = [] ↔ t.mDiscoveryTimeoutSource = 0 := by
  rw [h.sources]
  split_ifs with hzero
  · simp [hzero]
  · simp [hzero]

theorem OneSource.tracked (h : t.OneSource) : t.Tracked := by
  unfold Tracked
  rw [h.sources]
  split_ifs with hzero
  · simp [hzero]
  · simp [hzero]

theorem OneSource.reset (h : t.OneSource) : t.reset.OneSource := by
  unfold DiscoveryTimer.reset
  split_ifs with hsource
  · refine ⟨?_, h.next⟩
    rw [h.sources, if_neg hsource]
    simp
  · exact h

theorem OneSource.reset_sources (h : t.OneSource) : t.reset.sources = [] := by
  unfold DiscoveryTimer.reset
  split_ifs with hsource
  · rw [h.sources, if_neg hsource]
    simp
  · rw [h.sources, if_pos (not_not.mp hsource)]

theorem reset_nextSource (t : DiscoveryTimer) : t.reset.nextSource = t.nextSource := by
  unfold reset
  split_ifs
  · rfl
  · rfl

theorem OneSource.start (h : t.OneSource) : t.start.OneSource := by
  have hnext : t.reset.nextSource ≠ 0 := by
    rw [reset_nextSource]
    exact Nat.ne_of_gt h.next
  unfold DiscoveryTimer.start
  dsimp only
  split_ifs
  · refine ⟨?_, Nat.succ_pos _⟩
    dsimp only
    rw [h.reset_sources, if_neg hnext]
  · exact h.reset

theorem OneSource.moved (h : t.OneSource) (hmoved : t.Moved u) : u.OneSource := by
  induction hmoved with
  | refl => exact h
  | reset _ ih => exact ih.reset
  | start _ ih => exact ih.start

end DiscoveryTimer

namespace PoweredAdapter

variable {api : FilterApi} {s t : PoweredAdapter}

theorem discoveringChanged_mDiscovering (s : Bluez5Adapter) (discovering : Bool) :
    (s.discoveringChanged discovering).1.mDiscovering = discovering ∧
    (s.discoveringChanged discovering).1.timer = s.timer := by
  unfold Bluez5Adapter.discoveringChanged
  dsimp only
  split_ifs with hchange
  · exact ⟨rfl, rfl⟩
  · exact ⟨(not_not.mp hchange).symm, rfl⟩

theorem addProperties_spec (s : PoweredAdapter) (properties : List AdapterProperty) :
    (s.addProperties properties).1.mPowered =
      properties.foldl AdapterProperty.poweredAfter s.mPowered ∧
    (s.addProperties properties).1.adapter.mDiscovering =
      properties.foldl AdapterProperty.discoveringAfter s.adapter.mDiscovering ∧
    (s.addProperties properties).1.adapter.timer = s.adapter.timer ∧
    ((s.addProperties properties).2 = true ↔
      ∃ property ∈ properties, property.Reported s.mAlias) := by
  induction properties generalizing s with
  | nil => simp [addProperties]
  | cons property properties ih =>
      obtain ⟨hpowered, hdisc, htimer, hchanged⟩ := ih (s.addPropertyFromVariant property).1
      rw [addProperties]
      dsimp only
      rw [hpowered, hdisc, htimer, Bool.or_eq_true, hchanged]
      cases property with
      | discovering isDiscovering =>
          obtain ⟨hafter, hkept⟩ := discoveringChanged_mDiscovering s.adapter isDiscovering
          simp [addPropertyFromVariant, AdapterProperty.poweredAfter, hafter, hkept,
            AdapterProperty.discoveringAfter, AdapterProperty.Reported]
      | _ =>
          simp [addPropertyFromVariant, AdapterProperty.poweredAfter,
            AdapterProperty.discoveringAfter, AdapterProperty.Reported]

theorem handleAdapterPropertiesChanged_timer (s : PoweredAdapter)
    (properties : List AdapterProperty) :
    s.adapter.timer.Moved (s.handleAdapterPropertiesChanged properties).adapter.timer := by
  obtain ⟨_, _, htimer, _⟩ := addProperties_spec s properties
  unfold handleAdapterPropertiesChanged
  dsimp only
  split_ifs
  · rw [← htimer]
    exact .reset .refl
  · rw [htimer]
    exact .refl

/-- After a signal that ends a scan the timer is gone if and only if it was not running or
something was reported. -/
theorem quiet_propertiesChanged_iff (s : PoweredAdapter) (properties : List AdapterProperty)
    (h : s.adapter.timer.OneSource) :
    s.Quiet (s.handleAdapterPropertiesChanged properties) (.propertiesChanged properties) ↔
      ClearsSource s (.propertiesChanged properties) := by
  obtain ⟨hpowered, hdisc, htimer, hchanged⟩ := addProperties_spec s properties
  unfold ClearsSource Quiet handleAdapterPropertiesChanged Ended statesAfter
  dsimp only
  rw [← hpowered, ← hdisc, ← hchanged, ← htimer]
  rw [← htimer] at h
  generalize s.addProperties properties = after at h ⊢
  obtain ⟨u, changed⟩ := after
  dsimp only at h
  have hlive := h.sources_nil_iff
  cases changed with
  | false =>
      rw [if_neg fun hreset => Bool.false_ne_true hreset.1]
      simp [hlive]
  | true =>
      refine iff_of_true ?_ fun _ _ => rfl
      by_cases hzero : u.adapter.timer.mDiscoveryTimeoutSource = 0
      · rw [if_neg fun hreset => by
          simp [DiscoveryTimer.isDiscoveryTimeoutRunning, hzero] at hreset]
        exact fun _ => hlive.mpr hzero
      · split_ifs with hreset
        · exact fun _ => h.reset_sources
        · intro hended
          refine absurd ⟨rfl, ?_, by simp [DiscoveryTimer.isDiscoveryTimeoutRunning, hzero]⟩ hreset
          exact hended.imp (fun hoff hon => Bool.false_ne_true (hoff.symm.trans hon))
            fun hoff hon => Bool.false_ne_true (hoff.symm.trans hon)

theorem quiet_propertiesGot_iff (s : PoweredAdapter) (answer : List AdapterProperty)
    (h : s.adapter.timer.OneSource) :
    s.Quiet (s.getAdapterProperties answer) (.propertiesGot answer) ↔
      ClearsSource s (.propertiesGot answer) := by
  obtain ⟨hpowered, hdisc, htimer, _⟩ := addProperties_spec s answer
  have hchanged : s.statesAfter answer ≠ (s.mPowered, s.adapter.mDiscovering) ↔
      (s.getAdapterProperties answer).mPowered ≠ s.mPowered ∨
        (s.getAdapterProperties answer).adapter.mDiscovering ≠ s.adapter.mDiscovering := by
    rw [getAdapterProperties, hpowered, hdisc, Ne, Prod.ext_iff, not_and_or]
    exact Iff.rfl
  unfold Quiet ClearsSource Ended
  dsimp only
  rw [hchanged]
  simp only [getAdapterProperties, hpowered, hdisc, htimer, h.sources_nil_iff, statesAfter]

theorem tracked_discoveryTimeout_iff {source : ℕ} (s : Bluez5Adapter) (calls : Calls)
    (h : s.timer.OneSource) (hlive : source ∈ s.timer.sources) :
    ((s.handleDiscoveryTimeout source calls).timer.Tracked ↔ s.Unused) ∧
    (s.Unused → (s.handleDiscoveryTimeout source calls).timer.OneSource) := by
  obtain ⟨_, htimer, _⟩ := s.cancelDiscovery_cases .timeout calls
  have hexpired : (s.handleDiscoveryTimeout source calls).timer =
      { (if s.Unused then s.timer.reset else s.timer) with
        sources := (if s.Unused then s.timer.reset else s.timer).sources.erase source } := by
    calc (s.handleDiscoveryTimeout source calls).timer
        = { (s.cancelDiscovery .timeout calls).1.timer with
            sources := (s.cancelDiscovery .timeout calls).1.timer.sources.erase source } := rfl
      _ = _ := by rw [htimer]
  rw [hexpired]
  by_cases hunused : s.Unused
  · have hone : DiscoveryTimer.OneSource
        { s.timer.reset with sources := s.timer.reset.sources.erase source } := by
      have hsources := h.reset.sources
      rw [h.reset_sources] at hsources
      refine ⟨?_, h.reset.next⟩
      dsimp only
      rw [h.reset_sources, List.erase_nil]
      exact hsources
    rw [if_pos hunused]
    exact ⟨iff_of_true hone.tracked hunused, fun _ => hone⟩
  · rw [if_neg hunused]
    refine ⟨iff_of_false ?_ hunused, fun h => absurd h hunused⟩
    rw [h.sources] at hlive
    split_ifs at hlive with hzero
    · exact absurd hlive List.not_mem_nil
    · rw [List.mem_singleton] at hlive
      subst hlive
      intro htracked
      have hmem := htracked.mp hzero
      simp [h.sources, hzero] at hmem

def Kept (s t : PoweredAdapter) (e : AdapterEvent) : Prop :=
  t.adapter.timer.Tracked ∧ s.Quiet t e

theorem step_moved {adapter : Bluez5Adapter} {e : DiscoveryEvent}
    (h : s.adapter.timer.OneSource) (hquiet : Bluez5Adapter.Quiet s.adapter adapter)
    (hclears : ClearsSource s (.operation e))
    (ht : some { s with adapter := adapter } = some t) :
    (s.Kept t (.operation e) ↔ ClearsSource s (.operation e)) ∧
      (ClearsSource s (.operation e) → t.adapter.timer.OneSource) := by
  have hone := h.moved hquiet.timer
  cases ht
  exact ⟨iff_of_true ⟨hone.tracked, trivial⟩ hclears, fun _ => hone⟩

theorem step_kept_iff {e : AdapterEvent} (h : s.adapter.timer.OneSource)
    (hstep : s.step api e = some t) :
    (s.Kept t e ↔ ClearsSource s e) ∧ (ClearsSource s e → t.adapter.timer.OneSource) := by
  cases e with
  | propertiesChanged properties =>
      cases hstep
      have hone := h.moved (handleAdapterPropertiesChanged_timer s properties)
      rw [← quiet_propertiesChanged_iff s properties h]
      exact ⟨⟨fun hkept => hkept.2, fun hquiet => ⟨hone.tracked, hquiet⟩⟩, fun _ => hone⟩
  | propertiesGot answer =>
      cases hstep
      have hone : (s.getAdapterProperties answer).adapter.timer.OneSource := by
        rw [getAdapterProperties, (addProperties_spec s answer).2.2.1]
        exact h
      rw [← quiet_propertiesGot_iff s answer h]
      exact ⟨⟨fun hkept => hkept.2, fun hquiet => ⟨hone.tracked, hquiet⟩⟩, fun _ => hone⟩
  | aliasGot mAlias =>
      cases hstep
      exact ⟨iff_of_true ⟨h.tracked, trivial⟩ trivial, fun _ => h⟩
  | operation e =>
      cases e with
      | addLeDiscoveryFilter filter calls =>
          exact step_moved h (Bluez5Adapter.quiet_addLeDiscoveryFilter _ api filter calls) trivial
            hstep
      | removeLeDiscoveryFilter scanId =>
          exact step_moved h (Bluez5Adapter.quiet_removeLeDiscoveryFilter _ scanId) trivial hstep
      | startDiscovery calls =>
          exact step_moved h (Bluez5Adapter.quiet_startDiscovery _ calls) trivial hstep
      | startLeDiscovery calls =>
          exact step_moved h (Bluez5Adapter.quiet_startLeDiscovery _ calls) trivial hstep
      | cancelLeDiscovery calls =>
          exact step_moved h (Bluez5Adapter.quiet_cancelLeDiscovery _ calls) trivial hstep
      | cancelDiscovery id calls =>
          obtain ⟨_, htimer, _⟩ := s.adapter.cancelDiscovery_cases (.caller id) calls
          have hone : (s.adapter.cancelDiscovery (.caller id) calls).1.timer.OneSource := by
            rw [htimer]
            split_ifs
            · exact h.reset
            · exact h
          cases hstep
          exact ⟨iff_of_true ⟨hone.tracked, trivial⟩ trivial, fun _ => hone⟩
      | discoveringChanged discovering => cases hstep
      | discoveryTimeout source calls =>
          obtain ⟨adapter, hadapter, rfl⟩ := Option.map_eq_some_iff.mp hstep
          obtain ⟨hlive, heq⟩ := Option.ite_none_right_eq_some.mp hadapter
          cases heq
          obtain ⟨htracked, hone⟩ := tracked_discoveryTimeout_iff s.adapter calls h hlive
          exact ⟨⟨fun hkept => htracked.mp hkept.1, fun hunused => ⟨htracked.mpr hunused, trivial⟩⟩,
            hone⟩
      | setDiscoveryTimeout seconds =>
          cases hstep
          have hone : DiscoveryTimer.OneSource
              { s.adapter.timer with mDiscoveryTimeout := seconds } := ⟨h.sources, h.next⟩
          exact ⟨iff_of_true ⟨hone.tracked, trivial⟩ trivial, fun _ => hone⟩

end PoweredAdapter

/-- In a run whose steps clear the source, it is zero unless its timer is live; and a step
from there keeps this, and leaves no timer after a change that ends the scan, if and only if it
clears the source. -/
theorem discoveryTimer_tracked_iff {api : FilterApi} {s : PoweredAdapter}
    (hs : (timerMachine api).ReachWith ClearsSource s) :
    s.adapter.timer.Tracked ∧
    ∀ e t, s.step api e = some t →
      (t.adapter.timer.Tracked ∧ s.Quiet t e ↔ ClearsSource s e) := by
  have h : s.adapter.timer.OneSource := by
    refine hs.invariant (P := fun s => s.adapter.timer.OneSource) DiscoveryTimer.oneSource_init ?_
    intro s e t h he hstep
    exact (PoweredAdapter.step_kept_iff h hstep).2 he
  exact ⟨h.tracked, fun e t hstep => (PoweredAdapter.step_kept_iff h hstep).1⟩

/-- A scan that an answer tells of, and whose end is reported with the UUIDs of the adapter. -/
theorem discoveryTimer_tracked_ended :
    ∃ s : PoweredAdapter, s.adapter.timer.nextSource = 2 ∧ s.adapter.timer.sources = [] ∧
      s.adapter.timer.Tracked :=
  ⟨_, rfl, rfl, (@discoveryTimer_tracked_iff formApi _
    (.step (e := .propertiesChanged [.discovering false, .uuids])
      (.step (e := .propertiesGot [.powered true, .discovering true])
        (.step (e := .operation (.startDiscovery {}))
          (.step (e := .operation (.setDiscoveryTimeout 10))
            (.step (e := .propertiesChanged [.powered true]) .init
              (fun _ h => absurd rfl h) rfl) trivial rfl) trivial rfl)
        (fun _ h => absurd h (by decide)) rfl)
      (fun _ _ => ⟨.uuids, by decide, trivial⟩) rfl)).1⟩

/-- An LE filter is stored when the timer expires. -/
theorem discoveryTimer_untracked :
    ¬ ∀ s, (timerMachine formApi).Reach s → s.adapter.timer.Tracked ∧
      ∀ e t, s.step formApi e = some t → s.Quiet t e := by
  intro h
  have hrun : ∃ t, (timerMachine formApi).run (timerMachine formApi).init
      [.operation (.setDiscoveryTimeout 10), .operation (.addLeDiscoveryFilter {} {}),
        .operation (.startLeDiscovery {}), .propertiesChanged [.discovering true],
        .operation (.discoveryTimeout 1 {})] = some t ∧
      t.adapter.timer.mDiscoveryTimeoutSource = 1 ∧ t.adapter.timer.sources = [] :=
    ⟨_, rfl, rfl, rfl⟩
  obtain ⟨t, hrun, hsource, hdead⟩ := hrun
  have htracked := (h t (Machine.reach_of_run _ hrun)).1
  rw [DiscoveryTimer.Tracked, hsource, hdead] at htracked
  exact absurd (htracked.mp Nat.one_ne_zero) List.not_mem_nil

end BluezSil.Adapter
