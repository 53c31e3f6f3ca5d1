import BluezSil.AdapterDiscoveryRuns

/-!
# Answers to `cancelDiscovery`

A cancel that has stopped discovery leaves its callback in `mCancelDiscCallback`, to
be told when BlueZ reports the change of Discovering. The slot holds one callback,
which the next cancel replaces, also that of the discovery time-out, and nothing
takes a callback out of the slot once it has been told.
-/

namespace BluezSil.Adapter

open TransitionRun

/-- The timer has been reset and started a number of times. -/
inductive DiscoveryTimer.Moved (t : DiscoveryTimer) : DiscoveryTimer → Prop
  | refl : Moved t t
  | reset {u : DiscoveryTimer} : Moved t u → Moved t u.reset
  | start {u : DiscoveryTimer} : Moved t u → Moved t u.start

theorem DiscoveryTimer.Moved.trans {t u v : DiscoveryTimer} (h : t.Moved u) (h' : u.Moved v) :
    t.Moved v := by
  induction h' with
  | refl => exact h
  | reset _ ih => exact ih.reset
  | start _ ih => exact ih.start

namespace Bluez5Adapter

/-- `t` has the slot and the state of discovery of `s`, and its timer but for resets and
starts. -/
structure Quiet (s t : Bluez5Adapter) : Prop where
  slot : t.mCancelDiscCallback = s.mCancelDiscCallback
  discovering : t.mDiscovering = s.mDiscovering
  timer : s.timer.Moved t.timer

variable {s t u : Bluez5Adapter}

theorem Quiet.refl (s : Bluez5Adapter) : Quiet s s := ⟨rfl, rfl, .refl⟩

theorem Quiet.trans (h : Quiet s t) (h' : Quiet t u) : Quiet s u :=
  ⟨h'.slot.trans h.slot, h'.discovering.trans h.discovering, h.timer.trans h'.timer⟩

theorem quiet_stopLeDiscovery (s : Bluez5Adapter) (stop : Bool) :
    Quiet s (s.stopLeDiscovery stop).1 := by
  unfold stopLeDiscovery
  cases stop with
  | true => exact ⟨rfl, rfl, .reset .refl⟩
  | false => exact ⟨rfl, rfl, .reset .refl⟩

theorem quiet_resumeLeDiscovery (s : Bluez5Adapter) (resume : Bool) :
    Quiet s (s.resumeLeDiscovery resume).1 := by
  unfold resumeLeDiscovery
  cases resume with
  | true => exact ⟨rfl, rfl, .start .refl⟩
  | false => exact .refl s

theorem quiet_setBluezFilter (s : Bluez5Adapter) (filter : BluetoothLeDiscoveryFilter)
    (set : Bool) : Quiet s (s.setBluezFilter filter set).1 := by
  unfold setBluezFilter
  cases set with
  | true => exact ⟨rfl, rfl, .refl⟩
  | false => exact .refl s

theorem quiet_clearPreviousFilter (s : Bluez5Adapter) (clear : Bool) :
    Quiet s (s.clearPreviousFilter clear).1 := by
  unfold clearPreviousFilter
  cases clear with
  | true => exact ⟨rfl, rfl, .refl⟩
  | false => exact .refl s

theorem quiet_prepareFilterForDiscovery (s : Bluez5Adapter) (calls : Calls) :
    Quiet s (s.prepareFilterForDiscovery calls).1 := by
  have hstop := quiet_stopLeDiscovery s calls.stop
  have hclear := hstop.trans (quiet_clearPreviousFilter _ calls.clear)
  have hresume := hclear.trans (quiet_resumeLeDiscovery _ calls.resume)
  unfold prepareFilterForDiscovery
  dsimp only
  split_ifs
  · exact hclear
  · exact hresume
  · exact hresume
  · exact hclear
  · exact hstop

theorem quiet_addPrepared (s : Bluez5Adapter) (err : BluetoothError)
    (filter : BluetoothLeDiscoveryFilter) (type : UInt8) (calls : Calls) :
    Quiet s (s.addPrepared err filter type calls).1 := by
  have hset := quiet_setBluezFilter s filter calls.set
  have hresume := hset.trans (quiet_resumeLeDiscovery _ calls.resume)
  unfold addPrepared
  dsimp only
  split_ifs
  · exact ⟨hresume.slot, hresume.discovering, hresume.timer⟩
  · exact hresume
  · exact ⟨hset.slot, hset.discovering, hset.timer⟩
  · exact hset
  · exact ⟨rfl, rfl, .refl⟩
  · exact .refl s

theorem quiet_addLeDiscoveryFilter (s : Bluez5Adapter) (api : FilterApi)
    (filter : BluetoothLeDiscoveryFilter) (calls : Calls) :
    Quiet s (s.addLeDiscoveryFilter api filter calls).1 := by
  unfold addLeDiscoveryFilter
  cases api.isFilterValid filter with
  | none => exact .refl s
  | some result =>
      obtain ⟨accepted, type⟩ := result
      have hdecided : Quiet s { s with mUseBluezFilter := s.bluezFilterUsageCriteria type } :=
        ⟨rfl, rfl, .refl⟩
      dsimp only
      split_ifs
      · exact ⟨rfl, rfl, .refl⟩
      · exact (hdecided.trans (quiet_prepareFilterForDiscovery _ calls)).trans
          (quiet_addPrepared _ _ _ _ _)
      · exact hdecided.trans (quiet_addPrepared _ _ _ _ _)

theorem quiet_removeLeDiscoveryFilter (s : Bluez5Adapter) (scanId : UInt32) :
    Quiet s (s.removeLeDiscoveryFilter scanId).1 := by
  unfold removeLeDiscoveryFilter
  split_ifs
  · exact ⟨rfl, rfl, .refl⟩
  · exact .refl s

theorem quiet_callStartDiscovery (s : Bluez5Adapter) (start : Bool) :
    Quiet s (s.callStartDiscovery start).1 := by
  unfold callStartDiscovery
  cases start with
  | true => exact ⟨rfl, rfl, .start .refl⟩
  | false => exact .refl s

theorem quiet_startDiscovery (s : Bluez5Adapter) (calls : Calls) :
    Quiet s (s.startDiscovery calls).1 := by
  have hdecided : Quiet s { s with mUseBluezFilter := false, mLegacyScan := true } :=
    ⟨rfl, rfl, .refl⟩
  have hprepare := hdecided.trans (quiet_prepareFilterForDiscovery _ calls)
  have hlegacy : Quiet s { s with mLegacyScan := true } := ⟨rfl, rfl, .refl⟩
  unfold startDiscovery
  dsimp only
  by_cases huse : s.mUseBluezFilter = true
  · rw [if_pos huse]
    split_ifs
    · exact hprepare
    · exact hprepare
    · exact hprepare.trans (quiet_callStartDiscovery _ _)
  · rw [if_neg huse]
    rw [if_neg (fun h => nomatch h)]
    split_ifs
    · exact hlegacy
    · exact hlegacy.trans (quiet_callStartDiscovery _ _)

theorem quiet_startLeDiscovery (s : Bluez5Adapter) (calls : Calls) :
    Quiet s (s.startLeDiscovery calls).1 := by
  unfold startLeDiscovery
  split_ifs
  · exact .refl s
  · exact quiet_callStartDiscovery s calls.start

theorem callStopDiscovery_frame (s : Bluez5Adapter) (calls : Calls) :
    (s.callStopDiscovery calls).1.mCancelDiscCallback = s.mCancelDiscCallback ∧
    (s.callStopDiscovery calls).1.mDiscovering = s.mDiscovering ∧
    (s.callStopDiscovery calls).1.timer = s.timer.reset := by
  obtain ⟨stop, clear, set, resume, start⟩ := calls
  obtain ⟨_, _, use, _, _, _, _, _, _, _⟩ := s
  cases stop with
  | false => exact ⟨rfl, rfl, rfl⟩
  | true =>
      cases use with
      | false => exact ⟨rfl, rfl, rfl⟩
      | true =>
          cases clear with
          | false => exact ⟨rfl, rfl, rfl⟩
          | true => exact ⟨rfl, rfl, rfl⟩

theorem quiet_callStopDiscovery (s : Bluez5Adapter) (calls : Calls) :
    Quiet s (s.callStopDiscovery calls).1 := by
  obtain ⟨hslot, hdisc, htimer⟩ := callStopDiscovery_frame s calls
  exact ⟨hslot, hdisc, htimer ▸ .reset .refl⟩

theorem quiet_cancelLeDiscovery (s : Bluez5Adapter) (calls : Calls) :
    Quiet s (s.cancelLeDiscovery calls).1 := by
  unfold cancelLeDiscovery
  split_ifs
  · exact quiet_callStopDiscovery s calls
  · exact .refl s
  · exact .refl s

/-- StopDiscovery succeeds, and the SetDiscoveryFilter after it where one is set. -/
def Stops (s : Bluez5Adapter) (calls : Calls) : Prop :=
  calls.stop = true ∧ (s.mUseBluezFilter = true → calls.clear = true)

instance (calls : Calls) : Decidable (s.Stops calls) := by
  unfold Stops
  infer_instance

theorem callStopDiscovery_none_iff (s : Bluez5Adapter) (calls : Calls) :
    (s.callStopDiscovery calls).2 = .none ↔ s.Stops calls := by
  cases hstop : calls.stop with
  | false => simp [callStopDiscovery, Stops, hstop]
  | true =>
      cases huse : s.mUseBluezFilter with
      | false => simp [callStopDiscovery, resetDiscoveryTimeout, Stops, hstop, huse]
      | true =>
          cases hclear : calls.clear with
          | false =>
              simp [callStopDiscovery, clearPreviousFilter, resetDiscoveryTimeout, Stops, hstop,
                huse, hclear]
          | true =>
              simp [callStopDiscovery, clearPreviousFilter, resetDiscoveryTimeout, Stops, hstop,
                huse, hclear]

instance : Decidable s.Unused := by
  unfold Unused
  infer_instance

/-- A cancel either answers at once and leaves the slot, or leaves its callback there. -/
theorem cancelDiscovery_cases (s : Bluez5Adapter) (callback : CancelCallback) (calls : Calls) :
    (s.cancelDiscovery callback calls).1.mDiscovering = s.mDiscovering ∧
    (s.cancelDiscovery callback calls).1.timer =
      (if s.Unused then s.timer.reset else s.timer) ∧
    (¬ (s.Unused ∧ s.Stops calls) ∧
      (∃ err, (s.cancelDiscovery callback calls).2 = some err) ∧
      (s.cancelDiscovery callback calls).1.mCancelDiscCallback = s.mCancelDiscCallback ∨
     (s.Unused ∧ s.Stops calls) ∧ (s.cancelDiscovery callback calls).2 = none ∧
      (s.cancelDiscovery callback calls).1.mCancelDiscCallback = some callback) := by
  unfold cancelDiscovery
  by_cases hdisc : s.mDiscovering = true
  · rw [if_neg (not_not.mpr hdisc)]
    dsimp only
    by_cases hfilters : s.mLeScanFilters.keys.length = 0
    · have hunused : s.Unused := ⟨hdisc, hfilters⟩
      obtain ⟨hslot, hsame, htimer⟩ := callStopDiscovery_frame { s with mLegacyScan := false } calls
      have hnone := callStopDiscovery_none_iff { s with mLegacyScan := false } calls
      rw [if_pos hfilters, if_pos hunused]
      by_cases hstops : s.Stops calls
      · rw [if_pos (hnone.mpr hstops)]
        exact ⟨hsame, htimer, .inr ⟨⟨hunused, hstops⟩, rfl, rfl⟩⟩
      · rw [if_neg (mt hnone.mp hstops)]
        exact ⟨hsame, htimer, .inl ⟨fun h => hstops h.2, ⟨_, rfl⟩, hslot⟩⟩
    · have hused : ¬ s.Unused := fun h => hfilters h.2
      rw [if_neg hfilters, if_neg hused]
      exact ⟨rfl, rfl, .inl ⟨fun h => hused h.1, ⟨_, rfl⟩, rfl⟩⟩
  · have hused : ¬ s.Unused := fun h => hdisc h.1
    rw [if_pos hdisc, if_neg hused]
    exact ⟨rfl, rfl, .inl ⟨fun h => hused h.1, ⟨_, rfl⟩, rfl⟩⟩

end Bluez5Adapter

/-- The adapter with its calls of `cancelDiscovery`: those made, the answers they were given,
latest first, those that stopped discovery and since which BlueZ has not reported this, and
those since which it has. -/
structure CancelRun where
  adapter : Bluez5Adapter := {}
  issued : List ℕ := []
  answers : List ℕ := []
  stopped : List ℕ := []
  due : List ℕ := []

def CancelCallback.told : Option CancelCallback → List ℕ → List ℕ
  | some (.caller id), answers => id :: answers
  | _, answers => answers

namespace CancelRun

/-- A call with a callback of its own. -/
def cancelDiscovery (s : CancelRun) (id : ℕ) (calls : Calls) : CancelRun :=
  { s with
    adapter := (s.adapter.cancelDiscovery (.caller id) calls).1
    issued := id :: s.issued
    answers :=
      if (s.adapter.cancelDiscovery (.caller id) calls).2.isSome then id :: s.answers
      else s.answers
    stopped := if s.adapter.Unused ∧ calls.stop then id :: s.stopped else s.stopped }

def discoveringChanged (s : CancelRun) (discovering : Bool) : CancelRun :=
  let ended := discovering = false ∧ s.adapter.mDiscovering = true
  { s with
    adapter := (s.adapter.discoveringChanged discovering).1
    answers := CancelCallback.told (s.adapter.discoveringChanged discovering).2 s.answers
    stopped := if ended then [] else s.stopped
    due := if ended then s.stopped ++ s.due else s.due }

def step (api : FilterApi) (s : CancelRun) : DiscoveryEvent → Option CancelRun
  | .cancelDiscovery id calls =>
    if id ∉ s.issued then some (s.cancelDiscovery id calls) else none
  | .discoveringChanged discovering => some (s.discoveringChanged discovering)
  | e => (s.adapter.step api e).map fun adapter => { s with adapter := adapter }

/-- No call has been answered twice, each whose discovery has ended is answered, and each that
waits for this has its callback in the slot. -/
structure AnsweredOnce (s : CancelRun) : Prop where
  once : s.answers.Nodup
  due : ∀ id ∈ s.due, id ∈ s.answers
  awaited : ∀ id ∈ s.stopped,
    id ∈ s.answers ∨ s.adapter.mCancelDiscCallback = some (.caller id)

/-- The steps the slot is enough for. A callback is put in where none waits there, and
Discovering changes while no callback is there that has been told. -/
def FitsSlot (s : CancelRun) : DiscoveryEvent → Prop
  | .cancelDiscovery _ calls | .discoveryTimeout _ calls =>
    s.adapter.Unused → s.adapter.Stops calls →
      ∀ id, s.adapter.mCancelDiscCallback = some (.caller id) → id ∈ s.answers
  | .discoveringChanged discovering => discovering ≠ s.adapter.mDiscovering →
    ∀ id, s.adapter.mCancelDiscCallback = some (.caller id) → id ∉ s.answers
  | _ => True

structure Known (s : CancelRun) : Prop where
  answers : ∀ id ∈ s.answers, id ∈ s.issued
  stopped : ∀ id ∈ s.stopped, id ∈ s.issued
  slot : ∀ id, s.adapter.mCancelDiscCallback = some (.caller id) →
    id ∈ s.answers ∨ id ∈ s.stopped

variable {api : FilterApi} {s t : CancelRun}

theorem known_init : Known {} := by
  refine ⟨?_, ?_, ?_⟩
  · intro id h
    exact absurd h List.not_mem_nil
  · intro id h
    exact absurd h List.not_mem_nil
  · intro id h
    cases h

theorem answeredOnce_init : AnsweredOnce {} := by
  refine ⟨List.nodup_nil, ?_, ?_⟩
  · intro id h
    exact absurd h List.not_mem_nil
  · intro id h
    exact absurd h List.not_mem_nil

theorem known_of_slot (hknown : s.Known) (honce : s.AnsweredOnce) (adapter : Bluez5Adapter)
    (hslot : adapter.mCancelDiscCallback = s.adapter.mCancelDiscCallback) :
    Known { s with adapter := adapter } ∧ AnsweredOnce { s with adapter := adapter } := by
  refine ⟨⟨hknown.answers, hknown.stopped, ?_⟩, ⟨honce.once, honce.due, ?_⟩⟩
  · rw [hslot]
    exact hknown.slot
  · rw [hslot]
    exact honce.awaited

/-- The slot is filled anew. Then the calls that wait are those whose callback was there. -/
theorem awaited_iff (hknown : s.Known) (honce : s.AnsweredOnce) :
    (∀ id ∈ s.stopped, id ∈ s.answers) ↔
      ∀ id, s.adapter.mCancelDiscCallback = some (.caller id) → id ∈ s.answers := by
  constructor
  · intro h id hslot
    exact (hknown.slot id hslot).elim (fun hanswered => hanswered) (h id)
  · intro h id hid
    exact (honce.awaited id hid).elim (fun hanswered => hanswered) (h id)

theorem known_of_answered {id : ℕ} (hknown : s.Known) (honce : s.AnsweredOnce)
    (hnew : id ∉ s.issued) (hissued : t.issued = id :: s.issued)
    (hanswers : t.answers = id :: s.answers) (hdue : t.due = s.due)
    (hstopped : ∀ x ∈ t.stopped, x = id ∨ x ∈ s.stopped)
    (hkept : ∀ x ∈ s.stopped, x ∈ t.stopped)
    (hslot : t.adapter.mCancelDiscCallback = s.adapter.mCancelDiscCallback) :
    t.Known ∧ t.AnsweredOnce := by
  have hfresh : id ∉ s.answers := fun h => hnew (hknown.answers id h)
  refine ⟨⟨?_, ?_, ?_⟩, ⟨?_, ?_, ?_⟩⟩
  · rw [hanswers, hissued]
    exact List.forall_mem_cons.mpr ⟨List.mem_cons_self,
      fun x hx => List.mem_cons_of_mem _ (hknown.answers x hx)⟩
  · intro x hx
    rw [hissued]
    rcases hstopped x hx with rfl | hold
    · exact List.mem_cons_self
    · exact List.mem_cons_of_mem _ (hknown.stopped x hold)
  · intro x hx
    rw [hslot] at hx
    rw [hanswers]
    exact (hknown.slot x hx).imp (List.mem_cons_of_mem _) (hkept x)
  · rw [hanswers]
    exact List.nodup_cons.mpr ⟨hfresh, honce.once⟩
  · intro x hx
    rw [hdue] at hx
    rw [hanswers]
    exact List.mem_cons_of_mem _ (honce.due x hx)
  · intro x hx
    rw [hanswers, hslot]
    rcases hstopped x hx with rfl | hold
    · exact .inl List.mem_cons_self
    · exact (honce.awaited x hold).imp_left (List.mem_cons_of_mem _)

/-- The call waits, with its callback in the slot. The callback that was there is lost, so its
call must have been answered. -/
theorem known_of_waits {id : ℕ} (hknown : s.Known) (honce : s.AnsweredOnce)
    (hnew : id ∉ s.issued) (hissued : t.issued = id :: s.issued)
    (hanswers : t.answers = s.answers) (hdue : t.due = s.due)
    (hstopped : t.stopped = id :: s.stopped)
    (hslot : t.adapter.mCancelDiscCallback = some (.caller id)) :
    t.Known ∧ (t.AnsweredOnce ↔ ∀ x ∈ s.stopped, x ∈ s.answers) := by
  constructor
  · refine ⟨?_, ?_, ?_⟩
    · rw [hanswers, hissued]
      exact fun x hx => List.mem_cons_of_mem _ (hknown.answers x hx)
    · rw [hstopped, hissued]
      exact List.forall_mem_cons.mpr ⟨List.mem_cons_self,
        fun x hx => List.mem_cons_of_mem _ (hknown.stopped x hx)⟩
    · intro x hx
      rw [hslot, Option.some.injEq, CancelCallback.caller.injEq] at hx
      subst hx
      rw [hstopped]
      exact .inr List.mem_cons_self
  · constructor
    · intro hafter x hx
      have hwaits := hafter.awaited x (hstopped ▸ List.mem_cons_of_mem _ hx)
      rw [hanswers, hslot, Option.some.injEq, CancelCallback.caller.injEq] at hwaits
      apply hwaits.resolve_right
      rintro rfl
      exact hnew (hknown.stopped _ hx)
    · intro hall
      refine ⟨?_, ?_, ?_⟩
      · rw [hanswers]
        exact honce.once
      · rw [hdue, hanswers]
        exact honce.due
      · rw [hstopped, hanswers, hslot]
        exact List.forall_mem_cons.mpr ⟨.inr rfl, fun x hx => .inl (hall x hx)⟩

theorem mem_cancelDiscovery_stopped {id x : ℕ} (calls : Calls)
    (hx : x ∈ (s.cancelDiscovery id calls).stopped) : x = id ∨ x ∈ s.stopped := by
  unfold cancelDiscovery at hx
  dsimp only at hx
  split_ifs at hx
  · exact List.mem_cons.mp hx
  · exact .inr hx

theorem stopped_subset_cancelDiscovery {id x : ℕ} (calls : Calls) (hx : x ∈ s.stopped) :
    x ∈ (s.cancelDiscovery id calls).stopped := by
  unfold cancelDiscovery
  dsimp only
  split_ifs
  · exact List.mem_cons_of_mem _ hx
  · exact hx

theorem step_cancelDiscovery {id : ℕ} (calls : Calls) (hknown : s.Known)
    (honce : s.AnsweredOnce) (hnew : id ∉ s.issued) :
    (s.cancelDiscovery id calls).Known ∧
      ((s.cancelDiscovery id calls).AnsweredOnce ↔ s.FitsSlot (.cancelDiscovery id calls)) := by
  obtain ⟨_, _, ⟨hkept, ⟨err, htold⟩, hslot⟩ | ⟨⟨hunused, hstops⟩, htold, hslot⟩⟩ :=
    s.adapter.cancelDiscovery_cases (.caller id) calls
  · have hanswers : (s.cancelDiscovery id calls).answers = id :: s.answers := by
      simp [cancelDiscovery, htold]
    obtain ⟨hknown', honce'⟩ := known_of_answered hknown honce hnew rfl hanswers rfl
      (fun x hx => mem_cancelDiscovery_stopped calls hx)
      (fun x hx => stopped_subset_cancelDiscovery calls hx) hslot
    exact ⟨hknown', iff_of_true honce' fun hu hs => absurd ⟨hu, hs⟩ hkept⟩
  · have hanswers : (s.cancelDiscovery id calls).answers = s.answers := by
      simp [cancelDiscovery, htold]
    have hstopped : (s.cancelDiscovery id calls).stopped = id :: s.stopped := by
      simp [cancelDiscovery, hunused, hstops.1]
    obtain ⟨hknown', honce'⟩ := known_of_waits hknown honce hnew rfl hanswers rfl hstopped hslot
    have hfits : s.FitsSlot (.cancelDiscovery id calls) ↔ ∀ x ∈ s.stopped, x ∈ s.answers := by
      rw [awaited_iff hknown honce]
      exact ⟨fun h => h hunused hstops, fun h _ _ => h⟩
    exact ⟨hknown', honce'.trans hfits.symm⟩

theorem step_discoveryTimeout {source : ℕ} (calls : Calls) (hknown : s.Known)
    (honce : s.AnsweredOnce)
    (ht : t = { s with adapter := (s.adapter.handleDiscoveryTimeout source calls) }) :
    t.Known ∧ (t.AnsweredOnce ↔ s.FitsSlot (.discoveryTimeout source calls)) := by
  obtain ⟨_, _, ⟨hkept, _, hslot⟩ | ⟨⟨hunused, hstops⟩, _, hslot⟩⟩ :=
    s.adapter.cancelDiscovery_cases .timeout calls
  · obtain ⟨hknown', honce'⟩ := known_of_slot hknown honce
      (s.adapter.handleDiscoveryTimeout source calls) hslot
    rw [ht]
    exact ⟨hknown', iff_of_true honce' fun hu hs => absurd ⟨hu, hs⟩ hkept⟩
  · have hcallback : t.adapter.mCancelDiscCallback = some .timeout := by
      rw [ht]
      exact hslot
    have hfits : s.FitsSlot (.discoveryTimeout source calls) ↔
        ∀ x ∈ s.stopped, x ∈ s.answers := by
      rw [awaited_iff hknown honce]
      exact ⟨fun h => h hunused hstops, fun h _ _ => h⟩
    constructor
    · refine ⟨?_, ?_, ?_⟩
      · rw [ht]
        exact hknown.answers
      · rw [ht]
        exact hknown.stopped
      · intro x hx
        rw [hcallback] at hx
        cases hx
    · rw [hfits]
      constructor
      · intro hafter x hx
        have hwaits := hafter.awaited x (by rw [ht]; exact hx)
        rw [hcallback, ht] at hwaits
        exact hwaits.resolve_right fun h => nomatch h
      · intro hall
        rw [ht]
        exact ⟨honce.once, honce.due, fun x hx => .inl (hall x hx)⟩

theorem step_discoveringChanged (discovering : Bool) (hknown : s.Known)
    (honce : s.AnsweredOnce) :
    (s.discoveringChanged discovering).Known ∧
      ((s.discoveringChanged discovering).AnsweredOnce ↔
        s.FitsSlot (.discoveringChanged discovering)) := by
  by_cases hchange : discovering ≠ s.adapter.mDiscovering
  · have htold : (s.discoveringChanged discovering).answers =
        CancelCallback.told s.adapter.mCancelDiscCallback s.answers := by
      simp [discoveringChanged, Bluez5Adapter.discoveringChanged, hchange]
    have hslot : (s.discoveringChanged discovering).adapter.mCancelDiscCallback =
        s.adapter.mCancelDiscCallback := by
      simp [discoveringChanged, Bluez5Adapter.discoveringChanged, hchange]
    have hmem : ∀ x, x ∈ (s.discoveringChanged discovering).answers ↔
        s.adapter.mCancelDiscCallback = some (.caller x) ∨ x ∈ s.answers := by
      intro x
      rw [htold]
      rcases s.adapter.mCancelDiscCallback with _ | ⟨id⟩ | _
      · simp [CancelCallback.told]
      · simp [CancelCallback.told, eq_comm]
      · simp [CancelCallback.told]
    have hstopped : ∀ x ∈ (s.discoveringChanged discovering).stopped, x ∈ s.stopped := by
      intro x hx
      unfold discoveringChanged at hx
      dsimp only at hx
      split_ifs at hx
      · exact absurd hx List.not_mem_nil
      · exact hx
    have hdue : ∀ x ∈ (s.discoveringChanged discovering).due, x ∈ s.stopped ∨ x ∈ s.due := by
      intro x hx
      unfold discoveringChanged at hx
      dsimp only at hx
      split_ifs at hx
      · exact List.mem_append.mp hx
      · exact .inr hx
    have hanswered : ∀ x, x ∈ s.stopped → x ∈ (s.discoveringChanged discovering).answers :=
      fun x hx => (hmem x).mpr (honce.awaited x hx).symm
    constructor
    · refine ⟨?_, ?_, ?_⟩
      · intro x hx
        rcases (hmem x).mp hx with hslotted | hold
        · exact (hknown.slot x hslotted).elim (hknown.answers x) (hknown.stopped x)
        · exact hknown.answers x hold
      · exact fun x hx => hknown.stopped x (hstopped x hx)
      · intro x hx
        rw [hslot] at hx
        exact .inl ((hmem x).mpr (.inl hx))
    · constructor
      · intro hafter _ id hid
        have hnodup := hafter.once
        rw [htold, hid] at hnodup
        exact (List.nodup_cons.mp hnodup).1
      · intro hfits
        refine ⟨?_, ?_, fun x hx => .inl (hanswered x (hstopped x hx))⟩
        · rw [htold]
          rcases hcallback : s.adapter.mCancelDiscCallback with _ | ⟨id⟩ | _
          · exact honce.once
          · exact List.nodup_cons.mpr ⟨hfits hchange id hcallback, honce.once⟩
          · exact honce.once
        · intro x hx
          rcases hdue x hx with hwaits | hold
          · exact hanswered x hwaits
          · exact (hmem x).mpr (.inr (honce.due x hold))
  · have hsame : discovering = s.adapter.mDiscovering := not_not.mp hchange
    obtain ⟨hknown', honce'⟩ := known_of_slot hknown honce
      (s.discoveringChanged discovering).adapter
      (by simp [discoveringChanged, Bluez5Adapter.discoveringChanged, hsame])
    have hrest : s.discoveringChanged discovering =
        { s with adapter := (s.discoveringChanged discovering).adapter } := by
      cases discovering with
      | true =>
          simp [discoveringChanged, Bluez5Adapter.discoveringChanged, ← hsame,
            CancelCallback.told]
      | false =>
          simp [discoveringChanged, Bluez5Adapter.discoveringChanged, ← hsame,
            CancelCallback.told]
    rw [hrest]
    exact ⟨hknown', iff_of_true honce' fun h => absurd hsame h⟩

theorem step_other {adapter : Bluez5Adapter} {e : DiscoveryEvent} (hknown : s.Known)
    (honce : s.AnsweredOnce) (hquiet : Bluez5Adapter.Quiet s.adapter adapter)
    (hfits : s.FitsSlot e) (ht : some { s with adapter := adapter } = some t) :
    t.Known ∧ (t.AnsweredOnce ↔ s.FitsSlot e) := by
  obtain ⟨hknown', honce'⟩ := known_of_slot hknown honce _ hquiet.slot
  cases ht
  exact ⟨hknown', iff_of_true honce' hfits⟩

theorem step_answeredOnce_iff {e : DiscoveryEvent} (hknown : s.Known) (honce : s.AnsweredOnce)
    (hstep : s.step api e = some t) : t.Known ∧ (t.AnsweredOnce ↔ s.FitsSlot e) := by
  cases e with
  | addLeDiscoveryFilter filter calls =>
      exact step_other hknown honce (Bluez5Adapter.quiet_addLeDiscoveryFilter _ api filter calls)
        trivial hstep
  | removeLeDiscoveryFilter scanId =>
      exact step_other hknown honce (Bluez5Adapter.quiet_removeLeDiscoveryFilter _ scanId)
        trivial hstep
  | startDiscovery calls =>
      exact step_other hknown honce (Bluez5Adapter.quiet_startDiscovery _ calls) trivial hstep
  | cancelDiscovery id calls =>
      obtain ⟨hnew, heq⟩ := Option.ite_none_right_eq_some.mp hstep
      cases heq
      exact step_cancelDiscovery calls hknown honce hnew
  | startLeDiscovery calls =>
      exact step_other hknown honce (Bluez5Adapter.quiet_startLeDiscovery _ calls) trivial hstep
  | cancelLeDiscovery calls =>
      exact step_other hknown honce (Bluez5Adapter.quiet_cancelLeDiscovery _ calls) trivial hstep
  | discoveringChanged discovering =>
      cases hstep
      exact step_discoveringChanged discovering hknown honce
  | discoveryTimeout source calls =>
      obtain ⟨adapter, hadapter, rfl⟩ := Option.map_eq_some_iff.mp hstep
      obtain ⟨_, heq⟩ := Option.ite_none_right_eq_some.mp hadapter
      cases heq
      exact step_discoveryTimeout calls hknown honce rfl
  | setDiscoveryTimeout seconds =>
      cases hstep
      obtain ⟨hknown', honce'⟩ := known_of_slot hknown honce { s.adapter with
        timer := { s.adapter.timer with mDiscoveryTimeout := seconds } } rfl
      exact ⟨hknown', iff_of_true honce' trivial⟩

end CancelRun

def cancelMachine (api : FilterApi) : Machine CancelRun DiscoveryEvent :=
  ⟨{}, CancelRun.step api⟩

/-- In a run whose steps the slot is enough for every cancel is answered once, and a step from
there breaks this if and only if the slot is not enough for it. -/
theorem cancelDiscovery_answeredOnce {api : FilterApi} {s : CancelRun}
    (hs : (cancelMachine api).ReachWith CancelRun.FitsSlot s) :
    s.AnsweredOnce ∧
    ∀ e t, s.step api e = some t → (t.AnsweredOnce ↔ s.FitsSlot e) := by
  refine hs.invariant_iff_of (Q := CancelRun.Known) CancelRun.answeredOnce_init
    CancelRun.known_init ?_
  intro s e t honce hknown hstep
  obtain ⟨hknown', hiff⟩ := CancelRun.step_answeredOnce_iff hknown honce hstep
  exact ⟨hiff, fun _ => hknown'⟩

/-- A scan that is started, cancelled and reported to have ended. -/
theorem cancelDiscovery_answeredOnce_cancelled :
    ∃ s : CancelRun, s.due = [0] ∧ s.answers = [0] ∧ s.AnsweredOnce :=
  ⟨_, rfl, rfl, (@cancelDiscovery_answeredOnce formApi _
    (.step (e := .discoveringChanged false)
      (.step (e := .cancelDiscovery 0 {})
        (.step (e := .discoveringChanged true)
          (.step (e := .startDiscovery {}) .init trivial rfl)
          (fun _ _ h => nomatch h) rfl)
        (fun _ _ _ h => nomatch h) rfl)
      (fun _ _ _ => List.not_mem_nil) rfl)).1⟩

/-- The next scan tells the callback of the cancel before it again. -/
theorem cancelDiscovery_answeredTwice :
    ¬ ∀ s, (cancelMachine formApi).Reach s → s.AnsweredOnce := by
  intro h
  have hrun : ∃ t, (cancelMachine formApi).run (cancelMachine formApi).init
      [.startDiscovery {}, .discoveringChanged true, .cancelDiscovery 0 {},
        .discoveringChanged false, .startDiscovery {}, .discoveringChanged true] = some t ∧
      t.answers = [0, 0] :=
    ⟨_, rfl, rfl⟩
  obtain ⟨t, hrun, hanswers⟩ := hrun
  have honce := (h t (Machine.reach_of_run _ hrun)).once
  rw [hanswers] at honce
  exact absurd honce (by decide)

end BluezSil.Adapter
