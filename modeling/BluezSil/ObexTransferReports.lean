import BluezSil.ObexTransfer

/-!
# What is reported of a transfer that goes on and of one that ends

New properties never change what a transfer was started with, and its state only changes
where the watcher is told. A watcher reports no end of a transfer that goes on, and reports
the end of a transfer that has ended as its last report.
-/

namespace BluezSil.Obex

variable {t : ObexTransfer} {states : KeyedMap Text String} {property : TransferProperty}
  {properties : List TransferProperty}

namespace ObexTransfer

@[simp] theorem setStatus_key (state : String) : (t.setStatus state).key = t.key := by
  unfold setStatus
  split_ifs <;> rfl

@[simp] theorem setStatus_watcher (state : String) :
    (t.setStatus state).watcher = t.watcher := by
  unfold setStatus
  split_ifs <;> rfl

@[simp] theorem setStatus_mObjectPath (state : String) :
    (t.setStatus state).mObjectPath = t.mObjectPath := by
  unfold setStatus
  split_ifs <;> rfl

@[simp] theorem completeSize_mObjectPath : t.completeSize.mObjectPath = t.mObjectPath := by
  unfold completeSize
  split_ifs <;> rfl

@[simp] theorem completeSize_key : t.completeSize.key = t.key := by
  unfold completeSize
  split_ifs <;> rfl

@[simp] theorem completeSize_watcher : t.completeSize.watcher = t.watcher := by
  unfold completeSize
  split_ifs <;> rfl

@[simp] theorem completeSize_mState : t.completeSize.mState = t.mState := by
  unfold completeSize
  split_ifs <;> rfl

theorem parsePropertyFromVariant_started (t : ObexTransfer) (property : TransferProperty) :
    (t.parsePropertyFromVariant property).1.key = t.key ∧
      (t.parsePropertyFromVariant property).1.watcher = t.watcher := by
  cases property <;> simp [parsePropertyFromVariant]

/-- The state changes only with a property the watcher is told of. -/
theorem parsePropertyFromVariant_mState
    (h : (t.parsePropertyFromVariant property).2 = false) :
    (t.parsePropertyFromVariant property).1.mState = t.mState := by
  cases property with
  | transferred value => cases h
  | status value => cases h
  | size value => exact completeSize_mState
  | name value => exact completeSize_mState
  | filename value => exact completeSize_mState
  | messageHandle value => exact completeSize_mState
  | other key => exact completeSize_mState

theorem updateFromProperties_started (t : ObexTransfer) (properties : List TransferProperty) :
    (t.updateFromProperties properties).1.key = t.key ∧
      (t.updateFromProperties properties).1.watcher = t.watcher := by
  refine List.foldlRecOn properties _
    (motive := fun r : ObexTransfer × Bool => r.1.key = t.key ∧ r.1.watcher = t.watcher)
    ⟨rfl, rfl⟩ ?_
  rintro r ⟨hkey, hwatcher⟩ property _
  obtain ⟨hkey', hwatcher'⟩ := parsePropertyFromVariant_started r.1 property
  exact ⟨hkey'.trans hkey, hwatcher'.trans hwatcher⟩

theorem updateFromProperties_mObjectPath (t : ObexTransfer) (properties : List TransferProperty) :
    (t.updateFromProperties properties).1.mObjectPath = t.mObjectPath := by
  refine List.foldlRecOn properties _
    (motive := fun r : ObexTransfer × Bool => r.1.mObjectPath = t.mObjectPath) rfl ?_
  intro r hr property _
  refine Eq.trans ?_ hr
  cases property <;> simp [parsePropertyFromVariant]

theorem updateFromProperties_mState (h : (t.updateFromProperties properties).2 = false) :
    (t.updateFromProperties properties).1.mState = t.mState := by
  refine List.foldlRecOn properties _
    (motive := fun r : ObexTransfer × Bool => r.2 = false → r.1.mState = t.mState)
    (fun _ => rfl) ?_ h
  intro r hr property _ hchanged
  obtain ⟨hbefore, hproperty⟩ := Bool.or_eq_false_iff.mp hchanged
  exact (parsePropertyFromVariant_mState hproperty).trans (hr hbefore)

end ObexTransfer

/-! ### The end of a transfer -/

/-- Of the reports, the latest first, the latest and no other tells of an end. -/
def EndsOnce (reports : List TransferReport) : Prop :=
  ∃ last earlier, reports = last :: earlier ∧ last.terminal = true ∧
    ∀ r ∈ earlier, r.terminal = false

def NoneFinal (states : KeyedMap Text String) : Prop :=
  ∀ path state, states.lookup path = some state → state ≠ "completed" ∧ state ≠ "error"

structure Watched.GoesOn (w : Watched) : Prop where
  reports : ∀ r ∈ w.reports, r.terminal = false
  cleanup : w.cleanup = false
  found : w.erasesEnd = false
  states : NoneFinal w.states

structure Watched.Closes (w : Watched) : Prop where
  reports : EndsOnce w.reports.reverse
  cleanup : w.cleanup = true
  found : w.erasesEnd = false
  states : NoneFinal w.states

/-- A complete transfer of no bytes does not end for the base profile, and the end of a
phone book needs a state that has been remembered. -/
def ObexTransfer.Announces (t : ObexTransfer) (states : KeyedMap Text String) : Prop :=
  (t.watcher = .baseActive → t.mState = .complete → t.mBytesTransferred ≠ 0) ∧
    (t.watcher = .pbapMonitor → t.mObjectPath ∈ states)

theorem EndsOnce.append {reports earlier : List TransferReport} (h : EndsOnce reports)
    (hearlier : ∀ r ∈ earlier, r.terminal = false) : EndsOnce (reports ++ earlier) := by
  obtain ⟨last, before, rfl, hlast, hbefore⟩ := h
  refine ⟨last, before ++ earlier, rfl, hlast, fun r hr => ?_⟩
  rcases List.mem_append.mp hr with hr | hr
  · exact hbefore r hr
  · exact hearlier r hr

theorem endsOnce_singleton {r : TransferReport} (h : r.terminal = true) : EndsOnce [r] :=
  ⟨r, [], rfl, h, nofun⟩

theorem noneFinal_empty : NoneFinal ∅ := nofun

theorem NoneFinal.insert {path : Text} {state : String} (h : NoneFinal states)
    (hstate : state ≠ "completed" ∧ state ≠ "error") : NoneFinal (states.insert path state) := by
  intro p s hs
  rcases KeyedMap.lookup_insert_cases hs with ⟨_, rfl⟩ | ⟨_, hold⟩
  · exact hstate
  · exact h p s hold

theorem NoneFinal.erase (h : NoneFinal states) (path : Text) : NoneFinal (states.erase path) :=
  fun _ _ hs => h _ _ (KeyedMap.lookup_erase_some hs).2

theorem stateString_final_iff (state : TransferState) :
    (stateString state == "completed" || stateString state == "error") = state.final := by
  cases state <;> decide

theorem stateString_open {state : TransferState} (h : state.final = false) :
    stateString state ≠ "completed" ∧ stateString state ≠ "error" := by
  have hopen := stateString_final_iff state
  rw [h, Bool.or_eq_false_iff] at hopen
  exact ⟨ne_of_beq_false hopen.1, ne_of_beq_false hopen.2⟩

theorem stateString_closed {state : TransferState} (h : state.final = true) :
    stateString state = "completed" ∨ stateString state = "error" := by
  have hclosed := stateString_final_iff state
  rw [h, Bool.or_eq_true] at hclosed
  exact hclosed.imp eq_of_beq eq_of_beq

/-! ### The watchers, one by one -/

namespace Watched

theorem goesOn_nil (hstates : NoneFinal states) : GoesOn { states } :=
  ⟨nofun, rfl, rfl, hstates⟩

theorem goesOn_one {r : TransferReport} (h : r.terminal = false) (hstates : NoneFinal states) :
    GoesOn { reports := [r], states } :=
  ⟨fun _ hr => List.mem_singleton.mp hr ▸ h, rfl, rfl, hstates⟩

theorem closes_one {r : TransferReport} (h : r.terminal = true) (hstates : NoneFinal states) :
    Closes { reports := [r], cleanup := true, states } :=
  ⟨endsOnce_singleton h, rfl, rfl, hstates⟩

end Watched

open Watched

theorem ObexProfileBase.updateActiveTransfer_goesOn (h : t.mState.final = false)
    (hstates : NoneFinal states) : (ObexProfileBase.updateActiveTransfer t states).GoesOn := by
  unfold ObexProfileBase.updateActiveTransfer
  cases hs : t.mState with
  | inactive => exact goesOn_nil hstates
  | queued => exact goesOn_nil hstates
  | active => exact goesOn_one rfl hstates
  | suspended => exact goesOn_nil hstates
  | complete => rw [hs] at h; cases h
  | error => rw [hs] at h; cases h

theorem ObexProfileBase.updateActiveTransfer_closes (h : t.mState.final = true)
    (hbytes : t.mState = .complete → t.mBytesTransferred ≠ 0) (hstates : NoneFinal states) :
    (ObexProfileBase.updateActiveTransfer t states).Closes := by
  unfold ObexProfileBase.updateActiveTransfer
  cases hs : t.mState with
  | inactive => rw [hs] at h; cases h
  | queued => rw [hs] at h; cases h
  | active => rw [hs] at h; cases h
  | suspended => rw [hs] at h; cases h
  | complete =>
      dsimp only
      rw [if_pos (hbytes hs)]
      exact closes_one rfl hstates
  | error => exact closes_one rfl hstates

theorem ProfileFtp.updateActiveTransfer_goesOn (h : t.mState.final = false)
    (hstates : NoneFinal states) : (ProfileFtp.updateActiveTransfer t states).GoesOn := by
  unfold ProfileFtp.updateActiveTransfer
  cases hs : t.mState with
  | inactive => exact goesOn_nil hstates
  | queued => exact goesOn_nil hstates
  | active => exact goesOn_one rfl hstates
  | suspended => exact goesOn_nil hstates
  | complete => rw [hs] at h; cases h
  | error => rw [hs] at h; cases h

theorem ProfileFtp.updateActiveTransfer_closes (h : t.mState.final = true)
    (hstates : NoneFinal states) : (ProfileFtp.updateActiveTransfer t states).Closes := by
  unfold ProfileFtp.updateActiveTransfer
  cases hs : t.mState with
  | inactive => rw [hs] at h; cases h
  | queued => rw [hs] at h; cases h
  | active => rw [hs] at h; cases h
  | suspended => rw [hs] at h; cases h
  | complete => exact closes_one rfl hstates
  | error => exact closes_one rfl hstates

section ReportEnd

variable {result : BluetoothError → TransferReport}

theorem reportEnd_goesOn (h : t.mState.final = false) (hstates : NoneFinal states) :
    (reportEnd result t states).GoesOn := by
  unfold reportEnd
  cases hs : t.mState with
  | inactive => exact goesOn_nil hstates
  | queued => exact goesOn_nil hstates
  | active => exact goesOn_nil hstates
  | suspended => exact goesOn_nil hstates
  | complete => rw [hs] at h; cases h
  | error => rw [hs] at h; cases h

theorem reportEnd_closes (hresult : ∀ e, (result e).terminal = true)
    (h : t.mState.final = true) (hstates : NoneFinal states) :
    (reportEnd result t states).Closes := by
  unfold reportEnd
  cases hs : t.mState with
  | inactive => rw [hs] at h; cases h
  | queued => rw [hs] at h; cases h
  | active => rw [hs] at h; cases h
  | suspended => rw [hs] at h; cases h
  | complete => exact closes_one (hresult _) hstates
  | error => exact closes_one (hresult _) hstates

end ReportEnd

theorem ProfilePbap.monitorTransfer_goesOn (h : t.mState.final = false)
    (hstates : NoneFinal states) : (ProfilePbap.monitorTransfer t states).GoesOn := by
  have hopen := stateString_open h
  have hchanged : (TransferReport.transferStatusChanged t.mFilePath
      (stateString t.mState)).terminal = false := (stateString_final_iff t.mState).trans h
  have hnot : t.mState ≠ .complete := by
    intro hs
    rw [hs] at h
    cases h
  unfold ProfilePbap.monitorTransfer
  cases hfound : states.lookup t.mObjectPath with
  | none =>
      dsimp only
      rw [h]
      exact goesOn_one hchanged (hstates.insert hopen)
  | some reported =>
      dsimp only
      rw [if_neg (c := t.mState.final = true) (by rw [h]; exact Bool.false_ne_true)]
      split_ifs with hnew hactive
      · exact absurd hactive.1 hnot
      · exact goesOn_one hchanged (hstates.insert hopen)
      · exact goesOn_nil (hstates.insert hopen)

theorem ProfilePbap.monitorTransfer_closes (h : t.mState.final = true)
    (hfound : t.mObjectPath ∈ states) (hstates : NoneFinal states) :
    (ProfilePbap.monitorTransfer t states).Closes := by
  obtain ⟨reported, hreported⟩ := KeyedMap.exists_lookup hfound
  have hchanged : (TransferReport.transferStatusChanged t.mFilePath
      (stateString t.mState)).terminal = true := (stateString_final_iff t.mState).trans h
  -- no end has been reported before, so this one is
  have hnew : stateString t.mState ≠ reported := by
    rintro rfl
    have hopen := hstates _ _ hreported
    rcases stateString_closed h with hs | hs
    · exact hopen.1 hs
    · exact hopen.2 hs
  unfold ProfilePbap.monitorTransfer
  rw [hreported]
  dsimp only
  rw [if_pos h, if_pos hnew]
  refine ⟨?_, rfl, rfl, ?_⟩
  · split_ifs
    · exact ⟨_, _, rfl, hchanged, fun _ hr => List.mem_singleton.mp hr ▸ rfl⟩
    · exact endsOnce_singleton hchanged
  · intro path state hs
    obtain ⟨hne, hs⟩ := KeyedMap.lookup_erase_some hs
    rw [AList.lookup_insert_ne hne] at hs
    exact hstates path state hs

/-! ### Any watcher -/

theorem ObexTransfer.mWatchCallback_goesOn (h : t.mState.final = false)
    (hstates : NoneFinal states) : (t.mWatchCallback states).GoesOn := by
  unfold ObexTransfer.mWatchCallback
  cases t.watcher with
  | baseActive => exact ObexProfileBase.updateActiveTransfer_goesOn h hstates
  | ftpActive => exact ProfileFtp.updateActiveTransfer_goesOn h hstates
  | mapActive => exact reportEnd_goesOn h hstates
  | mapPush => exact reportEnd_goesOn h hstates
  | pbapActive => exact reportEnd_goesOn h hstates
  | pbapMonitor => exact ProfilePbap.monitorTransfer_goesOn h hstates

theorem ObexTransfer.mWatchCallback_closes (h : t.mState.final = true)
    (hannounces : t.Announces states) (hstates : NoneFinal states) :
    (t.mWatchCallback states).Closes := by
  unfold ObexTransfer.mWatchCallback
  cases hw : t.watcher with
  | baseActive =>
      exact ObexProfileBase.updateActiveTransfer_closes h (hannounces.1 hw) hstates
  | ftpActive => exact ProfileFtp.updateActiveTransfer_closes h hstates
  | mapActive => exact reportEnd_closes (fun _ => rfl) h hstates
  | mapPush => exact reportEnd_closes (fun _ => rfl) h hstates
  | pbapActive => exact reportEnd_closes (fun _ => rfl) h hstates
  | pbapMonitor => exact ProfilePbap.monitorTransfer_closes h (hannounces.2 hw) hstates

end BluezSil.Obex
