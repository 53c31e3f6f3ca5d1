import BluezSil.ObexTransferEnds

/-!
# The log of what transfers report

Whatever is done to the transfers, the log of their reports is only added to, and what is
added is of transfers that were live. A transfer that has ended reports nothing of its own
removal. So an update of a transfer of the base profile adds what the watcher makes of this
update, and an update of another transfer adds at most the end of one that goes on.
-/

namespace BluezSil.Obex

namespace Transfers

variable {s s' s'' : Transfers} {p q : ℕ} {t : ObexTransfer} {key : TransferKey} {w : Watched}
  {properties : List TransferProperty}

/-- Reports of live transfers are added, and no transfer is made. -/
structure Grows (s s' : Transfers) : Prop where
  reports : ∃ new, s'.reports = new ++ s.reports ∧ ∀ r ∈ new, r.1 ∈ s.objects.live
  next : s'.objects.next = s.objects.next
  live : ∀ q, q ∈ s'.objects.live → q ∈ s.objects.live

theorem Grows.refl (s : Transfers) : Grows s s := ⟨⟨[], rfl, nofun⟩, rfl, fun _ h => h⟩

theorem Grows.trans (h : Grows s s') (h' : Grows s' s'') : Grows s s'' := by
  obtain ⟨new, hreports, hnew⟩ := h.reports
  obtain ⟨new', hreports', hnew'⟩ := h'.reports
  refine ⟨⟨new' ++ new, by rw [hreports', hreports, List.append_assoc], fun r hr => ?_⟩,
    h'.next.trans h.next, fun q hq => h.live q (h'.live q hq)⟩
  rcases List.mem_append.mp hr with hr | hr
  · exact h.live _ (hnew' r hr)
  · exact hnew r hr

theorem grows_of_reports (hreports : s'.reports = s.reports)
    (hnext : s'.objects.next = s.objects.next)
    (hlive : ∀ q, q ∈ s'.objects.live → q ∈ s.objects.live) : Grows s s' :=
  ⟨⟨[], hreports, nofun⟩, hnext, hlive⟩

theorem grows_modify (s : Transfers) (p : ℕ) (f : ObexTransfer → ObexTransfer) :
    Grows s { s with objects := s.objects.modify p f } :=
  grows_of_reports rfl rfl fun _ => KeyedMap.mem_modify.mp

theorem grows_delete (s : Transfers) (p : ℕ) :
    Grows s { s with objects := s.objects.delete p } :=
  grows_of_reports rfl rfl fun _ hq => (AList.mem_erase.mp hq).2

theorem grows_record (hp : p ∈ s.objects.live) (w : Watched) : Grows s (s.record p w) := by
  refine ⟨⟨_, rfl, fun r hr => ?_⟩, rfl, fun _ h => h⟩
  obtain ⟨report, _, rfl⟩ := List.mem_map.mp (List.mem_reverse.mp hr)
  exact hp

section Calls

variable {destroy : Transfers → ℕ → Transfers}

theorem grows_removeTransferBy (hdestroy : ∀ s q, Grows s (destroy s q)) (s : Transfers)
    (key : TransferKey) : Grows s (s.removeTransferBy destroy key) := by
  unfold removeTransferBy
  cases s.objects.table.lookup key with
  | none => exact Grows.refl s
  | some q =>
      have herase : Grows s { s with objects := s.objects.eraseKey key } :=
        grows_of_reports rfl rfl fun _ h => h
      exact herase.trans (hdestroy _ q)

theorem grows_notifyBy (hdestroy : ∀ s q, Grows s (destroy s q)) (hp : p ∈ s.objects.live)
    (t : ObexTransfer) : Grows s (s.notifyBy destroy p t) := by
  have hrecord := grows_record hp (t.mWatchCallback s.mTransferStateMap)
  unfold notifyBy
  dsimp only
  split_ifs
  · exact hrecord.trans (grows_removeTransferBy hdestroy _ _)
  · exact hrecord

end Calls

theorem grows_destroyFuel (fuel : ℕ) (s : Transfers) (p : ℕ) : Grows s (destroyFuel fuel s p) := by
  induction fuel generalizing s p with
  | zero => exact grows_of_reports rfl rfl fun _ h => h
  | succ fuel ih =>
      unfold destroyFuel
      cases hp : s.objects.live.lookup p with
      | none => exact grows_of_reports rfl rfl fun _ h => h
      | some t =>
          dsimp only
          refine Grows.trans ?_ (grows_delete _ p)
          split_ifs
          · exact Grows.refl s
          · have hmodify := grows_modify s p fun t => { t with mState := .error }
            refine hmodify.trans (grows_notifyBy ih ?_ _)
            exact KeyedMap.mem_modify.mpr (KeyedMap.mem_of_lookup hp)

theorem grows_destroy (s : Transfers) (p : ℕ) : Grows s (s.destroy p) := grows_destroyFuel _ s p

theorem grows_removeTransfer (s : Transfers) (key : TransferKey) :
    Grows s (s.removeTransfer key) :=
  grows_removeTransferBy grows_destroy s key

theorem grows_removeTransfersOf (s : Transfers) (sessionPath : Text) :
    Grows s (s.removeTransfersOf sessionPath) := by
  unfold removeTransfersOf
  exact List.foldlRecOn _ _ (Grows.refl s) fun u hu key _ => hu.trans (grows_removeTransfer u key)

theorem grows_update (hp : s.objects.live.lookup p = some t)
    (properties : List TransferProperty) : Grows s (s.update p t properties) := by
  have hmodify := grows_modify s p fun _ => (t.updateFromProperties properties).1
  unfold update
  dsimp only
  split_ifs
  · refine hmodify.trans (grows_notifyBy grows_destroy ?_ _)
    exact KeyedMap.mem_modify.mpr (KeyedMap.mem_of_lookup hp)
  · exact hmodify

/-! ### Transfers that have ended -/

def Ended (s : Transfers) (p : ℕ) : Prop :=
  ∀ t, s.objects.live.lookup p = some t → t.mState.final = true

/-- A transfer is left as it is, or is deleted. Its deletion is reported unless it has ended. -/
def Leaves (p : ℕ) (s s' : Transfers) : Prop :=
  s'.objects.live.lookup p = s.objects.live.lookup p ∧ s'.reportsOf p = s.reportsOf p ∨
    s'.objects.live.lookup p = none ∧ (s.Ended p → s'.reportsOf p = s.reportsOf p)

theorem Leaves.refl (p : ℕ) (s : Transfers) : Leaves p s s := .inl ⟨rfl, rfl⟩

theorem Leaves.trans (h : Leaves p s s') (h' : Leaves p s' s'') : Leaves p s s'' := by
  rcases h with ⟨hlive, hreports⟩ | ⟨hdead, hreports⟩
  · unfold Leaves Ended
    rw [← hlive, ← hreports]
    exact h'
  · have hended : s'.Ended p := fun t ht => by rw [hdead] at ht; cases ht
    rcases h' with ⟨hlive, hreports'⟩ | ⟨hdead', hreports'⟩
    · exact .inr ⟨hlive.trans hdead, fun he => hreports'.trans (hreports he)⟩
    · exact .inr ⟨hdead', fun he => (hreports' hended).trans (hreports he)⟩

theorem Leaves.reportsOf_eq (h : Leaves p s s') (hended : s.Ended p) :
    s'.reportsOf p = s.reportsOf p := by
  rcases h with ⟨_, hreports⟩ | ⟨_, hreports⟩
  · exact hreports
  · exact hreports hended

theorem Leaves.lookup_eq (h : Leaves p s s') (hp : s'.objects.live.lookup p = some t) :
    s.objects.live.lookup p = some t := by
  rcases h with ⟨hlive, _⟩ | ⟨hdead, _⟩
  · exact hlive.symm.trans hp
  · rw [hdead] at hp
    cases hp

theorem leaves_modify_ne (h : p ≠ q) (f : ObexTransfer → ObexTransfer) :
    Leaves p s { s with objects := s.objects.modify q f } :=
  .inl ⟨KeyedMap.lookup_modify_ne h, rfl⟩

theorem leaves_delete_ne (h : p ≠ q) : Leaves p s { s with objects := s.objects.delete q } :=
  .inl ⟨OwnedObjects.lookup_delete_ne h, rfl⟩

section Calls

variable {destroy : Transfers → ℕ → Transfers}

theorem leaves_removeTransferBy (hdestroy : ∀ s q, Leaves p s (destroy s q)) (s : Transfers)
    (key : TransferKey) : Leaves p s (s.removeTransferBy destroy key) := by
  unfold removeTransferBy
  cases s.objects.table.lookup key with
  | none => exact Leaves.refl p s
  | some q => exact hdestroy { s with objects := s.objects.eraseKey key } q

theorem leaves_notifyBy_ne (hdestroy : ∀ s q, Leaves p s (destroy s q)) (h : p ≠ q)
    (t : ObexTransfer) : Leaves p s (s.notifyBy destroy q t) := by
  have hrecord : Leaves p s (s.record q (t.mWatchCallback s.mTransferStateMap)) :=
    .inl ⟨rfl, reportsOf_record_ne h⟩
  unfold notifyBy
  dsimp only
  split_ifs
  · exact hrecord.trans (leaves_removeTransferBy hdestroy _ _)
  · exact hrecord

end Calls

theorem leaves_destroyFuel (fuel : ℕ) (s : Transfers) (p q : ℕ) :
    Leaves p s (destroyFuel fuel s q) := by
  induction fuel generalizing s q with
  | zero => exact Leaves.refl p s
  | succ fuel ih =>
      unfold destroyFuel
      cases hq : s.objects.live.lookup q with
      | none => exact Leaves.refl p s
      | some t =>
          dsimp only
          by_cases hpq : p = q
          · subst hpq
            refine .inr ⟨OwnedObjects.lookup_delete_self _ p, fun hended => ?_⟩
            rw [if_pos (hended t hq)]
            rfl
          · refine Leaves.trans ?_ (leaves_delete_ne hpq)
            split_ifs
            · exact Leaves.refl p s
            · exact (leaves_modify_ne hpq _).trans (leaves_notifyBy_ne ih hpq _)

theorem leaves_destroy (s : Transfers) (p q : ℕ) : Leaves p s (s.destroy q) :=
  leaves_destroyFuel _ s p q

theorem leaves_removeTransfer (s : Transfers) (p : ℕ) (key : TransferKey) :
    Leaves p s (s.removeTransfer key) :=
  leaves_removeTransferBy (fun s q => leaves_destroy s p q) s key

theorem leaves_removeTransfersOf (s : Transfers) (p : ℕ) (sessionPath : Text) :
    Leaves p s (s.removeTransfersOf sessionPath) := by
  unfold removeTransfersOf
  exact List.foldlRecOn _ _ (Leaves.refl p s) fun u hu key _ =>
    hu.trans (leaves_removeTransfer u p key)

theorem leaves_update_ne (h : p ≠ q) (t : ObexTransfer) (properties : List TransferProperty) :
    Leaves p s (s.update q t properties) := by
  unfold update
  dsimp only
  split_ifs
  · exact (leaves_modify_ne h _).trans (leaves_notifyBy_ne (leaves_destroy · p ·) h _)
  · exact leaves_modify_ne h _

/-! ### What an update reports -/

/-- The reports of the base profile about a transfer it is shown, the latest first. -/
def baseReports (t : ObexTransfer) : List TransferReport :=
  (ObexProfileBase.updateActiveTransfer t ∅).reports.reverse

theorem baseReports_of_active (h : t.mState = .active) :
    baseReports t = [.transferResult .none t.mBytesTransferred t.mFileSize false] := by
  rw [baseReports, ObexProfileBase.updateActiveTransfer, h]
  rfl

theorem baseReports_of_complete (h : t.mState = .complete) (hbytes : t.mBytesTransferred ≠ 0) :
    baseReports t = [.transferResult .none t.mBytesTransferred t.mFileSize true] := by
  rw [baseReports, ObexProfileBase.updateActiveTransfer, h]
  dsimp only
  rw [if_pos hbytes]
  rfl

theorem baseReports_of_silent (hactive : t.mState ≠ .active) (hopen : t.mState.final = false) :
    baseReports t = [] := by
  unfold baseReports ObexProfileBase.updateActiveTransfer
  cases hs : t.mState with
  | inactive => rfl
  | queued => rfl
  | active => exact absurd hs hactive
  | suspended => rfl
  | complete => rw [hs] at hopen; cases hopen
  | error => rw [hs] at hopen; cases hopen

theorem updateActiveTransfer_reports (t : ObexTransfer) (states : KeyedMap Text String) :
    (ObexProfileBase.updateActiveTransfer t states).reports.reverse = baseReports t := by
  unfold baseReports ObexProfileBase.updateActiveTransfer
  cases t.mState <;> dsimp only
  split_ifs <;> rfl

theorem updateActiveTransfer_cleanup {states : KeyedMap Text String}
    (h : (ObexProfileBase.updateActiveTransfer t states).cleanup = true) :
    t.mState.final = true := by
  unfold ObexProfileBase.updateActiveTransfer at h
  cases hs : t.mState with
  | complete => rfl
  | error => rfl
  | _ => rw [hs] at h; cases h

/-- A transfer of the base profile whose watcher is told of new properties. The removal of a
transfer that has ended reports nothing. -/
theorem update_self (hp : s.objects.live.lookup p = some t) (hwatcher : t.watcher = .baseActive)
    (properties : List TransferProperty) :
    (s.update p t properties).reportsOf p =
        (if (t.updateFromProperties properties).2 then
          baseReports (t.updateFromProperties properties).1 else []) ++ s.reportsOf p ∧
      ∀ u, (s.update p t properties).objects.live.lookup p = some u →
        u = (t.updateFromProperties properties).1 := by
  set t' := (t.updateFromProperties properties).1 with ht'
  have hlookup : ((s.objects.modify p fun _ => t').live.lookup p) = some t' := by
    rw [OwnedObjects.modify, KeyedMap.lookup_modify_self, hp, Option.map_some]
  have hwatched : t'.mWatchCallback = ObexProfileBase.updateActiveTransfer t' := by
    rw [ObexTransfer.mWatchCallback, ht', (t.updateFromProperties_started properties).2, hwatcher]
  cases hchanged : (t.updateFromProperties properties).2 with
  | false =>
      rw [update_of_unchanged hchanged]
      exact ⟨rfl, fun u hu => (Option.some.inj (hlookup.symm.trans hu)).symm⟩
  | true =>
      let s₁ : Transfers := { s with objects := s.objects.modify p fun _ => t' }
      let w := t'.mWatchCallback s.mTransferStateMap
      have hrecord : (s₁.record p w).reportsOf p = baseReports t' ++ s.reportsOf p := by
        rw [reportsOf_record_self, ← updateActiveTransfer_reports t' s.mTransferStateMap,
          ← hwatched]
        rfl
      rw [update, if_pos hchanged, if_pos rfl, ← ht', notifyWatcher, notifyBy]
      dsimp only
      split_ifs with hcleanup
      · have hended : (s₁.record p w).Ended p := by
          intro u hu
          obtain rfl := Option.some.inj (hlookup.symm.trans hu)
          rw [hwatched] at hcleanup
          exact updateActiveTransfer_cleanup hcleanup
        have hleaves := leaves_removeTransferBy (leaves_destroy · p ·) (s₁.record p w) t'.key
        refine ⟨(hleaves.reportsOf_eq hended).trans hrecord, fun u hu => ?_⟩
        exact (Option.some.inj (hlookup.symm.trans (hleaves.lookup_eq hu))).symm
      · exact ⟨hrecord, fun u hu => (Option.some.inj (hlookup.symm.trans hu)).symm⟩

end Transfers

end BluezSil.Obex
