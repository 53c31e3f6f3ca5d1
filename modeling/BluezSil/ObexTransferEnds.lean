import BluezSil.ObexTransferReports
import BluezSil.ObexProfile

/-!
# How transfers are kept and deleted

The live transfers go on and no end of them has been reported. The end of a transfer is
reported as its last report when its watcher is told of it, when it is cancelled, and when
its session is removed, and in each case the transfer leaves the table and is deleted once.
-/

namespace BluezSil.Obex

open OwnedObjects

namespace Transfers

variable {kind : ProfileKind} {s s' : Transfers} {p q : ℕ} {t t' : ObexTransfer}
  {key : TransferKey} {w : Watched} {properties : List TransferProperty}
  {f : ObexTransfer → ObexTransfer}

def reportsOf (s : Transfers) (p : ℕ) : List TransferReport :=
  s.reports.filterMap fun r => if r.1 = p then some r.2 else none

theorem reportsOf_record_self (s : Transfers) (p : ℕ) (w : Watched) :
    (s.record p w).reportsOf p = w.reports.reverse ++ s.reportsOf p := by
  have hmine : w.reports.reverse.filterMap some = w.reports.reverse := List.filterMap_some
  simp only [reportsOf, record, List.filterMap_append, ← List.map_reverse, List.filterMap_map,
    Function.comp_def, if_true, hmine]

theorem reportsOf_record_ne (h : q ≠ p) : (s.record p w).reportsOf q = s.reportsOf q := by
  have hnone : w.reports.reverse.filterMap (fun r => if p = q then some r else none) = [] := by
    simp [h.symm]
  simp only [reportsOf, record, List.filterMap_append, ← List.map_reverse, List.filterMap_map,
    Function.comp_def, hnone, List.nil_append]

/-! ### The invariant -/

/-- A live transfer goes on and no end of it has been reported. A deleted one has ended. -/
structure Orderly (kind : ProfileKind) (s : Transfers) : Prop where
  objects : s.objects.Sound ObexTransfer.key
  running : ∀ p t, s.objects.live.lookup p = some t → t.mState.final = false
  watchers : ∀ p t, s.objects.live.lookup p = some t → kind.findsTransfers = true →
    t.watcher ≠ .pbapMonitor
  quiet : ∀ p, p ∉ s.objects.deleted → ∀ r ∈ s.reportsOf p, r.terminal = false
  ended : ∀ p ∈ s.objects.deleted, EndsOnce (s.reportsOf p)
  states : NoneFinal s.mTransferStateMap
  clean : s.misuses = []
  cancels : ∀ c ∈ s.cancelling, kind.findsTransfers = true ∧ c.1 < s.objects.next ∧
    ∀ t, s.objects.live.lookup c.1 = some t → t.key = c.2

theorem orderly_empty (kind : ProfileKind) : Orderly kind {} where
  objects := sound_empty
  running := fun _ _ h => by cases h
  watchers := fun _ _ h => by cases h
  quiet := fun _ _ _ h => by cases h
  ended := fun _ h => by cases h
  states := noneFinal_empty
  clean := rfl
  cancels := fun _ h => by cases h

theorem Orderly.startTransfer (h : s.Orderly kind) (hkey : t.key ∉ s.objects.table)
    (hopen : t.mState.final = false)
    (hwatcher : kind.findsTransfers = true → t.watcher ≠ .pbapMonitor) :
    (s.startTransfer t).Orderly kind where
  objects := h.objects.make hkey
  running := by
    intro q v hq
    rcases lookup_make_cases hq with ⟨_, rfl⟩ | ⟨_, hold⟩
    · exact hopen
    · exact h.running q v hold
  watchers := by
    intro q v hq
    rcases lookup_make_cases hq with ⟨_, rfl⟩ | ⟨_, hold⟩
    · exact hwatcher
    · exact h.watchers q v hold
  quiet := h.quiet
  ended := h.ended
  states := h.states
  clean := h.clean
  cancels := by
    intro c hc
    obtain ⟨hkind, hlt, hkeys⟩ := h.cancels c hc
    refine ⟨hkind, Nat.lt_succ_of_lt hlt, fun v hv => hkeys v ?_⟩
    rwa [Transfers.startTransfer, lookup_make_of_lt hlt] at hv

theorem Orderly.modify (h : s.Orderly kind) (hp : s.objects.live.lookup p = some t)
    (hkey : t'.key = t.key) (hwatcher : t'.watcher = t.watcher)
    (hopen : t'.mState.final = false) :
    Orderly kind { s with objects := s.objects.modify p fun _ => t' } := by
  have hcases : ∀ q v, (s.objects.modify p fun _ => t').live.lookup q = some v →
      q = p ∧ v = t' ∨ q ≠ p ∧ s.objects.live.lookup q = some v := by
    intro q v hq
    by_cases hqp : q = p
    · subst hqp
      rw [OwnedObjects.modify, KeyedMap.lookup_modify_self, hp, Option.map_some,
        Option.some.injEq] at hq
      exact .inl ⟨rfl, hq.symm⟩
    · rw [OwnedObjects.modify, KeyedMap.lookup_modify_ne hqp] at hq
      exact .inr ⟨hqp, hq⟩
  have hkeys : ∀ v, s.objects.live.lookup p = some v → t'.key = v.key := by
    intro v hv
    rw [hp, Option.some.injEq] at hv
    rw [← hv, hkey]
  refine ⟨h.objects.modify hkeys, ?_, ?_, h.quiet, h.ended, h.states, h.clean, ?_⟩
  · intro q v hq
    rcases hcases q v hq with ⟨_, rfl⟩ | ⟨_, hold⟩
    · exact hopen
    · exact h.running q v hold
  · intro q v hq hkind
    rcases hcases q v hq with ⟨_, rfl⟩ | ⟨_, hold⟩
    · rw [hwatcher]
      exact h.watchers p t hp hkind
    · exact h.watchers q v hold hkind
  · intro c hc
    obtain ⟨hkind, hlt, hsame⟩ := h.cancels c hc
    refine ⟨hkind, hlt, fun v hv => ?_⟩
    rcases hcases c.1 v hv with ⟨hcp, rfl⟩ | ⟨_, hold⟩
    · rw [hkey]
      exact hsame t (hcp ▸ hp)
    · exact hsame v hold

theorem Orderly.record (h : s.Orderly kind) (hp : p ∉ s.objects.deleted) (hw : w.GoesOn) :
    (s.record p w).Orderly kind where
  objects := h.objects
  running := h.running
  watchers := h.watchers
  quiet := by
    intro q hq r hr
    by_cases hqp : q = p
    · subst hqp
      rw [reportsOf_record_self] at hr
      rcases List.mem_append.mp hr with hr | hr
      · exact hw.reports r (List.mem_reverse.mp hr)
      · exact h.quiet q hq r hr
    · rw [reportsOf_record_ne hqp] at hr
      exact h.quiet q hq r hr
  ended := by
    intro q hq
    rw [reportsOf_record_ne (by rintro rfl; exact hp hq)]
    exact h.ended q hq
  states := hw.states
  clean := by
    rw [Transfers.record, hw.found]
    exact h.clean
  cancels := h.cancels

/-- The state once the end of a transfer has been reported and the transfer deleted. -/
def closed (s : Transfers) (p : ℕ) (key : TransferKey) (f : ObexTransfer → ObexTransfer)
    (w : Watched) : Transfers :=
  { s.record p w with objects := ((s.objects.modify p f).eraseKey key).delete p }

theorem Orderly.closed (h : s.Orderly kind) (hp : s.objects.live.lookup p = some t)
    (hf : (f t).key = t.key) (hw : w.Closes) : (s.closed p t.key f w).Orderly kind := by
  have hkeys : ∀ v, s.objects.live.lookup p = some v → (f v).key = v.key := by
    intro v hv
    rw [hp, Option.some.injEq] at hv
    rw [← hv, hf]
  have hmodified : (s.objects.modify p f).live.lookup p = some (f t) := by
    rw [OwnedObjects.modify, KeyedMap.lookup_modify_self, hp, Option.map_some]
  have hlive : ∀ q v, (s.closed p t.key f w).objects.live.lookup q = some v →
      s.objects.live.lookup q = some v := by
    intro q v hq
    obtain ⟨hqp, hq⟩ := KeyedMap.lookup_erase_some hq
    exact (KeyedMap.lookup_modify_ne hqp).symm.trans hq
  refine ⟨?_, ?_, ?_, ?_, ?_, hw.states, ?_, ?_⟩
  · have hsound := (h.objects.modify hkeys).erase hmodified
    rw [hf] at hsound
    exact hsound
  · exact fun q v hq => h.running q v (hlive q v hq)
  · exact fun q v hq => h.watchers q v (hlive q v hq)
  · intro q hq
    have hne : q ≠ p ∧ q ∉ s.objects.deleted := not_or.mp fun hmem => hq (List.mem_cons.mpr hmem)
    change ∀ r ∈ (s.record p w).reportsOf q, _
    rw [reportsOf_record_ne hne.1]
    exact h.quiet q hne.2
  · intro q hq
    change EndsOnce ((s.record p w).reportsOf q)
    by_cases hqp : q = p
    · subst hqp
      rw [reportsOf_record_self]
      exact hw.reports.append (h.quiet q (h.objects.not_deleted hp))
    · rw [reportsOf_record_ne hqp]
      exact h.ended q ((List.mem_cons.mp hq).resolve_left hqp)
  · change (s.record p w).misuses = []
    rw [Transfers.record, hw.found]
    exact h.clean
  · intro c hc
    obtain ⟨hkind, hlt, hsame⟩ := h.cancels c hc
    exact ⟨hkind, hlt, fun v hv => hsame v (hlive c.1 v hv)⟩

/-! ### The calls between a transfer and its profile -/

section Calls

variable {destroy : Transfers → ℕ → Transfers} {n : ℕ}

theorem removeTransferBy_of_some (h : s.objects.table.lookup key = some q) :
    s.removeTransferBy destroy key = destroy { s with objects := s.objects.eraseKey key } q := by
  rw [removeTransferBy, h]

theorem removeTransferBy_of_none (h : s.objects.table.lookup key = none) :
    s.removeTransferBy destroy key = s := by
  rw [removeTransferBy, h]

theorem notifyBy_of_kept (hw : (t.mWatchCallback s.mTransferStateMap).cleanup = false) :
    s.notifyBy destroy p t = s.record p (t.mWatchCallback s.mTransferStateMap) := by
  simp only [notifyBy, hw, Bool.false_eq_true, if_false]

theorem notifyBy_of_cleanup (hw : (t.mWatchCallback s.mTransferStateMap).cleanup = true) :
    s.notifyBy destroy p t =
      (s.record p (t.mWatchCallback s.mTransferStateMap)).removeTransferBy destroy t.key := by
  simp only [notifyBy, hw, if_true]

theorem destroyFuel_of_final (hp : s.objects.live.lookup p = some t)
    (hend : t.mState.final = true) :
    destroyFuel (n + 1) s p = { s with objects := s.objects.delete p } := by
  simp only [destroyFuel, hp, hend, if_true]

theorem destroyFuel_of_open (hp : s.objects.live.lookup p = some t)
    (hopen : t.mState.final = false) (ht : t' = { t with mState := .error })
    (hs : notifyBy { s with objects := s.objects.modify p fun t => { t with mState := .error } }
      (destroyFuel n) p t' = s') :
    destroyFuel (n + 1) s p = { s' with objects := s'.objects.delete p } := by
  subst ht hs
  simp only [destroyFuel, hp, hopen, Bool.false_eq_true, if_false]

end Calls

/-! ### New properties -/

theorem update_of_unchanged (h : (t.updateFromProperties properties).2 = false) :
    s.update p t properties =
      { s with objects := s.objects.modify p fun _ => (t.updateFromProperties properties).1 } := by
  rw [update, h]
  rfl

theorem update_of_kept (h : (t.updateFromProperties properties).2 = true)
    (hw : ((t.updateFromProperties properties).1.mWatchCallback
      s.mTransferStateMap).cleanup = false) :
    s.update p t properties =
      record { s with objects := s.objects.modify p fun _ => (t.updateFromProperties properties).1 }
        p ((t.updateFromProperties properties).1.mWatchCallback s.mTransferStateMap) := by
  rw [update, if_pos h]
  exact notifyBy_of_kept hw

theorem update_of_cleanup (hp : s.objects.live.lookup p = some t)
    (htable : s.objects.table.lookup t.key = some p)
    (hend : (t.updateFromProperties properties).1.mState.final = true)
    (hchanged : (t.updateFromProperties properties).2 = true)
    (hw : ((t.updateFromProperties properties).1.mWatchCallback
      s.mTransferStateMap).cleanup = true) :
    s.update p t properties =
      s.closed p t.key (fun _ => (t.updateFromProperties properties).1)
        ((t.updateFromProperties properties).1.mWatchCallback s.mTransferStateMap) := by
  have hkey := (t.updateFromProperties_started properties).1
  have hmodified : (s.objects.modify p fun _ => (t.updateFromProperties properties).1).live.lookup p
      = some (t.updateFromProperties properties).1 := by
    rw [OwnedObjects.modify, KeyedMap.lookup_modify_self, hp, Option.map_some]
  rw [update, if_pos hchanged, notifyWatcher, notifyBy_of_cleanup (by exact hw), hkey,
    removeTransferBy_of_some (by exact htable), destroy,
    destroyFuel_of_final (by exact hmodified) hend]
  rfl

theorem Orderly.update (h : s.Orderly kind) (hp : s.objects.live.lookup p = some t)
    (hannounces : (t.updateFromProperties properties).1.mState.final = true →
      (t.updateFromProperties properties).1.Announces s.mTransferStateMap) :
    (s.update p t properties).Orderly kind ∧
      (s.update p t properties).objects.deleted =
        if (t.updateFromProperties properties).1.mState.final then p :: s.objects.deleted
        else s.objects.deleted := by
  obtain ⟨hkey, hwatcher⟩ := t.updateFromProperties_started properties
  cases hchanged : (t.updateFromProperties properties).2 with
  | false =>
      have hopen : (t.updateFromProperties properties).1.mState.final = false := by
        rw [ObexTransfer.updateFromProperties_mState hchanged]
        exact h.running p t hp
      rw [update_of_unchanged hchanged, hopen]
      exact ⟨h.modify hp hkey hwatcher hopen, rfl⟩
  | true =>
      cases hend : (t.updateFromProperties properties).1.mState.final with
      | false =>
          have hw := ObexTransfer.mWatchCallback_goesOn hend h.states
          rw [update_of_kept hchanged hw.cleanup]
          exact ⟨(h.modify hp hkey hwatcher hend).record (h.objects.not_deleted hp) hw, rfl⟩
      | true =>
          have hw := ObexTransfer.mWatchCallback_closes hend (hannounces hend) h.states
          rw [update_of_cleanup hp (h.objects.tracked p t hp) hend hchanged hw.cleanup]
          exact ⟨h.closed hp hkey hw, rfl⟩

/-! ### Removal -/

/-- The destructor reports the failure and finds no entry to remove. -/
theorem removeTransfer_of_open (hp : s.objects.live.lookup p = some t)
    (htable : s.objects.table.lookup t.key = some p) (hopen : t.mState.final = false)
    (hw : (ObexTransfer.mWatchCallback { t with mState := .error } s.mTransferStateMap).Closes) :
    s.removeTransfer t.key =
      s.closed p t.key (fun t => { t with mState := .error })
        (ObexTransfer.mWatchCallback { t with mState := .error } s.mTransferStateMap) := by
  have hgone : (s.objects.table.erase t.key).lookup t.key = none := AList.lookup_erase _ _
  rw [removeTransfer, removeTransferBy_of_some htable, destroy,
    destroyFuel_of_open (by exact hp) hopen rfl rfl, notifyBy_of_cleanup (by exact hw.cleanup),
    removeTransferBy_of_none (by exact hgone)]
  rfl

theorem Orderly.removeTransfer (h : s.Orderly kind) (hkind : kind.findsTransfers = true)
    (hp : s.objects.table.lookup key = some p) :
    (s.removeTransfer key).Orderly kind ∧
      (s.removeTransfer key).objects.deleted = p :: s.objects.deleted ∧
      (s.removeTransfer key).objects.table = s.objects.table.erase key := by
  obtain ⟨t, ht, rfl⟩ := h.objects.stored key p hp
  have hw : (ObexTransfer.mWatchCallback { t with mState := .error } s.mTransferStateMap).Closes :=
    ObexTransfer.mWatchCallback_closes rfl
      ⟨fun _ hs => (by cases hs), fun hm => absurd hm (h.watchers p t ht hkind)⟩ h.states
  rw [removeTransfer_of_open ht hp (h.running p t ht) hw]
  exact ⟨h.closed ht rfl hw, rfl, rfl⟩

theorem Orderly.removeAll (hkind : kind.findsTransfers = true) (keys : List TransferKey)
    (h : s.Orderly kind) :
    (keys.foldl Transfers.removeTransfer s).Orderly kind ∧
      ∀ p, p ∈ (keys.foldl Transfers.removeTransfer s).objects.deleted ↔
        p ∈ s.objects.deleted ∨ ∃ key ∈ keys, s.objects.table.lookup key = some p := by
  induction keys generalizing s with
  | nil => exact ⟨h, fun p => by simp⟩
  | cons key keys ih =>
      rw [List.foldl_cons]
      cases hkey : s.objects.table.lookup key with
      | none =>
          rw [show s.removeTransfer key = s from removeTransferBy_of_none hkey]
          refine ⟨(ih h).1, fun p => ((ih h).2 p).trans (or_congr_right ?_)⟩
          constructor
          · rintro ⟨k, hk, hp⟩
            exact ⟨k, List.mem_cons_of_mem _ hk, hp⟩
          · rintro ⟨k, hk, hp⟩
            rcases List.mem_cons.mp hk with rfl | hk
            · rw [hkey] at hp
              cases hp
            · exact ⟨k, hk, hp⟩
      | some q =>
          obtain ⟨hs, hdeleted, htable⟩ := h.removeTransfer hkind hkey
          obtain ⟨horderly, hmem⟩ := ih hs
          refine ⟨horderly, fun p => (hmem p).trans ?_⟩
          rw [hdeleted, htable, List.mem_cons, or_assoc, or_left_comm,
            KeyedMap.lookup_mem_cons_iff hkey]

def partOf (s : Transfers) (sessionPath : Text) (p : ℕ) : Prop :=
  ∃ t, s.objects.live.lookup p = some t ∧ t.isPartOfSession sessionPath = true

theorem mem_keysOfSession {sessionPath : Text} :
    key ∈ s.keysOfSession sessionPath ↔
      ∃ p, s.objects.table.lookup key = some p ∧ s.partOf sessionPath p := by
  simp only [keysOfSession, List.mem_map, List.mem_filter, Option.any_eq_true, partOf]
  constructor
  · rintro ⟨e, ⟨he, hpart⟩, rfl⟩
    exact ⟨e.2, AList.mem_lookup_iff.mpr he, hpart⟩
  · rintro ⟨p, hp, hpart⟩
    exact ⟨⟨key, p⟩, ⟨AList.mem_lookup_iff.mp hp, hpart⟩, rfl⟩

theorem Orderly.removeTransfersOf (h : s.Orderly kind) (hkind : kind.findsTransfers = true)
    (sessionPath : Text) :
    (s.removeTransfersOf sessionPath).Orderly kind ∧
      ∀ p, p ∈ (s.removeTransfersOf sessionPath).objects.deleted ↔
        p ∈ s.objects.deleted ∨ s.partOf sessionPath p := by
  obtain ⟨horderly, hmem⟩ := h.removeAll hkind (s.keysOfSession sessionPath)
  refine ⟨horderly, fun p => (hmem p).trans (or_congr_right ?_)⟩
  constructor
  · rintro ⟨key, hkey, hp⟩
    obtain ⟨q, hq, hpart⟩ := mem_keysOfSession.mp hkey
    rw [hp, Option.some.injEq] at hq
    rwa [hq]
  · rintro ⟨t, ht, hpart⟩
    have htable := h.objects.tracked p t ht
    exact ⟨t.key, mem_keysOfSession.mpr ⟨p, htable, t, ht, hpart⟩, htable⟩

theorem Orderly.table_empty (h : s.Orderly kind) (hlive : ∀ p, p ∉ s.objects.live) :
    s.objects.table.entries = [] := by
  rw [List.eq_nil_iff_forall_not_mem]
  intro e he
  obtain ⟨t, ht, _⟩ := h.objects.stored e.1 e.2 (AList.mem_lookup_iff.mpr he)
  exact hlive e.2 (KeyedMap.mem_of_lookup ht)

theorem clearTransferMap_of_empty (h : s.objects.table.entries = []) :
    s.clearTransferMap = s := by
  rw [clearTransferMap, h]
  rfl

end Transfers

end BluezSil.Obex
