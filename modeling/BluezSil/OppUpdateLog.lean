import BluezSil.ObexReportLog

/-!
# The updates object push is shown and what it reports of them

A run of the profile carries the transfers as new properties have shown them to their
watchers. What has been reported of a transfer is what the watcher makes of these updates,
one after the other, unless the transfer was deleted before any of them had ended it.
-/

namespace BluezSil.Obex

open OwnedObjects

namespace Transfers

def shownOf (s : Transfers) (p : ℕ) (properties : List TransferProperty) :
    List (ℕ × ObexTransfer) :=
  match s.objects.live.lookup p with
  | some t =>
    let o := t.updateFromProperties properties
    if o.2 then [(p, o.1)] else []
  | none => []

/-- What an event does to the transfers, and what it shows of them. -/
inductive Moves (s : Transfers) : List (ℕ × ObexTransfer) → Transfers → Prop
  | kept : Moves s [] s
  | made (t : ObexTransfer) (hwatcher : t.watcher = .baseActive)
      (hopen : t.mState.final = false) : Moves s [] (s.startTransfer t)
  | updated {p : ℕ} {t : ObexTransfer} (hp : s.objects.live.lookup p = some t)
      (properties : List TransferProperty) :
      Moves s (s.shownOf p properties) (s.update p t properties)
  | removed (key : TransferKey) : Moves s [] (s.removeTransfer key)
  | removedOf (sessionPath : Text) : Moves s [] (s.removeTransfersOf sessionPath)

structure SameLog (s s' : Transfers) : Prop where
  objects : s'.objects = s.objects
  reports : s'.reports = s.reports

theorem SameLog.refl (s : Transfers) : SameLog s s := ⟨rfl, rfl⟩

theorem SameLog.moves {s s' : Transfers} (h : SameLog s s') : ∃ u, SameLog s u ∧ u.Moves [] s' :=
  ⟨s', h, .kept⟩

end Transfers

namespace ObexProfile

/-- A profile that is destroyed is shown nothing. -/
def shown (s : ObexProfile) : ObexEvent → List (ℕ × ObexTransfer)
  | .propertiesChanged p properties =>
    if s.destroyed then [] else s.transfers.shownOf p properties
  | .fetched p (some properties) =>
    if s.destroyed then [] else s.transfers.shownOf p properties
  | _ => []

variable {s s' : ObexProfile} {e : ObexEvent} {p : ℕ} {t : ObexTransfer}

open Transfers

theorem update_moves (hp : s.transfers.objects.live.lookup p = some t)
    (properties : List TransferProperty) :
    ∃ u, SameLog s.transfers u ∧
      u.Moves (if s.destroyed then [] else s.transfers.shownOf p properties)
        (s.update p t properties).transfers := by
  cases hdestroyed : s.destroyed with
  | false =>
      refine ⟨_, SameLog.refl _, ?_⟩
      rw [ObexProfile.update, hdestroyed]
      exact .updated hp properties
  | true =>
      rw [ObexProfile.update, hdestroyed, if_pos rfl, Bool.true_and]
      split_ifs with hchanged
      · exact SameLog.moves ⟨rfl, rfl⟩
      · have hshown : s.transfers.shownOf p properties = [] := by
          rw [shownOf, hp]
          exact if_neg hchanged
        exact ⟨_, SameLog.refl _, hshown ▸ .updated hp properties⟩

theorem propertiesChanged_moves {properties : List TransferProperty}
    (h : s.propertiesChanged p properties = some s') :
    ∃ u, SameLog s.transfers u ∧
      u.Moves (s.shown (.propertiesChanged p properties)) s'.transfers := by
  unfold propertiesChanged at h
  cases hp : s.transfers.objects.live.lookup p with
  | some t =>
      simp only [hp] at h
      split_ifs at h
      obtain rfl := Option.some.inj h
      exact update_moves hp properties
  | none =>
      have hshown : s.shown (.propertiesChanged p properties) = [] := by
        simp only [shown, shownOf, hp, ite_self]
      simp only [hp] at h
      split_ifs at h
      obtain rfl := Option.some.inj h
      rw [hshown]
      exact SameLog.moves ⟨rfl, rfl⟩

theorem fetched_moves {properties : Option (List TransferProperty)}
    (h : s.fetched p properties = some s') :
    ∃ u, SameLog s.transfers u ∧ u.Moves (s.shown (.fetched p properties)) s'.transfers := by
  unfold fetched at h
  split_ifs at h
  cases hp : s.transfers.objects.live.lookup p with
  | some t =>
      simp only [hp] at h
      obtain rfl := Option.some.inj h
      cases properties with
      | none => exact SameLog.moves ⟨rfl, rfl⟩
      | some properties =>
          let s₁ : ObexProfile :=
            { s with transfers := { s.transfers with fetching := s.transfers.fetching.erase p } }
          obtain ⟨u, hsame, hmoves⟩ := update_moves (s := s₁) hp properties
          exact ⟨u, ⟨hsame.objects, hsame.reports⟩, hmoves⟩
  | none =>
      have hshown : s.shown (.fetched p properties) = [] := by
        cases properties <;> simp only [shown, shownOf, hp, ite_self]
      simp only [hp] at h
      obtain rfl := Option.some.inj h
      rw [hshown]
      exact SameLog.moves ⟨rfl, rfl⟩

theorem removeSession_moves (s : ObexProfile) (address : Text) :
    ∃ u, SameLog s.transfers u ∧ u.Moves [] (s.removeSession .opp address).transfers := by
  unfold removeSession
  cases s.sessions.find address with
  | none => exact (SameLog.refl _).moves
  | some session => exact ⟨_, SameLog.refl _, .removedOf _⟩

theorem cancelled_moves {call : ℕ} {ok : Bool} (h : s.cancelled call ok = some s') :
    ∃ u, SameLog s.transfers u ∧ u.Moves [] s'.transfers := by
  unfold cancelled at h
  cases hcall : s.transfers.cancelling[call]? with
  | none =>
      simp only [hcall] at h
      cases h
  | some c =>
      obtain ⟨p, key⟩ := c
      simp only [hcall] at h
      obtain rfl := Option.some.inj h
      let s₁ : Transfers :=
        { s.transfers with cancelling := s.transfers.cancelling.eraseIdx call }
      have hsame : SameLog s.transfers
          (if p ∈ s₁.objects.live ∧ s.destroyed = false then s₁ else s₁.misuse p) := by
        split_ifs
        · exact ⟨rfl, rfl⟩
        · exact ⟨rfl, rfl⟩
      cases hremoves : ok && !s.destroyed with
      | true => exact ⟨_, hsame, .removed key⟩
      | false => exact hsame.moves

theorem cancelTransfer_sameLog (s : ObexProfile) (key : TransferKey) :
    SameLog s.transfers (s.cancelTransfer key).transfers := by
  unfold cancelTransfer
  cases s.transfers.objects.table.lookup key with
  | none => exact SameLog.refl _
  | some p =>
      cases s.transfers.objects.find key with
      | none => exact SameLog.refl _
      | some t =>
          dsimp only
          split_ifs
          · exact ⟨rfl, rfl⟩
          · exact SameLog.refl _

theorem step_moves (h : s.step .opp e = some s') :
    ∃ u, SameLog s.transfers u ∧ u.Moves (s.shown e) s'.transfers := by
  cases e with
  | sessionCreated address objectPath =>
      simp only [step] at h
      split_ifs at h
      obtain rfl := Option.some.inj h
      exact (SameLog.refl _).moves
  | pushReceived deviceAddress sessionPath =>
      simp only [step] at h
      split_ifs at h
      obtain rfl := Option.some.inj h
      exact (SameLog.refl _).moves
  | disconnect address =>
      simp only [step] at h
      split_ifs at h
      obtain rfl := Option.some.inj h
      exact removeSession_moves s address
  | sessionLost session =>
      simp only [step] at h
      split_ifs at h
      obtain ⟨lost, _, rfl⟩ := Option.map_eq_some_iff.mp h
      exact removeSession_moves s lost.address
  | started watcher key objectPath type transferProxy propertiesProxy =>
      simp only [step] at h
      split_ifs at h with hstart
      obtain rfl := Option.some.inj h
      have hwatcher : watcher = .baseActive := by
        have hstarts := (not_or.mp hstart).2
        cases watcher with
        | baseActive => rfl
        | _ => exact absurd rfl hstarts
      exact ⟨_, SameLog.refl _, .made _ hwatcher rfl⟩
  | propertiesChanged transfer properties => exact propertiesChanged_moves h
  | fetched transfer properties => exact fetched_moves h
  | cancelTransfer key =>
      simp only [step] at h
      split_ifs at h
      obtain rfl := Option.some.inj h
      exact (cancelTransfer_sameLog s key).moves
  | cancelled call ok => exact cancelled_moves h
  | destroyed =>
      simp only [step] at h
      split_ifs at h
      obtain rfl := Option.some.inj h
      exact (SameLog.refl _).moves

end ObexProfile

/-! ### What has been reported of the updates -/

def updatesOf (updates : List (ℕ × ObexTransfer)) (p : ℕ) : List ObexTransfer :=
  updates.filterMap fun u => if u.1 = p then some u.2 else none

def endedBy : List ObexTransfer → Bool
  | [] => false
  | u :: _ => u.mState.final

theorem updatesOf_eq_nil {updates : List (ℕ × ObexTransfer)} {p : ℕ}
    (h : ∀ u ∈ updates, u.1 ≠ p) : updatesOf updates p = [] :=
  List.filterMap_eq_nil_iff.mpr fun u hu => if_neg (h u hu)

theorem updatesOf_append (shown updates : List (ℕ × ObexTransfer)) (p : ℕ) :
    updatesOf (shown ++ updates) p = updatesOf shown p ++ updatesOf updates p :=
  List.filterMap_append

namespace Transfers

variable {s s' : Transfers} {updates shown : List (ℕ × ObexTransfer)} {p q : ℕ}
  {t : ObexTransfer} {properties : List TransferProperty}

/-- What was reported of a transfer is what the base profile makes of its updates, or it was
deleted before one of them ended it. -/
def ToldOf (s : Transfers) (updates : List (ℕ × ObexTransfer)) (p : ℕ) : Prop :=
  (s.reportsOf p = (updatesOf updates p).flatMap baseReports ∧
    ∀ t, s.objects.live.lookup p = some t → t.mState.final = endedBy (updatesOf updates p)) ∨
  (s.objects.live.lookup p = none ∧ endedBy (updatesOf updates p) = false)

/-- Transfers are numbered as they are made, and each has been told of as it was updated. -/
structure Told (s : Transfers) (updates : List (ℕ × ObexTransfer)) : Prop where
  watchers : ∀ p t, s.objects.live.lookup p = some t → t.watcher = .baseActive
  live_lt : ∀ p t, s.objects.live.lookup p = some t → p < s.objects.next
  reports_lt : ∀ r ∈ s.reports, r.1 < s.objects.next
  updates_lt : ∀ u ∈ updates, u.1 < s.objects.next
  told : ∀ p, s.ToldOf updates p

theorem told_empty : Told {} [] where
  watchers := fun _ _ h => by cases h
  live_lt := fun _ _ h => by cases h
  reports_lt := fun _ h => by cases h
  updates_lt := fun _ h => by cases h
  told := fun _ => .inl ⟨rfl, fun _ h => by cases h⟩

theorem Told.sameLog (h : s.Told updates) (hsame : SameLog s s') : s'.Told updates := by
  have hreports (p : ℕ) : s'.reportsOf p = s.reportsOf p := by rw [reportsOf, hsame.reports]; rfl
  refine ⟨?_, ?_, ?_, ?_, fun p => ?_⟩
  · rw [hsame.objects]
    exact h.watchers
  · rw [hsame.objects]
    exact h.live_lt
  · rw [hsame.objects, hsame.reports]
    exact h.reports_lt
  · rw [hsame.objects]
    exact h.updates_lt
  · rw [ToldOf, hsame.objects, hreports]
    exact h.told p

theorem ToldOf.leaves (h : s.ToldOf updates p) (hleaves : Leaves p s s') :
    s'.ToldOf updates p := by
  rcases h with ⟨hreports, hlive⟩ | ⟨hdead, hopen⟩
  · rcases hleaves with ⟨hsame, hreports'⟩ | ⟨hdead, hreports'⟩
    · refine .inl ⟨hreports'.trans hreports, fun t ht => hlive t (hsame.symm.trans ht)⟩
    · cases hended : endedBy (updatesOf updates p) with
      | false => exact .inr ⟨hdead, hended⟩
      | true =>
          have he : s.Ended p := fun t ht => (hlive t ht).trans hended
          exact .inl ⟨(hreports' he).trans hreports, fun t ht => by rw [hdead] at ht; cases ht⟩
  · refine .inr ⟨?_, hopen⟩
    rcases hleaves with ⟨hsame, _⟩ | ⟨hdead', _⟩
    · exact hsame.trans hdead
    · exact hdead'

theorem Told.reports_lt_of_grows (h : s.Told updates) (hgrows : Grows s s') :
    ∀ r ∈ s'.reports, r.1 < s'.objects.next := by
  obtain ⟨new, hreports, hnew⟩ := hgrows.reports
  intro r hr
  rw [hgrows.next]
  rw [hreports] at hr
  rcases List.mem_append.mp hr with hr | hr
  · obtain ⟨t, ht⟩ := KeyedMap.exists_lookup (hnew r hr)
    exact h.live_lt r.1 t ht
  · exact h.reports_lt r hr

theorem Told.leaves (h : s.Told updates) (hgrows : Grows s s') (hleaves : ∀ p, Leaves p s s') :
    s'.Told updates where
  watchers := fun p t ht => h.watchers p t ((hleaves p).lookup_eq ht)
  live_lt := fun p t ht => hgrows.next.symm ▸ h.live_lt p t ((hleaves p).lookup_eq ht)
  reports_lt := h.reports_lt_of_grows hgrows
  updates_lt := hgrows.next.symm ▸ h.updates_lt
  told := fun p => (h.told p).leaves (hleaves p)

theorem Told.made (h : s.Told updates) (hwatcher : t.watcher = .baseActive)
    (hopen : t.mState.final = false) : (s.startTransfer t).Told updates where
  watchers := by
    intro p v hv
    rcases lookup_make_cases hv with ⟨_, rfl⟩ | ⟨_, hold⟩
    · exact hwatcher
    · exact h.watchers p v hold
  live_lt := by
    intro p v hv
    rcases lookup_make_cases hv with ⟨rfl, _⟩ | ⟨_, hold⟩
    · exact Nat.lt_succ_self _
    · exact Nat.lt_succ_of_lt (h.live_lt p v hold)
  reports_lt := fun r hr => Nat.lt_succ_of_lt (h.reports_lt r hr)
  updates_lt := fun u hu => Nat.lt_succ_of_lt (h.updates_lt u hu)
  told := by
    intro p
    by_cases hp : p = s.objects.next
    · subst hp
      have hreports : s.reportsOf s.objects.next = [] := List.filterMap_eq_nil_iff.mpr
        fun r hr => if_neg (Nat.ne_of_lt (h.reports_lt r hr))
      have hupdates : updatesOf updates s.objects.next = [] :=
        updatesOf_eq_nil fun u hu => Nat.ne_of_lt (h.updates_lt u hu)
      rw [ToldOf, hupdates]
      refine .inl ⟨hreports, fun v hv => ?_⟩
      obtain rfl := Option.some.inj ((lookup_make_self s.objects t.key t).symm.trans hv)
      exact hopen
    · exact (h.told p).leaves (.inl ⟨AList.lookup_insert_ne hp, rfl⟩)

theorem shownOf_of_live (hp : s.objects.live.lookup p = some t) :
    s.shownOf p properties = if (t.updateFromProperties properties).2 then
      [(p, (t.updateFromProperties properties).1)] else [] := by
  rw [shownOf, hp]

theorem updatesOf_shownOf_ne (h : q ≠ p) : updatesOf (s.shownOf p properties) q = [] := by
  refine updatesOf_eq_nil fun u hu => ?_
  cases hp : s.objects.live.lookup p with
  | none =>
      rw [shownOf, hp] at hu
      cases hu
  | some t =>
      rw [shownOf_of_live hp] at hu
      split_ifs at hu
      · obtain rfl := List.mem_singleton.mp hu
        exact h.symm
      · cases hu

theorem ToldOf.updated (h : s.ToldOf updates p) (hp : s.objects.live.lookup p = some t)
    (hwatcher : t.watcher = .baseActive) (properties : List TransferProperty) :
    (s.update p t properties).ToldOf (s.shownOf p properties ++ updates) p := by
  rcases h with ⟨hreports, hlive⟩ | ⟨hdead, _⟩
  · obtain ⟨hreports', hlive'⟩ := update_self hp hwatcher properties
    rw [hreports] at hreports'
    rw [ToldOf, updatesOf_append, shownOf_of_live hp]
    cases hchanged : (t.updateFromProperties properties).2 with
    | false =>
        rw [hchanged] at hreports'
        refine .inl ⟨hreports', fun u hu => ?_⟩
        rw [hlive' u hu, ObexTransfer.updateFromProperties_mState hchanged]
        exact hlive t hp
    | true =>
        have hself : updatesOf [(p, (t.updateFromProperties properties).1)] p =
            [(t.updateFromProperties properties).1] := by simp [updatesOf]
        rw [hchanged] at hreports'
        rw [if_pos rfl, hself]
        exact .inl ⟨hreports', fun u hu => by rw [hlive' u hu]; rfl⟩
  · rw [hdead] at hp
    cases hp

theorem Told.updated (h : s.Told updates) (hp : s.objects.live.lookup p = some t)
    (properties : List TransferProperty) :
    (s.update p t properties).Told (s.shownOf p properties ++ updates) := by
  have hgrows := grows_update hp properties
  have hwatcher := h.watchers p t hp
  have hself := (update_self hp hwatcher properties).2
  refine ⟨?_, ?_, h.reports_lt_of_grows hgrows, ?_, ?_⟩
  · intro q v hv
    by_cases hq : q = p
    · subst hq
      rw [hself v hv, (t.updateFromProperties_started properties).2, hwatcher]
    · exact h.watchers q v ((leaves_update_ne hq t properties).lookup_eq hv)
  · intro q v hv
    obtain ⟨u, hu⟩ := KeyedMap.exists_lookup (hgrows.live q (KeyedMap.mem_of_lookup hv))
    rw [hgrows.next]
    exact h.live_lt q u hu
  · intro u hu
    rw [hgrows.next]
    rcases List.mem_append.mp hu with hu | hu
    · rw [shownOf_of_live hp] at hu
      split_ifs at hu
      · obtain rfl := List.mem_singleton.mp hu
        exact h.live_lt p t hp
      · cases hu
    · exact h.updates_lt u hu
  · intro q
    by_cases hq : q = p
    · subst hq
      exact (h.told q).updated hp hwatcher properties
    · rw [ToldOf, updatesOf_append, updatesOf_shownOf_ne hq]
      exact (h.told q).leaves (leaves_update_ne hq t properties)

theorem Told.moves (h : s.Told updates) (hmoves : s.Moves shown s') :
    s'.Told (shown ++ updates) := by
  cases hmoves with
  | kept => exact h
  | made t hwatcher hopen => exact h.made hwatcher hopen
  | updated hp properties => exact h.updated hp properties
  | removed key =>
      exact h.leaves (grows_removeTransfer s key) fun p => leaves_removeTransfer s p key
  | removedOf sessionPath =>
      exact h.leaves (grows_removeTransfersOf s sessionPath) fun p =>
        leaves_removeTransfersOf s p sessionPath

theorem Grows.reports_next (h : Grows s s') :
    (∃ new, s'.reports = new ++ s.reports) ∧ s.objects.next ≤ s'.objects.next := by
  obtain ⟨new, hreports, _⟩ := h.reports
  exact ⟨⟨new, hreports⟩, Nat.le_of_eq h.next.symm⟩

theorem Moves.reports (hmoves : s.Moves shown s') :
    (∃ new, s'.reports = new ++ s.reports) ∧ s.objects.next ≤ s'.objects.next := by
  cases hmoves with
  | kept => exact (Grows.refl s).reports_next
  | made t _ _ => exact ⟨⟨[], rfl⟩, Nat.le_succ _⟩
  | updated hp properties => exact (grows_update hp properties).reports_next
  | removed key => exact (grows_removeTransfer s key).reports_next
  | removedOf sessionPath => exact (grows_removeTransfersOf s sessionPath).reports_next

end Transfers

namespace ObexProfile

open Transfers

variable {s s' : ObexProfile} {updates : List (ℕ × ObexTransfer)} {e : ObexEvent}

theorem told_step (h : s.transfers.Told updates) (hstep : s.step .opp e = some s') :
    s'.transfers.Told (s.shown e ++ updates) := by
  obtain ⟨u, hsame, hmoves⟩ := step_moves hstep
  exact (h.sameLog hsame).moves hmoves

theorem reports_step (hstep : s.step .opp e = some s') :
    (∃ new, s'.transfers.reports = new ++ s.transfers.reports) ∧
      s.transfers.objects.next ≤ s'.transfers.objects.next := by
  obtain ⟨u, hsame, hmoves⟩ := step_moves hstep
  rw [← hsame.objects, ← hsame.reports]
  exact hmoves.reports

end ObexProfile

end BluezSil.Obex
