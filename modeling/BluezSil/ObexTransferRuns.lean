import BluezSil.ObexTransferEnds

/-!
# Every transfer ends once

A transfer ends as BlueZ reports it complete or failed, as it is cancelled, as its session
is removed, and as the profile is destroyed. A run carries a list of the transfers that have
ended. Under the conditions found here each of them has been reported as ended once, by its
last report, and deleted once, and the others have not.
-/

namespace BluezSil.Obex

open TransitionRun

def Transfers.livePartOf (s : Transfers) (sessionPath : Text) : List ℕ :=
  (s.objects.live.entries.filter fun e => e.2.isPartOfSession sessionPath).map Sigma.fst

def Transfers.endsWith (s : Transfers) (p : ℕ) (properties : List TransferProperty) : List ℕ :=
  match s.objects.live.lookup p with
  | some t => if (t.updateFromProperties properties).1.mState.final then [p] else []
  | none => []

theorem Transfers.mem_livePartOf {s : Transfers} {sessionPath : Text} {p : ℕ} :
    p ∈ s.livePartOf sessionPath ↔ s.partOf sessionPath p := by
  simp only [livePartOf, partOf, List.mem_map, List.mem_filter]
  constructor
  · rintro ⟨e, ⟨he, hpart⟩, rfl⟩
    exact ⟨e.2, AList.mem_lookup_iff.mpr he, hpart⟩
  · rintro ⟨t, ht, hpart⟩
    exact ⟨⟨p, t⟩, ⟨AList.mem_lookup_iff.mp ht, hpart⟩, rfl⟩

namespace ObexProfile

def removedPath (s : ObexProfile) : ObexEvent → Option Text
  | .disconnect address => (s.sessions.find address).map ObexSession.mObjectPath
  | .sessionLost session =>
    (s.sessions.live.lookup session).bind fun lost =>
      (s.sessions.find lost.address).map ObexSession.mObjectPath
  | _ => none

def ends (s : ObexProfile) : ObexEvent → List ℕ
  | .propertiesChanged transfer properties => s.transfers.endsWith transfer properties
  | .fetched transfer properties => s.transfers.endsWith transfer (properties.getD [])
  | .cancelled call ok =>
    match s.transfers.cancelling[call]? with
    | some (p, _) => if ok ∧ p ∈ s.transfers.objects.live then [p] else []
    | none => []
  | .disconnect address =>
    (s.removedPath (.disconnect address)).elim [] s.transfers.livePartOf
  | .sessionLost session =>
    (s.removedPath (.sessionLost session)).elim [] s.transfers.livePartOf
  | .destroyed => s.transfers.objects.live.keys
  | _ => []

/-- The properties reach a live transfer, whose end its watcher reports. -/
def Announced (s : ObexProfile) (p : ℕ) (properties : List TransferProperty) : Prop :=
  s.destroyed = false ∧ ∃ t, s.transfers.objects.live.lookup p = some t ∧
    ((t.updateFromProperties properties).1.mState.final = true →
      (t.updateFromProperties properties).1.Announces s.transfers.mTransferStateMap)

/-- The key of a new transfer is free, nothing reaches a transfer that has been deleted, the
end of a transfer is one its watcher reports, MAP and PBAP remove no session with transfers,
and no profile is destroyed while it has any. -/
def EndsCleanly (kind : ProfileKind) (s : ObexProfile) (e : ObexEvent) : Prop :=
  match e with
  | .started _ key _ _ _ _ => key ∉ s.transfers.objects.table
  | .propertiesChanged transfer properties => s.Announced transfer properties
  | .fetched transfer properties => s.Announced transfer (properties.getD [])
  | .cancelled call _ => s.destroyed = false ∧
    ∀ c, s.transfers.cancelling[call]? = some c → c.1 ∈ s.transfers.objects.live
  | .disconnect _ | .sessionLost _ => ∀ path, s.removedPath e = some path →
    kind.findsTransfers = true ∨ ∀ p, ¬ s.transfers.partOf path p
  | .destroyed => ∀ p, p ∉ s.transfers.objects.live
  | _ => True

end ObexProfile

structure TransferRun where
  profile : ObexProfile := {}
  ended : List ℕ := []

namespace TransferRun

def step (kind : ProfileKind) (r : TransferRun) (e : ObexEvent) : Option TransferRun :=
  (r.profile.step kind e).map fun t => ⟨t, r.profile.ends e ++ r.ended⟩

/-- A transfer that has ended has had one report of its end, its last one, and has been
deleted once. Another has had none and is not deleted. No deleted object has been used. -/
def EndOnce (r : TransferRun) : Prop :=
  (∀ p < r.profile.transfers.objects.next,
    (p ∈ r.ended → EndsOnce (r.profile.transfers.reportsOf p) ∧
      r.profile.transfers.objects.deleted.count p = 1) ∧
    (p ∉ r.ended → (∀ report ∈ r.profile.transfers.reportsOf p, report.terminal = false) ∧
      r.profile.transfers.objects.deleted.count p = 0)) ∧
  r.profile.transfers.misuses = []

end TransferRun

def transferMachine (kind : ProfileKind) : Machine TransferRun ObexEvent :=
  ⟨{}, TransferRun.step kind⟩

/-! ### What a step ends -/

namespace Transfers

variable {kind : ProfileKind} {s : Transfers}

theorem Orderly.fetching (h : s.Orderly kind) (fetching : List ℕ) :
    Orderly kind { s with fetching := fetching } :=
  ⟨h.objects, h.running, h.watchers, h.quiet, h.ended, h.states, h.clean, h.cancels⟩

theorem Orderly.cancelling (h : s.Orderly kind) {l : List (ℕ × TransferKey)}
    (hcancels : ∀ c ∈ l, kind.findsTransfers = true ∧ c.1 < s.objects.next ∧
      ∀ t, s.objects.live.lookup c.1 = some t → t.key = c.2) :
    Orderly kind { s with cancelling := l } :=
  ⟨h.objects, h.running, h.watchers, h.quiet, h.ended, h.states, h.clean, hcancels⟩

end Transfers

namespace ObexProfile

variable {kind : ProfileKind} {s t : ObexProfile} {e : ObexEvent}

/-- The transfers are in order and those that have been deleted are the ones that were and
the ones listed. -/
def Ended (kind : ProfileKind) (s t : ObexProfile) (ended : List ℕ) : Prop :=
  t.transfers.Orderly kind ∧
    ∀ p, p ∈ t.transfers.objects.deleted ↔ p ∈ ended ∨ p ∈ s.transfers.objects.deleted

theorem ended_nil (h : t.transfers.Orderly kind)
    (hdeleted : t.transfers.objects.deleted = s.transfers.objects.deleted) :
    Ended kind s t [] :=
  ⟨h, fun p => by rw [hdeleted]; simp⟩

theorem starts_watcher {objectPath : Text} {watcher : Watcher} {key : TransferKey}
    (h : kind.starts objectPath watcher key = true) (hkind : kind.findsTransfers = true) :
    watcher ≠ .pbapMonitor := by
  rintro rfl
  cases kind with
  | opp => cases h
  | ftp => cases h
  | map => cases hkind
  | pbap => cases hkind

theorem ended_update (h : s.transfers.Orderly kind) {p : ℕ}
    {properties : List TransferProperty} (ha : s.Announced p properties) {v : ObexTransfer}
    (hv : s.transfers.objects.live.lookup p = some v) :
    Ended kind s (s.update p v properties) (s.transfers.endsWith p properties) := by
  obtain ⟨hd, t, ht, hannounces⟩ := ha
  rw [ht, Option.some.injEq] at hv
  subst hv
  obtain ⟨horderly, hdeleted⟩ := h.update ht hannounces
  have hupdate : (s.update p t properties).transfers = s.transfers.update p t properties := by
    rw [ObexProfile.update, hd]
    rfl
  refine ⟨by rw [hupdate]; exact horderly, fun q => ?_⟩
  rw [hupdate, hdeleted, Transfers.endsWith, ht]
  dsimp only
  split_ifs
  · rw [List.mem_singleton, List.mem_cons]
  · simp

theorem ended_propertiesChanged (h : s.transfers.Orderly kind) {p : ℕ}
    {properties : List TransferProperty} (ha : s.Announced p properties)
    (hstep : s.propertiesChanged p properties = some t) :
    Ended kind s t (s.transfers.endsWith p properties) := by
  obtain ⟨v, hv, _⟩ := ha.2
  rw [propertiesChanged, hv] at hstep
  dsimp only at hstep
  split_ifs at hstep
  cases hstep
  exact ended_update h ha hv

theorem ended_fetched (h : s.transfers.Orderly kind) {p : ℕ}
    {properties : Option (List TransferProperty)} (ha : s.Announced p (properties.getD []))
    (hstep : s.fetched p properties = some t) :
    Ended kind s t (s.transfers.endsWith p (properties.getD [])) := by
  obtain ⟨v, hv, _⟩ := ha.2
  unfold fetched at hstep
  split_ifs at hstep
  dsimp only at hstep
  rw [hv] at hstep
  cases hstep
  cases properties with
  | none =>
      have hnone : s.transfers.endsWith p [] = [] := by
        rw [Transfers.endsWith, hv]
        exact if_neg (by rw [ObexTransfer.updateFromProperties, List.foldl_nil,
          h.running p v hv]; exact Bool.false_ne_true)
      rw [Option.getD_none, hnone]
      exact ended_nil (h.fetching _) rfl
  | some properties =>
      exact ended_update (s := { s with transfers :=
        { s.transfers with fetching := s.transfers.fetching.erase p } }) (h.fetching _) ha hv

theorem ended_cancelTransfer (h : s.transfers.Orderly kind)
    (hkind : kind.findsTransfers = true) (key : TransferKey) :
    Ended kind s (s.cancelTransfer key) [] := by
  unfold cancelTransfer
  split
  · rename_i p v hp hfind
    split_ifs
    · refine ended_nil (h.cancelling fun c hc => ?_) rfl
      rcases List.mem_append.mp hc with hc | hc
      · exact h.cancels c hc
      · rw [List.mem_singleton.mp hc]
        obtain ⟨v, hv, hkey⟩ := h.objects.stored key p hp
        refine ⟨hkind, h.objects.lt_next hv, fun w hw => ?_⟩
        rw [hv, Option.some.injEq] at hw
        rw [← hw, hkey]
    · exact ended_nil h rfl
  · exact ended_nil h rfl

theorem ended_cancelled (h : s.transfers.Orderly kind) {call : ℕ} {ok : Bool}
    (he : s.EndsCleanly kind (.cancelled call ok)) (hstep : s.cancelled call ok = some t) :
    Ended kind s t (s.ends (.cancelled call ok)) := by
  obtain ⟨hd, hlive⟩ := he
  unfold cancelled at hstep
  cases hcall : s.transfers.cancelling[call]? with
  | none =>
      rw [hcall] at hstep
      cases hstep
  | some c =>
      have hp := hlive c hcall
      obtain ⟨v, hv⟩ := KeyedMap.exists_lookup hp
      obtain ⟨hkind, _, hkeys⟩ := h.cancels c (List.mem_of_getElem? hcall)
      have horderly := h.cancelling (l := s.transfers.cancelling.eraseIdx call) fun c' hc' =>
        h.cancels c' (List.mem_of_mem_eraseIdx hc')
      have htable := h.objects.tracked c.1 v hv
      rw [hkeys v hv] at htable
      rw [hcall] at hstep
      simp only [hp, hd, and_self, if_true, Bool.not_false, Bool.and_true,
        Option.some.injEq] at hstep
      subst hstep
      cases ok with
      | false =>
          have hnone : s.ends (.cancelled call false) = [] := by simp [ends, hcall]
          rw [hnone]
          exact ended_nil horderly rfl
      | true =>
          have hone : s.ends (.cancelled call true) = [c.1] := by simp [ends, hcall, hp]
          obtain ⟨hremoved, hdeleted, _⟩ := horderly.removeTransfer hkind htable
          rw [hone]
          refine ⟨hremoved, fun q => ?_⟩
          rw [List.mem_singleton, ← List.mem_cons]
          exact iff_of_eq (congrArg (q ∈ ·) hdeleted)

theorem ended_removeSession (h : s.transfers.Orderly kind) (address : Text)
    (he : ∀ path, (s.sessions.find address).map ObexSession.mObjectPath = some path →
      kind.findsTransfers = true ∨ ∀ p, ¬ s.transfers.partOf path p) :
    Ended kind s (s.removeSession kind address)
      (((s.sessions.find address).map ObexSession.mObjectPath).elim [] s.transfers.livePartOf) := by
  unfold removeSession
  cases hfind : s.sessions.find address with
  | none => exact ended_nil h rfl
  | some session =>
      simp only [Option.map_some, Option.elim_some]
      cases hkind : kind.findsTransfers with
      | true =>
          obtain ⟨horderly, hdeleted⟩ := h.removeTransfersOf hkind session.mObjectPath
          refine ⟨horderly, fun p => ?_⟩
          rw [Transfers.mem_livePartOf, or_comm]
          exact hdeleted p
      | false =>
          have hnone := (he _ (by rw [hfind]; rfl)).resolve_left
            (by rw [hkind]; exact Bool.false_ne_true)
          refine ⟨h, fun p => ?_⟩
          rw [Transfers.mem_livePartOf]
          exact (or_iff_right (hnone p)).symm

theorem ended_disconnect (h : s.transfers.Orderly kind) (address : Text)
    (he : s.EndsCleanly kind (.disconnect address)) :
    Ended kind s (s.disconnect kind address) (s.ends (.disconnect address)) := by
  have hremove := ended_removeSession h address he
  cases kind with
  | opp => exact hremove
  | ftp => exact hremove
  | pbap => exact hremove
  | map =>
      -- its transfers are left alone, as they are when the session is lost
      have hsame : (s.removeSession .map address).transfers = s.transfers := by
        unfold removeSession
        cases s.sessions.find address <;> rfl
      rw [Ended, hsame] at hremove
      exact hremove

theorem ended_destroy (h : s.transfers.Orderly kind)
    (he : ∀ p, p ∉ s.transfers.objects.live) :
    Ended kind s (s.destroy kind) s.transfers.objects.live.keys := by
  have hkeys : s.transfers.objects.live.keys = [] :=
    List.eq_nil_iff_forall_not_mem.mpr fun p hp => he p hp
  rw [hkeys]
  cases kind with
  | opp => exact ended_nil h rfl
  | ftp => exact ended_nil h rfl
  | map => exact ended_nil h rfl
  | pbap =>
      have hcleared : (s.destroy .pbap).transfers = { s.transfers with mTransferStateMap := ∅ } :=
        Transfers.clearTransferMap_of_empty (h.table_empty he)
      have horderly : Transfers.Orderly .pbap { s.transfers with mTransferStateMap := ∅ } :=
        ⟨h.objects, h.running, h.watchers, h.quiet, h.ended, noneFinal_empty, h.clean, h.cancels⟩
      exact ended_nil (by rw [hcleared]; exact horderly) (by rw [hcleared])

theorem ended_step (h : s.transfers.Orderly kind) (he : s.EndsCleanly kind e)
    (hstep : s.step kind e = some t) : Ended kind s t (s.ends e) := by
  cases e with
  | sessionCreated address objectPath =>
      simp only [step] at hstep
      split_ifs at hstep
      cases hstep
      exact ended_nil h rfl
  | pushReceived deviceAddress sessionPath =>
      simp only [step] at hstep
      split_ifs at hstep
      cases hstep
      exact ended_nil h rfl
  | disconnect address =>
      simp only [step] at hstep
      split_ifs at hstep
      cases hstep
      exact ended_disconnect h address he
  | sessionLost session =>
      simp only [step] at hstep
      split_ifs at hstep
      obtain ⟨lost, hlost, rfl⟩ := Option.map_eq_some_iff.mp hstep
      have hpath : s.removedPath (.sessionLost session) =
          (s.sessions.find lost.address).map ObexSession.mObjectPath := by
        rw [removedPath, hlost, Option.bind_some]
      rw [ends, hpath]
      refine ended_removeSession h lost.address fun path hp => he path ?_
      rw [hpath, hp]
  | started watcher key objectPath type transferProxy propertiesProxy =>
      simp only [step] at hstep
      split_ifs at hstep with hrefused
      cases hstep
      have hstarts := (Bool.not_eq_false _).mp (not_or.mp hrefused).2
      exact ended_nil (h.startTransfer he rfl fun hkind => starts_watcher hstarts hkind) rfl
  | propertiesChanged transfer properties => exact ended_propertiesChanged h he hstep
  | fetched transfer properties => exact ended_fetched h he hstep
  | cancelTransfer key =>
      simp only [step] at hstep
      split_ifs at hstep with hrefused
      cases hstep
      exact ended_cancelTransfer h ((Bool.not_eq_false _).mp (not_or.mp hrefused).2) key
  | cancelled call ok => exact ended_cancelled h he hstep
  | destroyed =>
      simp only [step] at hstep
      split_ifs at hstep
      cases hstep
      exact ended_destroy h he

end ObexProfile

namespace TransferRun

variable {kind : ProfileKind} {r : TransferRun}

/-- The transfers are in order and those that have ended are the ones deleted. -/
structure Sound (kind : ProfileKind) (r : TransferRun) : Prop where
  orderly : r.profile.transfers.Orderly kind
  ended : ∀ p, p ∈ r.ended ↔ p ∈ r.profile.transfers.objects.deleted

theorem Sound.endOnce (h : r.Sound kind) : r.EndOnce := by
  refine ⟨fun p _ => ⟨fun hp => ?_, fun hp => ?_⟩, h.orderly.clean⟩
  · rw [h.ended] at hp
    exact ⟨h.orderly.ended p hp, List.count_eq_one_of_mem h.orderly.objects.once hp⟩
  · rw [h.ended] at hp
    exact ⟨h.orderly.quiet p hp, List.count_eq_zero_of_not_mem hp⟩

theorem sound_step {e : ObexEvent} {t : TransferRun} (h : r.Sound kind)
    (he : r.profile.EndsCleanly kind e) (hstep : r.step kind e = some t) : t.Sound kind := by
  obtain ⟨profile, hprofile, rfl⟩ := Option.map_eq_some_iff.mp hstep
  obtain ⟨horderly, hdeleted⟩ := ObexProfile.ended_step h.orderly he hprofile
  refine ⟨horderly, fun p => ?_⟩
  rw [List.mem_append, h.ended, hdeleted]

end TransferRun

/-- Under the conditions of `EndsCleanly` every transfer ends once. -/
theorem transfers_endOnce (kind : ProfileKind) (r : TransferRun)
    (hr : (transferMachine kind).ReachWith (fun r e => r.profile.EndsCleanly kind e) r) :
    r.EndOnce := by
  refine (hr.invariant (P := TransferRun.Sound kind) ⟨Transfers.orderly_empty kind, fun p => ?_⟩
    fun _ _ _ h he hstep => TransferRun.sound_step h he hstep).endOnce
  exact iff_of_false (List.not_mem_nil) (List.not_mem_nil)

/-- A file that is pushed and completes. -/
theorem transfers_endOnce_push : ∃ r : TransferRun, r.ended = [0] ∧
    r.profile.transfers.reports =
      [(0, .transferResult .none 7 7 true), (0, .transferResult .none 3 7 false)] ∧
    r.EndOnce := by
  have hstarted := Machine.ReachWith.step (M := transferMachine .opp)
    (G := fun r e => r.profile.EndsCleanly .opp e)
    (e := .started .baseActive (.id 1) "/session0/transfer0".toList .sending true true) .init
    (AList.notMem_empty _) rfl
  have hactive := Machine.ReachWith.step (M := transferMachine .opp)
    (e := .propertiesChanged 0 [.size 7, .status "active", .transferred 3]) hstarted
    ⟨rfl, _, rfl, fun h => absurd h Bool.false_ne_true⟩ rfl
  have hcomplete := Machine.ReachWith.step (M := transferMachine .opp)
    (e := .propertiesChanged 0 [.status "complete"]) hactive
    ⟨rfl, _, rfl, fun _ => ⟨fun _ _ => by decide, fun h => by cases h⟩⟩ rfl
  exact ⟨_, rfl, rfl, transfers_endOnce .opp _ hcomplete⟩

/-- The end of a push of no bytes is never reported. -/
theorem transfers_endOnce_empty : ¬ ∀ r : TransferRun, (transferMachine .opp).Reach r →
    r.EndOnce := by
  intro h
  have hrun : ∃ r, (transferMachine .opp).run (transferMachine .opp).init
      [.started .baseActive (.id 1) "/session0/transfer0".toList .sending true true,
        .propertiesChanged 0 [.status "complete"]] = some r ∧
      r.ended = [0] ∧ r.profile.transfers.objects.next = 1 ∧
      r.profile.transfers.objects.deleted = [] := ⟨_, rfl, rfl, rfl, rfl⟩
  obtain ⟨r, hrun, hended, hnext, hdeleted⟩ := hrun
  have honce := (((h r (Machine.reach_of_run _ hrun)).1 0 (by rw [hnext]; decide)).1
    (by rw [hended]; decide)).2
  rw [hdeleted] at honce
  cases honce

end BluezSil.Obex
